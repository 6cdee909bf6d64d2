import Skinning.Space

/-! Calls to spaces: what a request for a place is given, and calls one after the other. A space
that a call opens can be called from then on, so a run goes on in spaces inside each other. Two
runs whose calls come to alike outcomes are alike in the end. -/
namespace Skinning

/-- An edge of a space that a strip is taken from. -/
def Anchor.IsEdge : Anchor → Prop
  | .top | .bottom | .left | .right => True
  | .fill | .free _ => False

namespace Space

variable {s : Space} {request : SpaceRequest}

theorem place_of_fill (fills : Anchor.ofString request.position = .fill) :
    s.place request = ⟨s.remaining, s.shrink (strip s.remaining .zero .fill).2, []⟩ := by
  unfold place
  rw [fills]
  rfl

theorem place_of_edge {edge : Anchor} (anchored : Anchor.ofString request.position = edge)
    (isEdge : edge.IsEdge) :
    let size := s.evaluateSize request.size request.font
    let parts := strip s.remaining size.1 edge
    s.place request = ⟨parts.1, s.shrink parts.2, size.2⟩ := by
  unfold place
  rw [anchored]
  cases edge with
  | fill | free => exact isEdge.elim
  | _ => rfl

theorem place_of_free {position : String}
    (anchored : Anchor.ofString request.position = .free position) :
    let size := s.evaluateSize request.size request.font
    let point := s.evaluatePosition position size.1 request.font
    s.place request =
      ⟨⟨point.1.x, point.1.y, size.1.width, size.1.height⟩, s, size.2 ++ point.2⟩ := by
  unfold place
  rw [anchored]

/-- Requests one after the other, with what each of them is given. -/
def placeAll (s : Space) : List SpaceRequest → List Placed
  | [] => []
  | request :: rest => s.place request :: (s.place request).space.placeAll rest

/-- The space after some requests. -/
def after (s : Space) : List SpaceRequest → Space
  | [] => s
  | request :: rest => (s.place request).space.after rest

end Space

/-- The positions that take room: all that remains, or a strip of it. -/
def SpaceRequest.takesRoom (request : SpaceRequest) : Bool :=
  ["fill", "top", "bottom", "left", "right"].contains request.position

/-- What a request is for, by its anchor. -/
theorem SpaceRequest.anchor_cases (request : SpaceRequest) :
    (request.takesRoom ∧ Anchor.ofString request.position = .fill) ∨
    (request.takesRoom ∧ (Anchor.ofString request.position).IsEdge) ∨
    (request.takesRoom = false ∧
      Anchor.ofString request.position = .free request.position) := by
  obtain ⟨position, size, font⟩ := request
  by_cases known : position ∈ ["fill", "top", "bottom", "left", "right"]
  · simp only [List.mem_cons, List.not_mem_nil, or_false] at known
    rcases known with rfl | rfl | rfl | rfl | rfl
    · exact .inl ⟨rfl, rfl⟩
    all_goals exact .inr (.inl ⟨rfl, trivial⟩)
  · refine .inr (.inr ⟨by simpa [takesRoom] using known, ?_⟩)
    simp only [List.mem_cons, List.not_mem_nil, or_false, not_or] at known
    obtain ⟨fill, top, bottom, left, right⟩ := known
    unfold Anchor.ofString
    split <;> first | rfl | contradiction

theorem SpaceRequest.free_of_overlaps {request : SpaceRequest} (overlaps : request.takesRoom = false) :
    Anchor.ofString request.position = .free request.position := by
  rcases request.anchor_cases with ⟨takes, -⟩ | ⟨takes, -⟩ | ⟨-, isFree⟩
  · simp [overlaps] at takes
  · simp [overlaps] at takes
  · exact isFree

inductive SpaceCall where
  | place (request : SpaceRequest)
  /-- A size is asked for, and nothing is given out. -/
  | measure (size : Option String) (font : Option FontMetrics)
  /-- A space is opened over the rectangle that is given. -/
  | derive (mode : SpaceMode) (request : SpaceRequest)
  deriving DecidableEq, Repr

inductive SpaceAnswer where
  | rect (rect : Rect)
  | size (size : Size)
  deriving DecidableEq, Repr

/-- What a call comes to: the answer, the space after it, the spaces that it opens, and the
coordinates that counted as 0. -/
structure SpaceOutcome where
  answer : SpaceAnswer
  space : Space
  opened : List Space
  faults : List Coordinate.Fault

def Space.call (s : Space) : SpaceCall → SpaceOutcome
  | .place request =>
    let placed := s.place request
    ⟨.rect placed.rect, placed.space, [], placed.faults⟩
  | .measure size font =>
    let measured := s.evaluateSize size font
    ⟨.size measured.1, s, [], measured.2⟩
  | .derive mode request =>
    let derived := s.derive mode request
    ⟨.rect derived.1.rect, derived.1.space, [derived.2], derived.1.faults⟩

/-- The spaces that are open, in the order in which they were opened, and all that has been
answered and reported. -/
@[ext]
structure SpaceRun where
  spaces : List Space
  answers : List SpaceAnswer
  faults : List Coordinate.Fault

namespace SpaceRun

def ofSpace (s : Space) : SpaceRun := ⟨[s], [], []⟩

/-- A call to the space of a number. There may be no such space. -/
def step (run : SpaceRun) : Nat × SpaceCall → SpaceRun
  | (number, call) =>
    match run.spaces[number]? with
    | none => run
    | some s =>
      let outcome := s.call call
      ⟨run.spaces.set number outcome.space ++ outcome.opened, run.answers ++ [outcome.answer],
        run.faults ++ outcome.faults⟩

def goOn (run : SpaceRun) (calls : List (Nat × SpaceCall)) : SpaceRun := calls.foldl step run

end SpaceRun

/-- What becomes of spaces, calls and answers in another run, and which reports are alike. -/
structure SpaceImage where
  space : Space → Space
  call : SpaceCall → SpaceCall
  answer : SpaceAnswer → SpaceAnswer
  faults : List Coordinate.Fault → List Coordinate.Fault → Prop

namespace SpaceImage

/-- A call to the image of a space comes to the image of what the call to the space comes to. -/
structure Commutes (image : SpaceImage) (s : Space) (call : SpaceCall) : Prop where
  answer : ((image.space s).call (image.call call)).answer = image.answer (s.call call).answer
  space : ((image.space s).call (image.call call)).space = image.space (s.call call).space
  opened : ((image.space s).call (image.call call)).opened =
    (s.call call).opened.map image.space
  faults : image.faults (s.call call).faults ((image.space s).call (image.call call)).faults

/-- A run is the image of another, call by call. -/
structure Relates (image : SpaceImage) (run other : SpaceRun) : Prop where
  spaces : other.spaces = run.spaces.map image.space
  answers : other.answers = run.answers.map image.answer
  faults : image.faults run.faults other.faults

variable {image : SpaceImage}

theorem Relates.step (joins : ∀ {a b c d}, image.faults a b → image.faults c d →
      image.faults (a ++ c) (b ++ d))
    (commutes : ∀ s call, image.Commutes s call) {run other : SpaceRun}
    (relates : image.Relates run other) (number : Nat) (call : SpaceCall) :
    image.Relates (run.step (number, call)) (other.step (number, image.call call)) := by
  obtain ⟨spaces, answers, faults⟩ := relates
  unfold SpaceRun.step
  dsimp only
  rw [spaces, List.getElem?_map]
  cases run.spaces[number]? with
  | none => exact ⟨spaces, answers, faults⟩
  | some s =>
    obtain ⟨answer, space, opened, reports⟩ := commutes s call
    refine ⟨?_, ?_, joins faults reports⟩
    · simp [space, opened]
    · simp [answer, answers]

/-- What one call keeps is kept by a run. -/
theorem relates_goOn (joins : ∀ {a b c d}, image.faults a b → image.faults c d →
      image.faults (a ++ c) (b ++ d))
    (commutes : ∀ s call, image.Commutes s call) (calls : List (Nat × SpaceCall))
    {run other : SpaceRun} (relates : image.Relates run other) :
    image.Relates (run.goOn calls)
      (other.goOn (calls.map fun (number, call) => (number, image.call call))) := by
  induction calls generalizing run other with
  | nil => exact relates
  | cons entry rest ih => exact ih (relates.step joins commutes entry.1 entry.2)

/-- A run of the same calls to other spaces. -/
theorem relates_goOn_of_same (joins : ∀ {a b c d}, image.faults a b → image.faults c d →
      image.faults (a ++ c) (b ++ d))
    (commutes : ∀ s call, image.Commutes s call) (same : ∀ call, image.call call = call)
    (calls : List (Nat × SpaceCall)) {run other : SpaceRun} (relates : image.Relates run other) :
    image.Relates (run.goOn calls) (other.goOn calls) := by
  have related := relates_goOn joins commutes calls relates
  simpa only [same, List.map_id'] using related

end SpaceImage
end Skinning
