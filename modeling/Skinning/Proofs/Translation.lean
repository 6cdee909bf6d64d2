import Skinning.Proofs.SpaceCalls

/-! Where a space stands makes no difference to it. In a space that is moved the same sizes are
come to and the same is reported, and all that is given is moved by as much. So a space that makes
its own corner the origin is moved by its old corner, and all that it gives from then on. -/
namespace Skinning

def Point.zero : Point := ⟨0, 0⟩
def Point.opposite (p : Point) : Point := ⟨-p.x, -p.y⟩

def Point.translate (p d : Point) : Point := ⟨p.x + d.x, p.y + d.y⟩
def Rect.translate (r : Rect) (d : Point) : Rect := ⟨r.x + d.x, r.y + d.y, r.width, r.height⟩

namespace Space

def translate (s : Space) (d : Point) : Space :=
  { s with full := s.full.translate d, remaining := s.remaining.translate d }

variable (s : Space) (d : Point)

theorem translate_zero : s.translate .zero = s := by
  obtain ⟨mode, full, remaining, scale, factor⟩ := s
  simp [translate, Rect.translate, Point.zero]

/-- To make the own corner the origin is to move by it. -/
theorem resetOrigin_eq_translate : s.resetOrigin = s.translate s.full.origin.opposite := by
  simp only [resetOrigin, translate, Rect.translate, Point.opposite, Rect.origin]
  congr 2 <;> grind

theorem evaluateSize_translate : (s.translate d).evaluateSize = s.evaluateSize := by
  funext size font
  simp only [evaluateSize, coordinate, translate, Rect.translate]

theorem evaluatePosition_translate (position : String) (size : Size) (font : Option FontMetrics) :
    (s.translate d).evaluatePosition position size font =
      ((s.evaluatePosition position size font).1.translate d,
        (s.evaluatePosition position size font).2) := by
  simp only [evaluatePosition, coordinate, translate, Rect.translate]
  cases Pair.split position with
  | error => rfl
  | ok halves =>
    have moved (a b c : Int32) : a + b + c = a + c + b := by grind
    simp only [Point.translate, moved s.full.x d.x, moved s.full.y d.y]

theorem strip_translate (r : Rect) (size : Size) (anchor : Anchor) :
    strip (r.translate d) size anchor =
      ((strip r size anchor).1.translate d, (strip r size anchor).2.translate d) := by
  cases anchor <;> simp only [strip, Rect.translate] <;> congr 2 <;> grind

theorem shrink_translate (rest : Rect) :
    (s.translate d).shrink (rest.translate d) = (s.shrink rest).translate d := by
  unfold shrink
  cases mode : s.mode <;> simp [translate, mode]

theorem place_translate (request : SpaceRequest) :
    (s.translate d).place request =
      let placed := s.place request
      ⟨placed.rect.translate d, placed.space.translate d, placed.faults⟩ := by
  have remaining : (s.translate d).remaining = s.remaining.translate d := rfl
  rcases request.anchor_cases with ⟨-, fills⟩ | ⟨-, isEdge⟩ | ⟨-, isFree⟩
  · rw [place_of_fill fills, place_of_fill fills, remaining, strip_translate, shrink_translate]
  · rw [place_of_edge rfl isEdge, place_of_edge rfl isEdge, remaining, evaluateSize_translate,
      strip_translate, shrink_translate]
  · rw [place_of_free isFree, place_of_free isFree, evaluateSize_translate,
      evaluatePosition_translate]
    rfl

end Space

def SpaceAnswer.translate : SpaceAnswer → Point → SpaceAnswer
  | .rect given, d => .rect (given.translate d)
  | .size given, _ => .size given

theorem Space.call_translate (s : Space) (d : Point) (call : SpaceCall) :
    (s.translate d).call call =
      let outcome := s.call call
      ⟨outcome.answer.translate d, outcome.space.translate d, outcome.opened.map (·.translate d),
        outcome.faults⟩ := by
  cases call with
  | place request =>
    simp only [Space.call, place_translate]
    rfl
  | measure size font =>
    simp only [Space.call, evaluateSize_translate]
    rfl
  | derive mode request =>
    simp only [Space.call, derive, place_translate]
    rfl

/-- The same calls to moved spaces, with the same reports. -/
def SpaceImage.translated (d : Point) : SpaceImage :=
  ⟨(·.translate d), id, (·.translate d), Eq⟩

namespace SpaceRun

/-- A run in a space that is moved. -/
theorem goOn_translate (s : Space) (d : Point) (calls : List (Nat × SpaceCall)) :
    let run := (ofSpace s).goOn calls
    let other := (ofSpace (s.translate d)).goOn calls
    other.spaces = run.spaces.map (·.translate d) ∧
      other.answers = run.answers.map (·.translate d) ∧ other.faults = run.faults := by
  have commutes (s : Space) (call : SpaceCall) : (SpaceImage.translated d).Commutes s call := by
    have outcome := s.call_translate d call
    refine ⟨?_, ?_, ?_, ?_⟩ <;> simp only [SpaceImage.translated, id, outcome]
  have begins : (SpaceImage.translated d).Relates (ofSpace s) (ofSpace (s.translate d)) :=
    ⟨rfl, rfl, rfl⟩
  have joins {a b c e : List Coordinate.Fault} (first : a = b) (second : c = e) : a ++ c = b ++ e := by
    rw [first, second]
  obtain ⟨spaces, answers, faults⟩ :=
    SpaceImage.relates_goOn_of_same joins commutes (fun _ => rfl) calls begins
  exact ⟨spaces, answers, faults.symm⟩

/-- Makes the corner of one space the origin of what it gives from now on. -/
def resetAt (run : SpaceRun) (number : Nat) : SpaceRun :=
  { run with spaces := run.spaces.modify number Space.resetOrigin }

end SpaceRun

/-- A run in which each space goes with how far it is moved in another run. A space that is opened
is moved as far as the one that it is opened in, and so is all that a space gives. -/
structure MovingRun where
  spaces : List (Space × Point)
  answers : List (SpaceAnswer × Point)
  faults : List Coordinate.Fault

namespace MovingRun

def step (run : MovingRun) : Nat × SpaceCall → MovingRun
  | (number, call) =>
    match run.spaces[number]? with
    | none => run
    | some (s, d) =>
      let outcome := s.call call
      ⟨run.spaces.set number (outcome.space, d) ++ outcome.opened.map (·, d),
        run.answers ++ [(outcome.answer, d)], run.faults ++ outcome.faults⟩

def goOn (run : MovingRun) (calls : List (Nat × SpaceCall)) : MovingRun := calls.foldl step run

/-- The run itself. -/
def here (run : MovingRun) : SpaceRun :=
  ⟨run.spaces.map (·.1), run.answers.map (·.1), run.faults⟩

/-- The other run. -/
def there (run : MovingRun) : SpaceRun :=
  ⟨run.spaces.map fun (s, d) => s.translate d, run.answers.map fun (a, d) => a.translate d,
    run.faults⟩

theorem step_here (run : MovingRun) (call : Nat × SpaceCall) :
    (run.step call).here = run.here.step call := by
  obtain ⟨number, call⟩ := call
  simp only [step, SpaceRun.step, here, List.getElem?_map]
  cases run.spaces[number]? with
  | none => rfl
  | some entry => simp [List.map_set, Function.comp_def]

theorem step_there (run : MovingRun) (call : Nat × SpaceCall) :
    (run.step call).there = run.there.step call := by
  obtain ⟨number, call⟩ := call
  simp only [step, SpaceRun.step, there, List.getElem?_map]
  cases run.spaces[number]? with
  | none => rfl
  | some entry => simp [List.map_set, Function.comp_def, Space.call_translate]

theorem goOn_runs (run : MovingRun) (calls : List (Nat × SpaceCall)) :
    (run.goOn calls).here = run.here.goOn calls ∧
      (run.goOn calls).there = run.there.goOn calls := by
  induction calls generalizing run with
  | nil => exact ⟨rfl, rfl⟩
  | cons call rest ih =>
    obtain ⟨here, there⟩ := ih (run.step call)
    rw [step_here] at here
    rw [step_there] at there
    exact ⟨here, there⟩

/-- Beside a run, one in which a space makes its own corner the origin and all others stay. -/
def resetting (run : SpaceRun) (number : Nat) : MovingRun :=
  ⟨run.spaces.mapIdx fun i s => (s, if i = number then s.full.origin.opposite else .zero),
    run.answers.map (·, .zero), run.faults⟩

theorem resetting_here (run : SpaceRun) (number : Nat) : (resetting run number).here = run := by
  have spaces : (resetting run number).here.spaces = run.spaces := by
    apply List.ext_getElem?
    intro i
    simp [resetting, here, Function.comp_def]
  have answers : (resetting run number).here.answers = run.answers := by
    simp [resetting, here, Function.comp_def]
  exact SpaceRun.ext spaces answers rfl

theorem resetting_there (run : SpaceRun) (number : Nat) :
    (resetting run number).there = run.resetAt number := by
  have stays (answer : SpaceAnswer) : answer.translate .zero = answer := by
    cases answer <;> simp [SpaceAnswer.translate, Rect.translate, Point.zero]
  have spaces : (resetting run number).there.spaces = (run.resetAt number).spaces := by
    apply List.ext_getElem?
    intro i
    simp only [resetting, there, SpaceRun.resetAt, List.getElem?_map, List.getElem?_mapIdx,
      List.getElem?_modify]
    by_cases isReset : number = i
    · simp [isReset, Space.resetOrigin_eq_translate, Function.comp_def]
    · simp [isReset, Ne.symm isReset, Space.translate_zero, Function.comp_def]
  have answers : (resetting run number).there.answers = run.answers := by
    simp [resetting, there, stays, Function.comp_def]
  exact SpaceRun.ext spaces answers rfl

end MovingRun

namespace SpaceRun

/-- At any point of a run, one of the spaces can make its own corner the origin. From then on, this
space and those that are opened in it are moved by exactly the old corner, with all that they give,
and no other space is. -/
theorem goOn_resetAt (run : SpaceRun) (number : Nat) (calls : List (Nat × SpaceCall)) :
    let moving := (MovingRun.resetting run number).goOn calls
    run.goOn calls = moving.here ∧ (run.resetAt number).goOn calls = moving.there := by
  obtain ⟨here, there⟩ := (MovingRun.resetting run number).goOn_runs calls
  rw [MovingRun.resetting_here] at here
  rw [MovingRun.resetting_there] at there
  exact ⟨here.symm, there.symm⟩

end SpaceRun
end Skinning
