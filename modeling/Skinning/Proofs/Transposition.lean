import Skinning.Proofs.PlainPaths
import Skinning.Proofs.SpaceCalls

/-! Spaces treat both axes alike. With the axes exchanged everywhere (in the rectangles and scales
of a space, in the edges and in the halves of the pairs that are asked for) all that is given is
given with its axes exchanged, and the same is reported. -/
namespace Skinning

def Point.transpose (p : Point) : Point := ⟨p.y, p.x⟩
def Size.transpose (s : Size) : Size := ⟨s.height, s.width⟩
def Rect.transpose (r : Rect) : Rect := ⟨r.y, r.x, r.height, r.width⟩
def Scale.transpose (s : Scale) : Scale := ⟨s.y, s.x⟩

namespace Pair

/-- A text with one comma with the parts around it exchanged. Any other text stays. -/
def swapped (text : String) : String :=
  match Text.split ',' text with
  | [first, second] => second ++ "," ++ first
  | _ => text

theorem swapped_of_uncut {text : String} (uncut : ',' ∉ text.toList) : swapped text = text := by
  simp [swapped, Text.split_of_uncut uncut]

theorem comma_swapped {text : String} (comma : ',' ∈ text.toList) : ',' ∈ (swapped text).toList := by
  unfold swapped
  split
  · simp
  · exact comma

theorem split_join {first second : String} (uncut : ',' ∉ first.toList ∧ ',' ∉ second.toList) :
    Text.split ',' (first ++ "," ++ second) = [first, second] := by
  have joined := @Text.split_intercalate ',' [first, second] (by simp) (by simpa using uncut)
  simpa [String.intercalate_cons_cons] using joined

theorem split_of_not_cut {text : String}
    (whole : ∀ first second, Text.split ',' text = [first, second] → False) :
    split text = .error (.pair text) := by
  unfold split
  split
  next first second cut => exact (whole first second cut).elim
  next => rfl

/-- Both readings fail alike, or they come to the same halves in the other order. -/
theorem split_cases (text : String) :
    (swapped text = text ∧ split text = .error (.pair text)) ∨
    ∃ first second, split text = .ok (first, second) ∧ split (swapped text) = .ok (second, first) := by
  unfold swapped
  split
  next first second cut =>
    have uncut (piece : String) (member : piece ∈ [first, second]) : ',' ∉ piece.toList :=
      Text.uncut_of_mem_split (cut ▸ member)
    have apart := split_join ⟨uncut second (by simp), uncut first (by simp)⟩
    refine .inr ⟨Text.trim first, Text.trim second, ?_, ?_⟩
    · rw [split, cut]
    · rw [split, apart]
  next whole => exact .inl ⟨rfl, split_of_not_cut whole⟩

end Pair

namespace Anchor

/-- An edge of a rectangle is an edge of the rectangle with its axes exchanged. -/
def transpose : Anchor → Anchor
  | .fill => .fill
  | .top => .left
  | .bottom => .right
  | .left => .top
  | .right => .bottom
  | .free position => .free (Pair.swapped position)

def transposeText : String → String
  | "top" => "left"
  | "left" => "top"
  | "bottom" => "right"
  | "right" => "bottom"
  | position => Pair.swapped position

theorem ofString_of_comma {text : String} (comma : ',' ∈ text.toList) : ofString text = .free text := by
  unfold ofString
  split
  case h_6 => rfl
  all_goals exact absurd comma (by decide)

theorem ofString_transposed (position : String) :
    ofString (transposeText position) = (ofString position).transpose := by
  unfold transposeText
  split
  case h_5 top left bottom right =>
    by_cases comma : ',' ∈ position.toList
    · rw [ofString_of_comma comma, ofString_of_comma (Pair.comma_swapped comma)]
      rfl
    · rw [Pair.swapped_of_uncut comma]
      unfold ofString
      split
      case h_6 => rw [transpose, Pair.swapped_of_uncut comma]
      all_goals first | rfl | contradiction
  all_goals rfl

end Anchor

def SpaceRequest.transpose (r : SpaceRequest) : SpaceRequest :=
  ⟨Anchor.transposeText r.position, r.size.map Pair.swapped, r.font⟩

namespace Space

def transpose (s : Space) : Space :=
  ⟨s.mode, s.full.transpose, s.remaining.transpose, s.scale.transpose, s.factor⟩

@[simp] theorem coordinate_transpose (s : Space) : s.transpose.coordinate = s.coordinate := by
  have factor : s.transpose.factor = s.factor := rfl
  unfold coordinate
  rw [factor]

/-- Of two coordinates that change places the faults change places. -/
theorem evaluateSize_transpose (s : Space) (size : Option String) (font : Option FontMetrics) :
    (s.transpose.evaluateSize (size.map Pair.swapped) font).1 = (s.evaluateSize size font).1.transpose ∧
      (s.evaluateSize size font).2.Perm (s.transpose.evaluateSize (size.map Pair.swapped) font).2 := by
  cases size with
  | none => exact ⟨rfl, .refl _⟩
  | some text =>
    simp only [Option.map_some, evaluateSize, coordinate_transpose]
    rcases Pair.split_cases text with ⟨same, bad⟩ | ⟨first, second, here, there⟩
    · rw [same, bad]
      exact ⟨rfl, .refl _⟩
    · rw [here, there]
      dsimp only [transpose, Rect.transpose, Scale.transpose, Size.transpose]
      exact ⟨rfl, List.perm_append_comm⟩

theorem evaluatePosition_transpose (s : Space) (position : String) (size : Size)
    (font : Option FontMetrics) :
    (s.transpose.evaluatePosition (Pair.swapped position) size.transpose font).1 =
        (s.evaluatePosition position size font).1.transpose ∧
      (s.evaluatePosition position size font).2.Perm
        (s.transpose.evaluatePosition (Pair.swapped position) size.transpose font).2 := by
  simp only [evaluatePosition, coordinate_transpose]
  rcases Pair.split_cases position with ⟨same, bad⟩ | ⟨first, second, here, there⟩
  · rw [same, bad]
    exact ⟨rfl, .refl _⟩
  · rw [here, there]
    dsimp only [transpose, Rect.transpose, Scale.transpose, Size.transpose]
    exact ⟨rfl, List.perm_append_comm⟩

theorem strip_transpose (r : Rect) (size : Size) (anchor : Anchor) :
    strip r.transpose size.transpose anchor.transpose =
      ((strip r size anchor).1.transpose, (strip r size anchor).2.transpose) := by
  cases anchor <;> rfl

theorem shrink_transpose (s : Space) (rest : Rect) :
    s.transpose.shrink rest.transpose = (s.shrink rest).transpose := by
  unfold shrink
  cases mode : s.mode <;> simp [transpose, mode]

/-- A request with its axes exchanged is given what the request is given, with its axes exchanged,
and the spaces after both are transposed as the spaces before. -/
theorem place_transpose (s : Space) (request : SpaceRequest) :
    (s.transpose.place request.transpose).rect = (s.place request).rect.transpose ∧
      (s.transpose.place request.transpose).space = (s.place request).space.transpose ∧
      (s.place request).faults.Perm (s.transpose.place request.transpose).faults := by
  have anchors : Anchor.ofString request.transpose.position =
      (Anchor.ofString request.position).transpose := Anchor.ofString_transposed _
  obtain ⟨sizes, sizeFaults⟩ := s.evaluateSize_transpose request.size request.font
  let size := (s.evaluateSize request.size request.font).1
  cases anchored : Anchor.ofString request.position with
  | fill =>
    rw [anchored] at anchors
    rw [place_of_fill anchored, place_of_fill anchors]
    exact ⟨rfl, s.shrink_transpose (strip s.remaining .zero .fill).2, .refl _⟩
  | free position =>
    obtain ⟨points, pointFaults⟩ := s.evaluatePosition_transpose position size request.font
    rw [anchored] at anchors
    rw [place_of_free anchored, place_of_free anchors]
    dsimp only [SpaceRequest.transpose]
    rw [sizes, points]
    exact ⟨rfl, rfl, sizeFaults.append pointFaults⟩
  | _ =>
    have parts := strip_transpose s.remaining size
    rw [anchored] at anchors
    rw [place_of_edge anchored trivial, place_of_edge anchors trivial]
    dsimp only [SpaceRequest.transpose]
    have remaining : s.transpose.remaining = s.remaining.transpose := rfl
    rw [sizes, remaining, parts]
    exact ⟨rfl, s.shrink_transpose _, sizeFaults⟩

end Space

def SpaceCall.transpose : SpaceCall → SpaceCall
  | .place request => .place request.transpose
  | .measure size font => .measure (size.map Pair.swapped) font
  | .derive mode request => .derive mode request.transpose

def SpaceAnswer.transpose : SpaceAnswer → SpaceAnswer
  | .rect given => .rect given.transpose
  | .size given => .size given.transpose

/-- The axes are exchanged, and reports come in any order. -/
def SpaceImage.transposed : SpaceImage :=
  ⟨Space.transpose, SpaceCall.transpose, SpaceAnswer.transpose, List.Perm⟩

theorem Space.call_transpose (s : Space) (call : SpaceCall) :
    SpaceImage.transposed.Commutes s call := by
  cases call with
  | place request =>
    obtain ⟨rect, space, faults⟩ := s.place_transpose request
    exact ⟨congrArg SpaceAnswer.rect rect, space, rfl, faults⟩
  | measure size font =>
    obtain ⟨sizes, faults⟩ := s.evaluateSize_transpose size font
    exact ⟨congrArg SpaceAnswer.size sizes, rfl, rfl, faults⟩
  | derive mode request =>
    obtain ⟨rect, space, faults⟩ := s.place_transpose request
    refine ⟨congrArg SpaceAnswer.rect rect, space, ?_, faults⟩
    exact congrArg (fun r => [ofRect mode r s.scale.transpose s.factor]) rect

/-- A run with its axes exchanged: the same spaces and answers with their axes exchanged, and the
same reports. -/
theorem SpaceRun.goOn_transpose (s : Space) (calls : List (Nat × SpaceCall)) :
    let run := (ofSpace s).goOn calls
    let other := (ofSpace s.transpose).goOn
      (calls.map fun (number, call) => (number, call.transpose))
    other.spaces = run.spaces.map Space.transpose ∧
      other.answers = run.answers.map SpaceAnswer.transpose ∧
      run.faults.Perm other.faults := by
  have begins : SpaceImage.transposed.Relates (ofSpace s) (ofSpace s.transpose) :=
    ⟨rfl, rfl, .refl _⟩
  obtain ⟨spaces, answers, faults⟩ :=
    SpaceImage.relates_goOn List.Perm.append Space.call_transpose calls begins
  exact ⟨spaces, answers, faults⟩

end Skinning
