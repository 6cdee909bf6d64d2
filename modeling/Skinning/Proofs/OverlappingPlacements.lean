import Skinning.Proofs.SpaceCalls

/-! Placements that overlap take no room. A stacking space stays as it is, so that the order of
requests does not matter. In a sequential space the requests for free positions can be left out, and
of all that was placed before them nothing but their own size depends on it. -/
namespace Skinning
namespace Space

theorem shrink_eq (s : Space) (rest : Rect) :
    ∃ left, s.shrink rest = { s with remaining := left } := by
  unfold shrink
  split
  · exact ⟨rest, rfl⟩
  · exact ⟨s.remaining, rfl⟩

/-- A placement changes nothing of a space but what remains. -/
theorem place_space (s : Space) (request : SpaceRequest) :
    ∃ left, (s.place request).space = { s with remaining := left } := by
  rcases request.anchor_cases with ⟨-, fills⟩ | ⟨-, isEdge⟩ | ⟨-, isFree⟩
  · rw [place_of_fill fills]
    exact s.shrink_eq _
  · rw [place_of_edge rfl isEdge]
    exact s.shrink_eq _
  · rw [place_of_free isFree]
    exact ⟨s.remaining, rfl⟩

theorem after_eq (s : Space) (requests : List SpaceRequest) :
    ∃ left, s.after requests = { s with remaining := left } := by
  induction requests generalizing s with
  | nil => exact ⟨s.remaining, rfl⟩
  | cons request rest ih =>
    obtain ⟨now, placed⟩ := s.place_space request
    obtain ⟨left, after⟩ := ih (s.place request).space
    exact ⟨left, by rw [Space.after, after, placed]⟩

/-- A position does not depend on what remains. -/
theorem evaluatePosition_remaining (s : Space) (left : Rect) :
    ({ s with remaining := left } : Space).evaluatePosition = s.evaluatePosition := by
  funext position size font
  simp only [evaluatePosition, coordinate]

section

variable {s : Space}

theorem place_stacking (stacking : s.mode = .stacking) (request : SpaceRequest) :
    (s.place request).space = s := by
  have stays (rest : Rect) : s.shrink rest = s := by simp [shrink, stacking]
  rcases request.anchor_cases with ⟨-, fills⟩ | ⟨-, isEdge⟩ | ⟨-, isFree⟩
  · rw [place_of_fill fills, stays]
  · rw [place_of_edge rfl isEdge, stays]
  · rw [place_of_free isFree]

/-- In a stacking space requests do not know of each other. -/
theorem placeAll_stacking (stacking : s.mode = .stacking) (requests : List SpaceRequest) :
    s.placeAll requests = requests.map s.place ∧ s.after requests = s := by
  induction requests with
  | nil => exact ⟨rfl, rfl⟩
  | cons request rest ih =>
    have same := place_stacking stacking request
    obtain ⟨placed, after⟩ := ih
    exact ⟨by rw [placeAll, same, placed, List.map_cons], by rw [Space.after, same, after]⟩

theorem place_overlapping {request : SpaceRequest} (overlaps : request.takesRoom = false) :
    (s.place request).space = s := by
  rw [place_of_free (SpaceRequest.free_of_overlaps overlaps)]

end

/-- Without the requests that overlap, the others are placed as before. -/
theorem placeAll_filter (s : Space) (requests : List SpaceRequest) :
    s.placeAll (requests.filter (·.takesRoom)) =
        ((requests.zip (s.placeAll requests)).filter (·.1.takesRoom)).map Prod.snd ∧
      s.after (requests.filter (·.takesRoom)) = s.after requests := by
  induction requests generalizing s with
  | nil => exact ⟨rfl, rfl⟩
  | cons request rest ih =>
    obtain ⟨placed, after⟩ := ih (s.place request).space
    cases takes : request.takesRoom with
    | true => simp [takes, placeAll, Space.after, placed, after]
    | false =>
      rw [place_overlapping takes] at placed after
      simp [takes, placeAll, Space.after, place_overlapping takes, placed, after]

/-- Overlapping placements consume nothing: all placements of a stacking space go along with their
requests in whatever order these come, and without those for free positions a sequential space gives
the others what it gives them with these. A free position refers to the space as it was before all
of them, and to the size that the request comes to. -/
theorem overlapping_consume_nothing (s : Space) :
    (s.mode = .stacking → ∀ requests others : List SpaceRequest, requests.Perm others →
      (requests.zip (s.placeAll requests)).Perm (others.zip (s.placeAll others)) ∧
        s.after requests = s ∧ s.after others = s) ∧
    (∀ requests : List SpaceRequest,
      s.placeAll (requests.filter (·.takesRoom)) =
          ((requests.zip (s.placeAll requests)).filter (·.1.takesRoom)).map Prod.snd ∧
        s.after (requests.filter (·.takesRoom)) = s.after requests) ∧
    ∀ (before : List SpaceRequest) (request : SpaceRequest), request.takesRoom = false →
      let size := ((s.after before).evaluateSize request.size request.font).1
      let placed := (s.after before).place request
      placed.rect.size = size ∧
        placed.rect.origin = (s.evaluatePosition request.position size request.font).1 := by
  refine ⟨fun stacking requests others perm => ?_, s.placeAll_filter, ?_⟩
  · obtain ⟨placed, after⟩ := placeAll_stacking stacking requests
    obtain ⟨placedOther, afterOther⟩ := placeAll_stacking stacking others
    have pairs (requests : List SpaceRequest) :
        requests.zip (requests.map s.place) = requests.map fun r => (r, s.place r) := by
      simpa using @List.zip_map' _ _ _ id s.place requests
    rw [placed, placedOther, pairs, pairs]
    exact ⟨perm.map _, after, afterOther⟩
  · intro before request overlaps size placed
    obtain ⟨left, after⟩ := s.after_eq before
    have position : (s.after before).evaluatePosition = s.evaluatePosition := by
      rw [after, evaluatePosition_remaining]
    have given : placed.rect = _ :=
      congrArg Placed.rect (place_of_free (SpaceRequest.free_of_overlaps overlaps))
    rw [given, position]
    exact ⟨rfl, rfl⟩

/-- Two overlapping children in either order, and one in the middle of a space that a strip has been
cut off. -/
theorem overlapping_consume_nothing_centered :
    let stack : Space := .ofRect .stacking ⟨0, 0, 100, 100⟩ .identity 1
    let queue : Space := .ofRect .sequential ⟨0, 0, 100, 100⟩ .identity 1
    let top : SpaceRequest := ⟨"top", some "0,50", none⟩
    let all : SpaceRequest := ⟨"fill", none, none⟩
    let middle : SpaceRequest := ⟨"center,center", some "20,e", none⟩
    stack.mode = .stacking ∧ [top, all].Perm [all, top] ∧ middle.takesRoom = false ∧
      ([top, all].zip (stack.placeAll [top, all])).Perm
        ([all, top].zip (stack.placeAll [all, top])) ∧
      ((queue.after [top]).place middle).rect.size = ⟨20, 50⟩ ∧
      ((queue.after [top]).place middle).rect.origin = ⟨40, 25⟩ := by
  intro stack queue top all middle
  have perm : [top, all].Perm [all, top] := List.Perm.swap all top []
  obtain ⟨permutes, -, -⟩ := overlapping_consume_nothing stack
  obtain ⟨-, -, centers⟩ := overlapping_consume_nothing queue
  obtain ⟨size, origin⟩ := centers [top] middle rfl
  refine ⟨rfl, perm, rfl, (permutes rfl _ _ perm).1, ?_, ?_⟩
  · exact size.trans (by decide +kernel)
  · exact origin.trans (by decide +kernel)

end Space
end Skinning
