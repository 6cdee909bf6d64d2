import Skinning.Proofs.SpaceCalls
import Skinning.Proofs.Tiling

/-! Nothing is left of a sequential space after a request for all of it. As long as no size is
negative, the extents that remain do not grow again until one of them falls below the least number
of 32 bits; and as long as they do not, all that takes room is given an empty rectangle. -/
namespace Skinning

/-- There is no pixel in the rectangle. -/
def Rect.IsEmpty (r : Rect) : Prop := r.width.toInt ≤ 0 ∨ r.height.toInt ≤ 0

instance (r : Rect) : Decidable r.IsEmpty := inferInstanceAs (Decidable (_ ∨ _))

/-- There is nothing left along either axis. Both extents may be less than nothing. -/
def Rect.IsSpent (r : Rect) : Prop := r.width.toInt ≤ 0 ∧ r.height.toInt ≤ 0

def Size.Nonneg (size : Size) : Prop := 0 ≤ size.width.toInt ∧ 0 ≤ size.height.toInt

instance (size : Size) : Decidable size.Nonneg := inferInstanceAs (Decidable (_ ∧ _))

/-- The extent that is left beside a strip is a number of 32 bits. -/
def Anchor.Spares (r : Rect) (size : Size) : Anchor → Prop
  | .fill | .free _ => True
  | .top | .bottom => -2147483648 ≤ r.height.toInt - size.height.toInt
  | .left | .right => -2147483648 ≤ r.width.toInt - size.width.toInt

instance (r : Rect) (size : Size) : (anchor : Anchor) → Decidable (anchor.Spares r size)
  | .fill | .free _ => inferInstanceAs (Decidable True)
  | .top | .bottom | .left | .right => inferInstanceAs (Decidable (-2147483648 ≤ _))

/-- Where nothing is left, taking more leaves less, or it wraps around to more than nothing. -/
theorem sub_nonpos_iff {extent size : Int32} (spent : extent.toInt ≤ 0) (nonneg : 0 ≤ size.toInt) :
    (extent - size).toInt ≤ 0 ↔ -2147483648 ≤ extent.toInt - size.toInt := by
  constructor
  · intro still
    rw [Int32.toInt_sub, Int.bmod_def] at still
    have := extent.le_toInt
    have := size.toInt_lt
    omega
  · intro least
    rw [toInt_sub_of_fits least (by omega)]
    omega

/-- A strip of what is spent is empty, of whatever size it is. -/
theorem strip_isEmpty {r : Rect} (spent : r.IsSpent) (size : Size) (anchor : Anchor) :
    (Space.strip r size anchor).1.IsEmpty := by
  cases anchor with
  | left | right => exact .inr spent.2
  | _ => exact .inl spent.1

/-- What is beside a strip of what is spent is spent unless it wraps around. -/
theorem strip_isSpent_iff {r : Rect} {size : Size} (spent : r.IsSpent) (nonneg : size.Nonneg)
    (anchor : Anchor) : (Space.strip r size anchor).2.IsSpent ↔ anchor.Spares r size := by
  obtain ⟨width, height⟩ := spent
  cases anchor with
  | fill => exact iff_of_true ⟨Int.le_refl 0, Int.le_refl 0⟩ trivial
  | free position => exact iff_of_true ⟨width, height⟩ trivial
  | top | bottom => exact (and_iff_right width).trans (sub_nonpos_iff height nonneg.2)
  | left | right => exact (and_iff_left height).trans (sub_nonpos_iff width nonneg.1)

namespace Space

/-- No request of a list comes to a negative size, at the time when it is placed. A request for all
that remains does not come to a size. -/
def AsksNonneg (s : Space) : List SpaceRequest → Prop
  | [] => True
  | request :: rest =>
    (request.position ≠ "fill" → (s.evaluateSize request.size request.font).1.Nonneg) ∧
      (s.place request).space.AsksNonneg rest

def decideAsksNonneg (s : Space) : (requests : List SpaceRequest) → Decidable (s.AsksNonneg requests)
  | [] => inferInstanceAs (Decidable True)
  | request :: rest =>
    have := (s.place request).space.decideAsksNonneg rest
    inferInstanceAs (Decidable (_ ∧ (s.place request).space.AsksNonneg rest))

instance (s : Space) (requests : List SpaceRequest) : Decidable (s.AsksNonneg requests) :=
  s.decideAsksNonneg requests

/-- No extent wraps around where the requests of a list take their strips. -/
def SparesAll (s : Space) : List SpaceRequest → Prop
  | [] => True
  | request :: rest =>
    (Anchor.ofString request.position).Spares s.remaining
        (s.evaluateSize request.size request.font).1 ∧
      (s.place request).space.SparesAll rest

def decideSparesAll (s : Space) : (requests : List SpaceRequest) → Decidable (s.SparesAll requests)
  | [] => inferInstanceAs (Decidable True)
  | request :: rest =>
    have := (s.place request).space.decideSparesAll rest
    inferInstanceAs (Decidable (_ ∧ (s.place request).space.SparesAll rest))

instance (s : Space) (requests : List SpaceRequest) : Decidable (s.SparesAll requests) :=
  s.decideSparesAll requests

section

variable {s : Space} {request : SpaceRequest}

theorem shrink_remaining (sequential : s.mode = .sequential) (rest : Rect) :
    (s.shrink rest).remaining = rest := by
  simp [shrink, sequential]

/-- What takes room where nothing is left is given an empty rectangle. -/
theorem place_isEmpty (spent : s.remaining.IsSpent) (takes : request.takesRoom) :
    (s.place request).rect.IsEmpty := by
  rcases request.anchor_cases with ⟨-, fills⟩ | ⟨-, isEdge⟩ | ⟨overlaps, -⟩
  · rw [place_of_fill fills]
    exact strip_isEmpty spent .zero .fill
  · rw [place_of_edge rfl isEdge]
    exact strip_isEmpty spent _ _
  · simp [overlaps] at takes

theorem place_isSpent_iff (sequential : s.mode = .sequential) (spent : s.remaining.IsSpent)
    (nonneg : request.position ≠ "fill" →
      (s.evaluateSize request.size request.font).1.Nonneg) :
    (s.place request).space.remaining.IsSpent ↔ (Anchor.ofString request.position).Spares
      s.remaining (s.evaluateSize request.size request.font).1 := by
  rcases request.anchor_cases with ⟨-, fills⟩ | ⟨-, isEdge⟩ | ⟨-, isFree⟩
  · rw [place_of_fill fills, shrink_remaining sequential, fills]
    exact strip_isSpent_iff spent (by decide : Size.zero.Nonneg) .fill
  · have asks : request.position ≠ "fill" := by
      intro fills
      rw [fills] at isEdge
      exact isEdge
    rw [place_of_edge rfl isEdge, shrink_remaining sequential]
    exact strip_isSpent_iff spent (nonneg asks) (Anchor.ofString request.position)
  · rw [place_of_free isFree, isFree]
    exact iff_of_true spent trivial

/-- What is spent stays spent through any requests, exactly as long as nothing wraps around. -/
theorem placeAll_isSpent_iff (sequential : s.mode = .sequential) (spent : s.remaining.IsSpent)
    (requests : List SpaceRequest) (nonneg : s.AsksNonneg requests) :
    (∀ placed ∈ s.placeAll requests, placed.space.remaining.IsSpent) ↔ s.SparesAll requests := by
  induction requests generalizing s with
  | nil => simp [placeAll, SparesAll]
  | cons request rest ih =>
    obtain ⟨size, later⟩ := nonneg
    have now := place_isSpent_iff sequential spent size
    rw [placeAll, List.forall_mem_cons, SparesAll, now]
    refine and_congr_right fun spares => ?_
    exact ih ((s.place_mode request).trans sequential) (now.mpr spares) later

theorem after_isSpent (sequential : s.mode = .sequential) (spent : s.remaining.IsSpent)
    (requests : List SpaceRequest) (nonneg : s.AsksNonneg requests)
    (spares : s.SparesAll requests) : (s.after requests).remaining.IsSpent := by
  induction requests generalizing s with
  | nil => exact spent
  | cons request rest ih =>
    have still := (place_isSpent_iff sequential spent nonneg.1).mpr spares.1
    exact ih ((s.place_mode request).trans sequential) still nonneg.2 spares.2

end

end Space
end Skinning
