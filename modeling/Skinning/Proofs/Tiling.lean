import Skinning.Space

/-! Sequential spaces cut their rectangle into the children's rectangles and the rest. One
placement cuts the remaining rectangle in two, and cuts inside a piece keep the pieces
apart, through any number of requests and panels inside each other. All of this needs the
outermost rectangle to end at a pixel that 32 bits can count; one that ends beyond it may be
cut into pieces that begin anew at the other end. -/
namespace Skinning

/-- The number of the first column that lies to the right. -/
def Rect.right (r : Rect) : Int := r.x.toInt + r.width.toInt

/-- The number of the first row that lies below. -/
def Rect.bottom (r : Rect) : Int := r.y.toInt + r.height.toInt

/-- A rectangle's pixels: the right and the lower edge lie outside. -/
def Rect.Covers (r : Rect) (p : Point) : Prop :=
  (r.x.toInt ≤ p.x.toInt ∧ p.x.toInt < r.right) ∧ (r.y.toInt ≤ p.y.toInt ∧ p.y.toInt < r.bottom)

instance : Membership Point Rect := ⟨Rect.Covers⟩

instance (p : Point) (r : Rect) : Decidable (p ∈ r) :=
  inferInstanceAs (Decidable ((r.x.toInt ≤ p.x.toInt ∧ p.x.toInt < r.right) ∧
    (r.y.toInt ≤ p.y.toInt ∧ p.y.toInt < r.bottom)))

theorem Rect.mem_iff {p : Point} {r : Rect} :
    p ∈ r ↔ (r.x.toInt ≤ p.x.toInt ∧ p.x.toInt < r.right) ∧
      (r.y.toInt ≤ p.y.toInt ∧ p.y.toInt < r.bottom) := Iff.rfl

def Rect.Nonneg (r : Rect) : Prop := 0 ≤ r.width.toInt ∧ 0 ≤ r.height.toInt

instance (r : Rect) : Decidable r.Nonneg := inferInstanceAs (Decidable (_ ∧ _))

/-- The right and the lower edge have numbers of 32 bits. -/
def Rect.IsBounded (r : Rect) : Prop := r.right < 2147483648 ∧ r.bottom < 2147483648

instance (r : Rect) : Decidable r.IsBounded := inferInstanceAs (Decidable (_ ∧ _))

/-- A rectangle, empty or not, that reaches over no edge of another. -/
structure Rect.Within (inner outer : Rect) : Prop where
  nonneg : inner.Nonneg
  left : outer.x.toInt ≤ inner.x.toInt
  right : inner.right ≤ outer.right
  top : outer.y.toInt ≤ inner.y.toInt
  bottom : inner.bottom ≤ outer.bottom

def Rect.Disjoint (a b : Rect) : Prop := ∀ p ∈ a, p ∉ b

theorem Rect.Within.trans {a b c : Rect} (ab : a.Within b) (bc : b.Within c) : a.Within c where
  nonneg := ab.nonneg
  left := Int.le_trans bc.left ab.left
  right := Int.le_trans ab.right bc.right
  top := Int.le_trans bc.top ab.top
  bottom := Int.le_trans ab.bottom bc.bottom

theorem Rect.Within.mem {a b : Rect} (within : a.Within b) {p : Point} (member : p ∈ a) :
    p ∈ b := by
  obtain ⟨-, left, right, top, bottom⟩ := within
  rw [Rect.mem_iff] at member ⊢
  omega

theorem Rect.Within.bounded {a b : Rect} (within : a.Within b) (bounded : b.IsBounded) :
    a.IsBounded :=
  ⟨Int.lt_of_le_of_lt within.right bounded.1, Int.lt_of_le_of_lt within.bottom bounded.2⟩

theorem Rect.Nonneg.within {r : Rect} (nonneg : r.Nonneg) : r.Within r :=
  ⟨nonneg, Int.le_refl _, Int.le_refl _, Int.le_refl _, Int.le_refl _⟩

/-- The parts stay inside the whole, and every pixel of it lies in exactly one of them. -/
structure Tiling (whole : Rect) (parts : List Rect) : Prop where
  within : ∀ r ∈ parts, r.Within whole
  once : ∀ p ∈ whole, parts.countP (p ∈ ·) = 1

namespace Tiling

variable {whole piece rest : Rect} {parts : List Rect}

theorem self (nonneg : whole.Nonneg) : Tiling whole [whole] where
  within := by
    intro r member
    rw [List.mem_singleton.mp member]
    exact nonneg.within
  once := by
    intro p member
    simp [member]

theorem count_outside (tiling : Tiling whole parts) {p : Point} (outside : p ∉ whole) :
    parts.countP (p ∈ ·) = 0 := by
  rw [List.countP_eq_zero]
  intro r member inside
  exact outside ((tiling.within r member).mem (of_decide_eq_true inside))

theorem count_le_one (tiling : Tiling whole parts) (p : Point) :
    parts.countP (p ∈ ·) ≤ 1 := by
  by_cases inside : p ∈ whole
  · exact Nat.le_of_eq (tiling.once p inside)
  · rw [tiling.count_outside inside]
    exact Nat.zero_le 1

theorem two (first : piece.Within whole) (second : rest.Within whole)
    (either : ∀ p ∈ whole, p ∈ piece ↔ p ∉ rest) : Tiling whole [piece, rest] where
  within := by
    intro r member
    simp only [List.mem_cons, List.not_mem_nil, or_false] at member
    rcases member with rfl | rfl
    · exact first
    · exact second
  once := by
    intro p inside
    have split := either p inside
    by_cases atRest : p ∈ rest
    · have apart : p ∉ piece := fun atPiece => split.mp atPiece atRest
      simp [apart, atRest]
    · simp [split.mpr atRest, atRest]

theorem cut (two : Tiling whole [piece, rest]) (further : Tiling rest parts) :
    Tiling whole (piece :: parts) where
  within := by
    intro r member
    rcases List.mem_cons.mp member with rfl | member
    · exact two.within r (by simp)
    · exact (further.within r member).trans (two.within rest (by simp))
  once := by
    intro p inside
    have one := two.once p inside
    by_cases atRest : p ∈ rest
    · have apart : p ∉ piece := by
        intro atPiece
        simp [atPiece, atRest] at one
      simpa [List.countP_cons, apart] using further.once p atRest
    · have atPiece : p ∈ piece := by
        by_cases apart : p ∈ piece
        · exact apart
        · simp [apart, atRest] at one
      simp [atPiece, further.count_outside atRest]

end Tiling

theorem pairwise_disjoint_of_count_le_one {parts : List Rect}
    (count : ∀ p : Point, parts.countP (p ∈ ·) ≤ 1) : parts.Pairwise Rect.Disjoint := by
  induction parts with
  | nil => exact .nil
  | cons r rest ih =>
    refine .cons ?_ (ih fun p => ?_)
    · intro other member p atHead atOther
      have positive : 0 < rest.countP (p ∈ ·) :=
        List.countP_pos_iff.mpr ⟨other, member, decide_eq_true atOther⟩
      have bound := count p
      simp only [List.countP_cons, atHead, decide_true, ↓reduceIte] at bound
      omega
    · have bound := count p
      rw [List.countP_cons] at bound
      omega

/-- An edge, with a size along the axis that it consumes that the rectangle has, or all
of the rectangle. -/
def Anchor.Fits (r : Rect) (size : Size) : Anchor → Prop
  | .fill => True
  | .top | .bottom => 0 ≤ size.height.toInt ∧ size.height.toInt ≤ r.height.toInt
  | .left | .right => 0 ≤ size.width.toInt ∧ size.width.toInt ≤ r.width.toInt
  | .free _ => False

instance (r : Rect) (size : Size) : (anchor : Anchor) → Decidable (anchor.Fits r size)
  | .fill => inferInstanceAs (Decidable True)
  | .top | .bottom | .left | .right => inferInstanceAs (Decidable (_ ∧ _))
  | .free _ => inferInstanceAs (Decidable False)

/-- Along an axis that ends at a number of 32 bits, nothing wraps around where a part is cut off
at either end. -/
theorem cut_exact {start extent size : Int32} (bounded : start.toInt + extent.toInt < 2147483648)
    (least : 0 ≤ size.toInt) (most : size.toInt ≤ extent.toInt) :
    (start + size).toInt = start.toInt + size.toInt ∧
      (extent - size).toInt = extent.toInt - size.toInt ∧
      (start + extent - size).toInt = start.toInt + extent.toInt - size.toInt := by
  have first := start.le_toInt
  have far := extent.toInt_lt
  have whole : (start + extent).toInt = start.toInt + extent.toInt :=
    toInt_add_of_fits (by omega) bounded
  refine ⟨toInt_add_of_fits (by omega) (by omega), toInt_sub_of_fits (by omega) (by omega), ?_⟩
  rw [toInt_sub_of_fits (by omega) (by omega), whole]

/-- An anchor's strip and what remains beside it tile the rectangle. -/
theorem strip_tiling {r : Rect} {size : Size} {anchor : Anchor} (nonneg : r.Nonneg)
    (bounded : r.IsBounded) (fits : anchor.Fits r size) :
    Tiling r [(Space.strip r size anchor).1, (Space.strip r size anchor).2] := by
  obtain ⟨width, height⟩ := nonneg
  cases anchor with
  | free position => exact fits.elim
  | fill =>
    refine .two (Rect.Nonneg.within ⟨width, height⟩) ?_ fun p inside => ?_
    · constructor <;> simp only [Space.strip, Rect.Nonneg, Rect.right, Rect.bottom,
        Int32.toInt_zero] <;> omega
    · simp only [Space.strip, Rect.mem_iff, Rect.right, Rect.bottom, Int32.toInt_zero] at inside ⊢
      omega
  | top | bottom =>
    have exact := cut_exact bounded.2 fits.1 fits.2
    obtain ⟨least, most⟩ := fits
    refine .two ?_ ?_ fun p inside => ?_
    · constructor <;> simp only [Space.strip, Rect.Nonneg, Rect.right, Rect.bottom, exact] <;> omega
    · constructor <;> simp only [Space.strip, Rect.Nonneg, Rect.right, Rect.bottom, exact] <;> omega
    · simp only [Space.strip, Rect.mem_iff, Rect.right, Rect.bottom, exact] at inside ⊢
      omega
  | left | right =>
    have exact := cut_exact bounded.1 fits.1 fits.2
    obtain ⟨least, most⟩ := fits
    refine .two ?_ ?_ fun p inside => ?_
    · constructor <;> simp only [Space.strip, Rect.Nonneg, Rect.right, Rect.bottom, exact] <;> omega
    · constructor <;> simp only [Space.strip, Rect.Nonneg, Rect.right, Rect.bottom, exact] <;> omega
    · simp only [Space.strip, Rect.mem_iff, Rect.right, Rect.bottom, exact] at inside ⊢
      omega

theorem Tiling.pairwise_disjoint {whole : Rect} {parts : List Rect}
    (tiling : Tiling whole parts) : parts.Pairwise Rect.Disjoint :=
  pairwise_disjoint_of_count_le_one tiling.count_le_one

namespace Space

/-- A request for an edge that the space has room for, or for all that remains. -/
def Accepts (s : Space) (request : SpaceRequest) : Prop :=
  (Anchor.ofString request.position).Fits s.remaining
    (s.evaluateSize request.size request.font).1

instance (s : Space) (request : SpaceRequest) : Decidable (s.Accepts request) :=
  inferInstanceAs (Decidable ((Anchor.ofString request.position).Fits _ _))

@[simp] theorem place_mode (s : Space) (request : SpaceRequest) :
    (s.place request).space.mode = s.mode := by
  have shrunk (rest : Rect) : (s.shrink rest).mode = s.mode := by
    unfold shrink
    split <;> simp [*]
  unfold place
  split <;> simp [shrunk]

theorem place_tiling {s : Space} {request : SpaceRequest} (mode : s.mode = .sequential)
    (nonneg : s.remaining.Nonneg) (bounded : s.remaining.IsBounded)
    (accepts : s.Accepts request) :
    Tiling s.remaining [(s.place request).rect, (s.place request).space.remaining] := by
  have shrunk (rest : Rect) : (s.shrink rest).remaining = rest := by simp [shrink, mode]
  unfold Accepts at accepts
  unfold place
  cases anchor : Anchor.ofString request.position with
  | free position =>
    rw [anchor] at accepts
    exact accepts.elim
  | fill =>
    have fits : Anchor.fill.Fits s.remaining .zero := trivial
    simpa [shrunk] using strip_tiling nonneg bounded fits
  | _ =>
    rw [anchor] at accepts
    simpa [shrunk] using strip_tiling nonneg bounded accepts

end Space

/-- What the nodes of a fragment ask for: a panel opens a sequential space over its own
rectangle for the nodes in it. -/
inductive SpaceTree where
  | leaf (request : SpaceRequest)
  | panel (request : SpaceRequest) (children : List SpaceTree)

/-- What the nodes of a fragment are given. A panel also has what is left of its space. -/
inductive Allotment where
  | leaf (rect : Rect)
  | panel (rect : Rect) (children : List Allotment) (rest : Rect)

namespace SpaceTree

mutual

def allot (s : Space) : SpaceTree → Allotment × Space
  | .leaf request =>
    let placed := s.place request
    (.leaf placed.rect, placed.space)
  | .panel request children =>
    let (placed, inner) := s.derive .sequential request
    let (parts, inner) := allotAll inner children
    (.panel placed.rect parts inner.remaining, placed.space)

def allotAll (s : Space) : List SpaceTree → List Allotment × Space
  | [] => ([], s)
  | tree :: rest =>
    let (part, s) := tree.allot s
    let (parts, s) := allotAll s rest
    (part :: parts, s)

end

mutual

/-- Every request asks for what the space has, at the time of the request. -/
def Fits (s : Space) : SpaceTree → Prop
  | .leaf request => s.Accepts request
  | .panel request children =>
    s.Accepts request ∧ FitsAll (s.derive .sequential request).2 children

def FitsAll (s : Space) : List SpaceTree → Prop
  | [] => True
  | tree :: rest => tree.Fits s ∧ FitsAll (tree.allot s).2 rest

end

mutual

def decideFits (s : Space) : (tree : SpaceTree) → Decidable (tree.Fits s)
  | .leaf request => inferInstanceAs (Decidable (s.Accepts request))
  | .panel request children =>
    have := decideFitsAll (s.derive .sequential request).2 children
    inferInstanceAs (Decidable (s.Accepts request ∧ FitsAll _ children))

def decideFitsAll (s : Space) : (trees : List SpaceTree) → Decidable (FitsAll s trees)
  | [] => inferInstanceAs (Decidable True)
  | tree :: rest =>
    have := decideFits s tree
    have := decideFitsAll (tree.allot s).2 rest
    inferInstanceAs (Decidable (tree.Fits s ∧ FitsAll _ rest))

end

instance (s : Space) (trees : List SpaceTree) : Decidable (FitsAll s trees) := decideFitsAll s trees

end SpaceTree

namespace Allotment

def rect : Allotment → Rect
  | .leaf rect => rect
  | .panel rect _ _ => rect

mutual

/-- In each space that was opened, the rectangles of the children and the rest tile the
space's own rectangle. -/
def Tiled : Allotment → Prop
  | .leaf _ => True
  | .panel whole children rest =>
    Tiling whole (children.map rect ++ [rest]) ∧ TiledAll children

def TiledAll : List Allotment → Prop
  | [] => True
  | part :: parts => part.Tiled ∧ TiledAll parts

end

mutual

def leaves : Allotment → List Rect
  | .leaf rect => [rect]
  | .panel _ children _ => leavesAll children

def leavesAll : List Allotment → List Rect
  | [] => []
  | part :: parts => part.leaves ++ leavesAll parts

end

end Allotment

namespace Allotment

mutual

/-- The rectangles of panels inside each other are inside each other. -/
theorem leaves_within {outer : Rect} : (part : Allotment) → part.rect.Within outer →
    part.Tiled → ∀ r ∈ part.leaves, r.Within outer
  | .leaf _, within, _, r, member => by
    rw [List.mem_singleton.mp member]
    exact within
  | .panel whole children _, within, ⟨tiling, tiled⟩, r, member => by
    refine leavesAll_within children (fun part child => ?_) tiled r member
    exact (tiling.within part.rect (by simp [List.mem_map_of_mem child])).trans within

theorem leavesAll_within {outer : Rect} : (parts : List Allotment) →
    (∀ part ∈ parts, part.rect.Within outer) → TiledAll parts →
    ∀ r ∈ leavesAll parts, r.Within outer
  | part :: parts, within, ⟨first, others⟩, r, member => by
    rcases List.mem_append.mp member with here | later
    · exact leaves_within part (within part (by simp)) first r here
    · exact leavesAll_within parts (fun other child => within other (by simp [child])) others r later

end

theorem leavesAll_origin {parts : List Allotment} {outer : Rect}
    (within : ∀ part ∈ parts, part.rect.Within outer) (tiled : TiledAll parts) :
    ∀ r ∈ leavesAll parts, ∃ part ∈ parts, r.Within part.rect := by
  induction parts with
  | nil => simp [leavesAll]
  | cons part parts ih =>
    intro r member
    rcases List.mem_append.mp member with here | later
    · have nonneg := (within part (by simp)).nonneg
      exact ⟨part, by simp, leaves_within part nonneg.within tiled.1 r here⟩
    · obtain ⟨other, child, inside⟩ :=
        ih (fun other child => within other (by simp [child])) tiled.2 r later
      exact ⟨other, by simp [child], inside⟩

mutual

theorem leaves_disjoint : (part : Allotment) → part.Tiled → part.leaves.Pairwise Rect.Disjoint
  | .leaf _, _ => List.pairwise_singleton ..
  | .panel whole children _, ⟨tiling, tiled⟩ => by
    have apart := (List.pairwise_append.mp tiling.pairwise_disjoint).1
    have within : ∀ part ∈ children, part.rect.Within whole :=
      fun part child => tiling.within part.rect (by simp [List.mem_map_of_mem child])
    exact leavesAll_disjoint children apart within tiled

/-- Leaves in disjoint rectangles are disjoint, and so are leaves in the same one. -/
theorem leavesAll_disjoint {outer : Rect} : (parts : List Allotment) →
    (parts.map rect).Pairwise Rect.Disjoint → (∀ part ∈ parts, part.rect.Within outer) →
    TiledAll parts → (leavesAll parts).Pairwise Rect.Disjoint
  | [], _, _, _ => .nil
  | part :: parts, apart, within, ⟨first, others⟩ => by
    obtain ⟨fromFirst, amongOthers⟩ := List.pairwise_cons.mp apart
    have later : ∀ other ∈ parts, other.rect.Within outer :=
      fun other child => within other (by simp [child])
    refine List.pairwise_append.mpr
      ⟨leaves_disjoint part first, leavesAll_disjoint parts amongOthers later others, ?_⟩
    intro a here b there p inA inB
    obtain ⟨other, child, inside⟩ := leavesAll_origin later others b there
    have inPart := (leaves_within part (within part (by simp)).nonneg.within first a here).mem inA
    exact fromFirst other.rect (List.mem_map_of_mem child) p inPart (inside.mem inB)

end

end Allotment

namespace SpaceTree

theorem allot_place (s : Space) (tree : SpaceTree) :
    ∃ request, (tree.allot s).1.rect = (s.place request).rect ∧
      (tree.allot s).2 = (s.place request).space ∧ (tree.Fits s → s.Accepts request) := by
  cases tree with
  | leaf request => exact ⟨request, rfl, rfl, id⟩
  | panel request children => exact ⟨request, rfl, rfl, And.left⟩

mutual

theorem allot_tiled (s : Space) (mode : s.mode = .sequential) (nonneg : s.remaining.Nonneg)
    (bounded : s.remaining.IsBounded) : (tree : SpaceTree) → tree.Fits s → (tree.allot s).1.Tiled
  | .leaf _, _ => trivial
  | .panel request children, ⟨accepts, fits⟩ => by
    have given := (Space.place_tiling mode nonneg bounded accepts).within
      (s.place request).rect (by simp)
    exact allotAll_tiled (s.derive .sequential request).2 rfl given.nonneg (given.bounded bounded)
      children fits

theorem allotAll_tiled (s : Space) (mode : s.mode = .sequential) (nonneg : s.remaining.Nonneg)
    (bounded : s.remaining.IsBounded) : (trees : List SpaceTree) → FitsAll s trees →
      Tiling s.remaining ((allotAll s trees).1.map Allotment.rect ++ [(allotAll s trees).2.remaining]) ∧
        Allotment.TiledAll (allotAll s trees).1
  | [], _ => ⟨.self nonneg, trivial⟩
  | tree :: rest, ⟨fits, others⟩ => by
    obtain ⟨request, given, after, accepted⟩ := allot_place s tree
    have two := Space.place_tiling mode nonneg bounded (accepted fits)
    rw [← given, ← after] at two
    have left := two.within (tree.allot s).2.remaining (by simp)
    have sequential : (tree.allot s).2.mode = .sequential := by
      rw [after, Space.place_mode, mode]
    have further := allotAll_tiled _ sequential left.nonneg (left.bounded bounded) rest others
    exact ⟨two.cut further.1, allot_tiled s mode nonneg bounded tree fits, further.2⟩

end

/-- What the nodes of a fragment are given that fills a rectangle with a sequential space. -/
def divide (whole : Rect) (scale : Scale) (factor : Float) (trees : List SpaceTree) : Allotment :=
  let (parts, after) := allotAll (.ofRect .sequential whole scale factor) trees
  .panel whole parts after.remaining

theorem divide_rect (whole : Rect) (scale : Scale) (factor : Float) (trees : List SpaceTree) :
    (divide whole scale factor trees).rect = whole := rfl

theorem divide_within (whole : Rect) (scale : Scale) (factor : Float) (trees : List SpaceTree)
    (nonneg : whole.Nonneg) (tiled : (divide whole scale factor trees).Tiled) :
    ∀ r ∈ (divide whole scale factor trees).leaves, r.Within whole := by
  refine Allotment.leaves_within _ ?_ tiled
  rw [divide_rect]
  exact nonneg.within

/-- A title bar over a sidebar with two nodes, beside the rest. -/
def sidebar : List SpaceTree := [
  .leaf ⟨"top", some "e,20", none⟩,
  .panel ⟨"left", some "30,e", none⟩ [
    .leaf ⟨"bottom", some "*,25", none⟩,
    .leaf ⟨"fill", none, none⟩],
  .leaf ⟨"right", some "70,0", none⟩]

/-- A strip at the left edge, beside the rest. -/
def columns : List SpaceTree := [.leaf ⟨"left", some "50,*", none⟩, .leaf ⟨"fill", none, none⟩]

end SpaceTree
end Skinning
