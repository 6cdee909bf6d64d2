import Skinning.Proofs.NumeralCoordinates
import Skinning.Proofs.Tiling
import Skinning.Proofs.Transposition

/-! Pixels are counted in 32 bits. What a coordinate comes to is a number of 32 bits, so nothing is
lost where it is counted. A rectangle that ends beyond the last such number, and no other, can be
asked for strips that do not tile it. -/
namespace Skinning

open Text (Bounds)

theorem toInt_of_holds {n : Int} (holds : Bounds.int32.Holds n) : (Int32.ofInt n).toInt = n := by
  obtain ⟨least, greatest⟩ := holds
  dsimp only [Bounds.int32] at least greatest
  exact Int32.toInt_ofInt_of_le (by omega) (by omega)

theorem holds_toInt (n : Int32) : Bounds.int32.Holds n.toInt :=
  ⟨n.le_toInt, Int.le_of_lt_add_one n.toInt_lt⟩

theorem truncate_holds (x : Float) : Bounds.int32.Holds (truncate x) := by
  unfold truncate Bounds.int32 Text.Bounds.Holds
  dsimp only
  split <;> omega

theorem Ratio.applyTruncating_holds (r : Ratio) {value : Int} (holds : Bounds.int32.Holds value) :
    Bounds.int32.Holds (r.applyTruncating value) := by
  unfold Ratio.applyTruncating
  split
  · exact holds
  · exact truncate_holds _

namespace Coordinate

theorem Site.evaluateFormula_holds {site : Site} {input : String} {n : Int}
    (read : site.evaluateFormula input = .ok (some n)) : Bounds.int32.Holds n := by
  unfold Site.evaluateFormula at read
  cases formula : Expr.ofString input with
  | error fault => simp [formula, bind, Except.bind] at read
  | ok e =>
    cases value : e.eval site.environment with
    | error fault => simp [formula, value, bind, Except.bind] at read
    | ok x =>
      simp only [formula, value, bind, Except.bind, pure, Except.pure, Except.ok.injEq,
        Option.some.injEq] at read
      rw [← read]
      exact truncate_holds _

/-- The pixels of a coordinate are a number of 32 bits, whatever it is and wherever it stands. -/
theorem Site.evaluate_holds {site : Site} {input : String} {n : Int}
    (read : site.evaluate input = .ok (some n)) : Bounds.int32.Holds n := by
  unfold Site.evaluate at read
  dsimp only at read
  split at read
  · split at read
    next value numeral =>
      obtain rfl := Option.some.inj (Except.ok.inj read)
      exact site.ratio.applyTruncating_holds (Text.readInt32_eq_ok_iff.mp numeral).2
    · cases read
  · split at read
    · obtain rfl := Option.some.inj (Except.ok.inj read)
      split
      · exact holds_toInt 0
      · obtain ⟨least, greatest⟩ := holds_toInt (site.extent - site.objectSize)
        dsimp only [Bounds.int32] at least greatest
        constructor <;> dsimp only [Bounds.int32] <;> omega
    · obtain rfl := Option.some.inj (Except.ok.inj read)
      exact holds_toInt site.extent
    · cases read
    · exact Site.evaluateFormula_holds read

theorem Site.evaluateOrZero_holds (site : Site) (input : String) :
    Bounds.int32.Holds ((site.evaluateOrZero input).1.getD 0) := by
  unfold Site.evaluateOrZero
  split
  next value read =>
    cases value with
    | none => exact holds_toInt 0
    | some n => exact Site.evaluate_holds read
  · exact holds_toInt 0

/-- A number of pixels, written out, is a numeral of that value. -/
theorem numeral_repr (n : Nat) : IsNumeral n.repr ∧ numeralValue n.repr = n := by
  have digital : ∀ c ∈ Nat.toDigits 10 n, c.isDigit :=
    fun _ => Nat.isDigit_of_mem_toDigits (by decide) (by decide)
  unfold IsNumeral numeralValue
  rw [Nat.toList_repr, ← Text.valueOn_eq_digitsValue digital, Text.valueOn_toDigits]
  exact ⟨isDigits_iff.mpr ⟨Nat.toDigits_ne_nil, digital⟩, rfl⟩

end Coordinate

namespace Space

/-- Nothing is lost where the pixels of a coordinate are counted. -/
theorem coordinate_toInt (s : Space) (ratio : Ratio) (extent objectSize : Int32)
    (font : Option FontMetrics) (text : String) :
    (s.coordinate ratio extent objectSize font text).1.toInt =
      ((Coordinate.Site.evaluateOrZero ⟨extent, objectSize, font, ratio, s.factor⟩ text).1.getD 0) := by
  unfold coordinate
  dsimp only
  rw [toInt_of_holds (Coordinate.Site.evaluateOrZero_holds _ text)]

theorem coordinate_repr (s : Space) (extent objectSize : Int32) (font : Option FontMetrics) {n : Nat}
    (small : n < 2147483648) :
    (s.coordinate .identity extent objectSize font n.repr).1.toInt = n := by
  obtain ⟨numeral, value⟩ := Coordinate.numeral_repr n
  have read := Coordinate.Site.evaluate_numeral ⟨extent, objectSize, font, .identity, s.factor⟩ numeral
  rw [value, if_pos (by omega)] at read
  rw [coordinate_toInt, Coordinate.Site.evaluateOrZero, read]
  rfl

/-- The size of a square, written out. -/
theorem evaluateSize_repr {s : Space} (unscaled : s.scale = .identity) (font : Option FontMetrics)
    {n : Nat} (small : n < 2147483648) :
    let size := (s.evaluateSize (some (n.repr ++ "," ++ n.repr)) font).1
    size.width.toInt = n ∧ size.height.toInt = n := by
  have digital : ∀ c ∈ n.repr.toList, c.isDigit := by
    rw [Nat.toList_repr]
    exact fun _ => Nat.isDigit_of_mem_toDigits (by decide) (by decide)
  have uncut : ',' ∉ n.repr.toList := fun member => absurd (digital _ member) (by decide)
  have trimmed : Text.trim n.repr = n.repr :=
    Text.trim_of_unblank fun c member => Text.isBlank_of_isDigit (digital c member)
  have split : Pair.split (n.repr ++ "," ++ n.repr) = .ok (n.repr, n.repr) := by
    simp only [Pair.split, Pair.split_join ⟨uncut, uncut⟩, trimmed]
  simp only [evaluateSize, split, unscaled]
  exact ⟨s.coordinate_repr _ _ _ small, s.coordinate_repr _ _ _ small⟩

end Space

namespace SpaceTree

/-- A strip of `n` pixels at an edge. -/
def strip (position : String) (n : Nat) : SpaceTree :=
  .leaf ⟨position, some (n.repr ++ "," ++ n.repr), none⟩

/-- What is left of a tiled space has not begun anew. -/
theorem rest_within {whole : Rect} {scale : Scale} {factor : Float} {trees : List SpaceTree}
    (tiled : (divide whole scale factor trees).Tiled) :
    (allotAll (.ofRect .sequential whole scale factor) trees).2.remaining.Within whole :=
  tiled.1.within _ (by simp)

/-- What is left beside a strip. -/
theorem rest_strip (whole : Rect) (scale : Scale) (factor : Float) (edge : Anchor) {position : String}
    (anchored : Anchor.ofString position = edge) (isEdge : edge.IsEdge) (n : Nat) :
    let s : Space := .ofRect .sequential whole scale factor
    (allotAll s [strip position n]).2.remaining =
      (Space.strip whole (s.evaluateSize (some (n.repr ++ "," ++ n.repr)) none).1 edge).2 := by
  intro s
  simp only [allotAll, allot, strip]
  rw [Space.place_of_edge anchored isEdge]
  rfl

/-- Where a part is cut off up to the last number of 32 bits, the rest begins at the least one. -/
theorem cut_wraps {start size : Int32} (reaches : start.toInt + size.toInt = 2147483648) :
    (start + size).toInt = -2147483648 := by
  rw [Int32.toInt_add, reaches]
  rfl

/-- An axis that goes beyond the last number of 32 bits can be cut off up to it. -/
theorem exists_cut {start extent : Int32} (beyond : ¬ start.toInt + extent.toInt < 2147483648) :
    ∃ n : Nat, n < 2147483648 ∧ start.toInt + n = 2147483648 ∧ (n : Int) ≤ extent.toInt := by
  have last := start.toInt_lt
  have most := extent.toInt_lt
  obtain ⟨n, count⟩ : ∃ n : Nat, (n : Int) = 2147483648 - start.toInt :=
    ⟨_, Int.toNat_of_nonneg (by omega)⟩
  exact ⟨n, by omega, by omega, by omega⟩

/-- Rectangles that end at a number of 32 bits, and no others, are tiled whatever they are asked
for. -/
theorem tiled_iff_isBounded {whole : Rect} (nonneg : whole.Nonneg) (factor : Float) :
    (∀ trees, FitsAll (.ofRect .sequential whole .identity factor) trees →
      (divide whole .identity factor trees).Tiled) ↔ whole.IsBounded := by
  refine ⟨fun tiled => ?_, fun bounded trees fits =>
    allotAll_tiled (.ofRect .sequential whole .identity factor) rfl nonneg bounded trees fits⟩
  let s : Space := .ofRect .sequential whole .identity factor
  constructor
  · by_contra beyond
    obtain ⟨n, small, reaches, most⟩ := exists_cut beyond
    obtain ⟨width, -⟩ := s.evaluateSize_repr rfl none small
    have fits : FitsAll s [strip "left" n] := by
      refine ⟨⟨?_, ?_⟩, trivial⟩
      · rw [width]
        omega
      · rw [width]
        exact most
    have left := (rest_within (tiled _ fits)).left
    rw [rest_strip whole .identity factor .left rfl trivial] at left
    rw [Space.strip, cut_wraps (by rw [width]; exact reaches)] at left
    omega
  · by_contra beyond
    obtain ⟨n, small, reaches, most⟩ := exists_cut beyond
    obtain ⟨-, height⟩ := s.evaluateSize_repr rfl none small
    have fits : FitsAll s [strip "top" n] := by
      refine ⟨⟨?_, ?_⟩, trivial⟩
      · rw [height]
        omega
      · rw [height]
        exact most
    have top := (rest_within (tiled _ fits)).top
    rw [rest_strip whole .identity factor .top rfl trivial] at top
    rw [Space.strip, cut_wraps (by rw [height]; exact reaches)] at top
    omega

end SpaceTree
end Skinning
