import Mathlib
import Skinning.Geometry

/-! Whole numbers as doubles. One with at most 53 bits is a double without being rounded, with its
bits shifted to the left end of the mantissa, and is the whole number again once it is truncated.
What is scaled by nothing is a zero or no number at all, and either is truncated to 0. -/
namespace Skinning

open Float.Model (Format)
open Float.Model.UnpackedFloat

theorem unpack_pack_zero (s : Sign) : (Float.Model.pack (.zero s)).unpack = .zero s := by
  cases s <;> rfl

theorem unpack_pack_notANumber : (Float.Model.pack .notANumber).unpack = .notANumber := rfl

theorem toNat_implicit_append (m : BitVec 52) : (1#1 ++ m).toNat = 2 ^ 52 + m.toNat := by
  rw [BitVec.toNat_append, ← Nat.shiftLeft_add_eq_or_of_lt m.isLt]
  rfl

/-- A number whose mantissa has all of its bits is packed without a loss. -/
theorem unpack_pack_normal {s : Sign} {m : Nat} {e : Int} (positive : 0 < m)
    (full : m.log2 = 52) (low : -1074 ≤ e) (high : e ≤ 971) :
    (Float.Model.pack (.finite s m e positive)).unpack = .finite s m e positive := by
  obtain ⟨lower, upper⟩ := (Nat.log2_eq_iff positive.ne').mp full
  have bias : Format.binary64.exponentBias = 1023 := rfl
  set biased := (e + 1075).toNat with biased_eq
  have exponent : (BitVec.ofNat 11 biased).toNat = biased := by
    rw [BitVec.toNat_ofNat, Nat.mod_eq_of_lt (by omega)]
  have notInfinite : BitVec.ofNat 11 biased ≠ -1#11 := by
    intro same
    rw [← BitVec.toNat_inj, exponent] at same
    simp at same
    omega
  have notSubnormal : BitVec.ofNat 11 biased ≠ 0#11 := by
    intro same
    rw [← BitVec.toNat_inj, exponent] at same
    simp at same
    omega
  have mantissa : (1#1 ++ BitVec.ofNat 52 m).toNat = m := by
    rw [toNat_implicit_append, BitVec.toNat_ofNat]
    omega
  have packed : Float.Model.UnpackedFloat.pack Format.binary64 (.finite s m e positive) =
      packComponents Format.binary64 s (BitVec.ofNat 11 biased) (BitVec.ofNat 52 m) := by
    have amount : (e + (1023 : Nat) + (52 : Nat)).toNat = biased := by
      rw [biased_eq]
      congr 1
      omega
    have normal : m.log2 + 1 = Format.binary64.mantissaBits := by
      rw [full]
      rfl
    simp only [Float.Model.UnpackedFloat.pack, bias, amount]
    rw [if_neg (by omega), if_pos normal]
  show unpack Format.binary64 (Float.Model.UnpackedFloat.pack Format.binary64 _) = _
  simp only [packed, unpack, unpackMantissa_packComponents, unpackExponent_packComponents,
    unpackSign_packComponents, Sign.ofBitVec_toBitVec, notInfinite, notSubnormal, if_false,
    mantissa, exponent, bias]
  congr 1
  omega

/-! Shifting mantissas. -/

theorem shift_exact (m k : Nat) :
    ExtendedMantissa.ofMantissaAndAccuracy (m * 2 ^ k) .exact >>> k =
      ExtendedMantissa.ofMantissaAndAccuracy m .exact := by
  change k.repeat ExtendedMantissa.shiftRightOne _ = _
  induction k generalizing m with
  | zero => simp [Nat.repeat]
  | succ k ih =>
    rw [Nat.repeat, Nat.pow_succ', ← Nat.mul_assoc, ih]
    simp [ExtendedMantissa.shiftRightOne, ExtendedMantissa.ofMantissaAndAccuracy]

theorem log2_mul_two_pow {m : Nat} (positive : 0 < m) (k : Nat) :
    (m * 2 ^ k).log2 = m.log2 + k := by
  obtain ⟨lower, upper⟩ := (Nat.log2_eq_iff positive.ne').mp rfl
  rw [Nat.log2_eq_iff (by positivity), show m.log2 + k + 1 = m.log2 + 1 + k by omega, Nat.pow_add,
    Nat.pow_add]
  exact ⟨Nat.mul_le_mul_right _ lower, Nat.mul_lt_mul_of_pos_right upper (by positivity)⟩

/-- The exponent at which a mantissa has all of its bits, if it is not too small. -/
theorem targetExponent_eq (total : Int) :
    Format.binary64.targetExponent total = max (total - 53) (-1074) := rfl

section

variable {m : Nat} {e : Int} (positive : 0 < m) (full : m.log2 = 52) (low : -1074 ≤ e)
include positive full low

theorem shiftToTargetExponent_exact (k : Nat) :
    shiftToTargetExponent Format.binary64 (m * 2 ^ k) (e - k) .exact =
      (ExtendedMantissa.ofMantissaAndAccuracy m .exact, e) := by
  have target : Format.binary64.targetExponent
      (Float.Model.totalExponent (m * 2 ^ k) (e - k)) = e := by
    rw [Float.Model.totalExponent, log2_mul_two_pow positive, full, targetExponent_eq]
    omega
  have amount : (e - (e - k)).toNat = k := by omega
  simp only [shiftToTargetExponent, shiftToExponent, target, amount, shift_exact]
  congr 1
  omega

/-- Zeros behind the bits that there is room for are dropped, and nothing is rounded. -/
theorem roundWithAccuracy_exact (s : Sign) {f : Int} (k : Nat) (shifted : f = e - k) :
    roundWithAccuracy Format.binary64 s (m * 2 ^ k) f .exact = .finite s m e positive := by
  have again := shiftToTargetExponent_exact positive full low 0
  rw [Nat.pow_zero, Nat.mul_one, Int.natCast_zero, Int.sub_zero] at again
  have rounded : (ExtendedMantissa.ofMantissaAndAccuracy m .exact).roundedMantissa = m := rfl
  simp only [roundWithAccuracy, shifted, shiftToTargetExponent_exact positive full low k, rounded,
    again]
  exact dif_neg positive.ne'

end

/-! Whole numbers. -/

/-- The double is a positive whole number of at most 53 bits. -/
structure IsWhole (x : Float) (n : Nat) : Prop where
  positive : 0 < n
  small : n < 2 ^ 53
  unpacked : x.toModel.unpack = .finite .positive (n * 2 ^ (52 - n.log2)) (n.log2 - 52)
    (Nat.mul_pos positive (Nat.two_pow_pos _))

section

variable {n : Nat} (positive : 0 < n) (small : n < 2 ^ 53)
include positive small

theorem log2_le_of_small : n.log2 ≤ 52 :=
  Nat.le_of_lt_succ ((Nat.log2_lt positive.ne').mpr small)

theorem log2_shifted : (n * 2 ^ (52 - n.log2)).log2 = 52 := by
  have size := log2_le_of_small positive small
  rw [log2_mul_two_pow positive]
  omega

theorem isWhole_toFloat : IsWhole n.toUInt64.toFloat n := by
  refine ⟨positive, small, ?_⟩
  have size := log2_le_of_small positive small
  have full := log2_shifted positive small
  have shifted : 0 < n * 2 ^ (52 - n.log2) := by positivity
  have value : n.toUInt64.toNat = n := by
    show n % 2 ^ 64 = n
    omega
  have compared : compare (n : Int) 0 = .gt := Int.compare_eq_gt.mpr (by omega)
  have target : Format.binary64.targetExponent (Float.Model.totalExponent n 0) = n.log2 - 52 := by
    rw [Float.Model.totalExponent, targetExponent_eq]
    omega
  have amount : (0 - ((n.log2 : Int) - 52)).toNat = 52 - n.log2 := by omega
  have rounded : ofUInt64 Format.binary64 n.toUInt64 =
      .finite .positive (n * 2 ^ (52 - n.log2)) (n.log2 - 52) shifted := by
    have exact := roundWithAccuracy_exact shifted full (e := n.log2 - 52) (by omega) .positive 0 rfl
    rw [Nat.pow_zero, Nat.mul_one, Int.natCast_zero, Int.sub_zero] at exact
    simp only [ofUInt64, Float.Model.UnpackedFloat.ofNat, Float.Model.UnpackedFloat.ofInt,
      Float.Model.UnpackedFloat.normalize, Float.Model.UnpackedFloat.round, value, compared, target,
      decreaseExponent, amount, Int.toNat_natCast, Nat.shiftLeft_eq]
    rw [← exact]
    congr 1
    omega
  show (Float.Model.pack (ofUInt64 Format.binary64 n.toUInt64)).unpack = _
  rw [rounded]
  exact unpack_pack_normal shifted full (by omega) (by omega)

theorem isWhole_ofNat : IsWhole (Float.ofNat n) n := by
  refine ⟨positive, small, ?_⟩
  have size := log2_le_of_small positive small
  have full := log2_shifted positive small
  have shifted : 0 < n * 2 ^ (52 - n.log2) := by positivity
  -- The word of a small number is multiplied by the zeroth power of ten.
  have inside : 0 < Float.exactlyRepresentablePowersOfTen.size := by decide
  have scaled : Float.ofNat n =
      n.toUInt64.toFloat * Float.exactlyRepresentablePowersOfTen[0]! := by
    rw [getElem!_pos Float.exactlyRepresentablePowersOfTen 0 inside]
    exact dif_pos ⟨small, by decide⟩
  have one : Float.exactlyRepresentablePowersOfTen[0]!.toModel.unpack =
      .finite .positive (2 ^ 52) (-52) (by decide) := rfl
  have rounded : Float.Model.UnpackedFloat.mul Format.binary64
      (.finite .positive (n * 2 ^ (52 - n.log2)) (n.log2 - 52) shifted)
      (.finite .positive (2 ^ 52) (-52) (by decide)) =
      .finite .positive (n * 2 ^ (52 - n.log2)) (n.log2 - 52) shifted :=
    roundWithAccuracy_exact shifted full (by omega) .positive 52 rfl
  rw [scaled]
  show (Float.Model.pack (Float.Model.UnpackedFloat.mul Format.binary64 _ _)).unpack = _
  rw [(isWhole_toFloat positive small).unpacked, one, rounded]
  exact unpack_pack_normal shifted full (by omega) (by omega)

end

/-! Truncation. -/

theorem not_lt_zero_iff {x : Float} :
    ¬ x < 0 ↔ x.toModel.unpack.lt (.zero .positive) = false := by
  have zero : (0 : Float).toModel.unpack = .zero .positive := rfl
  rw [← zero]
  show ¬ (decide (x.toModel < (0 : Float).toModel) = true) ↔ _
  rw [decide_eq_true_iff, Bool.eq_false_iff]
  rfl

theorem toNat_ofNatClamp (n : Nat) : (UInt32.ofNatClamp n).toNat = min n 0xffffffff := by
  unfold UInt32.ofNatClamp
  split
  next fits =>
    have bound : n < 4294967296 := fits
    simp
    omega
  next large =>
    have bound : ¬ n < 4294967296 := large
    simp
    omega

theorem IsWhole.truncate_eq {x : Float} {n : Nat} (whole : IsWhole x n) :
    truncate x = (min n 0x7fffffff : Nat) := by
  have size := log2_le_of_small whole.positive whole.small
  have nonnegative : ¬ x < 0 := by
    rw [not_lt_zero_iff, whole.unpacked]
    rfl
  have before : ((n.log2 : Int) - 52).toNat = 0 := by omega
  have after : (0 - ((n.log2 : Int) - 52)).toNat = 52 - n.log2 := by omega
  have word : x.toUInt32 = UInt32.ofNatClamp n := by
    show UInt32.ofNatClamp (x.toModel.unpack.toInt 0 (UInt32.size - 1)).toNat = _
    rw [whole.unpacked]
    simp only [toInt, roundToInt, decreaseExponent, shiftToExponent, Int.sub_zero, before,
      Nat.shiftLeft_zero, Int.natCast_zero, after, shift_exact]
    rfl
  rw [truncate, if_neg nonnegative, word, toNat_ofNatClamp]
  congr 1
  omega

/-- A zero of either sign, or no number. -/
def IsNothing (x : Float) : Prop :=
  (∃ s, x.toModel.unpack = .zero s) ∨ x.toModel.unpack = .notANumber

namespace IsNothing

variable {x : Float}

theorem truncate_eq (nothing : IsNothing x) : truncate x = 0 := by
  have nonnegative : ¬ x < 0 := by
    rw [not_lt_zero_iff]
    rcases nothing with ⟨s, zero⟩ | none
    · rw [zero]
      rfl
    · rw [none]
      rfl
  have word : x.toUInt32 = 0 := by
    show UInt32.ofNatClamp (x.toModel.unpack.toInt 0 (UInt32.size - 1)).toNat = _
    rcases nothing with ⟨s, zero⟩ | none
    · rw [zero]
      rfl
    · rw [none]
      rfl
  rw [truncate, if_neg nonnegative, word]
  rfl

theorem ofInt_zero : IsNothing (Float.ofInt 0) := .inl ⟨.positive, rfl⟩

theorem mul (x : Float) {y : Float} (nothing : IsNothing y) : IsNothing (x * y) := by
  show (∃ s, (Float.Model.pack (Float.Model.UnpackedFloat.mul _ x.toModel.unpack
    y.toModel.unpack)).unpack = .zero s) ∨ (Float.Model.pack _).unpack = .notANumber
  rcases nothing with ⟨s, zero⟩ | none
  · rw [zero]
    cases x.toModel.unpack with
    | notANumber | infinity => exact .inr unpack_pack_notANumber
    | zero | finite => exact .inl ⟨_, unpack_pack_zero _⟩
  · rw [none]
    cases x.toModel.unpack <;> exact .inr unpack_pack_notANumber

theorem div (nothing : IsNothing x) (y : Float) : IsNothing (x / y) := by
  show (∃ s, (Float.Model.pack (Float.Model.UnpackedFloat.div _ x.toModel.unpack
    y.toModel.unpack)).unpack = .zero s) ∨ (Float.Model.pack _).unpack = .notANumber
  rcases nothing with ⟨s, zero⟩ | none
  · rw [zero]
    cases y.toModel.unpack with
    | notANumber | zero => exact .inr unpack_pack_notANumber
    | infinity | finite => exact .inl ⟨_, unpack_pack_zero _⟩
  · rw [none]
    exact .inr unpack_pack_notANumber

end IsNothing

theorem truncate_ofNat {n : Nat} (small : n < 2 ^ 53) :
    truncate (Float.ofNat n) = (min n 0x7fffffff : Nat) := by
  rcases Nat.eq_zero_or_pos n with rfl | positive
  · exact IsNothing.ofInt_zero.truncate_eq
  · exact (isWhole_ofNat positive small).truncate_eq

theorem Ratio.truncate_scale {r : Ratio} (nothing : r.num = 0) (x : Float) :
    truncate (r.scale x) = 0 := by
  have scaled : IsNothing (r.scale x) := by
    rw [Ratio.scale, nothing]
    exact (IsNothing.ofInt_zero.mul x).div _
  exact scaled.truncate_eq

/-- A ratio that scales to nothing is not one over itself. -/
theorem Ratio.applyTruncating_nothing {r : Ratio} (nothing : r.num = 0) (value : Int) :
    r.applyTruncating value = 0 := by
  have scales : r.isIdentity = false := by
    rw [Ratio.isIdentity, nothing, beq_eq_false_iff_ne]
    exact r.den_ne_zero.symm
  rw [Ratio.applyTruncating, scales]
  exact Ratio.truncate_scale nothing _

end Skinning
