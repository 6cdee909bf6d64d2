import Mathlib.Data.Rat.Floor
import Mathlib.Tactic.FieldSimp
import Mathlib.Tactic.Positivity
import Skinning.Geometry
import Skinning.Proofs.Numerals

/-! Rescaling whole numbers of pixels. It is meant to round down. It does for ratios with a positive
denominator, while those with a negative one round up. -/
namespace Skinning

open Text (Bounds)

/-! Division that leaves nothing negative over is rounding of the fraction, down or up by the sign of
the denominator. -/

theorem ediv_eq_floor {n d : Int} (positive : 0 < d) : n / d = ⌊(n / d : ℚ)⌋ := by
  lift d to Nat using positive.le
  exact_mod_cast (Rat.floor_intCast_div_natCast n d).symm

theorem ediv_eq_ceil {n d : Int} (negative : d < 0) : n / d = ⌈(n / d : ℚ)⌉ := by
  have opposite : n / -d = ⌊(n / (-d : Int) : ℚ)⌋ := ediv_eq_floor (by omega)
  rw [Int.ediv_neg, Int.cast_neg, div_neg, Int.floor_neg, neg_inj] at opposite
  exact opposite

namespace Ratio

/-- What a value is rescaled to before it is rounded. -/
def exact (r : Ratio) (value : Int) : ℚ := value * r.num / r.den

/-- Rescaling by a ratio as it is built from two numbers. Whatever is within 32 bits when it is
rounded is the result, and the product of value and numerator has room in 64 bits. -/
structure RoundsBy (round : ℚ → Int) (num den : Int) : Prop where
  rounds : ∀ value, Bounds.int32.Holds value →
    Bounds.int32.Holds (round ((ofInts num den).exact value)) →
    (ofInts num den).apply value = round ((ofInts num den).exact value)
  unchanged : num = den ∨ den = 0 → ∀ value, (ofInts num den).apply value = value
  within : ∀ value, Bounds.int32.Holds value → Bounds.int64.Holds (value * (ofInts num den).num)
  monotone : 0 ≤ num * den → ∀ value other, value ≤ other →
    Bounds.int32.Holds value → Bounds.int32.Holds other →
    Bounds.int32.Holds (round ((ofInts num den).exact value)) →
    Bounds.int32.Holds (round ((ofInts num den).exact other)) →
    (ofInts num den).apply value ≤ (ofInts num den).apply other

/-- Down, but up for a negative denominator. -/
def rounding (den : Int) : ℚ → Int := if 0 ≤ den then Int.floor else Int.ceil

theorem rounding_mono (den : Int) {x y : ℚ} (le : x ≤ y) : rounding den x ≤ rounding den y := by
  unfold rounding
  split
  · exact Int.floor_le_floor le
  · exact Int.ceil_le_ceil le

theorem rounding_intCast (den value : Int) : rounding den value = value := by
  unfold rounding
  split
  · exact Int.floor_intCast value
  · exact Int.ceil_intCast value

theorem bmod_of_holds {n : Int} (holds : Bounds.int32.Holds n) : n.bmod 0x100000000 = n := by
  obtain ⟨least, greatest⟩ := holds
  simp only [Bounds.int32] at least greatest
  exact Int.bmod_eq_of_le (by omega) (by omega)

theorem exact_of_isIdentity {r : Ratio} (identity : r.num = r.den) (value : Int) :
    r.exact value = value := by
  rw [exact, identity, mul_div_cancel_right₀]
  exact_mod_cast r.den_ne_zero

theorem apply_eq_bmod (r : Ratio) {value : Int} (holds : Bounds.int32.Holds value) :
    r.apply value = (rounding r.den (r.exact value)).bmod 0x100000000 := by
  rw [apply]
  split
  next identity =>
    rw [exact_of_isIdentity (by simpa [isIdentity] using identity), rounding_intCast,
      bmod_of_holds holds]
  next =>
    congr 1
    rw [rounding, exact, ← Int.cast_mul]
    have proper := r.den_ne_zero
    split
    · exact ediv_eq_floor (by omega)
    · exact ediv_eq_ceil (by omega)

theorem exact_mono {r : Ratio} (sign : 0 ≤ r.num * r.den) {value other : Int}
    (nearer : value ≤ other) : r.exact value ≤ r.exact other := by
  have positive : (0 : ℚ) ≤ r.num / r.den := by
    rw [← mul_div_mul_right (r.num : ℚ) r.den (Int.cast_ne_zero.mpr r.den_ne_zero)]
    exact div_nonneg (by exact_mod_cast sign) (mul_self_nonneg _)
  rw [exact, exact, mul_div_assoc, mul_div_assoc]
  exact mul_le_mul_of_nonneg_right (Int.cast_le.mpr nearer) positive

section

variable {num den : Int}

theorem ofInts_of_ne_zero (proper : den ≠ 0) : ofInts num den = ⟨num, den, proper⟩ := dif_neg proper

theorem ofInts_cases (num den : Int) : den = 0 ∧ ofInts num den = identity ∨
    ∃ proper : den ≠ 0, ofInts num den = ⟨num, den, proper⟩ := by
  by_cases proper : den = 0
  · exact .inl ⟨proper, dif_pos proper⟩
  · exact .inr ⟨proper, dif_neg proper⟩

theorem rounding_ofInts (num den : Int) : rounding (ofInts num den).den = rounding den := by
  rcases ofInts_cases num den with ⟨rfl, built⟩ | ⟨_, built⟩
  · rw [built]
    rfl
  · rw [built]

theorem sign_ofInts (sign : 0 ≤ num * den) : 0 ≤ (ofInts num den).num * (ofInts num den).den := by
  rcases ofInts_cases num den with ⟨-, built⟩ | ⟨_, built⟩
  · rw [built]
    decide
  · rwa [built]

theorem isIdentity_ofInts (same : num = den ∨ den = 0) : (ofInts num den).isIdentity := by
  rcases ofInts_cases num den with ⟨-, built⟩ | ⟨proper, built⟩
  · rw [built]
    rfl
  · rw [built, isIdentity]
    simpa [proper] using same

theorem ofInts_within (bounded : Bounds.int32.Holds num) {value : Int}
    (holds : Bounds.int32.Holds value) : Bounds.int64.Holds (value * (ofInts num den).num) := by
  have factor : Bounds.int32.Holds (ofInts num den).num := by
    rcases ofInts_cases num den with ⟨-, built⟩ | ⟨_, built⟩
    · rw [built]
      decide
    · rwa [built]
  have size {n : Int} (holds : Bounds.int32.Holds n) : |n| ≤ 2147483648 := by
    simp only [Bounds.Holds, Bounds.int32] at holds
    exact abs_le.mpr ⟨by omega, by omega⟩
  have product : |value * (ofInts num den).num| ≤ 2147483648 * 2147483648 := by
    rw [abs_mul]
    exact mul_le_mul (size holds) (size factor) (abs_nonneg _) (by decide)
  obtain ⟨least, greatest⟩ := abs_le.mp product
  simp only [Bounds.Holds, Bounds.int64]
  omega

/-- A rounding that is monotone carries this over to rescaling by it. -/
theorem RoundsBy.of_rounds {round : ℚ → Int} (bounded : Bounds.int32.Holds num)
    (mono : ∀ {x y : ℚ}, x ≤ y → round x ≤ round y)
    (rounds : ∀ value, Bounds.int32.Holds value →
      Bounds.int32.Holds (round ((ofInts num den).exact value)) →
      (ofInts num den).apply value = round ((ofInts num den).exact value)) :
    RoundsBy round num den where
  rounds := rounds
  unchanged same value := by rw [apply, if_pos (isIdentity_ofInts same)]
  within value holds := ofInts_within bounded holds
  monotone sign value other nearer holds holdsOther fits fitsOther := by
    rw [rounds value holds fits, rounds other holdsOther fitsOther]
    exact mono (exact_mono (sign_ofInts sign) nearer)

theorem apply_ofInts (num den : Int) {value : Int} (holds : Bounds.int32.Holds value) :
    (ofInts num den).apply value =
      (rounding den ((ofInts num den).exact value)).bmod 0x100000000 := by
  rw [apply_eq_bmod _ holds, rounding_ofInts]

theorem roundsBy_rounding (bounded : Bounds.int32.Holds num) :
    RoundsBy (rounding den) num den :=
  .of_rounds bounded (fun le => rounding_mono den le) fun value holds fits => by
    rw [apply_ofInts num den holds, bmod_of_holds fits]

/-- Both roundings come to the same where there is nothing to round. -/
theorem rounding_eq_floor (exactly : 0 ≤ den ∨ den ∣ num) (value : Int) :
    rounding den ((ofInts num den).exact value) = ⌊(ofInts num den).exact value⌋ := by
  rcases lt_or_ge den 0 with negative | positive
  · obtain ⟨times, rfl⟩ := exactly.resolve_left (by omega)
    have whole : (ofInts (den * times) den).exact value = (value * times : Int) := by
      have proper : (den : ℚ) ≠ 0 := Int.cast_ne_zero.mpr negative.ne
      rw [ofInts_of_ne_zero negative.ne, exact]
      push_cast
      field_simp
    rw [whole, rounding_intCast, Int.floor_intCast]
  · rw [rounding, if_pos positive]

theorem floor_holds (bounded : Bounds.int32.Holds num) (negative : den < 0) (uneven : ¬ den ∣ num) :
    Bounds.int32.Holds ⌊(num / den : ℚ)⌋ := by
  have large : den ≤ -2 := by
    by_contra small
    obtain rfl : den = -1 := by omega
    exact uneven ⟨-num, by ring⟩
  have below : (den : ℚ) < 0 := Int.cast_lt_zero.mpr negative
  simp only [Bounds.Holds, Bounds.int32] at bounded ⊢
  rw [Int.le_floor, le_div_iff_of_neg below, Int.floor_le_iff, div_lt_iff_of_neg below]
  norm_cast
  omega

/-- Where there is something to round, one pixel shows that a negative denominator rounds up. -/
theorem not_roundsBy_floor (bounded : Bounds.int32.Holds num) (negative : den < 0)
    (uneven : ¬ den ∣ num) : ¬ RoundsBy Int.floor num den := by
  intro down
  have unit : (ofInts num den).exact 1 = (num / den : ℚ) := by
    rw [ofInts_of_ne_zero negative.ne, exact, Int.cast_one, one_mul]
  have even : ⌈(num / den : ℚ)⌉ = ⌊(num / den : ℚ)⌋ := by
    have lower := down.rounds 1 (by decide) (by rw [unit]; exact floor_holds bounded negative uneven)
    rw [apply_ofInts num den (by decide), unit, rounding, if_neg (by omega), Int.bmod_def] at lower
    -- Both roundings of one fraction have the same low bits only if they are the same.
    have near := Int.ceil_le_floor_add_one (num / den : ℚ)
    have above := Int.floor_le_ceil (num / den : ℚ)
    omega
  have whole : (num / den : ℚ) = ⌊(num / den : ℚ)⌋ :=
    le_antisymm (even ▸ Int.le_ceil _) (Int.floor_le _)
  rw [div_eq_iff (Int.cast_ne_zero.mpr negative.ne), mul_comm] at whole
  exact uneven ⟨_, by exact_mod_cast whole⟩

theorem roundsBy_floor_iff (bounded : Bounds.int32.Holds num) :
    RoundsBy Int.floor num den ↔ 0 ≤ den ∨ den ∣ num := by
  constructor
  · intro down
    by_contra up
    obtain ⟨negative, uneven⟩ := not_or.mp up
    exact not_roundsBy_floor bounded (Int.not_le.mp negative) uneven down
  · intro exactly
    refine .of_rounds bounded (fun le => Int.floor_le_floor le) fun value holds fits => ?_
    rw [apply_ofInts num den holds, rounding_eq_floor exactly, bmod_of_holds fits]

end

/-- Rescaling rounds down exactly if the denominator is not negative or divides the numerator.
It always rounds by the sign of the denominator, and keeps the low 32 bits of what it rounds to. -/
theorem roundsBy_floor_unless_negative {num den : Int} (bounded : Bounds.int32.Holds num) :
    (RoundsBy Int.floor num den ↔ 0 ≤ den ∨ den ∣ num) ∧ RoundsBy (rounding den) num den ∧
      ∀ value, Bounds.int32.Holds value → (ofInts num den).apply value =
        (rounding den ((ofInts num den).exact value)).bmod 0x100000000 :=
  ⟨roundsBy_floor_iff bounded, roundsBy_rounding bounded, fun _ => apply_ofInts num den⟩

theorem roundsBy_floor_half : Bounds.int32.Holds 1 ∧ RoundsBy Int.floor 1 2 ∧
    (ofInts 1 2).apply (-3) = -2 := by
  have bounded : Bounds.int32.Holds 1 := by decide
  exact ⟨bounded, (roundsBy_floor_unless_negative bounded).1.mpr (by decide), by decide⟩

theorem negativeHalf_not_roundsBy_floor : ¬ RoundsBy Int.floor 1 (-2) := by
  intro down
  have exactly : ⌊(ofInts 1 (-2)).exact 3⌋ = -2 := by
    rw [Int.floor_eq_iff]
    norm_num [exact, ofInts]
  have lower := down.rounds 3 (by decide) (by rw [exactly]; decide)
  rw [exactly] at lower
  exact absurd lower (by decide)

end Ratio
end Skinning
