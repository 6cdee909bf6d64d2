import Skinning.Proofs.HexLiterals

/-! Colors as texts. A color is written as a mark and eight digits in lower case, and any text that
differs from this one in the case of letters only is read as the color again. What is read as a color
denotes one number, and this number is the color. -/
namespace Skinning

namespace Text

variable {base : Nat} {c : Char} {cs : List Char}

theorem toLower_of_le (beyond : 128 ≤ c.toNat) : c.toLower = c :=
  dif_neg fun ⟨_, upper⟩ => absurd (Nat.le_trans beyond upper) (by decide)

/-- Letters are the same digits in both cases, and other characters have no case here. -/
theorem digit?_toLower (c : Char) : digit? 36 c.toLower = digit? 36 c := by
  rcases Nat.lt_or_ge c.toNat 128 with ascii | beyond
  · have letters : ∀ n < 128, digit? 36 (Char.ofNat n).toLower = digit? 36 (Char.ofNat n) := by
      decide +kernel
    have same := letters c.toNat ascii
    rwa [Char.ofNat_toNat] at same
  · rw [toLower_of_le beyond]

theorem eq_hash_of_toLower (same : c.toLower = '#') : c = '#' := by
  rcases Nat.lt_or_ge c.toNat 128 with ascii | beyond
  · have marks : ∀ n < 128, (Char.ofNat n).toLower = '#' → Char.ofNat n = '#' := by decide +kernel
    have mark := marks c.toNat ascii
    rw [Char.ofNat_toNat] at mark
    exact mark same
  · rwa [toLower_of_le beyond] at same

theorem isDigit_toLower (isBase : IsBase base) {value : Nat} :
    IsDigit base c.toLower value ↔ IsDigit base c value := by
  rw [← digit?_eq_some_iff isBase, ← digit?_eq_some_iff isBase, digit?_eq_some_iff_lt isBase,
    digit?_eq_some_iff_lt isBase, digit?_toLower]

theorem numeral_map_toLower (isBase : IsBase base) {n : Nat} :
    Numeral base (cs.map Char.toLower) n ↔ Numeral base cs n := by
  have digital (values : List Nat) : List.Forall₂ (IsDigit base) (cs.map Char.toLower) values ↔
      List.Forall₂ (IsDigit base) cs values := by
    simp only [List.forall₂_map_left_iff, isDigit_toLower isBase]
  constructor
  · rintro ⟨nonempty, values, digits, number⟩
    exact ⟨by simpa using nonempty, values, (digital values).mp digits, number⟩
  · rintro ⟨nonempty, values, digits, number⟩
    exact ⟨by simpa using nonempty, values, (digital values).mpr digits, number⟩

end Text

namespace Color

open Text (Numeral Unsigned IsDigit isBase_sixteen)

/-- The number of the digits, with or without a plus sign, that a text is unmarked to. -/
def Denotes (text : String) (n : Nat) : Prop := Unsigned 16 (unmarked text) n

/-- A number written with as many digits as there is room for, in lower case. -/
structure IsWritten (digits : List Char) (n : Nat) : Prop where
  eight : digits.length = 8
  lower : ∀ c ∈ digits, c ∈ "0123456789abcdef".toList
  numeral : Numeral 16 digits n

theorem hexDigit_listed : ∀ value < 16, Text.lowerDigits[value]? = some (hexDigit value) ∧
    hexDigit value ∈ "0123456789abcdef".toList := by
  decide

theorem length_hexDigits (count n : Nat) : (hexDigits count n).length = count := by
  induction count generalizing n with
  | zero => rfl
  | succ count ih => simp [hexDigits, ih]

theorem lower_of_mem_hexDigits {count n : Nat} {c : Char} (member : c ∈ hexDigits count n) :
    c ∈ "0123456789abcdef".toList := by
  induction count generalizing n with
  | zero => cases member
  | succ count ih =>
    rcases List.mem_append.mp member with earlier | last
    · exact ih earlier
    · rw [List.mem_singleton.mp last]
      exact (hexDigit_listed _ (Nat.mod_lt _ (by decide))).2

theorem hexDigits_digital (count n : Nat) : ∃ values,
    List.Forall₂ (IsDigit 16) (hexDigits count n) values ∧
      Nat.ofDigits 16 values.reverse = n % 16 ^ count := by
  induction count generalizing n with
  | zero => exact ⟨[], .nil, by simp [Nat.mod_one]⟩
  | succ count ih =>
    obtain ⟨values, digital, number⟩ := ih (n / 16)
    have small : n % 16 < 16 := Nat.mod_lt _ (by decide)
    have last : List.Forall₂ (IsDigit 16) [hexDigit (n % 16)] [n % 16] :=
      .cons ⟨small, .inl (hexDigit_listed _ small).1⟩ .nil
    refine ⟨values ++ [n % 16], List.rel_append digital last, ?_⟩
    rw [List.reverse_concat, Nat.ofDigits_cons, number, pow_succ', Nat.mod_mul]

theorem hexDigits_isWritten {n : Nat} (small : n < 16 ^ 8) : IsWritten (hexDigits 8 n) n := by
  refine ⟨length_hexDigits 8 n, fun c => lower_of_mem_hexDigits, ?_⟩
  obtain ⟨values, digital, number⟩ := hexDigits_digital 8 n
  rw [Nat.mod_eq_of_lt small] at number
  exact ⟨List.ne_nil_of_length_pos (by simp [length_hexDigits]), values, digital, number⟩

theorem text_isWritten (c : Color) :
    ∃ digits, c.text = String.ofList ('#' :: digits) ∧ IsWritten digits c.argb.toNat :=
  ⟨hexDigits 8 c.argb.toNat, rfl, hexDigits_isWritten c.argb.toNat_lt⟩

/-- The one mark of a text whose other characters are plain. -/
theorem unmarked_of_isPlain {digits : List Char} (plain : ∀ c ∈ digits, Text.IsPlain c) :
    unmarked (String.ofList ('#' :: digits)) = digits := by
  have unblank : ∀ c ∈ '#' :: digits, Text.isBlank c = false :=
    List.forall_mem_cons.mpr ⟨by decide, fun c member => (plain c member).unblank⟩
  rw [unmarked, String.toList_ofList, Text.trimChars_of_unblank unblank,
    List.dropWhile_cons_of_pos (by simp)]
  cases digits with
  | nil => rfl
  | cons c rest => exact List.dropWhile_cons_of_neg (by simpa using (plain c List.mem_cons_self).hash)

theorem ofHex_of_toLower {c : Color} {text : String}
    (same : text.toList.map Char.toLower = c.text.toList) : ofHex text = .ok c := by
  obtain ⟨digits, written, eight, -, numeral⟩ := c.text_isWritten
  rw [written, String.toList_ofList] at same
  obtain ⟨mark, letters, split, marked, rfl⟩ := List.map_eq_cons_iff.mp same
  obtain rfl := Text.eq_hash_of_toLower marked
  have numeral := (Text.numeral_map_toLower isBase_sixteen).mp numeral
  have bare : unmarked text = letters := by
    rw [← unmarked_of_isPlain (numeral.isPlain isBase_sixteen), ← split, String.ofList_toList]
  rw [List.length_map] at eight
  exact ofHex_eq_ok_iff.mpr (bare ▸ ⟨.inl numeral, eight.le⟩)

theorem denotes_iff {text : String} {c : Color} (read : ofHex text = .ok c) {n : Nat} :
    Denotes text n ↔ n = c.argb.toNat := by
  have denotes : Denotes text c.argb.toNat := (ofHex_eq_ok_iff.mp read).1
  constructor
  · exact fun other => other.unique isBase_sixteen denotes
  · rintro rfl
    exact denotes

theorem argb_eq_channels (c : Color) : c.argb.toNat =
    ((c.alpha.toNat * 256 + c.red.toNat) * 256 + c.green.toNat) * 256 + c.blue.toNat := by
  have bound := c.argb.toNat_lt
  simp only [alpha, red, green, blue, UInt32.toNat_toUInt8, UInt32.toNat_shiftRight,
    Nat.shiftRight_eq_div_pow, UInt32.reduceToNat, Nat.reduceMod, Nat.reducePow]
  omega

/-- A color is read back from its text in any case of the letters. Whatever is read as a color
denotes one number, which is the one that the color's text has in eight digits, so that two such
texts give one color exactly if they denote the same number. The channels make up the color. -/
theorem text_roundTrips :
    (∀ (c : Color) (text : String), text.toList.map Char.toLower = c.text.toList →
      ofHex text = .ok c) ∧
    (∀ (text : String) (c : Color), ofHex text = .ok c → ∃ n digits,
      (∀ m, Denotes text m ↔ m = n) ∧ c.text = String.ofList ('#' :: digits) ∧ IsWritten digits n) ∧
    (∀ (text other : String) (c d : Color), ofHex text = .ok c → ofHex other = .ok d →
      (c = d ↔ ∃ n, Denotes text n ∧ Denotes other n)) ∧
    ∀ c : Color, c.argb.toNat =
      ((c.alpha.toNat * 256 + c.red.toNat) * 256 + c.green.toNat) * 256 + c.blue.toNat := by
  refine ⟨fun c text same => ofHex_of_toLower same, fun text c read => ?_,
    fun text other c d read readOther => ?_, argb_eq_channels⟩
  · obtain ⟨digits, written, isWritten⟩ := c.text_isWritten
    exact ⟨c.argb.toNat, digits, fun _ => denotes_iff read, written, isWritten⟩
  · simp only [denotes_iff read, denotes_iff readOther]
    constructor
    · rintro rfl
      exact ⟨_, rfl, rfl⟩
    · rintro ⟨_, rfl, same⟩
      cases c
      cases d
      exact congrArg Color.mk (UInt32.toNat_inj.mp same)

theorem text_roundTrips_white :
    "#00FFfFff".toList.map Char.toLower = white.text.toList ∧
    ofHex "#00FFfFff" = .ok white ∧ ofHex " +ffffff" = .ok white ∧
    (∃ n digits, (∀ m, Denotes " +ffffff" m ↔ m = n) ∧
      white.text = String.ofList ('#' :: digits) ∧ IsWritten digits n) ∧
    ∃ n, Denotes "#00FFfFff" n ∧ Denotes " +ffffff" n := by
  have same : "#00FFfFff".toList.map Char.toLower = white.text.toList := by decide
  have signed : ofHex " +ffffff" = .ok white := by decide +kernel
  obtain ⟨reads, writes, denotes, -⟩ := text_roundTrips
  have read := reads white _ same
  exact ⟨same, read, signed, writes _ _ signed, (denotes _ _ _ _ read signed).mp rfl⟩

end Color
end Skinning
