import Mathlib.Data.List.Forall2
import Mathlib.Data.Nat.Digits.Defs
import Mathlib.Tactic.Linarith
import Mathlib.Tactic.Ring
import Skinning.Text.Blank
import Skinning.Text.Integer

/-! Numerals and the numbers that they denote. A text is read as an integer exactly if it is digits
of the base behind one sign at most and the number is within the bounds. The minus sign is for
bounds that reach below zero. -/
namespace Skinning.Text

/-- Every digit at the place that is its value. -/
def lowerDigits : List Char := "0123456789abcdefghijklmnopqrstuvwxyz".toList
def upperDigits : List Char := "0123456789ABCDEFGHIJKLMNOPQRSTUVWXYZ".toList

/-- A digit of a base and its value. -/
def IsDigit (base : Nat) (c : Char) (value : Nat) : Prop :=
  value < base ∧ (lowerDigits[value]? = some c ∨ upperDigits[value]? = some c)

/-- Digits of a base, the most significant one first, and the number that they denote. -/
structure Numeral (base : Nat) (cs : List Char) (n : Nat) : Prop where
  nonempty : cs ≠ []
  denotes : ∃ values, List.Forall₂ (IsDigit base) cs values ∧ Nat.ofDigits base values.reverse = n

/-- Digits by themselves or behind a plus sign. -/
def Unsigned (base : Nat) (cs : List Char) (n : Nat) : Prop :=
  Numeral base cs n ∨ ∃ digits, cs = '+' :: digits ∧ Numeral base digits n

/-- Digits behind one sign at most. -/
def Signed (base : Nat) (cs : List Char) (n : Int) : Prop :=
  (∃ m : Nat, n = m ∧ Unsigned base cs m) ∨
    ∃ (m : Nat) (digits : List Char), n = -m ∧ cs = '-' :: digits ∧ Numeral base digits m

def Bounds.Holds (b : Bounds) (n : Int) : Prop := b.least ≤ n ∧ n ≤ b.greatest

instance (b : Bounds) (n : Int) : Decidable (b.Holds n) :=
  inferInstanceAs (Decidable (b.least ≤ n ∧ n ≤ b.greatest))

/-- The bases that have digits for all values below them. -/
structure IsBase (base : Nat) : Prop where
  proper : 1 < base
  largest : base ≤ 36

theorem isBase_ten : IsBase 10 := ⟨by decide, by decide⟩
theorem isBase_sixteen : IsBase 16 := ⟨by decide, by decide⟩

variable {bounds : Bounds} {base : Nat} {c : Char} {cs : List Char}

/-! Digits. -/

theorem toNat_lt_of_digit? {value : Nat} (found : digit? base c = some value) : c.toNat < 128 := by
  obtain ⟨found, -⟩ := Option.filter_eq_some_iff.mp found
  split at found
  next range => exact Nat.lt_of_le_of_lt range.2 (by decide)
  split at found
  next range => exact Nat.lt_of_le_of_lt range.2 (by decide)
  split at found
  next range => exact Nat.lt_of_le_of_lt range.2 (by decide)
  · cases found

theorem listed_of_digit? : ∀ n < 128, ∀ value ∈ digit? 36 (Char.ofNat n),
    lowerDigits[value]? = some (Char.ofNat n) ∨ upperDigits[value]? = some (Char.ofNat n) := by
  decide +kernel

theorem digit?_listed : ∀ value < 36, lowerDigits[value]?.bind (digit? 36) = some value ∧
    upperDigits[value]?.bind (digit? 36) = some value := by
  decide +kernel

/-- The digits of a base are those of the largest one that have a value below it. -/
theorem digit?_eq_some_iff_lt {value : Nat} (isBase : IsBase base) :
    digit? base c = some value ↔ digit? 36 c = some value ∧ value < base := by
  unfold digit?
  simp only [Option.filter_eq_some_iff, decide_eq_true_eq]
  constructor
  · rintro ⟨found, small⟩
    exact ⟨⟨found, Nat.lt_of_lt_of_le small isBase.largest⟩, small⟩
  · rintro ⟨⟨found, -⟩, small⟩
    exact ⟨found, small⟩

theorem digit?_eq_some_iff {value : Nat} (isBase : IsBase base) :
    digit? base c = some value ↔ IsDigit base c value := by
  rw [digit?_eq_some_iff_lt isBase, and_comm, IsDigit]
  refine and_congr_right fun small => ⟨fun found => ?_, fun listed => ?_⟩
  · have ascii := listed_of_digit? c.toNat (toNat_lt_of_digit? found) value
    rw [Char.ofNat_toNat] at ascii
    exact ascii found
  · obtain ⟨lower, upper⟩ := digit?_listed value (Nat.lt_of_lt_of_le small isBase.largest)
    rcases listed with listed | listed
    · rwa [listed] at lower
    · rwa [listed] at upper

theorem isDigit_rightUnique (isBase : IsBase base) : Relator.RightUnique (IsDigit base) :=
  fun _ _ _ first second =>
    Option.some.inj (((digit?_eq_some_iff isBase).mpr first).symm.trans
      ((digit?_eq_some_iff isBase).mpr second))

/-- What digits have in common: they are no signs, marks or blanks. -/
structure IsPlain (c : Char) : Prop where
  plus : c ≠ '+'
  minus : c ≠ '-'
  hash : c ≠ '#'
  unblank : isBlank c = false
  size : c.utf8Size = 1

theorem IsDigit.isPlain {value : Nat} (isBase : IsBase base) (digit : IsDigit base c value) :
    IsPlain c := by
  have all : ∀ value < 36, ∀ c ∈ [lowerDigits[value]?, upperDigits[value]?],
      c.all fun c => c ≠ '+' && c ≠ '-' && c ≠ '#' && !isBlank c && c.utf8Size = 1 := by
    decide +kernel
  obtain ⟨small, listed⟩ := digit
  have plain := all value (Nat.lt_of_lt_of_le small isBase.largest) (some c) (by
    rcases listed with listed | listed <;> simp [listed])
  simp only [Option.all_some, Bool.and_eq_true, decide_eq_true_eq, Bool.not_eq_true'] at plain
  obtain ⟨⟨⟨⟨plus, minus⟩, hash⟩, unblank⟩, size⟩ := plain
  exact ⟨plus, minus, hash, unblank, size⟩

theorem Numeral.isDigit {n : Nat} (numeral : Numeral base cs n) :
    ∀ c ∈ cs, ∃ value, IsDigit base c value := by
  obtain ⟨-, values, digital, -⟩ := numeral
  have each := digital.imp fun c value digit => And.intro (Exists.intro value digit) digit
  exact ((List.forall₂_and_left _ _).mp each).1

theorem Numeral.isPlain {n : Nat} (isBase : IsBase base) (numeral : Numeral base cs n) :
    ∀ c ∈ cs, IsPlain c := fun c member => by
  obtain ⟨value, digit⟩ := numeral.isDigit c member
  exact digit.isPlain isBase

theorem Signed.isDigit {n : Int} (signed : Signed base cs n) :
    ∀ c ∈ cs, c = '+' ∨ c = '-' ∨ ∃ value, IsDigit base c value := by
  have digits {cs : List Char} {m : Nat} (numeral : Numeral base cs m) :
      ∀ c ∈ cs, c = '+' ∨ c = '-' ∨ ∃ value, IsDigit base c value :=
    fun c member => .inr (.inr (numeral.isDigit c member))
  rcases signed with ⟨m, -, numeral | ⟨_, rfl, numeral⟩⟩ | ⟨m, _, -, rfl, numeral⟩
  · exact digits numeral
  · exact List.forall_mem_cons.mpr ⟨.inl rfl, digits numeral⟩
  · exact List.forall_mem_cons.mpr ⟨.inr (.inl rfl), digits numeral⟩

theorem Signed.unblank {n : Int} (isBase : IsBase base) (signed : Signed base cs n) :
    ∀ c ∈ cs, isBlank c = false := fun c member => by
  rcases signed.isDigit c member with rfl | rfl | ⟨value, digit⟩
  · decide
  · decide
  · exact (digit.isPlain isBase).unblank

theorem Numeral.lt {n : Nat} (isBase : IsBase base) (numeral : Numeral base cs n) :
    n < base ^ cs.length := by
  obtain ⟨-, values, digital, rfl⟩ := numeral
  obtain ⟨small, -⟩ := (List.forall₂_and_left _ _).mp digital.flip
  have bound := Nat.ofDigits_lt_base_pow_length isBase.proper fun value member =>
    small value (List.mem_reverse.mp member)
  rwa [List.length_reverse, ← digital.length_eq] at bound

theorem Numeral.unique (isBase : IsBase base) {m n : Nat} (first : Numeral base cs m)
    (second : Numeral base cs n) : m = n := by
  obtain ⟨-, values, same, rfl⟩ := first
  obtain ⟨-, others, also, rfl⟩ := second
  rw [(isDigit_rightUnique isBase).forall₂ same also]

/-! Reading digits. -/

theorem readDigits_cons_eq_ok {sign value n : Int} {rest : List Char} :
    readDigits bounds base sign value (c :: rest) = .ok n ↔
      ∃ digit, digit? base c = some digit ∧ value * base + sign * digit ≤ bounds.greatest ∧
        bounds.least ≤ value * base + sign * digit ∧
        readDigits bounds base sign (value * base + sign * digit) rest = .ok n := by
  rw [readDigits]
  cases digit? base c with
  | none => simp
  | some digit =>
    by_cases large : bounds.greatest < value * base + sign * digit
    · simp [large, Int.not_le.mpr large]
    · by_cases small : value * base + sign * digit < bounds.least
      · simp [large, small, Int.not_le.mpr small]
      · simp [large, small, Int.not_lt.mp large, Int.not_lt.mp small]

/-- The number that digits of a base come to behind those of a value. -/
def valueOn (base value : Nat) (digits : List Char) : Nat :=
  digits.foldl (fun value c => value * base + (digit? base c).getD 0) value

theorem valueOn_cons {digit : Nat} (found : digit? base c = some digit) (value : Nat)
    (rest : List Char) : valueOn base value (c :: rest) = valueOn base (value * base + digit) rest := by
  rw [valueOn, List.foldl_cons, found]
  rfl

theorem valueOn_append (value : Nat) (digits : List Char) (c : Char) :
    valueOn base value (digits ++ [c]) =
      valueOn base value digits * base + (digit? base c).getD 0 := by
  simp [valueOn]

theorem digit?_digitChar : ∀ n < 10, digit? 10 n.digitChar = some n := by decide

/-- A number is what its digits come to. -/
theorem valueOn_toDigits (n : Nat) : valueOn 10 0 (Nat.toDigits 10 n) = n := by
  induction n using Nat.strongRecOn with
  | ind n ih =>
    rw [Nat.toDigits_eq_if (by decide)]
    split
    next small => simp [valueOn, digit?_digitChar n small]
    next large =>
      rw [valueOn_append, ih (n / 10) (by omega), digit?_digitChar _ (Nat.mod_lt _ (by decide)),
        Option.getD_some]
      omega

theorem le_valueOn {base : Nat} (proper : 0 < base) (value : Nat) (digits : List Char) :
    value ≤ valueOn base value digits := by
  induction digits generalizing value with
  | nil => exact Nat.le_refl value
  | cons c rest ih =>
    calc value ≤ value * base := Nat.le_mul_of_pos_right value proper
      _ ≤ value * base + (digit? base c).getD 0 := Nat.le_add_right _ _
      _ ≤ valueOn base value (c :: rest) := ih _

theorem valueOn_eq_foldl (isBase : IsBase base) {values : List Nat}
    (digital : List.Forall₂ (IsDigit base) cs values) (value : Nat) :
    valueOn base value cs = values.foldl (fun value digit => value * base + digit) value := by
  induction digital generalizing value with
  | nil => rfl
  | cons first _ ih =>
    rw [valueOn_cons ((digit?_eq_some_iff isBase).mpr first), ih, List.foldl_cons]

theorem valueOn_eq_ofDigits (isBase : IsBase base) {values : List Nat}
    (digital : List.Forall₂ (IsDigit base) cs values) :
    valueOn base 0 cs = Nat.ofDigits base values.reverse := by
  rw [valueOn_eq_foldl isBase digital, Nat.ofDigits_eq_foldr, List.foldr_reverse]
  exact List.foldl_ext _ _ _ fun value digit _ => by
    simp only [Nat.cast_id]
    ring

theorem exists_digital_iff (isBase : IsBase base) :
    (∃ values, List.Forall₂ (IsDigit base) cs values) ↔ ∀ c ∈ cs, (digit? base c).isSome := by
  induction cs with
  | nil => exact ⟨fun _ => by simp, fun _ => ⟨[], .nil⟩⟩
  | cons c rest ih =>
    rw [List.forall_mem_cons, ← ih, Option.isSome_iff_exists]
    constructor
    · rintro ⟨_, _ | ⟨first, digital⟩⟩
      exact ⟨⟨_, (digit?_eq_some_iff isBase).mpr first⟩, _, digital⟩
    · rintro ⟨⟨value, first⟩, values, digital⟩
      exact ⟨value :: values, .cons ((digit?_eq_some_iff isBase).mp first) digital⟩

/-- Whether a text denotes a number can be told from its digits one by one. -/
theorem numeral_iff (isBase : IsBase base) {n : Nat} : Numeral base cs n ↔
    cs ≠ [] ∧ (∀ c ∈ cs, (digit? base c).isSome) ∧ valueOn base 0 cs = n := by
  constructor
  · rintro ⟨nonempty, values, digital, rfl⟩
    exact ⟨nonempty, (exists_digital_iff isBase).mp ⟨values, digital⟩,
      valueOn_eq_ofDigits isBase digital⟩
  · rintro ⟨nonempty, digits, rfl⟩
    obtain ⟨values, digital⟩ := (exists_digital_iff isBase).mpr digits
    exact ⟨nonempty, values, digital, (valueOn_eq_ofDigits isBase digital).symm⟩

theorem numeral_of_all (isBase : IsBase base) (nonempty : cs ≠ [])
    (digits : cs.all fun c => (digit? base c).isSome) : Numeral base cs (valueOn base 0 cs) :=
  (numeral_iff isBase).mpr ⟨nonempty, List.all_eq_true.mp digits, rfl⟩

/-- What is between zero and a number within the bounds is within them. -/
theorem Bounds.Holds.between {sign : Int} {m n : Nat} (zero : bounds.Holds 0)
    (holds : bounds.Holds (sign * n)) (nearer : m ≤ n) : bounds.Holds (sign * m) := by
  obtain ⟨low, high⟩ := zero
  obtain ⟨least, greatest⟩ := holds
  have nearer : (m : Int) ≤ n := Int.ofNat_le.mpr nearer
  have positive : (0 : Int) ≤ m := Int.natCast_nonneg m
  rcases Int.le_total 0 sign with direction | direction
  · exact ⟨by nlinarith, by nlinarith⟩
  · exact ⟨by nlinarith, by nlinarith⟩

/-- Digits are read to the end exactly if the number that they come to is within the bounds: the
numbers on the way there are between it and zero. -/
theorem readDigits_eq_ok_iff (isBase : IsBase base) (zero : bounds.Holds 0) {sign n : Int}
    {value : Nat} (begins : bounds.Holds (sign * value)) :
    readDigits bounds base sign (sign * value) cs = .ok n ↔
      (∀ c ∈ cs, (digit? base c).isSome) ∧ n = sign * valueOn base value cs ∧ bounds.Holds n := by
  induction cs generalizing value with
  | nil =>
    constructor
    · intro read
      obtain rfl : sign * value = n := Except.ok.inj read
      exact ⟨by simp, rfl, begins⟩
    · rintro ⟨-, rfl, -⟩
      rfl
  | cons c rest ih =>
    have next (digit : Nat) :
        sign * value * base + sign * digit = sign * (value * base + digit : Nat) := by
      push_cast
      ring
    simp only [readDigits_cons_eq_ok, next, List.forall_mem_cons, Option.isSome_iff_exists]
    constructor
    · rintro ⟨digit, found, greatest, least, read⟩
      obtain ⟨digits, number, holds⟩ := (ih ⟨least, greatest⟩).mp read
      exact ⟨⟨⟨digit, found⟩, by simpa [Option.isSome_iff_exists] using digits⟩,
        by rw [valueOn_cons found, number], holds⟩
    · rintro ⟨⟨⟨digit, found⟩, digits⟩, number, holds⟩
      rw [valueOn_cons found] at number
      have within := zero.between (number ▸ holds) (le_valueOn isBase.proper.le _ rest)
      have read := (ih within).mpr ⟨by simpa [Option.isSome_iff_exists] using digits, number, holds⟩
      exact ⟨digit, found, within.2, within.1, read⟩

theorem readDigits_numeral (isBase : IsBase base) (zero : bounds.Holds 0)
    {sign n : Int} (nonempty : cs ≠ []) : readDigits bounds base sign 0 cs = .ok n ↔
      bounds.Holds n ∧ ∃ m : Nat, n = sign * m ∧ Numeral base cs m := by
  have begins : bounds.Holds (sign * (0 : Nat)) := by simpa using zero
  have read : readDigits bounds base sign (sign * (0 : Nat)) cs = .ok n ↔ _ :=
    readDigits_eq_ok_iff isBase zero begins
  rw [Int.natCast_zero, Int.mul_zero] at read
  simp only [read, numeral_iff isBase]
  constructor
  · rintro ⟨digits, number, holds⟩
    exact ⟨holds, _, number, nonempty, digits, rfl⟩
  · rintro ⟨holds, _, number, -, digits, rfl⟩
    exact ⟨digits, number, holds⟩

/-! Reading integers. -/

theorem not_numeral_nil {n : Nat} : ¬ Numeral base [] n := fun numeral => numeral.nonempty rfl

theorem not_unsigned_nil {n : Nat} : ¬ Unsigned base [] n := by
  rintro (numeral | ⟨_, same, -⟩)
  · exact not_numeral_nil numeral
  · cases same

theorem unsigned_plus {n : Nat} {digits : List Char} (isBase : IsBase base) :
    Unsigned base ('+' :: digits) n ↔ Numeral base digits n := by
  constructor
  · rintro (numeral | ⟨_, same, numeral⟩)
    · exact absurd rfl (numeral.isPlain isBase _ List.mem_cons_self).plus
    · cases same
      exact numeral
  · exact fun numeral => .inr ⟨digits, rfl, numeral⟩

theorem unsigned_of_head? {n : Nat} (bare : cs.head? ≠ some '+') :
    Unsigned base cs n ↔ Numeral base cs n := by
  constructor
  · rintro (numeral | ⟨_, rfl, -⟩)
    · exact numeral
    · exact absurd rfl bare
  · exact .inl

theorem not_unsigned_minus {n : Nat} {digits : List Char} (isBase : IsBase base) :
    ¬ Unsigned base ('-' :: digits) n := by
  rw [unsigned_of_head? (by simp)]
  exact fun numeral => (numeral.isPlain isBase _ List.mem_cons_self).minus rfl

theorem Unsigned.unique (isBase : IsBase base) {m n : Nat} (first : Unsigned base cs m)
    (second : Unsigned base cs n) : m = n := by
  rcases first with numeral | ⟨digits, rfl, numeral⟩
  · rcases second with other | ⟨_, rfl, -⟩
    · exact numeral.unique isBase other
    · exact absurd rfl (numeral.isPlain isBase _ List.mem_cons_self).plus
  · exact numeral.unique isBase ((unsigned_plus isBase).mp second)

/-- The ways to read an integer. -/
theorem readInteger_eq_ok_iff (isBase : IsBase base) (zero : bounds.Holds 0) {s : String} {n : Int} :
    readInteger bounds base s = .ok n ↔ bounds.Holds n ∧
      ((∃ m : Nat, n = m ∧ Unsigned base s.toList m) ∨
        bounds.least < 0 ∧ ∃ (m : Nat) (digits : List Char),
          n = -m ∧ s.toList = '-' :: digits ∧ Numeral base digits m) := by
  unfold readInteger
  split
  next empty => simp [empty, not_unsigned_nil]
  next sign => simp [sign, unsigned_plus isBase, not_numeral_nil]
  next sign => simp [sign, not_unsigned_minus isBase, not_numeral_nil]
  next digits alone begins =>
    have nonempty : digits ≠ [] := alone
    simp [begins, unsigned_plus isBase, readDigits_numeral isBase zero nonempty]
  next digits alone begins =>
    have nonempty : digits ≠ [] := alone
    by_cases signed : bounds.least < 0
    · simp [begins, signed, not_unsigned_minus isBase, readDigits_numeral isBase zero nonempty]
    · simp [begins, signed, not_unsigned_minus isBase]
  next empty _ _ plus minus =>
    have nonempty : s.toList ≠ [] := empty
    have bare : s.toList.head? ≠ some '+' := by
      intro begins
      obtain ⟨rest, begins⟩ := List.head?_eq_some_iff.mp begins
      exact plus rest begins
    have unnegated (digits : List Char) : s.toList ≠ '-' :: digits := minus digits
    simp [unnegated, unsigned_of_head? bare, readDigits_numeral isBase zero nonempty]

theorem readInteger_signed (isBase : IsBase base) (zero : bounds.Holds 0)
    (signed : bounds.least < 0) {s : String} {n : Int} :
    readInteger bounds base s = .ok n ↔ Signed base s.toList n ∧ bounds.Holds n := by
  rw [readInteger_eq_ok_iff isBase zero, and_comm, Signed]
  simp only [signed, true_and]

theorem readInteger_unsigned (isBase : IsBase base) (zero : bounds.Holds 0)
    (unsigned : ¬ bounds.least < 0) {s : String} {n : Int} :
    readInteger bounds base s = .ok n ↔
      (∃ m : Nat, n = m ∧ Unsigned base s.toList m) ∧ bounds.Holds n := by
  rw [readInteger_eq_ok_iff isBase zero, and_comm]
  simp only [unsigned, false_and, or_false]

theorem readInt32_eq_ok_iff {s : String} {n : Int} :
    readInt32 s = .ok n ↔ Signed 10 s.toList n ∧ Bounds.int32.Holds n :=
  readInteger_signed isBase_ten (by decide) (by decide)

theorem readInteger_nat32 (isBase : IsBase base) {s : String} {n : Int} :
    readInteger .nat32 base s = .ok n ↔
      (∃ m : Nat, n = m ∧ Unsigned base s.toList m) ∧ Bounds.nat32.Holds n :=
  readInteger_unsigned isBase (by decide) (by decide)

end Skinning.Text
