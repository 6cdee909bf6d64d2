import Skinning.Coordinate.Token

/-! Which texts are tokens. A number has three forms, and every other token is one word. The scan
takes the longest text at its place that is a token, and no text is two of them. -/
namespace Skinning.Coordinate

/-- The text of a token that is not a number. -/
def Token.word? : Token → Option (List Char)
  | .number _ => none
  | .center => some "center".toList
  | .half => some ['c']
  | .extent => some ['e']
  | .factor => some ['f']
  | .charWidth => some ['w']
  | .lineHeight => some ['h']
  | .percent => some ['%']
  | .plus => some ['+']
  | .minus => some ['-']
  | .star => some ['*']
  | .slash => some ['/']
  | .opening => some ['(']
  | .closing => some [')']

/-- The texts of a token. -/
inductive Token.Spells : Token → List Char → Prop where
  | whole : Decimal.isDigits digits → Spells (literal digits []) digits
  | pointed : Decimal.isDigits whole → fraction.all Char.isDigit →
      Spells (literal whole fraction) (whole ++ '.' :: fraction)
  | fraction : Decimal.isDigits fraction → Spells (literal [] fraction) ('.' :: fraction)
  | word : token.word? = some text → Spells token text

theorem Token.word?_eq_some_iff {token : Token} {text : List Char} :
    token.word? = some text ↔
      (token = .center ∧ text = "center".toList) ∨ ∃ c, text = [c] ∧ ofChar? c = some token := by
  constructor
  · intro word
    cases token with
    | number => contradiction
    | center => exact .inl ⟨rfl, (Option.some.inj word).symm⟩
    | _ => exact .inr ⟨_, (Option.some.inj word).symm, rfl⟩
  · rintro (⟨rfl, rfl⟩ | ⟨c, rfl, found⟩)
    · rfl
    · unfold ofChar? at found
      split at found
      case h_13 => contradiction
      all_goals
        obtain rfl := Option.some.inj found
        rfl

/-- A word begins with a character that no number begins with. -/
theorem Token.ofChar?_not_number {c : Char} {token : Token} (found : ofChar? c = some token) :
    c.isDigit = false ∧ c ≠ '.' := by
  unfold ofChar? at found
  split at found
  case h_13 => contradiction
  all_goals decide

theorem isDigits_iff {cs : List Char} :
    Decimal.isDigits cs ↔ cs ≠ [] ∧ ∀ c ∈ cs, c.isDigit := by
  simp [Decimal.isDigits]

/-! Numbers. -/

variable {digits whole fraction rest : List Char}

theorem spells_pointed (wholeDigital : ∀ c ∈ whole, c.isDigit)
    (fractionDigital : ∀ c ∈ fraction, c.isDigit) (digit : ¬ (whole = [] ∧ fraction = [])) :
    (literal whole fraction).Spells (whole ++ '.' :: fraction) := by
  cases whole with
  | nil => exact .fraction (isDigits_iff.mpr ⟨by simpa using digit, fractionDigital⟩)
  | cons => exact .pointed (isDigits_iff.mpr ⟨by simp, wholeDigital⟩) (by simpa using fractionDigital)

theorem number?_append (digital : ∀ c ∈ digits, c.isDigit) (rest : List Char) :
    Token.number? (digits ++ rest) =
      numberAfter? (digits ++ rest.takeWhile Char.isDigit) (rest.dropWhile Char.isDigit) := by
  rw [Token.number?, List.takeWhile_append_of_pos digital, List.dropWhile_append_of_pos digital]

/-- What is found is longer than a text of the token, or it is this text. -/
def Token.YieldsTo (token : Token) (text : List Char) (found? : Option (Token × Nat)) : Prop :=
  ∃ found n, found? = some (found, n) ∧ (text.length < n ∨ text.length = n ∧ token = found)

/-- Digits are a number, unless a point makes a longer one. -/
theorem numberAfter?_whole (nonempty : whole ≠ []) (after : List Char) :
    (literal whole []).YieldsTo whole (numberAfter? whole after) := by
  have digit : whole.isEmpty = false := by simpa using nonempty
  unfold numberAfter?
  split
  next rest =>
    simp only [digit, Bool.false_and, Bool.false_eq_true, if_false]
    exact ⟨_, _, rfl, .inl (by omega)⟩
  next =>
    simp only [digit, Bool.false_eq_true, if_false]
    exact ⟨_, _, rfl, .inr ⟨rfl, rfl⟩⟩

theorem number?_whole (digits : Decimal.isDigits whole) (rest : List Char) :
    (literal whole []).YieldsTo whole (Token.number? (whole ++ rest)) := by
  obtain ⟨nonempty, digital⟩ := isDigits_iff.mp digits
  rw [number?_append digital]
  cases rest.takeWhile Char.isDigit with
  | nil =>
    rw [List.append_nil]
    exact numberAfter?_whole nonempty _
  | cons c more =>
    have nonempty : whole ++ c :: more ≠ [] := by simp
    obtain ⟨found, n, read, longer⟩ := numberAfter?_whole nonempty (rest.dropWhile Char.isDigit)
    refine ⟨found, n, read, .inl ?_⟩
    simp only [List.length_append, List.length_cons] at longer
    omega

/-- A number goes on over all digits after its point. -/
theorem number?_pointed (wholeDigital : ∀ c ∈ whole, c.isDigit)
    (fractionDigital : ∀ c ∈ fraction, c.isDigit) (digit : ¬ (whole = [] ∧ fraction = []))
    (rest : List Char) :
    (literal whole fraction).YieldsTo (whole ++ '.' :: fraction)
      (Token.number? (whole ++ '.' :: fraction ++ rest)) := by
  have point : ¬ Char.isDigit '.' := by decide
  have read : Token.number? (whole ++ '.' :: fraction ++ rest) =
      some (literal whole (fraction ++ rest.takeWhile Char.isDigit),
        whole.length + 1 + (fraction ++ rest.takeWhile Char.isDigit).length) := by
    rw [List.append_assoc, number?_append wholeDigital, List.cons_append,
      List.takeWhile_cons_of_neg point, List.dropWhile_cons_of_neg point, List.append_nil,
      numberAfter?, List.takeWhile_append_of_pos fractionDigital]
    simp only [Bool.and_eq_true, List.isEmpty_iff, List.append_eq_nil_iff]
    exact if_neg fun none => digit ⟨none.1, none.2.1⟩
  refine ⟨_, _, read, ?_⟩
  cases rest.takeWhile Char.isDigit with
  | nil => exact .inr ⟨by simp; omega, by rw [List.append_nil]⟩
  | cons => exact .inl (by simp; omega)

theorem number?_none {c : Char} (other : c.isDigit = false ∧ c ≠ '.') (rest : List Char) :
    Token.number? (c :: rest) = none := by
  simp [Token.number?, other.1, numberAfter?, other.2]

theorem isDigit_of_mem_takeWhile (cs : List Char) : ∀ c ∈ cs.takeWhile Char.isDigit, c.isDigit :=
  List.all_eq_true.mp List.all_takeWhile

theorem numberAfter?_spells {whole after : List Char} {token : Token} {n : Nat}
    (digital : ∀ c ∈ whole, c.isDigit) (found : numberAfter? whole after = some (token, n)) :
    ∃ text, text.length = n ∧ token.Spells text ∧ text <+: whole ++ after := by
  unfold numberAfter? at found
  split at found
  next rest =>
    simp only [Bool.and_eq_true, List.isEmpty_iff] at found
    split at found
    · contradiction
    next digit =>
      obtain ⟨rfl, rfl⟩ := Prod.mk.inj (Option.some.inj found)
      refine ⟨whole ++ '.' :: rest.takeWhile Char.isDigit, ?_, ?_, ?_⟩
      · simp only [List.length_append, List.length_cons]
        omega
      · exact spells_pointed digital (isDigit_of_mem_takeWhile rest) digit
      · simpa using List.takeWhile_prefix _
  next =>
    split at found
    · contradiction
    next digit =>
      obtain ⟨rfl, rfl⟩ := Prod.mk.inj (Option.some.inj found)
      exact ⟨whole, rfl, .whole (isDigits_iff.mpr ⟨by simpa using digit, digital⟩),
        List.prefix_append _ _⟩

theorem longest?_spells {cs : List Char} {token : Token} {n : Nat}
    (found : Token.longest? cs = some (token, n)) :
    ∃ text, text.length = n ∧ token.Spells text ∧ text <+: cs := by
  unfold Token.longest? at found
  split at found
  next number =>
    obtain rfl := Option.some.inj found
    have read := numberAfter?_spells (isDigit_of_mem_takeWhile cs) number
    rwa [List.takeWhile_append_dropWhile] at read
  next =>
    split at found
    next center =>
      obtain ⟨rfl, rfl⟩ := Prod.mk.inj (Option.some.inj found)
      exact ⟨"center".toList, rfl, .word rfl, List.isPrefixOf_iff_prefix.mp center⟩
    next =>
      cases cs with
      | nil => contradiction
      | cons c rest =>
        obtain ⟨single, word, same⟩ := Option.map_eq_some_iff.mp found
        obtain ⟨rfl, rfl⟩ := Prod.mk.inj same
        have spelled := Token.word?_eq_some_iff.mpr (.inr ⟨c, rfl, word⟩)
        exact ⟨[c], rfl, .word spelled, by simp⟩

/-- Whatever token a text starts with, the longest one is longer or is this one. -/
theorem Token.Spells.yieldsTo {token : Token} {text : List Char} (spelled : token.Spells text)
    (rest : List Char) : token.YieldsTo text (Token.longest? (text ++ rest)) := by
  have number (longer : token.YieldsTo text (Token.number? (text ++ rest))) :
      token.YieldsTo text (Token.longest? (text ++ rest)) := by
    obtain ⟨found, n, read, longer⟩ := longer
    exact ⟨found, n, by rw [Token.longest?, read], longer⟩
  cases spelled with
  | whole digits => exact number (number?_whole digits rest)
  | pointed wholeDigits fractionDigits =>
    obtain ⟨nonempty, digital⟩ := isDigits_iff.mp wholeDigits
    have fractionDigital := List.all_eq_true.mp fractionDigits
    exact number (number?_pointed digital fractionDigital (fun none => nonempty none.1) rest)
  | fraction digits =>
    obtain ⟨nonempty, digital⟩ := isDigits_iff.mp digits
    exact number (number?_pointed (by simp) digital (fun none => nonempty none.2) rest)
  | word word =>
    obtain ⟨rfl, rfl⟩ | ⟨c, rfl, single⟩ := Token.word?_eq_some_iff.mp word
    · exact ⟨.center, 6, by simp [Token.longest?, number?_none], .inr ⟨rfl, rfl⟩⟩
    · unfold Token.longest?
      rw [List.singleton_append, number?_none (Token.ofChar?_not_number single) rest]
      simp only
      split
      next center => exact ⟨.center, 6, rfl, .inl (by simp)⟩
      next => exact ⟨token, 1, by simp [single], .inr ⟨rfl, rfl⟩⟩

/-- The longest text of a token that the characters start with. -/
structure Token.IsLongest (token : Token) (text cs : List Char) : Prop where
  leads : text <+: cs
  spelled : token.Spells text
  longest : ∀ other piece, other.Spells piece → piece <+: cs →
    piece.length < text.length ∨ piece = text ∧ other = token

theorem Token.IsLongest.unique {token other : Token} {text piece cs : List Char}
    (first : token.IsLongest text cs) (second : other.IsLongest piece cs) :
    other = token ∧ piece = text := by
  rcases first.longest other piece second.spelled second.leads with shorter | ⟨same, tokens⟩
  · rcases second.longest token text first.spelled first.leads with longer | ⟨same, -⟩
    · omega
    · exact absurd shorter (by simp [same])
  · exact ⟨tokens, same⟩

theorem isLongest_of_longest? {cs : List Char} {token : Token} {n : Nat}
    (found : Token.longest? cs = some (token, n)) :
    ∃ text, text.length = n ∧ token.IsLongest text cs := by
  obtain ⟨text, rfl, spelled, leads⟩ := longest?_spells found
  refine ⟨text, rfl, leads, spelled, fun other piece spelledOther leadsOther => ?_⟩
  obtain ⟨rest, split⟩ := leadsOther
  obtain ⟨token', n, same, longer⟩ := spelledOther.yieldsTo rest
  rw [split, found] at same
  obtain ⟨rfl, rfl⟩ := Prod.mk.inj (Option.some.inj same)
  refine longer.imp_right fun ⟨sizes, tokens⟩ => ⟨?_, tokens⟩
  exact (List.prefix_of_prefix_length_le ⟨rest, split⟩ leads (Nat.le_of_eq sizes)).eq_of_length sizes

theorem Token.Spells.longest?_ne_none {token : Token} {text cs : List Char}
    (spelled : token.Spells text) (leads : text <+: cs) : Token.longest? cs ≠ none := by
  obtain ⟨rest, rfl⟩ := leads
  obtain ⟨found, n, read, -⟩ := spelled.yieldsTo rest
  simp [read]

theorem longest?_eq_some_iff {cs : List Char} {token : Token} {n : Nat} :
    Token.longest? cs = some (token, n) ↔ ∃ text, text.length = n ∧ token.IsLongest text cs := by
  refine ⟨isLongest_of_longest?, ?_⟩
  rintro ⟨text, rfl, longest⟩
  obtain ⟨⟨other, n⟩, found⟩ :=
    Option.ne_none_iff_exists'.mp (longest.spelled.longest?_ne_none longest.leads)
  obtain ⟨piece, rfl, second⟩ := isLongest_of_longest? found
  obtain ⟨rfl, rfl⟩ := longest.unique second
  exact found

/-! The characters of tokens. -/

/-- A character of one byte that no scan skips. -/
def isPlain (c : Char) : Bool := !isSpace c && c.utf8Size == 1

theorem isPlain_of_isDigit {c : Char} (digit : c.isDigit) : isPlain c := by
  obtain ⟨low, high⟩ := Char.isDigit_iff_toNat.mp digit
  have size : c.utf8Size = 1 := Char.utf8Size_eq_one_iff.mpr (Nat.le_trans high (by decide))
  have other (space : Char) (lower : space.toNat < '0'.toNat) : c ≠ space := by
    rintro rfl
    omega
  simp [isPlain, size, isSpace, other ' ' (by decide), other '\t' (by decide),
    other '\r' (by decide), other '\n' (by decide)]

theorem Token.Spells.plain {token : Token} {text : List Char} (spelled : token.Spells text) :
    text ≠ [] ∧ text.all isPlain := by
  have plain {cs : List Char} (digital : cs.all Char.isDigit) : cs.all isPlain :=
    List.all_eq_true.mpr fun c member => isPlain_of_isDigit (List.all_eq_true.mp digital c member)
  have point : isPlain '.' := by decide +kernel
  cases spelled with
  | whole digits =>
    obtain ⟨nonempty, digital⟩ := isDigits_iff.mp digits
    exact ⟨nonempty, plain (List.all_eq_true.mpr digital)⟩
  | pointed digits fractionDigital =>
    obtain ⟨-, digital⟩ := isDigits_iff.mp digits
    exact ⟨by simp, by simp [plain fractionDigital, plain (List.all_eq_true.mpr digital), point]⟩
  | fraction digits =>
    obtain ⟨-, digital⟩ := isDigits_iff.mp digits
    exact ⟨by simp, by simp [plain (List.all_eq_true.mpr digital), point]⟩
  | word word =>
    unfold word? at word
    split at word
    · contradiction
    all_goals
      obtain rfl := Option.some.inj word
      decide +kernel

end Skinning.Coordinate
