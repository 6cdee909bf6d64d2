import Skinning.Proofs.FormulaNames
import Skinning.Proofs.Numerals
import Skinning.Proofs.WholeFloats
import Skinning.Proofs.WrittenFormulas

/-! Coordinates that are plain numerals. A numeral is scaled as an integer, and in parentheses as
the value of a formula; the two come to the same pixels for every number of pixels there is and
every ratio that is not nothing. -/
namespace Skinning

namespace Text

/-- Digits are read as their number if it is within bounds, and otherwise it is too large. -/
theorem readDigits_eq {bounds : Bounds} {base : Nat} (proper : 0 < base) (signless : bounds.least ≤ 0)
    {digits : List Char} (digital : ∀ c ∈ digits, (digit? base c).isSome) {value : Nat}
    (begins : (value : Int) ≤ bounds.greatest) :
    readDigits bounds base 1 value digits =
      if (valueOn base value digits : Int) ≤ bounds.greatest then .ok (valueOn base value digits)
      else .error .tooLarge := by
  induction digits generalizing value with
  | nil => exact (if_pos begins).symm
  | cons c rest ih =>
    obtain ⟨digit, found⟩ := Option.isSome_iff_exists.mp (digital c List.mem_cons_self)
    have exact : (value * base + 1 * digit : Int) = (value * base + digit : Nat) := by
      push_cast
      ring
    have more := le_valueOn proper (value * base + digit) rest
    simp only [readDigits, found, valueOn_cons found, exact]
    by_cases large : bounds.greatest < (value * base + digit : Nat)
    · rw [if_pos large, if_neg (by omega)]
    · rw [if_neg large, if_neg (by omega)]
      exact ih (fun c member => digital c (List.mem_cons_of_mem _ member)) (by omega)

theorem digit?_of_isDigit {c : Char} (digit : c.isDigit) :
    digit? 10 c = some (c.toNat - '0'.toNat) := by
  obtain ⟨low, high⟩ := Char.isDigit_iff_toNat.mp digit
  have within : '0' ≤ c ∧ c ≤ '9' := ⟨low, high⟩
  have bound : c.toNat - '0'.toNat < 10 := by
    have nine : '9'.toNat = '0'.toNat + 9 := rfl
    omega
  rw [digit?, if_pos within, Option.filter, decide_eq_true bound]
  rfl

theorem valueOn_eq_digitsValue {digits : List Char} (digital : ∀ c ∈ digits, c.isDigit) :
    valueOn 10 0 digits = Decimal.digitsValue digits := by
  refine List.foldl_ext _ _ _ fun value c member => ?_
  rw [digit?_of_isDigit (digital c member)]
  rfl

/-- Digits alone are read as a number without a sign. -/
theorem readInt32_eq {s : String} (digits : Decimal.isDigits s.toList) :
    readInt32 s =
      if Decimal.digitsValue s.toList ≤ 2147483647 then .ok (Decimal.digitsValue s.toList)
      else .error .tooLarge := by
  obtain ⟨nonempty, digital⟩ := Coordinate.isDigits_iff.mp digits
  have known : ∀ c ∈ s.toList, (digit? 10 c).isSome := fun c member => by
    rw [digit?_of_isDigit (digital c member)]
    rfl
  have read : readInt32 s = readDigits .int32 10 1 0 s.toList := by
    unfold readInt32 readInteger
    split
    next empty => exact absurd empty nonempty
    next plus => exact absurd (digital '+' (by simp [plus])) (by decide)
    next minus => exact absurd (digital '-' (by simp [minus])) (by decide)
    next plus => exact absurd (digital '+' (by simp [plus])) (by decide)
    next minus => exact absurd (digital '-' (by simp [minus])) (by decide)
    next => rfl
  have value := @readDigits_eq .int32 10 (by decide) (by decide) s.toList known 0 (by decide)
  rw [valueOn_eq_digitsValue digital] at value
  rw [read]
  refine value.trans ?_
  have same : ((Decimal.digitsValue s.toList : Int) ≤ Bounds.int32.greatest) ↔
      Decimal.digitsValue s.toList ≤ 2147483647 := Int.ofNat_le
  simp only [same]

theorem isBlank_of_isDigit {c : Char} (digit : c.isDigit) : isBlank c = false := by
  obtain ⟨low, high⟩ := Char.isDigit_iff_toNat.mp digit
  have low : 48 ≤ c.toNat := low
  have high : c.toNat ≤ 57 := high
  simp [isBlank, blankRanges]
  omega

theorem trim_of_unblank {s : String} (unblank : ∀ c ∈ s.toList, isBlank c = false) :
    trim s = s := by
  rw [trim, trimChars_of_unblank unblank, String.ofList_toList]

end Text

namespace Coordinate

def IsNumeral (s : String) : Prop := Decimal.isDigits s.toList

instance (s : String) : Decidable (IsNumeral s) :=
  inferInstanceAs (Decidable (Decimal.isDigits s.toList = true))

def numeralValue (s : String) : Nat := Decimal.digitsValue s.toList

def parenthesized (s : String) : String := "(" ++ s ++ ")"

/-- The result of a numeral that is no formula. -/
theorem Site.evaluate_numeral (site : Site) {s : String} (numeral : IsNumeral s) :
    site.evaluate s =
      if numeralValue s ≤ 2147483647 then .ok (some (site.ratio.applyTruncating (numeralValue s)))
      else .error (.malformed s (.integer .tooLarge)) := by
  obtain ⟨nonempty, digital⟩ := isDigits_iff.mp numeral
  have trimmed : Text.trim s = s :=
    Text.trim_of_unblank fun c member => Text.isBlank_of_isDigit (digital c member)
  have filled : s.isEmpty = false := by
    rw [Bool.eq_false_iff]
    intro empty
    exact nonempty (by simpa using empty)
  have digits : s.toList.all Char.isDigit := List.all_eq_true.mpr digital
  simp only [evaluate, trimmed, filled, digits, Bool.not_false, Bool.and_self, if_true,
    Text.readInt32_eq numeral]
  by_cases small : Decimal.digitsValue s.toList ≤ 2147483647
  · simp only [numeralValue, small, if_true]
  · simp only [numeralValue, small, if_false]

theorem toList_parenthesized (s : String) :
    (parenthesized s).toList = '(' :: (s.toList ++ [')']) := by
  simp [parenthesized]

/-- The scan goes on behind a token that no blank stands before. -/
theorem scan_token {offset n : Nat} {c : Char} {rest : List Char} {token : Token}
    (spaceless : isSpace c = false) (found : Token.longest? (c :: rest) = some (token, n)) :
    scan offset (c :: rest) =
      ⟨⟨offset, token, offset + n⟩ :: (scan (offset + n) ((c :: rest).drop n)).lexemes,
        (scan (offset + n) ((c :: rest).drop n)).fault?⟩ := by
  rw [scan, if_neg (by simp [spaceless])]
  split
  next nothing => simp [found] at nothing
  next other m same =>
    obtain ⟨rfl, rfl⟩ : token = other ∧ n = m := by simpa [found] using same
    rfl

/-- A parenthesis, a number and a parenthesis. -/
theorem lexing_parenthesized {s : String} (numeral : IsNumeral s) :
    (Lexing.ofString (parenthesized s)).fault? = none ∧
      (Lexing.ofString (parenthesized s)).lexemes.map Lexeme.token =
        [.opening, .number (Decimal.toFloat (numeralValue s) 0), .closing] := by
  obtain ⟨nonempty, digital⟩ := isDigits_iff.mp numeral
  obtain ⟨d, rest, digits⟩ := List.exists_cons_of_ne_nil nonempty
  have first : d.isDigit := digital d (by simp [digits])
  have unspaced : isSpace d = false := by
    rw [Bool.eq_false_iff]
    intro space
    simp only [isSpace, Bool.or_eq_true, beq_iff_eq] at space
    rcases space with ((rfl | rfl) | rfl) | rfl <;> exact absurd first (by decide)
  have opening (cs : List Char) : Token.longest? ('(' :: cs) = some (.opening, 1) := by
    rw [Token.longest?, number?_none (by decide)]
    rfl
  have number : Token.longest? (d :: (rest ++ [')'])) =
      some (.number (Decimal.toFloat (numeralValue s) 0), (d :: rest).length) := by
    have read := number?_append (digits ▸ digital) [')']
    have value : literal (d :: rest) [] = .number (Decimal.toFloat (numeralValue s) 0) := by
      rw [literal, List.append_nil, numeralValue, digits]
      rfl
    rw [Token.longest?]
    rw [List.cons_append] at read
    rw [read, List.takeWhile_cons_of_neg (by decide), List.dropWhile_cons_of_neg (by decide),
      List.append_nil, ← value]
    rfl
  have closing : Token.longest? [')'] = some (.closing, 1) := rfl
  have left : (d :: (rest ++ [')'])).drop (d :: rest).length = [')'] := by
    rw [← List.cons_append, List.drop_left]
  have ended (offset : Nat) : scan offset [] = ⟨[], none⟩ := by rw [scan]
  simp only [Lexing.ofString, toList_parenthesized, digits, List.cons_append,
    scan_token rfl (opening _), List.drop_one, List.tail_cons, scan_token unspaced number, left,
    scan_token rfl closing, ended, List.map_cons, List.map_nil, and_self]

/-- The result of a numeral in parentheses. -/
theorem Site.evaluate_parenthesized (site : Site) {s : String} (numeral : IsNumeral s) :
    site.evaluate (parenthesized s) =
      .ok (some (site.shown (Decimal.toFloat (numeralValue s) 0))) := by
  obtain ⟨-, digital⟩ := isDigits_iff.mp numeral
  have trimmed : Text.trim (parenthesized s) = parenthesized s := by
    refine Text.trim_of_unblank fun c member => ?_
    simp only [toList_parenthesized, List.mem_cons, List.mem_append, List.not_mem_nil,
      or_false] at member
    rcases member with rfl | member | rfl
    · decide
    · exact Text.isBlank_of_isDigit (digital c member)
    · decide
  have undigital : (parenthesized s).toList.all Char.isDigit = false := by
    rw [toList_parenthesized]
    rfl
  obtain ⟨ended, tokens⟩ := lexing_parenthesized numeral
  have derives : Derives .sum [.opening, .number (Decimal.toFloat (numeralValue s) 0), .closing]
      (.number (Decimal.toFloat (numeralValue s) 0)) := by
    have inner : Derives .atom [.number (Decimal.toFloat (numeralValue s) 0)]
      (.number (Decimal.toFloat (numeralValue s) 0)) := .number
    exact (Derives.parentheses (inner.loosen (by decide))).loosen (by decide)
  have formula : Expr.ofString (parenthesized s) =
      .ok (.number (Decimal.toFloat (numeralValue s) 0)) :=
    Expr.ofString_eq_ok_iff.mpr (Expr.ofLexing_eq_ok_iff.mpr ⟨ended, tokens ▸ derives⟩)
  have elsewhere {c : Char} {cs : List Char} (other : c ≠ '(') :
      parenthesized s ≠ String.ofList (c :: cs) := by
    intro same
    have spelled := congrArg String.toList same
    rw [toList_parenthesized, String.toList_ofList] at spelled
    exact other (List.cons.inj spelled).1.symm
  simp only [evaluate, trimmed, undigital, Bool.and_false, Bool.false_eq_true, if_false]
  split
  next center => exact absurd center (elsewhere (c := 'c') (by decide))
  next extent => exact absurd extent (elsewhere (c := 'e') (by decide))
  next star => exact absurd star (elsewhere (c := '*') (by decide))
  next =>
    rw [evaluateFormula, formula]
    rfl

theorem toFloat_small {n : Nat} (small : n ≤ 2147483647) : Decimal.toFloat n 0 = Float.ofNat n := by
  have limit : Decimal.mantissaLimit = 9007199254740992 := rfl
  exact if_pos ⟨rfl, by omega⟩

/-- Pixels of a number are the same by either way, unless it is scaled to nothing. -/
theorem Site.shown_toFloat (site : Site) {n : Nat} (small : n ≤ 2147483647) :
    site.shown (Decimal.toFloat n 0) =
      if site.ratio.num = 0 then (n : Int) else site.ratio.applyTruncating n := by
  have whole : truncate (Float.ofNat n) = n := by
    rw [truncate_ofNat (by omega)]
    omega
  have converted : Float.ofInt (n : Int) = Float.ofNat n := rfl
  rw [shown, toFloat_small small, isNeutral]
  by_cases nothing : site.ratio.num = 0
  · simp [nothing, whole]
  · by_cases identity : site.ratio.isIdentity
    · simp [nothing, identity, Ratio.applyTruncating, whole]
    · simp [nothing, identity, Ratio.applyTruncating, converted]

/-- A numeral comes to the same pixels in parentheses exactly if it is a number of pixels and is
not scaled to nothing. Otherwise the numeral by itself is 0 pixels, or is refused as too large,
where the one in parentheses is not scaled, or has its value as a formula. -/
theorem Site.evaluate_parenthesized_eq_iff (site : Site) {s : String} (numeral : IsNumeral s) :
    (site.evaluate (parenthesized s) = site.evaluate s ↔
      numeralValue s ≤ 2147483647 ∧ (site.ratio.num = 0 → numeralValue s = 0)) ∧
    (numeralValue s ≤ 2147483647 →
      site.evaluate s = .ok (some (site.ratio.applyTruncating (numeralValue s))) ∧
      (site.ratio.num ≠ 0 → site.evaluate (parenthesized s) =
        .ok (some (site.ratio.applyTruncating (numeralValue s)))) ∧
      (site.ratio.num = 0 → site.evaluate s = .ok (some 0) ∧
        site.evaluate (parenthesized s) = .ok (some (numeralValue s)))) ∧
    (2147483647 < numeralValue s →
      site.evaluate s = .error (.malformed s (.integer .tooLarge)) ∧
      site.evaluate (parenthesized s) =
        .ok (some (site.shown (Decimal.toFloat (numeralValue s) 0)))) := by
  have plain := site.evaluate_numeral numeral
  have formula := site.evaluate_parenthesized numeral
  by_cases small : numeralValue s ≤ 2147483647
  · rw [if_pos small] at plain
    rw [site.shown_toFloat small] at formula
    by_cases nothing : site.ratio.num = 0
    · rw [if_pos nothing] at formula
      have nowhere := site.ratio.applyTruncating_nothing nothing (numeralValue s)
      refine ⟨?_, fun _ => ⟨plain, fun scaled => absurd nothing scaled, fun _ => ?_⟩, by omega⟩
      · simp [plain, formula, nowhere, small, nothing]
      · exact ⟨by rw [plain, nowhere], formula⟩
    · rw [if_neg nothing] at formula
      refine ⟨?_, fun _ => ⟨plain, fun _ => formula, fun none => absurd none nothing⟩, by omega⟩
      simp [plain, formula, small, nothing]
  · rw [if_neg small] at plain
    refine ⟨?_, fun fits => absurd fits small, fun _ => ⟨plain, formula⟩⟩
    simp [plain, formula, small]

/-- Three halves of seven pixels, with zeros in front. -/
theorem Site.evaluate_parenthesized_007 :
    let site : Site := ⟨300, 0, none, ⟨3, 2, by decide⟩, 1⟩
    IsNumeral "007" ∧ site.evaluate (parenthesized "007") = site.evaluate "007" ∧
      site.evaluate "007" = .ok (some (site.ratio.applyTruncating 7)) := by
  intro site
  have numeral : IsNumeral "007" := by decide
  obtain ⟨agrees, scaled, -⟩ := site.evaluate_parenthesized_eq_iff numeral
  have value : numeralValue "007" = 7 := rfl
  refine ⟨numeral, agrees.mpr ⟨by decide, by decide⟩, ?_⟩
  have plain := (scaled (by decide)).1
  rwa [value] at plain

/-- A numeral may be too large, and a ratio may be nothing. -/
theorem Site.evaluate_ne_parenthesized :
    let shown : Site := ⟨0, 0, none, .identity, 1⟩
    let hidden : Site := ⟨0, 0, none, ⟨0, 1, by decide⟩, 1⟩
    shown.evaluate (parenthesized "2147483648") ≠ shown.evaluate "2147483648" ∧
      hidden.evaluate (parenthesized "5") ≠ hidden.evaluate "5" := by
  intro shown hidden
  have large : IsNumeral "2147483648" := by decide
  have five : IsNumeral "5" := by decide
  have refused := shown.evaluate_numeral large
  rw [if_neg (by decide)] at refused
  have nothing := hidden.evaluate_numeral five
  rw [if_pos (by decide), hidden.ratio.applyTruncating_nothing rfl] at nothing
  rw [refused, nothing, shown.evaluate_parenthesized large, hidden.evaluate_parenthesized five,
    hidden.shown_toFloat (by decide), if_pos rfl]
  refine ⟨nofun, fun same => ?_⟩
  exact absurd (Option.some.inj (Except.ok.inj same)) (by decide)

end Coordinate

end Skinning
