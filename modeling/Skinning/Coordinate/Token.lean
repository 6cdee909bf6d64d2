import Skinning.Decimal.Literal

/-! Tokens of coordinate formulas. The longest token that starts at a character is
taken; blanks between tokens are skipped, and the first character where neither a
token nor a blank starts ends the scan. Offsets count bytes. -/
namespace Skinning.Coordinate

inductive Token where
  | number (value : Float)
  | center
  | half
  | extent
  | factor
  | charWidth
  | lineHeight
  | percent
  | plus
  | minus
  | star
  | slash
  | opening
  | closing
  deriving Repr

def Token.ofChar? : Char → Option Token
  | 'c' => some .half
  | 'e' => some .extent
  | 'f' => some .factor
  | 'w' => some .charWidth
  | 'h' => some .lineHeight
  | '%' => some .percent
  | '+' => some .plus
  | '-' => some .minus
  | '*' => some .star
  | '/' => some .slash
  | '(' => some .opening
  | ')' => some .closing
  | _ => none

def isSpace (c : Char) : Bool := c == ' ' || c == '\t' || c == '\r' || c == '\n'

def literal (whole fraction : List Char) : Token :=
  .number (Decimal.toFloat (Decimal.digitsValue (whole ++ fraction)) (-fraction.length))

/-- The number that starts with the digits `whole`, and its length. -/
def numberAfter? (whole : List Char) : List Char → Option (Token × Nat)
  | '.' :: rest =>
    let fraction := rest.takeWhile Char.isDigit
    if whole.isEmpty && fraction.isEmpty then none
    else some (literal whole fraction, whole.length + 1 + fraction.length)
  | _ => if whole.isEmpty then none else some (literal whole [], whole.length)

/-- A number is digits with an optional point and optional digits after it, or a
point and at least one digit. The result is the token and its length. -/
def Token.number? (cs : List Char) : Option (Token × Nat) :=
  numberAfter? (cs.takeWhile Char.isDigit) (cs.dropWhile Char.isDigit)

/-- The longest token that the characters start with, and its length. -/
def Token.longest? (cs : List Char) : Option (Token × Nat) :=
  match Token.number? cs with
  | some found => some found
  | none =>
    if "center".toList.isPrefixOf cs then some (.center, 6)
    else cs.head?.bind fun c => (Token.ofChar? c).map (·, 1)

theorem numberAfter?_length {whole cs : List Char} {token : Token} {n : Nat}
    (h : numberAfter? whole cs = some (token, n)) : 0 < n ∧ 0 < whole.length + cs.length := by
  unfold numberAfter? at h
  split at h
  · simp only at h
    split at h
    · simp at h
    · simp only [Option.some.injEq, Prod.mk.injEq] at h
      simp only [List.length_cons]
      omega
  · split at h
    · simp at h
    · next nonempty =>
      have : whole.length ≠ 0 := by simpa [List.isEmpty_iff] using nonempty
      simp only [Option.some.injEq, Prod.mk.injEq] at h
      omega

theorem Token.number?_length {cs : List Char} {token : Token} {n : Nat}
    (h : Token.number? cs = some (token, n)) : 0 < n ∧ 0 < cs.length := by
  have sizes : (cs.takeWhile Char.isDigit ++ cs.dropWhile Char.isDigit).length = cs.length := by
    rw [List.takeWhile_append_dropWhile]
  rw [List.length_append] at sizes
  have := numberAfter?_length h
  omega

/-- A token has at least one character, so scanning past it gets on. -/
theorem Token.longest?_length {cs : List Char} {token : Token} {n : Nat}
    (h : Token.longest? cs = some (token, n)) : 0 < n ∧ 0 < cs.length := by
  unfold Token.longest? at h
  split at h
  · next number =>
    obtain rfl := Option.some.inj h
    exact Token.number?_length number
  · cases cs with
    | nil => simp at h
    | cons c rest =>
      split at h
      · simp only [Option.some.injEq, Prod.mk.injEq] at h
        simp; omega
      · simp only [List.head?_cons, Option.bind_some, Option.map_eq_some_iff, Prod.mk.injEq] at h
        obtain ⟨_, _, _, rfl⟩ := h
        simp

/-- A token with the bytes it stands on, `start` up to and without `stop`. -/
structure Lexeme where
  start : Nat
  token : Token
  stop : Nat
  deriving Repr

/-- The lexemes of a text, and the offset where the scan could not go on. -/
structure Lexing where
  lexemes : List Lexeme
  fault? : Option Nat

def scan (offset : Nat) (cs : List Char) : Lexing :=
  match cs with
  | [] => ⟨[], none⟩
  | c :: rest =>
    if isSpace c then scan (offset + 1) rest
    else
      match _h : Token.longest? (c :: rest) with
      | none => ⟨[], some offset⟩
      | some (token, n) =>
        let tail := scan (offset + n) ((c :: rest).drop n)
        ⟨⟨offset, token, offset + n⟩ :: tail.lexemes, tail.fault?⟩
  termination_by cs.length
  decreasing_by
    · simp
    · have := Token.longest?_length _h
      simp only [List.length_drop, List.length_cons]
      omega

def Lexing.ofString (s : String) : Lexing := scan 0 s.toList

end Skinning.Coordinate
