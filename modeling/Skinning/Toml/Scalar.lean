import Skinning.Decimal.Literal
import Skinning.Text.Integer

/-! Values that are written without quotes: truth values, integers, floats and moments. -/
namespace Skinning.Toml

/-- Floats and moments are told apart, but their values are of no use to anyone here. -/
inductive Scalar where
  | boolean (value : Bool)
  | integer (value : Int)
  | float
  | moment
  deriving DecidableEq, Repr

namespace Scalar

/-- Digits with single underscores between them, without the underscores. -/
def digits? (isDigit : Char → Bool) (cs : List Char) : Option (List Char) :=
  let groups := Text.splitChars '_' cs
  if groups.all fun group => !group.isEmpty && group.all isDigit then some groups.flatten else none

/-- Digits of a decimal number, which does not start with a zero that it can do without. -/
def decimalDigits? (cs : List Char) : Option (List Char) :=
  (digits? Char.isDigit cs).filter fun digits => digits == ['0'] || digits.head? != some '0'

def inBounds? (value : Int) : Option Int :=
  if Text.Bounds.int64.least ≤ value ∧ value ≤ Text.Bounds.int64.greatest then some value else none

def digitsValue (base : Nat) (digits : List Char) : Nat :=
  digits.foldl (fun value c => value * base + (Text.digit? base c).getD 0) 0

/-- Integers in base 16, 8 and 2 have no sign. -/
def integer? : List Char → Option Int
  | '0' :: 'x' :: cs => based 16 cs
  | '0' :: 'o' :: cs => based 8 cs
  | '0' :: 'b' :: cs => based 2 cs
  | cs => do
    let (negative, cs) := Decimal.sign cs
    let value : Int := digitsValue 10 (← decimalDigits? cs)
    inBounds? (if negative then -value else value)
where
  based (base : Nat) (cs : List Char) : Option Int := do
    let digits ← digits? (fun c => (Text.digit? base c).isSome) cs
    inBounds? (digitsValue base digits)

/-- The digits after a point, or none where there is no point. -/
def fraction? : Option (List Char) → Option (List Char)
  | none => some []
  | some cs => digits? Char.isDigit cs

def exponent? : Option (List Char) → Option Int
  | none => some 0
  | some cs => do
    let (negative, cs) := Decimal.sign cs
    let value : Int := Decimal.digitsValue (← digits? Char.isDigit cs)
    return if negative then -value else value

/-- A float has a point, an exponent or both, and is not above all finite numbers. -/
def isFloat (cs : List Char) : Bool :=
  let (negative, cs) := Decimal.sign cs
  if cs == "inf".toList || cs == "nan".toList then true
  else
    let power := Text.cutChars? 'e' (cs.map fun c => if c = 'E' then 'e' else c)
    let number := (power.map Prod.fst).getD cs
    let point := Text.cutChars? '.' number
    let value := do
      let whole ← decimalDigits? ((point.map Prod.fst).getD number)
      let fraction ← fraction? (point.map Prod.snd)
      let exponent ← exponent? (power.map Prod.snd)
      return Decimal.toFloat (Decimal.digitsValue (whole ++ fraction)) (exponent - fraction.length)
    (power.isSome || point.isSome) && value.any fun x => negative || x.isFinite

def twoDigits? (a b : Char) : Option Nat :=
  if a.isDigit && b.isDigit then some (Decimal.digitsValue [a, b]) else none

def daysIn (year month : Nat) : Nat :=
  if month = 2 then
    if year % 4 = 0 ∧ (year % 100 ≠ 0 ∨ year % 400 = 0) then 29 else 28
  else if month = 4 ∨ month = 6 ∨ month = 9 ∨ month = 11 then 30
  else 31

def afterDate? : List Char → Option (List Char)
  | y :: z :: u :: v :: '-' :: m :: n :: '-' :: d :: e :: rest => do
    let year := 100 * (← twoDigits? y z) + (← twoDigits? u v)
    let month ← twoDigits? m n
    let day ← twoDigits? d e
    if 1 ≤ month ∧ month ≤ 12 ∧ 1 ≤ day ∧ day ≤ daysIn year month then some rest else none
  | _ => none

/-- What follows a time of the day; the last second of a day may be one more. -/
def afterTime? : List Char → Option (List Char)
  | h :: i :: ':' :: m :: n :: ':' :: s :: t :: rest => do
    let hour ← twoDigits? h i
    let minute ← twoDigits? m n
    let second ← twoDigits? s t
    if hour ≤ 23 ∧ minute ≤ 59 ∧ second ≤ 60 then
      match rest with
      | '.' :: fraction =>
        if (fraction.head?.any Char.isDigit) then some (fraction.dropWhile Char.isDigit) else none
      | _ => some rest
    else none
  | _ => none

def isOffset : List Char → Bool
  | ['Z'] | ['z'] => true
  | [sign, h, i, ':', m, n] =>
    (sign == '+' || sign == '-') && (twoDigits? h i).any (· ≤ 23) && (twoDigits? m n).any (· ≤ 59)
  | _ => false

/-- A date, a time, or both with a letter or one space between them; only then there may
be an offset. -/
def isMoment (cs : List Char) : Bool :=
  match afterDate? cs with
  | some [] => true
  | some (c :: rest) =>
    (c == 'T' || c == 't' || c == ' ') &&
      (afterTime? rest).any fun rest => rest.isEmpty || isOffset rest
  | none => afterTime? cs == some []

def read? (cs : List Char) : Option Scalar :=
  if cs == "true".toList then some (.boolean true)
  else if cs == "false".toList then some (.boolean false)
  else match integer? cs with
    | some value => some (.integer value)
    | none =>
      if isFloat cs then some .float
      else if isMoment cs then some .moment
      else none

end Scalar
end Skinning.Toml
