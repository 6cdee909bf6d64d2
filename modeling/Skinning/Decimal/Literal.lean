import Skinning.Decimal.Nearest
import Skinning.Text.Split

/-! Decimal numbers as text: an optional sign, digits with a point before, among or
after them, and an optional power of ten. -/
namespace Skinning.Decimal

def isDigits (cs : List Char) : Bool := !cs.isEmpty && cs.all Char.isDigit

def digitsValue (digits : List Char) : Nat :=
  digits.foldl (fun value c => value * 10 + (c.toNat - '0'.toNat)) 0

def sign : List Char → Bool × List Char
  | '-' :: rest => (true, rest)
  | '+' :: rest => (false, rest)
  | cs => (false, cs)

def readExponent? (cs : List Char) : Option Int :=
  let (negative, digits) := sign cs
  if isDigits digits then
    let value : Int := digitsValue digits
    some (if negative then -value else value)
  else none

/-- The digits before the power of ten, and that power. -/
def splitExponent? (cs : List Char) : Option (List Char × Int) :=
  match Text.cutChars? 'e' (cs.map fun c => if c = 'E' then 'e' else c) with
  | none => some (cs, 0)
  | some (digits, exponent) => (readExponent? exponent).map (digits, ·)

def readUnsigned? (cs : List Char) : Option Float := do
  let (number, exponent) ← splitExponent? cs
  let (whole, fraction) := (Text.cutChars? '.' number).getD (number, [])
  if isDigits (whole ++ fraction) then
    some (toFloat (digitsValue (whole ++ fraction)) (exponent - fraction.length))
  else none

def read? (s : String) : Option Float :=
  let (negative, digits) := sign s.toList
  (readUnsigned? digits).map fun x => if negative then -x else x

end Skinning.Decimal
