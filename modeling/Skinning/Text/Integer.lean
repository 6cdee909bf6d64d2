/-! Integers written with digits. A numeral is an optional sign and digits of its
base; it is read from the left, and the first character that is no digit or that
takes the value out of its bounds decides the fault. -/
namespace Skinning.Text

inductive IntegerFault where
  | empty
  | invalidDigit
  | tooLarge
  | tooSmall
  deriving DecidableEq, Repr

def IntegerFault.message : IntegerFault → String
  | .empty => "cannot parse integer from empty string"
  | .invalidDigit => "invalid digit found in string"
  | .tooLarge => "number too large to fit in target type"
  | .tooSmall => "number too small to fit in target type"

/-- Least and greatest value; numerals with a least value of 0 take no minus sign. -/
structure Bounds where
  least : Int
  greatest : Int
  deriving DecidableEq, Repr

def Bounds.int32 : Bounds := ⟨-2147483648, 2147483647⟩
def Bounds.int64 : Bounds := ⟨-9223372036854775808, 9223372036854775807⟩
def Bounds.nat32 : Bounds := ⟨0, 4294967295⟩

def digit? (base : Nat) (c : Char) : Option Nat :=
  let value :=
    if '0' ≤ c ∧ c ≤ '9' then some (c.toNat - '0'.toNat)
    else if 'a' ≤ c ∧ c ≤ 'z' then some (c.toNat - 'a'.toNat + 10)
    else if 'A' ≤ c ∧ c ≤ 'Z' then some (c.toNat - 'A'.toNat + 10)
    else none
  value.filter (· < base)

def readDigits (bounds : Bounds) (base : Nat) (sign : Int) :
    Int → List Char → Except IntegerFault Int
  | value, [] => .ok value
  | value, c :: rest =>
    match digit? base c with
    | none => .error .invalidDigit
    | some digit =>
      let next := value * base + sign * digit
      if bounds.greatest < next then .error .tooLarge
      else if next < bounds.least then .error .tooSmall
      else readDigits bounds base sign next rest

def readInteger (bounds : Bounds) (base : Nat) (s : String) : Except IntegerFault Int :=
  match s.toList with
  | [] => .error .empty
  | ['+'] | ['-'] => .error .invalidDigit
  | '+' :: digits => readDigits bounds base 1 0 digits
  | '-' :: digits =>
    if bounds.least < 0 then readDigits bounds base (-1) 0 digits
    else .error .invalidDigit
  | digits => readDigits bounds base 1 0 digits

def readInt32 (s : String) : Except IntegerFault Int := readInteger .int32 10 s

def readNat32? (s : String) : Option Nat :=
  match readInteger .nat32 10 s with
  | .ok value => some value.toNat
  | .error _ => none

end Skinning.Text
