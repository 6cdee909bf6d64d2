import Skinning.Decimal.Nearest

/-! The fewest decimal digits that read back as a given double, and the text made
of them. Of the grids of 1, 2, … 17 digits the first with a point in the interval
of numbers that round to the double decides, and of two such points the nearer. -/
namespace Skinning.Decimal

/-- A finite positive double, `mantissa * 2 ^ exponent`. `narrow` says that the next
smaller double is only half as far away as the next larger one. -/
structure Binary where
  mantissa : Nat
  exponent : Int
  narrow : Bool
  deriving DecidableEq, Repr

def Binary.ofBits (bits : Nat) : Binary :=
  let field : Nat := bits / normalMantissa % 2048
  let fraction : Nat := bits % normalMantissa
  if field = 0 then ⟨fraction, -1074, false⟩
  else ⟨normalMantissa + fraction, field - 1075, fraction = 0 && 1 < field⟩

/-- Digits and the power of ten of the first digit's place plus one: `0.d₁d₂… * 10 ^ point`. -/
structure Digits where
  digits : List Char
  point : Int
  deriving DecidableEq, Repr

/-- The least `k` with `mantissa * 2 ^ exponent < 10 ^ k`. -/
def Binary.magnitude (b : Binary) : Int :=
  let enlarged := ((b.mantissa <<< b.exponent.toNat) * powerOfTen 400) >>> (-b.exponent).toNat
  (Nat.toDigits 10 enlarged).length - 400

/-- The grid point of `count` digits nearest to the number among those that round to
it, as a multiple of the grid's unit; a tie goes up. -/
def Binary.point? (b : Binary) (magnitude : Int) (count : Nat) : Option Nat :=
  let unit := magnitude - count
  let grow := powerOfTen (-unit).toNat <<< (b.exponent - 2).toNat
  let step := powerOfTen unit.toNat <<< (2 - b.exponent).toNat
  let value := 4 * b.mantissa * grow
  let low := (4 * b.mantissa - if b.narrow then 1 else 2) * grow
  let high := (4 * b.mantissa + 2) * grow
  let closed := b.mantissa % 2 = 0
  let inside (k : Nat) : Bool :=
    let p := k * step
    (low < p && p < high) || (closed && (p = low || p = high))
  let below := value / step
  let above := below + 1
  match inside below, inside above with
  | true, true => if value - below * step < above * step - value then some below else some above
  | true, false => some below
  | false, true => some above
  | false, false => none

def Binary.shortest (b : Binary) : Digits :=
  let magnitude := b.magnitude
  let found := (List.range 17).findSome? fun n =>
    (b.point? magnitude (n + 1)).map fun k => (n + 1, k)
  match found with
  | none => ⟨['0'], 0⟩
  | some (count, k) =>
    let written := Nat.toDigits 10 k
    let trimmed := (written.reverse.dropWhile (· == '0')).reverse
    ⟨trimmed, magnitude + (written.length - count : Int)⟩

/-- How a number is laid out. Powers of ten from `least` up to and without `greatest`
are written positionally. -/
structure Layout where
  least : Int
  greatest : Int

def Digits.positional (d : Digits) : String :=
  let size : Int := d.digits.length
  if d.point ≤ 0 then
    "0." ++ String.ofList (List.replicate (-d.point).toNat '0' ++ d.digits)
  else if size ≤ d.point then
    String.ofList (d.digits ++ List.replicate (d.point - size).toNat '0') ++ ".0"
  else
    String.ofList (d.digits.take d.point.toNat) ++ "." ++ String.ofList (d.digits.drop d.point.toNat)

def Digits.scientific (d : Digits) : String :=
  let fraction := d.digits.drop 1
  String.ofList (d.digits.take 1) ++ (if fraction.isEmpty then "" else "." ++ String.ofList fraction)
    ++ "e" ++ toString (d.point - 1)

def text (layout : Layout) (x : Float) : String :=
  let bits := x.toBits.toNat
  if bits = 0 then "0.0"
  else if bits = 0x7ff0000000000000 then "inf"
  else
    let d := (Binary.ofBits bits).shortest
    if layout.least ≤ d.point - 1 ∧ d.point - 1 < layout.greatest then d.positional
    else d.scientific

end Skinning.Decimal
