/-! The double nearest to an exact number. A positive double is `m * 2 ^ q` with
`m < 2 ^ 53` and `q ≥ -1074`; the rounding is done in exact arithmetic, half-way
cases go to the even neighbour, and what exceeds the finite range is infinite. -/
namespace Skinning.Decimal

def infinityBits : Nat := 0x7ff0000000000000

/-- Mantissas are less than this, `2 ^ 53`; those of normal doubles are at least half of it. -/
def mantissaLimit : Nat := 0x20000000000000
def normalMantissa : Nat := 0x10000000000000

def powerOfTen (n : Nat) : Nat := Nat.pow 10 n

def bitLength (n : Nat) : Nat := if n = 0 then 0 else n.log2 + 1

/-- The bits of the double nearest to `num / den`, both positive. -/
def nearestBits (num den : Nat) : Nat :=
  let scaled (q : Int) : Nat × Nat := (num <<< (-q).toNat, den <<< q.toNat)
  let low : Int := max (bitLength num - bitLength den - 53) (-1074)
  let q := if (scaled low).1 / (scaled low).2 < mantissaLimit then low else low + 1
  let (n, d) := scaled q
  let floor := n / d
  let rest := 2 * (n % d)
  let m := if d < rest ∨ (rest = d ∧ floor % 2 = 1) then floor + 1 else floor
  min infinityBits ((q + 1074).toNat * normalMantissa + m)

/-- The double nearest to `m * 10 ^ e`. Small whole numbers are doubles themselves,
and exponents far outside the range of doubles are cut off before they are raised. -/
def toFloat (m : Nat) (e : Int) : Float :=
  if e = 0 ∧ m < mantissaLimit then Float.ofNat m
  else if m = 0 then 0
  else
    let size : Int := bitLength m
    if 310 < e then Float.ofBits infinityBits.toUInt64
    else if e < -(size + 330) then 0
    else Float.ofBits (nearestBits (m * powerOfTen e.toNat) (powerOfTen (-e).toNat)).toUInt64

end Skinning.Decimal
