/-! Points, sizes and rectangles in pixels, and the ratios between the pixels a skin
is declared in and the pixels it is shown in. Pixels are counted in 32 bits: a sum or a
difference that does not fit keeps its low 32 bits. -/
namespace Skinning

/-- Pixels as the number that they stand for. -/
instance pixelsToInt : CoeOut Int32 Int := ⟨Int32.toInt⟩

/-- A number as pixels, by its low 32 bits. -/
instance pixelsOfInt : CoeTail Int Int32 := ⟨Int32.ofInt⟩

theorem toInt_add_of_fits {a b : Int32} (least : -2147483648 ≤ a.toInt + b.toInt)
    (most : a.toInt + b.toInt < 2147483648) : (a + b).toInt = a.toInt + b.toInt := by
  rw [Int32.toInt_add]
  exact Int.bmod_eq_of_le (by omega) (by omega)

theorem toInt_sub_of_fits {a b : Int32} (least : -2147483648 ≤ a.toInt - b.toInt)
    (most : a.toInt - b.toInt < 2147483648) : (a - b).toInt = a.toInt - b.toInt := by
  rw [Int32.toInt_sub]
  exact Int.bmod_eq_of_le (by omega) (by omega)

structure Point where
  x : Int32
  y : Int32
  deriving DecidableEq, Repr, Inhabited

structure Size where
  width : Int32
  height : Int32
  deriving DecidableEq, Repr, Inhabited

def Size.zero : Size := ⟨0, 0⟩

structure Rect where
  x : Int32
  y : Int32
  width : Int32
  height : Int32
  deriving DecidableEq, Repr, Inhabited

def Rect.origin (r : Rect) : Point := ⟨r.x, r.y⟩
def Rect.size (r : Rect) : Size := ⟨r.width, r.height⟩

structure Margins where
  left : Int
  top : Int
  right : Int
  bottom : Int
  deriving DecidableEq, Repr

/-- The pixels of one axis nearest to a number, toward zero. Numbers too large in
either direction become the greatest and least pixel, and no number is pixel 0. -/
def truncate (x : Float) : Int :=
  if x < 0 then -(min (-x).toUInt32.toNat 0x80000000 : Nat) else (min x.toUInt32.toNat 0x7fffffff : Nat)

structure Ratio where
  num : Int
  den : Int
  den_ne_zero : den ≠ 0 := by decide
  deriving DecidableEq, Repr

def Ratio.identity : Ratio := ⟨1, 1, by decide⟩

/-- A ratio over zero is no scaling. -/
def Ratio.ofInts (num den : Int) : Ratio :=
  if h : den = 0 then .identity else ⟨num, den, h⟩

def Ratio.isIdentity (r : Ratio) : Bool := r.num == r.den

/-- Rescales a whole number of pixels; what is left over is never negative. Results
outside 32 bits keep their low 32 bits. -/
def Ratio.apply (r : Ratio) (value : Int) : Int :=
  if r.isIdentity then value else Int.bmod (value * r.num / r.den) 0x100000000

def Ratio.scale (r : Ratio) (x : Float) : Float :=
  x * Float.ofInt r.num / Float.ofInt r.den

def Ratio.applyTruncating (r : Ratio) (value : Int) : Int :=
  if r.isIdentity then value else truncate (r.scale (Float.ofInt value))

structure Scale where
  x : Ratio
  y : Ratio
  deriving DecidableEq, Repr

def Scale.identity : Scale := ⟨.identity, .identity⟩
def Scale.isIdentity (s : Scale) : Bool := s.x.isIdentity && s.y.isIdentity

end Skinning
