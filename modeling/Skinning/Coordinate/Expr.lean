/-! Coordinate formulas: arithmetic over literals, four symbols whose values depend
on where the formula stands, and units written after their operand. -/
namespace Skinning.Coordinate

inductive Symbol where
  /-- The offset that centers the object in the extent. -/
  | center
  | half
  | extent
  /-- The factor that the whole skin is scaled by. -/
  | factor
  deriving DecidableEq, Repr

inductive Unit where
  | charWidth
  | lineHeight
  /-- Hundredths of the extent. -/
  | percent
  deriving DecidableEq, Repr

inductive Expr where
  | number (value : Float)
  | symbol (name : Symbol)
  | neg (inner : Expr)
  | add (left right : Expr)
  | sub (left right : Expr)
  | mul (left right : Expr)
  | div (left right : Expr)
  | scaled (inner : Expr) (unit : Unit)

def Expr.usesUnit (unit : Unit) : Expr → Bool
  | .number _ | .symbol _ => false
  | .neg inner => inner.usesUnit unit
  | .add l r | .sub l r | .mul l r | .div l r => l.usesUnit unit || r.usesUnit unit
  | .scaled inner u => u == unit || inner.usesUnit unit

end Skinning.Coordinate
