import Skinning.Coordinate.Expr
import Skinning.Coordinate.Fault

/-! The value of a formula. What a symbol or unit stands for may be unknown in a
place; using it there is a fault and never a zero. -/
namespace Skinning.Coordinate

structure Environment where
  extent : Option Float
  objectSize : Float
  charWidth : Option Float
  lineHeight : Option Float
  factor : Option Float

def Environment.factorOnly (factor : Float) : Environment := ⟨none, 0, none, none, some factor⟩

def Environment.extentFor (env : Environment) (name : String) : Except Fault Float :=
  match env.extent with
  | some extent => .ok extent
  | none => .error (.unbound name)

def Environment.symbol (env : Environment) : Symbol → Except Fault Float
  | .center => (env.extentFor "center").map fun extent => (extent - env.objectSize) / 2
  | .half => (env.extentFor "c").map (· / 2)
  | .extent => env.extentFor "e"
  | .factor =>
    match env.factor with
    | some factor => .ok factor
    | none => .error (.unbound "f")

def Environment.unit (env : Environment) : Unit → Except Fault Float
  | .charWidth =>
    match env.charWidth with
    | some width => .ok width
    | none => .error .missingFontMetrics
  | .lineHeight =>
    match env.lineHeight with
    | some height => .ok height
    | none => .error .missingFontMetrics
  | .percent => (env.extentFor "%").map (· / 100)

/-- Operands are evaluated from the left; a divisor before its dividend and a unit
before its operand. -/
def Expr.eval (env : Environment) : Expr → Except Fault Float
  | .number value => .ok value
  | .symbol name => env.symbol name
  | .neg inner => do return -(← inner.eval env)
  | .add l r => do
    let left ← l.eval env
    let right ← r.eval env
    return left + right
  | .sub l r => do
    let left ← l.eval env
    let right ← r.eval env
    return left - right
  | .mul l r => do
    let left ← l.eval env
    let right ← r.eval env
    return left * right
  | .div l r => do
    let divisor ← r.eval env
    if divisor == 0 then throw .divisionByZero
    let dividend ← l.eval env
    return dividend / divisor
  | .scaled inner unit => do
    let factor ← env.unit unit
    let value ← inner.eval env
    return value * factor

end Skinning.Coordinate
