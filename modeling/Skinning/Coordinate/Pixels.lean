import Skinning.Coordinate.Evaluation
import Skinning.Coordinate.Reader
import Skinning.Font
import Skinning.Geometry
import Skinning.Text.Blank

/-! Coordinates as pixels. A coordinate is a formula over declared pixels whose value
is scaled to shown pixels; plain digits, `center` and `e` have rules of their own, and
`*` leaves the choice to the caller. -/
namespace Skinning.Coordinate

/-- Where a coordinate is evaluated: lengths in shown pixels along one axis. -/
structure Site where
  extent : Int32
  objectSize : Int32
  font : Option FontMetrics
  ratio : Ratio
  factor : Float

/-- A ratio that leaves formulas as they are. Zero over anything does, too. -/
def isNeutral (r : Ratio) : Bool := r.isIdentity || r.num == 0

/-- The lengths of a site in declared pixels. The skin's factor counts only where
nothing else is scaled. -/
def Site.environment (site : Site) : Environment :=
  let neutral := isNeutral site.ratio
  let toDeclared : Float :=
    if neutral then 1 else Float.ofInt site.ratio.den / Float.ofInt site.ratio.num
  let declared (length : Int) : Float := Float.ofInt length * toDeclared
  { extent := some (declared site.extent)
    objectSize := declared site.objectSize
    charWidth := site.font.map fun m => declared m.charWidth
    lineHeight := site.font.map fun m => declared m.lineHeight
    factor := some (if neutral then site.factor else 1) }

/-- Shown pixels for a formula's value. -/
def Site.shown (site : Site) (value : Float) : Int :=
  truncate (if isNeutral site.ratio then value else site.ratio.scale value)

def Site.evaluateFormula (site : Site) (input : String) : Except Fault (Option Int) := do
  let formula ← Expr.ofString input
  let value ← formula.eval site.environment
  return some (site.shown value)

def Site.evaluate (site : Site) (input : String) : Except Fault (Option Int) :=
  let s := Text.trim input
  if !s.isEmpty && s.toList.all Char.isDigit then
    match Text.readInt32 s with
    | .ok value => .ok (some (site.ratio.applyTruncating value))
    | .error fault => .error (.malformed input (.integer fault))
  else match s with
  | "center" =>
    .ok (some (if site.objectSize = 0 then 0 else (site.extent - site.objectSize).toInt / 2))
  | "e" => .ok (some site.extent)
  | "*" => .ok none
  | _ => site.evaluateFormula s

/-- A coordinate that cannot be evaluated counts as 0, and the fault is noted. -/
def Site.evaluateOrZero (site : Site) (input : String) : Option Int × List Fault :=
  match site.evaluate input with
  | .ok value => (value, [])
  | .error fault => (some 0, [fault])

/-- The value of a scalar: a plain integer or a formula over the skin's factor. -/
def evaluateScalar (factor : Float) (input : String) : Except Fault Int :=
  let s := Text.trim input
  match Text.readInt32 s with
  | .ok value => .ok value
  | .error _ => do
    let formula ← Expr.ofString s
    let value ← formula.eval (.factorOnly factor)
    return truncate value

/-- A scalar that cannot be evaluated counts as 0, and the fault is noted. -/
def scalarOrZero (factor : Float) (input : String) : Int × List Fault :=
  match evaluateScalar factor input with
  | .ok value => (value, [])
  | .error fault => (0, [fault])

end Skinning.Coordinate
