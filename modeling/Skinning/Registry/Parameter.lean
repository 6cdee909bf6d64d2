import Skinning.Color
import Skinning.Coordinate.Pixels
import Skinning.Decimal.Literal

/-! Parameters: values that a skin hands to the program by name. -/
namespace Skinning

inductive Parameter where
  | text (value : String)
  | int (value : Int)
  | float (value : Float)
  | font (face : String) (size : Int)
  | list (items : List Parameter)

inductive ParameterFault where
  | hexColor (text : String) (fault : Text.IntegerFault)
  | hexInteger (text : String) (fault : Text.IntegerFault)
  | float (text : String)
  deriving DecidableEq, Repr

def ParameterFault.message : ParameterFault → String
  | .hexColor text fault => "invalid hex color '" ++ text ++ "': " ++ fault.message
  | .hexInteger text fault => "invalid hex integer '" ++ text ++ "': " ++ fault.message
  | .float text => "invalid float '" ++ text ++ "': invalid float literal"

namespace Parameter

def asInt? : Parameter → Option Int
  | .int value => some value
  | _ => none

def asText? : Parameter → Option String
  | .text value => some value
  | _ => none

def asList? : Parameter → Option (List Parameter)
  | .list items => some items
  | _ => none

structure Reader where
  factor : Float
  color? : String → Option Color

/-- One value, and the coordinates that counted as 0. It is told by its beginning: a
text after `*`, a hexadecimal number after `#` or `0x`, a float if there is a point, a
color's name, a face and a size around `;`, and else a scalar. -/
def Reader.scalar (reader : Reader) (s : String) :
    Except ParameterFault (Parameter × List Coordinate.Fault) :=
  if let some rest := Text.after? "*" s then .ok (.text rest, [])
  else if let some digits := Text.after? "#" s then
    match Text.readInteger .int64 16 digits with
    | .ok value => .ok (.int value, [])
    | .error fault => .error (.hexColor s fault)
  else if let some digits := Text.after? "0x" s then
    match Text.readInteger .int64 16 digits with
    | .ok value => .ok (.int value, [])
    | .error fault => .error (.hexInteger s fault)
  else if Text.contains s '.' then
    match Decimal.read? s with
    | some value => .ok (.float value, [])
    | none => .error (.float s)
  else if let some color := reader.color? s then .ok (.int color.argb.toNat, [])
  else if let some (face, size) := Text.cut? ';' s then
    let (size, faults) := Coordinate.scalarOrZero reader.factor (Text.trim size)
    .ok (.font (Text.trim face) size, faults)
  else
    let (value, faults) := Coordinate.scalarOrZero reader.factor s
    .ok (.int value, faults)

/-- What was read of a value, with the coordinates that counted as 0 even where the
value itself is at fault. -/
structure Reading where
  value : Except ParameterFault Parameter
  faults : List Coordinate.Fault

def Reader.items (reader : Reader) :
    List String → Except ParameterFault (List Parameter) × List Coordinate.Fault
  | [] => (.ok [], [])
  | item :: rest =>
    match reader.scalar (Text.trim item) with
    | .error fault => (.error fault, [])
    | .ok (value, faults) =>
      let (values, more) := reader.items rest
      (values.map (value :: ·), faults ++ more)

/-- A text with a comma anywhere is a list of values. -/
def Reader.read (reader : Reader) (s : String) : Reading :=
  if Text.contains s ',' then
    let (items, faults) := reader.items (Text.split ',' s)
    ⟨items.map .list, faults⟩
  else match reader.scalar s with
    | .ok (value, faults) => ⟨.ok value, faults⟩
    | .error fault => ⟨.error fault, []⟩

end Parameter
end Skinning
