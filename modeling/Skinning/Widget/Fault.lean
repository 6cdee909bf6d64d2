import Skinning.Coordinate.Fault
import Skinning.Files.Path
import Skinning.LiteralFault
import Skinning.Registry.Fault

/-! Why an attribute cannot be applied to a widget. -/
namespace Skinning

inductive ValueFault where
  | integer (fault : Text.IntegerFault)
  | coordinate (fault : Coordinate.Fault)
  | literal (fault : LiteralFault)
  | registry (fault : RegistryFault)
  | expected (what : String)
  deriving Repr

def ValueFault.message : ValueFault → String
  | .integer fault => fault.message
  | .coordinate fault => fault.message
  | .literal fault => fault.message
  | .registry fault => fault.message
  | .expected what => what

inductive AttributeFault where
  | notImplemented (name value className : String)
  | invalidValue (name value : String) (fault : ValueFault)
  | unknownKeyword (name value : String) (expected : List String)
  | pixmapNotFound (path : Path)
  deriving Repr

def AttributeFault.message : AttributeFault → String
  | .notImplemented name value className =>
    "Attribute '" ++ name ++ "' (with value of '" ++ value ++ "') in object of type '" ++
      className ++ "' is not implemented"
  | .invalidValue name value fault =>
    "Attribute '" ++ name ++ "' with wrong (or unknown) value '" ++ value ++ "': " ++ fault.message
  | .unknownKeyword name value expected =>
    "Invalid " ++ name ++ " '" ++ value ++ "', must be one of: " ++ ", ".intercalate expected
  | .pixmapNotFound path => "Pixmap file '" ++ path.text ++ "' not found"

/-- A missing image ends the construction of its element. -/
def AttributeFault.isFatal : AttributeFault → Bool
  | .pixmapNotFound _ => true
  | _ => false

end Skinning
