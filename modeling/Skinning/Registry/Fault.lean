import Skinning.Assets
import Skinning.LiteralFault
import Skinning.Registry.Parameter

/-! Why a declaration cannot be taken into a store. -/
namespace Skinning

inductive RegistryFault where
  | badRoot (tag : String)
  | unknownColor (name : String)
  | missingAttribute (tag key : String)
  | includeNotFound (path : Path)
  | includeCycle (path : Path)
  | fontNotFound (path : Path)
  | pixmapNotFound (path : Path)
  | unknownStyleColor (name : String)
  | badFontAlias (name missing : String)
  | badParameter (name : String) (fault : ParameterFault)
  | badValue (key value : String)
  | literal (fault : LiteralFault)
  deriving DecidableEq, Repr

def RegistryFault.message : RegistryFault → String
  | .badRoot tag => "Root element in skin must be 'skin', got '" ++ tag ++ "'"
  | .unknownColor name => "Color '" ++ name ++ "' must be #aarrggbb or valid named color"
  | .missingAttribute tag key =>
    "Tag '" ++ tag ++ "' needs a '" ++ key ++ "' attribute"
  | .includeNotFound path => "Included file '" ++ path.text ++ "' not found"
  | .includeCycle path => "File '" ++ path.text ++ "' includes itself"
  | .fontNotFound path => "Font file '" ++ path.text ++ "' not found"
  | .pixmapNotFound path => "Pixmap file '" ++ path.text ++ "' not found"
  | .unknownStyleColor name => "Unknown color type '" ++ name ++ "'"
  | .badFontAlias name missing => "Bad font alias '" ++ name ++ "': missing " ++ missing
  | .badParameter name fault => "Bad parameter '" ++ name ++ "': " ++ fault.message
  | .badValue key value => "Bad value '" ++ value ++ "' for '" ++ key ++ "'"
  | .literal fault => fault.message

end Skinning
