/-! What can be wrong with a color, a number or a pair of them. -/
namespace Skinning

inductive LiteralFault where
  | hexColor (text : String)
  | number (text : String)
  | pair (text : String)
  deriving DecidableEq, Repr

def LiteralFault.message : LiteralFault → String
  | .hexColor text => "Invalid hex color: " ++ text
  | .number text => "Invalid number: " ++ text
  | .pair text => "Invalid value pair: " ++ text

end Skinning
