import Skinning.LiteralFault
import Skinning.Text.Blank
import Skinning.Text.Integer
import Skinning.Text.Split

/-! Pairs written with one comma, such as positions and sizes. -/
namespace Skinning.Pair

def split (text : String) : Except LiteralFault (String × String) :=
  match Text.split ',' text with
  | [first, second] => .ok (Text.trim first, Text.trim second)
  | _ => .error (.pair text)

def int (text : String) : Except LiteralFault Int :=
  match Text.readInt32 text with
  | .ok value => .ok value
  | .error _ => .error (.number text)

/-- A pair of plain integers; of two bad halves the first is reported. -/
def ints (text : String) : Except LiteralFault (Int × Int) := do
  let (first, second) ← split text
  let a ← int first
  let b ← int second
  return (a, b)

end Skinning.Pair
