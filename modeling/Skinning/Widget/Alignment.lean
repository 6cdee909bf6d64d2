/-! Directions and alignments, and the words that stand for them. -/
namespace Skinning

inductive Orientation where
  | vertical
  | horizontal
  deriving DecidableEq, Repr, Inhabited

namespace Orientation

def words : List String := [
  "orVertical", "orTopToBottom", "orBottomToTop",
  "orHorizontal", "orLeftToRight", "orRightToLeft"]

/-- The axis, and whether it runs backwards. -/
def ofWord? : String → Option (Orientation × Bool)
  | "orVertical" => some (vertical, false)
  | "orTopToBottom" => some (vertical, false)
  | "orBottomToTop" => some (vertical, true)
  | "orHorizontal" => some (horizontal, false)
  | "orLeftToRight" => some (horizontal, false)
  | "orRightToLeft" => some (horizontal, true)
  | _ => none

end Orientation

inductive VAlign where
  | top
  | center
  | bottom
  deriving DecidableEq, Repr, Inhabited

namespace VAlign

def words : List String := ["top", "center", "bottom"]

def ofWord? : String → Option VAlign
  | "top" => some top
  | "center" => some center
  | "bottom" => some bottom
  | _ => none

end VAlign

inductive HAlign where
  | left
  | center
  | right
  | block
  deriving DecidableEq, Repr, Inhabited

namespace HAlign

def words : List String := ["left", "center", "right", "block"]

def ofWord? : String → Option HAlign
  | "left" => some left
  | "center" => some center
  | "right" => some right
  | "block" => some block
  | _ => none

end HAlign

inductive ScrollbarMode where
  | showOnDemand
  | showAlways
  | showNever
  | showLeft
  deriving DecidableEq, Repr, Inhabited

namespace ScrollbarMode

def words : List String := ["showOnDemand", "showAlways", "showNever", "showLeft"]

def ofWord? : String → Option ScrollbarMode
  | "showOnDemand" => some showOnDemand
  | "showAlways" => some showAlways
  | "showNever" => some showNever
  | "showLeft" => some showLeft
  | _ => none

end ScrollbarMode
end Skinning
