import Skinning.Text.Blank
import Skinning.Text.Integer
import Skinning.Text.Split

/-! Sets of flags and the words that stand for them. -/
namespace Skinning

structure Corners where
  topLeft : Bool
  topRight : Bool
  bottomLeft : Bool
  bottomRight : Bool
  deriving DecidableEq, Repr, Inhabited

namespace Corners

def none : Corners := ⟨false, false, false, false⟩
def all : Corners := ⟨true, true, true, true⟩

def union (a b : Corners) : Corners :=
  ⟨a.topLeft || b.topLeft, a.topRight || b.topRight,
    a.bottomLeft || b.bottomLeft, a.bottomRight || b.bottomRight⟩

/-- A corner by its name, or the two corners of an edge by the edge's. -/
def ofWord? : String → Option Corners
  | "topLeft" => some ⟨true, false, false, false⟩
  | "topRight" => some ⟨false, true, false, false⟩
  | "top" => some ⟨true, true, false, false⟩
  | "bottomLeft" => some ⟨false, false, true, false⟩
  | "bottomRight" => some ⟨false, false, false, true⟩
  | "bottom" => some ⟨false, false, true, true⟩
  | "left" => some ⟨true, false, true, false⟩
  | "right" => some ⟨false, true, false, true⟩
  | _ => Option.none

/-- The corners of a list of words; words that name none are passed over. -/
def ofList (list : String) : Corners :=
  ((Text.split ',' list).filterMap fun word => ofWord? (Text.trim word)).foldl union none

end Corners

structure CornerRadius where
  radius : Int
  corners : Corners
  deriving DecidableEq, Repr

/-- A radius alone applies to all corners, one with a list after `;` to those listed. -/
def CornerRadius.ofString? (text : String) : Option CornerRadius :=
  let (radius, corners) :=
    match Text.cut? ';' text with
    | some (radius, list) => (radius, Corners.ofList list)
    | none => (text, Corners.all)
  match Text.readInt32 (Text.trim radius) with
  | .ok value => some ⟨value, corners⟩
  | .error _ => none

/-- How an image is drawn: transparency, scaling and alignment. -/
structure BlitFlags where
  alphaTest : Bool
  alphaBlend : Bool
  scale : Bool
  keepAspect : Bool
  centerX : Bool
  right : Bool
  centerY : Bool
  bottom : Bool
  deriving DecidableEq, Repr, Inhabited

namespace BlitFlags

def none : BlitFlags := ⟨false, false, false, false, false, false, false, false⟩
def test : BlitFlags := { none with alphaTest := true }
def blend : BlitFlags := { none with alphaBlend := true }

def union (a b : BlitFlags) : BlitFlags :=
  ⟨a.alphaTest || b.alphaTest, a.alphaBlend || b.alphaBlend, a.scale || b.scale,
    a.keepAspect || b.keepAspect, a.centerX || b.centerX, a.right || b.right,
    a.centerY || b.centerY, a.bottom || b.bottom⟩

def alphaWords : List String := ["on", "off", "blend"]

def ofAlphaWord? : String → Option BlitFlags
  | "on" => some test
  | "off" => some none
  | "blend" => some blend
  | _ => Option.none

def scaleWords : List String := [
  "none", "scale", "scaleKeepAspect",
  "scaleLeftTop", "scaleLeftCenter", "scaleLeftBottom",
  "scaleCenterTop", "scaleCenter", "scaleCenterBottom",
  "scaleRightTop", "scaleRightCenter", "scaleRightBottom",
  "moveLeftTop", "moveLeftCenter", "moveLeftBottom",
  "moveCenterTop", "moveCenter", "moveCenterBottom",
  "moveRightTop", "moveRightCenter", "moveRightBottom"]

def ofPlacement? : String → Option BlitFlags
  | "LeftTop" => some none
  | "LeftCenter" => some { none with centerY := true }
  | "LeftBottom" => some { none with bottom := true }
  | "CenterTop" => some { none with centerX := true }
  | "Center" => some { none with centerX := true, centerY := true }
  | "CenterBottom" => some { none with centerX := true, bottom := true }
  | "RightTop" => some { none with right := true }
  | "RightCenter" => some { none with right := true, centerY := true }
  | "RightBottom" => some { none with right := true, bottom := true }
  | _ => Option.none

/-- Scaling that keeps the ratio of width and height. -/
def aspect : BlitFlags := { none with scale := true, keepAspect := true }

/-- `move` and a placement only aligns the image, `scale` and a placement scales it, too. -/
def ofScaleWord? (word : String) : Option BlitFlags :=
  match word with
  | "none" => some none
  | "scale" => some { none with scale := true }
  | "scaleKeepAspect" => some aspect
  | _ =>
    match Text.after? "scale" word with
    | some placement => (ofPlacement? placement).map aspect.union
    | Option.none => (Text.after? "move" word).bind ofPlacement?

end BlitFlags

structure WindowFlags where
  noBorder : Bool
  deriving DecidableEq, Repr, Inhabited

namespace WindowFlags

def none : WindowFlags := ⟨false⟩

def union (a b : WindowFlags) : WindowFlags := ⟨a.noBorder || b.noBorder⟩

def ofWord? : String → Option WindowFlags
  | "wfNoBorder" => some ⟨true⟩
  | _ => Option.none

end WindowFlags
end Skinning
