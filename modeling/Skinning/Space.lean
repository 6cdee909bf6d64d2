import Skinning.Coordinate.Pixels
import Skinning.Pair

/-! Spaces hand out rectangles to the children of a screen or panel. A sequential space
gives each edge request a strip of what remains and a fill request all of it; a stacking
space lets children overlap and never changes. -/
namespace Skinning

inductive SpaceMode where
  | sequential
  | stacking
  deriving DecidableEq, Repr

def SpaceMode.ofLayout : Option String → SpaceMode
  | some "stack" => .stacking
  | _ => .sequential

structure Space where
  mode : SpaceMode
  full : Rect
  remaining : Rect
  scale : Scale
  factor : Float

inductive Anchor where
  | fill
  | top
  | bottom
  | left
  | right
  | free (position : String)
  deriving DecidableEq, Repr

def Anchor.ofString : String → Anchor
  | "fill" => .fill
  | "top" => .top
  | "bottom" => .bottom
  | "left" => .left
  | "right" => .right
  | position => .free position

/-- What a child asks for: a position, a size and the font its units refer to. -/
structure SpaceRequest where
  position : String
  size : Option String
  font : Option FontMetrics
  deriving DecidableEq, Repr

/-- What was given to a child, what the space is after it, and the coordinates that
counted as 0. -/
structure Placed where
  rect : Rect
  space : Space
  faults : List Coordinate.Fault

namespace Space

def ofRect (mode : SpaceMode) (rect : Rect) (scale : Scale) (factor : Float) : Space :=
  ⟨mode, rect, rect, scale, factor⟩

/-- Makes the space's own corner the origin of its children. -/
def resetOrigin (s : Space) : Space :=
  { s with
    full := { s.full with x := 0, y := 0 }
    remaining :=
      { s.remaining with x := s.remaining.x - s.full.x, y := s.remaining.y - s.full.y } }

/-- One coordinate; `*` asks for nothing. -/
def coordinate (s : Space) (ratio : Ratio) (extent objectSize : Int32)
    (font : Option FontMetrics) (text : String) : Int32 × List Coordinate.Fault :=
  let site : Coordinate.Site := ⟨extent, objectSize, font, ratio, s.factor⟩
  let (value, faults) := site.evaluateOrZero text
  (value.getD 0, faults)

def badPair (text : String) : Coordinate.Fault := .malformed text (.pair text)

def evaluateSize (s : Space) (size : Option String) (font : Option FontMetrics) :
    Size × List Coordinate.Fault :=
  match size with
  | none => (.zero, [])
  | some text =>
    match Pair.split text with
    | .error _ => (.zero, [badPair text])
    | .ok (width, height) =>
      let (w, faults) := s.coordinate s.scale.x s.remaining.width 0 font width
      let (h, more) := s.coordinate s.scale.y s.remaining.height 0 font height
      (⟨w, h⟩, faults ++ more)

def evaluatePosition (s : Space) (position : String) (size : Size) (font : Option FontMetrics) :
    Point × List Coordinate.Fault :=
  match Pair.split position with
  | .error _ => (s.full.origin, [badPair position])
  | .ok (left, top) =>
    let (x, faults) := s.coordinate s.scale.x s.full.width size.width font left
    let (y, more) := s.coordinate s.scale.y s.full.height size.height font top
    (⟨s.full.x + x, s.full.y + y⟩, faults ++ more)

/-- The space with `rest` remaining, if its placements consume anything. -/
def shrink (s : Space) (rest : Rect) : Space :=
  match s.mode with
  | .sequential => { s with remaining := rest }
  | .stacking => s

/-- The strip at an edge, and what remains beside it. Nothing is cut off at a negative
size or one that is too large, and what does not fit in 32 bits wraps around. -/
def strip (r : Rect) (size : Size) : Anchor → Rect × Rect
  | .fill => (r, { r with width := 0, height := 0 })
  | .top =>
    ({ r with height := size.height },
      { r with y := r.y + size.height, height := r.height - size.height })
  | .bottom =>
    ({ r with y := r.y + r.height - size.height, height := size.height },
      { r with height := r.height - size.height })
  | .left =>
    ({ r with width := size.width },
      { r with x := r.x + size.width, width := r.width - size.width })
  | .right =>
    ({ r with x := r.x + r.width - size.width, width := size.width },
      { r with width := r.width - size.width })
  | .free _ => (r, r)

/-- Gives a child its rectangle. A fill request is not evaluated at all, and a free
position leaves the space as it is. -/
def place (s : Space) (request : SpaceRequest) : Placed :=
  match Anchor.ofString request.position with
  | .fill =>
    let (given, rest) := strip s.remaining .zero .fill
    ⟨given, s.shrink rest, []⟩
  | .free position =>
    let (size, faults) := s.evaluateSize request.size request.font
    let (point, more) := s.evaluatePosition position size request.font
    ⟨⟨point.x, point.y, size.width, size.height⟩, s, faults ++ more⟩
  | edge =>
    let (size, faults) := s.evaluateSize request.size request.font
    let (given, rest) := strip s.remaining size edge
    ⟨given, s.shrink rest, faults⟩

def derive (s : Space) (mode : SpaceMode) (request : SpaceRequest) : Placed × Space :=
  let placed := s.place request
  (placed, ofRect mode placed.rect s.scale s.factor)

end Space
end Skinning
