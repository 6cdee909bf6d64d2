import Skinning.Diagnostics
import Skinning.Pair
import Skinning.Registry.WindowStyle

/-! The values that a skin declares for all of its screens. A later declaration of a key
replaces the earlier one and leaves all other keys alone. -/
namespace Skinning

structure FontFace where
  path : Path
  scale : Int
  replacement : Bool
  render : Int
  deriving DecidableEq, Repr

structure SubtitleStyle where
  font : Font
  foreground : Color
  hasColor : Bool
  borderColor : Color
  borderWidth : Int
  deriving DecidableEq, Repr

/-- The lists of images that menus and screens look up by key. -/
inductive ImageKind where
  | menu
  | menuIcon
  | screen
  | setup
  deriving DecidableEq, Repr

def ImageKind.tag : ImageKind → String
  | .menu => "menu"
  | .menuIcon => "menuicon"
  | .screen => "screen"
  | .setup => "setup"

/-- The surface that screens are shown on unless they ask for another. -/
def guiSurface : Nat := 0
def displaySurface : Nat := 1

structure Store where
  colors : Table String Color
  aliases : Table String FontAlias
  faces : Table String FontFace
  parameters : Table String Parameter
  images : Table (ImageKind × String) String
  switchPixmaps : Table String Pixmap
  styles : Table Nat WindowStyle
  margins : Table Nat Margins
  subtitles : Table String SubtitleStyle
  /-- Sizes of the surfaces; a reset keeps them. -/
  surfaces : Table Nat Size

namespace Store

def seedColors : List (String × Color) := [
  ("key_back", ⟨0x00313131⟩), ("key_blue", ⟨0x0018188b⟩), ("key_green", ⟨0x001f771f⟩),
  ("key_red", ⟨0x009f1313⟩), ("key_text", ⟨0x00ffffff⟩), ("key_yellow", ⟨0x00a08500⟩)]

def bodyFont : FontAlias := ⟨"Regular", 20, 24, 18⟩

def withSurfaces (surfaces : Table Nat Size) : Store where
  colors := .ofList seedColors
  aliases := .ofList [("Body", bodyFont)]
  faces := ∅
  parameters := ∅
  images := ∅
  switchPixmaps := ∅
  styles := ∅
  margins := ∅
  subtitles := ∅
  surfaces := surfaces

def initial : Store := withSurfaces ∅

def reset (s : Store) : Store := withSurfaces s.surfaces

/-- Whether a store holds the built-in values and nothing else. -/
def isInitial (s : Store) : Bool :=
  s.colors.agrees initial.colors && s.aliases.agrees initial.aliases && s.faces.isEmpty &&
  s.parameters.isEmpty && s.images.isEmpty && s.switchPixmaps.isEmpty && s.styles.isEmpty &&
  s.margins.isEmpty && s.subtitles.isEmpty && s.surfaces.isEmpty

def surfaceSize (s : Store) (surface : Nat) : Size := (s.surfaces.get? surface).getD .zero

/-- The lines of the surface that the skin's factor is measured against. -/
def baseHeight : Float := 720

/-- The height of the main surface over 720 lines. -/
def factor (s : Store) : Float :=
  match s.surfaces.get? guiSurface with
  | some size => if 0 < size.height then Float.ofInt size.height / baseHeight else 1
  | none => 1

def applyFactor (s : Store) (value : Int) : Int := truncate (Float.ofInt value * s.factor)

/-- A number after `#`, or the name of a color. -/
def color (s : Store) (value : String) : Except RegistryFault Color :=
  if value.toList.head? = some '#' then
    match Color.ofHex value with
    | .ok color => .ok color
    | .error fault => .error (.literal fault)
  else match s.colors.get? value with
    | some color => .ok color
    | none => .error (.unknownColor value)

def body (s : Store) : FontAlias := (s.aliases.get? "Body").getD bodyFont

/-- The name and the size of a font, written `name;size` or as a name alone; a size of 0
stands for the size of the alias. -/
def fontParts (s : Store) (spec : String) : (String × Int) × Notices :=
  match Text.cut? ';' spec with
  | some (name, size) =>
    let (size, faults) := Coordinate.scalarOrZero s.factor size
    ((Text.trim name, size), .ofCoordinates faults)
  | none => ((Text.trim spec, 0), [])

/-- A font by the name of an alias or a face; the font of the body stands in for any
other. The ratio scales the size. -/
def font (s : Store) (spec : String) (ratio : Ratio) : Font × Notices :=
  let ((name, size), notices) := s.fontParts spec
  let sized (a : FontAlias) : Font := ⟨a.family, ratio.apply (if size = 0 then a.size else size)⟩
  match s.aliases.get? name with
  | some found => (sized found, notices)
  | none =>
    if s.faces.contains name then (⟨name, ratio.apply size⟩, notices)
    else (sized s.body, notices ++ [.fontReplaced name spec s.body.family])

/-- What the units of a coordinate measure in a font; nothing for an unknown alias. -/
def metrics (s : Store) (spec : String) : FontMetrics :=
  let name := ((Text.cut? ';' spec).map Prod.fst).getD spec
  ((s.aliases.get? (Text.trim name)).map FontAlias.metrics).getD ⟨0, 0⟩

/-- A pair of coordinates without a surrounding space. -/
def plainPair (s : Store) (text : String) : Except LiteralFault (Point × Notices) := do
  let (left, top) ← Pair.split text
  let site : Coordinate.Site := ⟨0, 0, none, .identity, s.factor⟩
  let (x, faults) := site.evaluateOrZero left
  let (y, more) := site.evaluateOrZero top
  return (⟨x.getD 0, y.getD 0⟩, .ofCoordinates (faults ++ more))

def parameterReader (s : Store) : Parameter.Reader := ⟨s.factor, s.colors.get?⟩

end Store
end Skinning
