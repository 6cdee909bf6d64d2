import Skinning.Registry.Store
import Skinning.Widget.State

/-! Reading attributes: which names there are, and what their values mean. -/
namespace Skinning

inductive AttributeValue where
  | text (text : String)
  | point (point : Point)
  | size (size : Size)
  deriving DecidableEq, Repr

def AttributeValue.render : AttributeValue → String
  | .text s => s
  | .point p => toString p.x ++ "," ++ toString p.y
  | .size s => toString s.width ++ "," ++ toString s.height

/-- What the values of attributes refer to. -/
structure AttributeSite where
  store : Store
  assets : Assets
  scale : Scale
  surface : Nat

abbrev AttributeReading := ExceptT AttributeFault (StateM Notices)

namespace Attribute

/-- Attributes that are accepted and change nothing here. -/
def idle : List String := [
  "conditional", "objectTypes", "animationPaused", "split", "colposition", "dividechar",
  "resolution"]

def files : List String := [
  "pixmap", "pointer", "seek_pointer", "backgroundPixmap", "selectionPixmap",
  "selectionPixmapLarge", "sliderPixmap", "scrollbarSliderPicture",
  "scrollbarbackgroundPixmap", "scrollbarBackgroundPicture"]

/-- The usual words for yes, and a word of the attribute's own, in letters of any case.
Of all letters only those of ASCII have the letters of these words as their lower case. -/
def isYes (word value : String) : Bool :=
  let value := value.toLower
  ["1", "enabled", "on", "true", "yes"].contains value || value == word

end Attribute

namespace AttributeSite

def notice (notices : Notices) : AttributeReading Unit := modify (· ++ notices)

/-- A word of a fixed list; the message lists them under a name. -/
def keyword (name value : String) (found : Option α) (words : List String) : AttributeReading α :=
  match found with
  | some a => pure a
  | none => throw (.unknownKeyword name value words)

def int (name value : String) : AttributeReading Int :=
  match Text.readInt32 (Text.trim value) with
  | .ok n => pure n
  | .error fault => throw (.invalidValue name value (.integer fault))

def color (site : AttributeSite) (name value : String) : AttributeReading Color :=
  match site.store.color value with
  | .ok color => pure color
  | .error fault => throw (.invalidValue name value (.registry fault))

def radius (name value : String) : AttributeReading CornerRadius :=
  match CornerRadius.ofString? value with
  | some radius => pure radius
  | none => throw (.invalidValue name value (.expected "expected 'radius;edges'"))

def scaled (site : AttributeSite) (name value : String) (ratio : Ratio) : AttributeReading Int :=
  match Coordinate.evaluateScalar site.store.factor value with
  | .ok n => pure (ratio.applyTruncating n)
  | .error fault => throw (.invalidValue name value (.coordinate fault))

def scalePoint (site : AttributeSite) (p : Point) : Point :=
  ⟨site.scale.x.apply p.x, site.scale.y.apply p.y⟩

/-- A pair of coordinates without a surrounding space. -/
def scaledPair (site : AttributeSite) (name value : String) : AttributeReading Point :=
  match site.store.plainPair value with
  | .ok (point, notices) => do
    notice notices
    return site.scalePoint point
  | .error fault => throw (.invalidValue name value (.literal fault))

def scaledInts (site : AttributeSite) (name value : String) : AttributeReading Point :=
  match Pair.ints value with
  | .ok (x, y) => pure (site.scalePoint ⟨x, y⟩)
  | .error fault => throw (.invalidValue name value (.literal fault))

def pixmap (site : AttributeSite) (value : String) (size : Option Size) : AttributeReading Pixmap :=
  match site.assets.loadPixmap ⟨value⟩ size with
  | some pixmap => pure pixmap
  | none => throw (.pixmapNotFound ⟨value⟩)

/-- An image and the point it turns around, `file:x,y`. -/
def pointer (site : AttributeSite) (name value : String) : AttributeReading (Pixmap × Point) :=
  match Text.cutLast? ':' value with
  | some (file, center) => do
    let center ← site.scaledPair name center
    return (← site.pixmap file none, center)
  | none => throw (.invalidValue name value (.expected "expected 'file:x,y'"))

def font (site : AttributeSite) (value : String) : AttributeReading Font := do
  let (font, notices) := site.store.font value site.scale.x
  notice notices
  return font

/-- A list of flags; words that are none are noted and passed over. -/
def flags (name value : String) : AttributeReading WindowFlags :=
  (Text.split ',' value).foldlM (fun flags word =>
    match WindowFlags.ofWord? (Text.trim word) with
    | some flag => pure (flags.union flag)
    | none => do
      notice [.fault (.ofAttribute (.invalidValue name word (.expected "unknown flag")))]
      return flags) .none

/-- The attribute of a name and its text. Accepted names without effect have none. -/
def readText (site : AttributeSite) (w : Widget) (className name value : String) :
    AttributeReading (Option Attribute) :=
  match name with
  | "position" => return some (.position (← site.scaledPair name value))
  | "size" => do
    let p ← site.scaledPair name value
    return some (.size ⟨p.x, p.y⟩)
  | "title" => return some (.title (site.assets.translate value))
  | "text" => return some (.text (site.assets.translate value))
  | "font" => return some (.font (← site.font value))
  | "secondfont" => return some (.secondFont (← site.font value))
  | "zPosition" => return some (.zPosition (← int name value))
  | "transparent" => return some (.transparent ((← int name value) != 0))
  | "itemHeight" => return some (.itemHeight (← site.scaled name value site.scale.y))
  | "itemWidth" => return some (.itemWidth (← site.scaled name value site.scale.x))
  | "borderWidth" => return some (.borderWidth (← site.scaled name value site.scale.y))
  | "widgetBorderWidth" => return some (.widgetBorderWidth (← site.scaled name value site.scale.y))
  | "scrollbarWidth" => return some (.scrollbarWidth (← site.scaled name value site.scale.x))
  | "scrollbarSliderBorderWidth" =>
    return some (.scrollbarBorderWidth (← site.scaled name value site.scale.x))
  | "itemCornerRadius" => return some (.itemCornerRadius (← radius name value))
  | "itemCornerRadiusSelected" => return some (.itemCornerRadiusSelected (← radius name value))
  | "cornerRadius" => return some (.cornerRadius (← radius name value))
  | "pixmap" => return some (.pixmap (← site.pixmap value (some w.size)))
  | "backgroundPixmap" => return some (.backgroundPixmap (← site.pixmap value none))
  | "selectionPixmap" => return some (.selectionPixmap (← site.pixmap value none))
  | "selectionPixmapLarge" => return some (.selectionPixmapLarge (← site.pixmap value none))
  | "sliderPixmap" | "scrollbarSliderPicture" =>
    return some (.sliderPixmap (← site.pixmap value none))
  | "scrollbarbackgroundPixmap" | "scrollbarBackgroundPicture" =>
    return some (.scrollbarBackgroundPixmap (← site.pixmap value none))
  | "pointer" => do
    let (pixmap, center) ← site.pointer name value
    return some (.pointer pixmap center)
  | "seek_pointer" => do
    let (pixmap, center) ← site.pointer name value
    return some (.seekPointer pixmap center)
  | "alphatest" => return some (.alphaTest
      (← keyword "alphatest" value (BlitFlags.ofAlphaWord? value) BlitFlags.alphaWords))
  | "scale" => return some (.scale (Attribute.isYes "scale" value))
  | "scaleFlags" => return some (.scaleFlags
      (← keyword "scale" value (BlitFlags.ofScaleWord? value) BlitFlags.scaleWords))
  | "orientation" => do
    let (orientation, reversed) ←
      keyword "orientation" value (Orientation.ofWord? value) Orientation.words
    return some (.orientation orientation reversed)
  | "valign" => return some (.valign (← keyword "valign" value (VAlign.ofWord? value) VAlign.words))
  | "halign" => return some (.halign (← keyword "halign" value (HAlign.ofWord? value) HAlign.words))
  | "scrollbarMode" => return some (.scrollbarMode
      (← keyword "scrollbarMode" value (ScrollbarMode.ofWord? value) ScrollbarMode.words))
  | "textOffset" => return some (.textOffset (← site.scaledInts name value))
  | "shadowOffset" => return some (.shadowOffset (← site.scaledPair name value))
  | "flags" => return some (.flags (← flags name value))
  | "backgroundColor" | "backgroundNotCrypted" | "backgroundCrypted" | "backgroundEncrypted" =>
    return some (.backgroundColor (← site.color name value))
  | "foregroundColor" | "foregroundNotCrypted" | "foregroundCrypted" | "foregroundEncrypted" =>
    return some (.foregroundColor (← site.color name value))
  | "backgroundColorSelected" => return some (.backgroundColorSelected (← site.color name value))
  | "foregroundColorSelected" => return some (.foregroundColorSelected (← site.color name value))
  | "shadowColor" => return some (.shadowColor (← site.color name value))
  | "borderColor" => return some (.borderColor (← site.color name value))
  | "widgetBorderColor" => return some (.widgetBorderColor (← site.color name value))
  | "scrollbarSliderBorderColor" => return some (.sliderBorderColor (← site.color name value))
  | "scrollbarSliderForegroundColor" =>
    return some (.sliderForegroundColor (← site.color name value))
  | "selectionDisabled" => return some .selectionDisabled
  | "enableWrapAround" => return some (.wrapAround (Attribute.isYes "enablewraparound" value))
  | "noWrap" => return some (.noWrap (Attribute.isYes "nowrap" value))
  | _ =>
    if Attribute.idle.contains name then return none
    else throw (.notImplemented name value className)

/-- Reads an attribute for a widget; the size that the widget has so far is the one its
image is loaded at. -/
def read (site : AttributeSite) (w : Widget) (className name : String) (value : AttributeValue) :
    AttributeReading (Option Attribute) :=
  match name, value with
  | "position", .point p => return some (.position p)
  | "size", .size s => return some (.size s)
  | _, _ => site.readText w className name value.render

end AttributeSite
end Skinning
