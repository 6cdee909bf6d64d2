import Skinning.Assets
import Skinning.Color
import Skinning.Font
import Skinning.Widget.Alignment
import Skinning.Widget.Flags

/-! The state of a widget, and the attributes that change it. Every attribute has fields
of its own and touches no others. -/
namespace Skinning

inductive Attribute where
  | position (value : Point)
  | size (value : Size)
  | title (value : String)
  | text (value : String)
  | font (value : Font)
  | secondFont (value : Font)
  | zPosition (value : Int)
  | itemHeight (value : Int)
  | itemWidth (value : Int)
  | itemCornerRadius (value : CornerRadius)
  | itemCornerRadiusSelected (value : CornerRadius)
  | cornerRadius (value : CornerRadius)
  | pixmap (value : Pixmap)
  | backgroundPixmap (value : Pixmap)
  | selectionPixmap (value : Pixmap)
  | selectionPixmapLarge (value : Pixmap)
  | sliderPixmap (value : Pixmap)
  | scrollbarBackgroundPixmap (value : Pixmap)
  | pointer (value : Pixmap) (center : Point)
  | seekPointer (value : Pixmap) (center : Point)
  | alphaTest (value : BlitFlags)
  | scale (value : Bool)
  | scaleFlags (value : BlitFlags)
  | orientation (value : Orientation) (reversed : Bool)
  | valign (value : VAlign)
  | halign (value : HAlign)
  | textOffset (value : Point)
  | shadowOffset (value : Point)
  | flags (value : WindowFlags)
  | backgroundColor (value : Color)
  | backgroundColorSelected (value : Color)
  | foregroundColor (value : Color)
  | foregroundColorSelected (value : Color)
  | shadowColor (value : Color)
  | borderColor (value : Color)
  | borderWidth (value : Int)
  | widgetBorderColor (value : Color)
  | widgetBorderWidth (value : Int)
  | scrollbarMode (value : ScrollbarMode)
  | scrollbarWidth (value : Int)
  | scrollbarBorderWidth (value : Int)
  | sliderBorderColor (value : Color)
  | sliderForegroundColor (value : Color)
  | selectionDisabled
  | transparent (value : Bool)
  | wrapAround (value : Bool)
  | noWrap (value : Bool)
  deriving DecidableEq, Repr

structure Widget where
  position : Point
  size : Size
  title : Option String
  text : Option String
  font : Option Font
  secondFont : Option Font
  zPosition : Int
  itemHeight : Option Int
  itemWidth : Option Int
  itemCornerRadius : Option CornerRadius
  itemCornerRadiusSelected : Option CornerRadius
  cornerRadius : Option CornerRadius
  pixmap : Option Pixmap
  backgroundPixmap : Option Pixmap
  selectionPixmap : Option Pixmap
  selectionPixmapLarge : Option Pixmap
  sliderPixmap : Option Pixmap
  scrollbarBackgroundPixmap : Option Pixmap
  pointer : Option (Pixmap × Point)
  seekPointer : Option (Pixmap × Point)
  alphaTest : BlitFlags
  scale : Bool
  scaleFlags : BlitFlags
  orientation : Orientation
  reversed : Bool
  valign : VAlign
  halign : HAlign
  textOffset : Point
  shadowOffset : Point
  flags : WindowFlags
  backgroundColor : Option Color
  backgroundColorSelected : Option Color
  foregroundColor : Option Color
  foregroundColorSelected : Option Color
  shadowColor : Option Color
  borderColor : Option Color
  borderWidth : Int
  widgetBorderColor : Option Color
  widgetBorderWidth : Int
  scrollbarMode : ScrollbarMode
  scrollbarWidth : Option Int
  scrollbarBorderWidth : Option Int
  sliderBorderColor : Option Color
  sliderForegroundColor : Option Color
  selectionEnabled : Bool
  transparent : Bool
  wrapAround : Bool
  noWrap : Bool
  deriving DecidableEq, Repr

namespace Widget

def initial : Widget where
  position := ⟨0, 0⟩
  size := .zero
  title := none
  text := none
  font := none
  secondFont := none
  zPosition := 0
  itemHeight := none
  itemWidth := none
  itemCornerRadius := none
  itemCornerRadiusSelected := none
  cornerRadius := none
  pixmap := none
  backgroundPixmap := none
  selectionPixmap := none
  selectionPixmapLarge := none
  sliderPixmap := none
  scrollbarBackgroundPixmap := none
  pointer := none
  seekPointer := none
  alphaTest := .none
  scale := false
  scaleFlags := .none
  orientation := .vertical
  reversed := false
  valign := .top
  halign := .left
  textOffset := ⟨0, 0⟩
  shadowOffset := ⟨0, 0⟩
  flags := .none
  backgroundColor := none
  backgroundColorSelected := none
  foregroundColor := none
  foregroundColorSelected := none
  shadowColor := none
  borderColor := none
  borderWidth := 0
  widgetBorderColor := none
  widgetBorderWidth := 0
  scrollbarMode := .showOnDemand
  scrollbarWidth := none
  scrollbarBorderWidth := none
  sliderBorderColor := none
  sliderForegroundColor := none
  selectionEnabled := true
  transparent := false
  wrapAround := false
  noWrap := false

/-- Sets the fields of an attribute. Window flags add up, all else is replaced. -/
def apply (w : Widget) : Attribute → Widget
  | .position p => { w with position := p }
  | .size s => { w with size := s }
  | .title t => { w with title := some t }
  | .text t => { w with text := some t }
  | .font f => { w with font := some f }
  | .secondFont f => { w with secondFont := some f }
  | .zPosition z => { w with zPosition := z }
  | .itemHeight n => { w with itemHeight := some n }
  | .itemWidth n => { w with itemWidth := some n }
  | .itemCornerRadius r => { w with itemCornerRadius := some r }
  | .itemCornerRadiusSelected r => { w with itemCornerRadiusSelected := some r }
  | .cornerRadius r => { w with cornerRadius := some r }
  | .pixmap p => { w with pixmap := some p }
  | .backgroundPixmap p => { w with backgroundPixmap := some p }
  | .selectionPixmap p => { w with selectionPixmap := some p }
  | .selectionPixmapLarge p => { w with selectionPixmapLarge := some p }
  | .sliderPixmap p => { w with sliderPixmap := some p }
  | .scrollbarBackgroundPixmap p => { w with scrollbarBackgroundPixmap := some p }
  | .pointer p center => { w with pointer := some (p, center) }
  | .seekPointer p center => { w with seekPointer := some (p, center) }
  | .alphaTest f => { w with alphaTest := f }
  | .scale on => { w with scale := on }
  | .scaleFlags f => { w with scaleFlags := f }
  | .orientation o reversed => { w with orientation := o, reversed := reversed }
  | .valign a => { w with valign := a }
  | .halign a => { w with halign := a }
  | .textOffset p => { w with textOffset := p }
  | .shadowOffset p => { w with shadowOffset := p }
  | .flags f => { w with flags := w.flags.union f }
  | .backgroundColor c => { w with backgroundColor := some c }
  | .backgroundColorSelected c => { w with backgroundColorSelected := some c }
  | .foregroundColor c => { w with foregroundColor := some c }
  | .foregroundColorSelected c => { w with foregroundColorSelected := some c }
  | .shadowColor c => { w with shadowColor := some c }
  | .borderColor c => { w with borderColor := some c }
  | .borderWidth n => { w with borderWidth := n }
  | .widgetBorderColor c => { w with widgetBorderColor := some c }
  | .widgetBorderWidth n => { w with widgetBorderWidth := n }
  | .scrollbarMode m => { w with scrollbarMode := m }
  | .scrollbarWidth n => { w with scrollbarWidth := some n }
  | .scrollbarBorderWidth n => { w with scrollbarBorderWidth := some n }
  | .sliderBorderColor c => { w with sliderBorderColor := some c }
  | .sliderForegroundColor c => { w with sliderForegroundColor := some c }
  | .selectionDisabled => { w with selectionEnabled := false }
  | .transparent on => { w with transparent := on }
  | .wrapAround on => { w with wrapAround := on }
  | .noWrap on => { w with noWrap := on }

end Widget
end Skinning
