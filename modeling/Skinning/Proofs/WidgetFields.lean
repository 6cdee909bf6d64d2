import Skinning.Widget.State

/-! The fields of widgets, and which of them an attribute sets. An attribute leaves all other
fields as they are and its own ones with a value that does not depend on the widget, apart from
window flags, which add up. So attributes without a field in common can change places. -/
namespace Skinning

namespace Widget

inductive Field where
  | position
  | size
  | title
  | text
  | font
  | secondFont
  | zPosition
  | itemHeight
  | itemWidth
  | itemCornerRadius
  | itemCornerRadiusSelected
  | cornerRadius
  | pixmap
  | backgroundPixmap
  | selectionPixmap
  | selectionPixmapLarge
  | sliderPixmap
  | scrollbarBackgroundPixmap
  | pointer
  | seekPointer
  | alphaTest
  | scale
  | scaleFlags
  | orientation
  | reversed
  | valign
  | halign
  | textOffset
  | shadowOffset
  | flags
  | backgroundColor
  | backgroundColorSelected
  | foregroundColor
  | foregroundColorSelected
  | shadowColor
  | borderColor
  | borderWidth
  | widgetBorderColor
  | widgetBorderWidth
  | scrollbarMode
  | scrollbarWidth
  | scrollbarBorderWidth
  | sliderBorderColor
  | sliderForegroundColor
  | selectionEnabled
  | transparent
  | wrapAround
  | noWrap
  deriving DecidableEq, Repr

namespace Field

/-- The type of what a field holds. -/
def Value : Field → Type
  | .position | .textOffset | .shadowOffset => Point
  | .size => Size
  | .title | .text => Option String
  | .font | .secondFont => Option Font
  | .zPosition | .borderWidth | .widgetBorderWidth => Int
  | .itemHeight | .itemWidth | .scrollbarWidth | .scrollbarBorderWidth => Option Int
  | .itemCornerRadius | .itemCornerRadiusSelected | .cornerRadius => Option CornerRadius
  | .pixmap | .backgroundPixmap | .selectionPixmap | .selectionPixmapLarge | .sliderPixmap
  | .scrollbarBackgroundPixmap => Option Pixmap
  | .pointer | .seekPointer => Option (Pixmap × Point)
  | .alphaTest | .scaleFlags => BlitFlags
  | .scale | .reversed | .selectionEnabled | .transparent | .wrapAround | .noWrap => Bool
  | .orientation => Orientation
  | .valign => VAlign
  | .halign => HAlign
  | .flags => WindowFlags
  | .backgroundColor | .backgroundColorSelected | .foregroundColor | .foregroundColorSelected
  | .shadowColor | .borderColor | .widgetBorderColor | .sliderBorderColor | .sliderForegroundColor =>
    Option Color
  | .scrollbarMode => ScrollbarMode

end Field

def get (w : Widget) : (f : Field) → f.Value
  | .position => w.position
  | .size => w.size
  | .title => w.title
  | .text => w.text
  | .font => w.font
  | .secondFont => w.secondFont
  | .zPosition => w.zPosition
  | .itemHeight => w.itemHeight
  | .itemWidth => w.itemWidth
  | .itemCornerRadius => w.itemCornerRadius
  | .itemCornerRadiusSelected => w.itemCornerRadiusSelected
  | .cornerRadius => w.cornerRadius
  | .pixmap => w.pixmap
  | .backgroundPixmap => w.backgroundPixmap
  | .selectionPixmap => w.selectionPixmap
  | .selectionPixmapLarge => w.selectionPixmapLarge
  | .sliderPixmap => w.sliderPixmap
  | .scrollbarBackgroundPixmap => w.scrollbarBackgroundPixmap
  | .pointer => w.pointer
  | .seekPointer => w.seekPointer
  | .alphaTest => w.alphaTest
  | .scale => w.scale
  | .scaleFlags => w.scaleFlags
  | .orientation => w.orientation
  | .reversed => w.reversed
  | .valign => w.valign
  | .halign => w.halign
  | .textOffset => w.textOffset
  | .shadowOffset => w.shadowOffset
  | .flags => w.flags
  | .backgroundColor => w.backgroundColor
  | .backgroundColorSelected => w.backgroundColorSelected
  | .foregroundColor => w.foregroundColor
  | .foregroundColorSelected => w.foregroundColorSelected
  | .shadowColor => w.shadowColor
  | .borderColor => w.borderColor
  | .borderWidth => w.borderWidth
  | .widgetBorderColor => w.widgetBorderColor
  | .widgetBorderWidth => w.widgetBorderWidth
  | .scrollbarMode => w.scrollbarMode
  | .scrollbarWidth => w.scrollbarWidth
  | .scrollbarBorderWidth => w.scrollbarBorderWidth
  | .sliderBorderColor => w.sliderBorderColor
  | .sliderForegroundColor => w.sliderForegroundColor
  | .selectionEnabled => w.selectionEnabled
  | .transparent => w.transparent
  | .wrapAround => w.wrapAround
  | .noWrap => w.noWrap

/-- A widget is what its fields hold. -/
theorem eq_of_get {w v : Widget} (same : ∀ f, w.get f = v.get f) : w = v := by
  cases w
  cases v
  simp only [Widget.mk.injEq]
  exact ⟨same .position, same .size, same .title, same .text, same .font, same .secondFont,
    same .zPosition, same .itemHeight, same .itemWidth, same .itemCornerRadius,
    same .itemCornerRadiusSelected, same .cornerRadius, same .pixmap, same .backgroundPixmap,
    same .selectionPixmap, same .selectionPixmapLarge, same .sliderPixmap,
    same .scrollbarBackgroundPixmap, same .pointer, same .seekPointer, same .alphaTest, same .scale,
    same .scaleFlags, same .orientation, same .reversed, same .valign, same .halign,
    same .textOffset, same .shadowOffset, same .flags, same .backgroundColor,
    same .backgroundColorSelected, same .foregroundColor, same .foregroundColorSelected,
    same .shadowColor, same .borderColor, same .borderWidth, same .widgetBorderColor,
    same .widgetBorderWidth, same .scrollbarMode, same .scrollbarWidth, same .scrollbarBorderWidth,
    same .sliderBorderColor, same .sliderForegroundColor, same .selectionEnabled, same .transparent,
    same .wrapAround, same .noWrap⟩

end Widget

theorem WindowFlags.union_right_comm (a b c : WindowFlags) :
    (a.union b).union c = (a.union c).union b := by
  simp only [WindowFlags.union, Bool.or_right_comm]

namespace Attribute

open Widget (Field)

/-- The fields that an attribute sets. -/
def fields : Attribute → List Field
  | .position _ => [.position]
  | .size _ => [.size]
  | .title _ => [.title]
  | .text _ => [.text]
  | .font _ => [.font]
  | .secondFont _ => [.secondFont]
  | .zPosition _ => [.zPosition]
  | .itemHeight _ => [.itemHeight]
  | .itemWidth _ => [.itemWidth]
  | .itemCornerRadius _ => [.itemCornerRadius]
  | .itemCornerRadiusSelected _ => [.itemCornerRadiusSelected]
  | .cornerRadius _ => [.cornerRadius]
  | .pixmap _ => [.pixmap]
  | .backgroundPixmap _ => [.backgroundPixmap]
  | .selectionPixmap _ => [.selectionPixmap]
  | .selectionPixmapLarge _ => [.selectionPixmapLarge]
  | .sliderPixmap _ => [.sliderPixmap]
  | .scrollbarBackgroundPixmap _ => [.scrollbarBackgroundPixmap]
  | .pointer _ _ => [.pointer]
  | .seekPointer _ _ => [.seekPointer]
  | .alphaTest _ => [.alphaTest]
  | .scale _ => [.scale]
  | .scaleFlags _ => [.scaleFlags]
  | .orientation _ _ => [.orientation, .reversed]
  | .valign _ => [.valign]
  | .halign _ => [.halign]
  | .textOffset _ => [.textOffset]
  | .shadowOffset _ => [.shadowOffset]
  | .flags _ => [.flags]
  | .backgroundColor _ => [.backgroundColor]
  | .backgroundColorSelected _ => [.backgroundColorSelected]
  | .foregroundColor _ => [.foregroundColor]
  | .foregroundColorSelected _ => [.foregroundColorSelected]
  | .shadowColor _ => [.shadowColor]
  | .borderColor _ => [.borderColor]
  | .borderWidth _ => [.borderWidth]
  | .widgetBorderColor _ => [.widgetBorderColor]
  | .widgetBorderWidth _ => [.widgetBorderWidth]
  | .scrollbarMode _ => [.scrollbarMode]
  | .scrollbarWidth _ => [.scrollbarWidth]
  | .scrollbarBorderWidth _ => [.scrollbarBorderWidth]
  | .sliderBorderColor _ => [.sliderBorderColor]
  | .sliderForegroundColor _ => [.sliderForegroundColor]
  | .selectionDisabled => [.selectionEnabled]
  | .transparent _ => [.transparent]
  | .wrapAround _ => [.wrapAround]
  | .noWrap _ => [.noWrap]

/-- An attribute leaves all fields alone but its own. -/
theorem get_apply_of_notMem {a : Attribute} {f : Field} (other : f ∉ a.fields) (w : Widget) :
    (w.apply a).get f = w.get f := by
  revert other
  cases a <;> cases f <;> intro other <;> first | rfl | exact absurd (by simp [fields]) other

/-- What an attribute sets a field to does not depend on the widget, but for flags. -/
theorem get_apply_of_mem {a : Attribute} {f : Field} (own : f ∈ a.fields) (replaced : f ≠ .flags)
    (w v : Widget) : (w.apply a).get f = (v.apply a).get f := by
  cases a with
  | flags => exact absurd (List.mem_singleton.mp own) replaced
  | orientation =>
    simp only [fields, List.mem_cons, List.not_mem_nil, or_false] at own
    rcases own with rfl | rfl <;> rfl
  | _ =>
    obtain rfl := List.mem_singleton.mp own
    rfl

theorem eq_flags_of_mem {a : Attribute} (own : .flags ∈ a.fields) : ∃ value, a = .flags value := by
  cases a with
  | flags value => exact ⟨value, rfl⟩
  | _ => simp [fields] at own

/-- To a field an attribute does the same after one that leaves the field alone. -/
theorem get_apply_apply_of_notMem {b : Attribute} {f : Field} (other : f ∉ b.fields) (a : Attribute)
    (w : Widget) : ((w.apply b).apply a).get f = (w.apply a).get f := by
  by_cases own : f ∈ a.fields
  · by_cases adds : f = .flags
    · subst adds
      obtain ⟨value, rfl⟩ := eq_flags_of_mem own
      have kept : (w.apply b).flags = w.flags := get_apply_of_notMem other w
      exact congrArg (·.union value) kept
    · exact get_apply_of_mem own adds _ _
  · rw [get_apply_of_notMem own, get_apply_of_notMem other, get_apply_of_notMem own]

/-- Attributes that have no field in common, or flags alone, can be applied in any order. -/
theorem apply_comm {a b : Attribute} (apart : ∀ f ∈ a.fields, f ∈ b.fields → f = .flags)
    (w : Widget) : (w.apply a).apply b = (w.apply b).apply a := by
  refine Widget.eq_of_get fun f => ?_
  by_cases ofA : f ∈ a.fields
  · by_cases ofB : f ∈ b.fields
    · obtain rfl := apart f ofA ofB
      obtain ⟨first, rfl⟩ := eq_flags_of_mem ofA
      obtain ⟨second, rfl⟩ := eq_flags_of_mem ofB
      exact w.flags.union_right_comm first second
    · rw [get_apply_of_notMem ofB, get_apply_apply_of_notMem ofB]
  · rw [get_apply_of_notMem ofA, get_apply_apply_of_notMem ofA]

end Attribute
end Skinning
