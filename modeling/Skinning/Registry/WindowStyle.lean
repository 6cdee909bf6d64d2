import Skinning.Assets
import Skinning.Color
import Skinning.Font

/-! Window styles: the frames, colors and title that windows of a surface are drawn with. -/
namespace Skinning

inductive BorderSet where
  | window
  | button
  | listboxEntry
  deriving DecidableEq, Repr

def BorderSet.all : List BorderSet := [.window, .button, .listboxEntry]

def BorderSet.ofWord? : String → Option BorderSet
  | "bsWindow" => some .window
  | "bsButton" => some .button
  | "bsListboxEntry" => some .listboxEntry
  | _ => none

inductive BorderPos where
  | topLeft
  | top
  | topRight
  | left
  | right
  | bottomLeft
  | bottom
  | bottomRight
  | background
  deriving DecidableEq, Repr

def BorderPos.all : List BorderPos := [
  .topLeft, .top, .topRight, .left, .right, .bottomLeft, .bottom, .bottomRight, .background]

def BorderPos.ofWord? : String → Option BorderPos
  | "bpTopLeft" => some .topLeft
  | "bpTop" => some .top
  | "bpTopRight" => some .topRight
  | "bpLeft" => some .left
  | "bpRight" => some .right
  | "bpBottomLeft" => some .bottomLeft
  | "bpBottom" => some .bottom
  | "bpBottomRight" => some .bottomRight
  | "bpBackground" => some .background
  | _ => none

inductive StyleColor where
  | background
  | labelForeground
  | listboxBackground
  | listboxForeground
  | listboxSelectedBackground
  | listboxSelectedForeground
  | listboxMarkedBackground
  | listboxMarkedForeground
  | listboxMarkedAndSelectedBackground
  | listboxMarkedAndSelectedForeground
  | windowTitleForeground
  | windowTitleBackground
  deriving DecidableEq, Repr

def StyleColor.all : List StyleColor := [
  .background, .labelForeground, .listboxBackground, .listboxForeground,
  .listboxSelectedBackground, .listboxSelectedForeground,
  .listboxMarkedBackground, .listboxMarkedForeground,
  .listboxMarkedAndSelectedBackground, .listboxMarkedAndSelectedForeground,
  .windowTitleForeground, .windowTitleBackground]

def StyleColor.ofWord? : String → Option StyleColor
  | "Background" => some .background
  | "LabelForeground" => some .labelForeground
  | "ListboxBackground" => some .listboxBackground
  | "ListboxForeground" => some .listboxForeground
  | "ListboxSelectedBackground" => some .listboxSelectedBackground
  | "ListboxSelectedForeground" => some .listboxSelectedForeground
  | "ListboxMarkedBackground" => some .listboxMarkedBackground
  | "ListboxMarkedForeground" => some .listboxMarkedForeground
  | "ListboxMarkedAndSelectedBackground" => some .listboxMarkedAndSelectedBackground
  | "ListboxMarkedAndSelectedForeground" => some .listboxMarkedAndSelectedForeground
  | "WindowTitleForeground" => some .windowTitleForeground
  | "WindowTitleBackground" => some .windowTitleBackground
  | _ => none

structure WindowStyle where
  titleFont : Font
  titleOffset : Size
  borders : Table (BorderSet × BorderPos) Pixmap
  colors : Table StyleColor Color
  deriving Repr

namespace WindowStyle

def default : WindowStyle := ⟨⟨"Regular", 20⟩, ⟨20, 5⟩, ∅, ∅⟩

def borderList (style : WindowStyle) : List (BorderSet × BorderPos × Pixmap) :=
  BorderSet.all.flatMap fun set => BorderPos.all.filterMap fun pos =>
    (style.borders.get? (set, pos)).map (set, pos, ·)

def colorList (style : WindowStyle) : List (StyleColor × Color) :=
  StyleColor.all.filterMap fun slot => (style.colors.get? slot).map (slot, ·)

end WindowStyle
end Skinning
