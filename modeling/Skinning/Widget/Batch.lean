import Skinning.Widget.Attribute

/-! Applying the attributes of an element together: `scale` before and `pixmap` after all
others, since an image is loaded at the size that the others give the widget. -/
namespace Skinning

abbrev Batch := List (String × AttributeValue)

namespace Batch

/-- Attributes of lower rank are applied first. -/
def rank (name : String) : Nat :=
  if name = "scale" then 0 else if name = "pixmap" then 2 else 1

/-- The order of application, without anything added; equal ranks keep their order. -/
def arrange (batch : Batch) : Batch := batch.mergeSort fun a b => rank a.1 ≤ rank b.1

/-- On a screen that is rescaled its images are, too, unless the batch says otherwise. -/
def sort (batch : Batch) (scale : Scale) : Batch :=
  let arranged := batch.arrange
  if arranged.getLast?.any (·.1 == "pixmap") && !scale.isIdentity &&
      !arranged.head?.any (·.1 == "scale") then
    ("scale", .text "1") :: arranged
  else arranged

end Batch

/-- A widget after attributes, and the missing image that ended their application. -/
structure Applied where
  widget : Widget
  fatal? : Option AttributeFault
  notices : Notices

namespace AttributeSite

/-- A drawing is blended, whatever was set before. -/
def blendDrawing (w : Widget) (name : String) (value : AttributeValue) : Widget :=
  match name, value with
  | "pixmap", .text path => if (Text.before? ".svg" path).isSome then w.apply (.alphaTest .blend) else w
  | _, _ => w

/-- Applies one attribute. A fault is noted and changes nothing, a missing image is fatal. -/
def applyOne (site : AttributeSite) (className : String) (w : Widget) (name : String)
    (value : AttributeValue) : Applied :=
  let w := blendDrawing w name value
  match (site.read w className name value).run.run [] with
  | (.ok (some read), notices) => ⟨w.apply read, none, notices⟩
  | (.ok none, notices) => ⟨w, none, notices⟩
  | (.error fault, notices) =>
    if fault.isFatal then ⟨w, some fault, notices⟩
    else ⟨w, none, notices ++ [.fault (.ofAttribute fault)]⟩

/-- Applies attributes in order, up to a fatal one. -/
def applyList (site : AttributeSite) (className : String) : Widget → Batch → Applied
  | w, [] => ⟨w, none, []⟩
  | w, (name, value) :: rest =>
    let first := site.applyOne className w name value
    match first.fatal? with
    | some _ => first
    | none =>
      let applied := site.applyList className first.widget rest
      { applied with notices := first.notices ++ applied.notices }

def applyAll (site : AttributeSite) (className : String) (w : Widget) (batch : Batch) : Applied :=
  site.applyList className w (batch.sort site.scale)

end AttributeSite
end Skinning
