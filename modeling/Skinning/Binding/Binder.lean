import Skinning.Binding.Components
import Skinning.Skin.State
import Skinning.Space
import Skinning.Widget.Batch

/-! A binding in progress: what it goes by, what it has changed so far, and the steps that
all kinds of nodes share. -/
namespace Skinning

structure BindingSite where
  skin : Skin
  components : Components
  fragment : String
  /-- The directory of the document that the fragment was loaded from. -/
  base? : Option Path
  surface : Nat
  scale : Scale

/-- A component that a fragment adds to a screen, and what it is tied to. -/
structure Connection where
  className : String
  target : String
  targetClass? : Option String
  deriving DecidableEq, Repr

structure Binder where
  screen : Screen
  space : Space
  /-- The names bound so far, also those made for addons. -/
  used : List String
  connections : List Connection
  notices : Notices

/-- A step of a binding. What it changed before a fault stays. -/
abbrev BindingStep := ExceptT BindingFault (StateM Binder)

/-- The attributes of a node in the order of the document, with its position and size in
pixels behind them, and the rectangle that it was given. -/
structure Gathered where
  batch : Batch
  rect? : Option Rect
  space : Space
  faults : List Coordinate.Fault

namespace BindingSite

def attributes (site : BindingSite) : AttributeSite :=
  ⟨site.skin.store, site.skin.assets, site.scale, site.surface⟩

def metrics? (site : BindingSite) (node : Element) : Option FontMetrics :=
  (node.attribute? "font").map site.skin.store.metrics

/-- An attribute as a text; a file is looked for from the fragment's directory on. -/
def resolveFile (site : BindingSite) (name value : String) : AttributeValue :=
  if Attribute.files.contains name then
    .text (site.skin.assets.resolve .current value site.base?).text
  else .text value

/-- The attributes other than position and size, and those that are ignored. -/
def plainBatch (site : BindingSite) (ignored : List String) (node : Element) : Batch :=
  (node.attributes.filter fun (name, _) => !("position" :: "size" :: ignored).contains name).map
    fun (name, value) => (name, site.resolveFile name value)

/-- Gathers the attributes of a node. One with a position is placed in the space; one with
a size alone is measured. -/
def gather (site : BindingSite) (space : Space) (ignored : List String) (node : Element) :
    Gathered :=
  let batch := site.plainBatch ignored node
  let size? := node.attribute? "size"
  match node.attribute? "position", size? with
  | some position, _ =>
    let placed := space.place ⟨position, size?, site.metrics? node⟩
    ⟨batch ++ [("position", .point placed.rect.origin), ("size", .size placed.rect.size)],
      some placed.rect, placed.space, placed.faults⟩
  | none, some _ =>
    let (size, faults) := space.evaluateSize size? (site.metrics? node)
    ⟨batch ++ [("size", .size size)], none, space, faults⟩
  | none, none => ⟨batch, none, space, []⟩

end BindingSite

namespace Binder

def note (b : Binder) (notices : Notices) : Binder := { b with notices := b.notices ++ notices }

def report (b : Binder) (fault : BindingFault) : Binder := b.note [.fault (.binding fault)]

def attempt (b : Binder) (site : BindingSite) (tag : String) (step : BindingStep Unit) : Binder :=
  match step.run.run b with
  | (.ok (), b) => b
  | (.error fault, b) => (b.note [.faultyNode site.fragment tag]).report fault

end Binder

namespace BindingStep

def note (notices : Notices) : BindingStep Unit := modify (·.note notices)

def changeScreen (change : Screen → Screen) : BindingStep Unit :=
  modify fun b => { b with screen := change b.screen }

def use (name : String) : BindingStep Unit := modify fun b => { b with used := name :: b.used }

def ofExcept : Except BindingFault α → BindingStep α
  | .ok a => pure a
  | .error fault => throw fault

def require (value? : Option α) (fault : BindingFault) : BindingStep α :=
  match value? with
  | some a => pure a
  | none => throw fault

/-- Dresses a widget in the attributes of a node, as far as they can be applied; the
second result is the missing image that ended it. -/
def dress (site : BindingSite) (ignored : List String) (node : Element) (className : String)
    (w : Widget) : BindingStep (Widget × Option AttributeFault) := do
  let gathered := site.gather (← get).space ignored node
  modify fun b => { b with space := gathered.space }
  note (.ofCoordinates gathered.faults)
  let applied := site.attributes.applyAll className w gathered.batch
  note applied.notices
  return (applied.widget, applied.fatal?)

def check : Option AttributeFault → BindingStep Unit
  | some fault => throw (.ofAttribute fault)
  | none => pure ()

end BindingStep
end Skinning
