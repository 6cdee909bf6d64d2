import Skinning.Binding.Embedded
import Skinning.Binding.Walk
import Skinning.Skin.Survey

/-! Binding a fragment to a screen. -/
namespace Skinning

/-- A root to bind, the name it goes by, and the directory it was loaded from. -/
structure ChosenRoot where
  name : String
  root : Element
  base? : Option Path
  deriving Repr

structure Bound where
  result : Except SkinFault String
  screen : Screen
  notices : Notices
  connections : List Connection

namespace Skin

/-- Whether a fragment declares all that a screen cannot do without. -/
def suits (s : Skin) (screen : Screen) (name : String) : Bool :=
  match screen.mandatory? with
  | none | some [] => true
  | some mandatory =>
    let declared := s.declaredNames name
    mandatory.all declared.contains

def choose (s : Skin) (screen : Screen) : List String → Option (String × Fragment) × Notices
  | [] => (none, [])
  | name :: rest =>
    match s.fragment? name with
    | none => s.choose screen rest
    | some fragment =>
      if s.suits screen name then (some (name, fragment), [])
      else
        let (chosen?, notices) := s.choose screen rest
        (chosen?, .rejected name (screen.mandatory?.getD []) :: notices)

/-- The ratios between a surface and the resolution that a root is made for. -/
def rootScale (root : Element) (desktop : Rect) : Scale × Notices :=
  match root.attribute? "resolution" with
  | none => (.identity, [])
  | some resolution =>
    match Pair.ints resolution with
    | .ok (width, height) => (⟨.ofInts desktop.width width, .ofInts desktop.height height⟩, [])
    | .error fault =>
      (.identity, [.fault (.ofAttribute (.invalidValue "resolution" resolution (.literal fault)))])

/-- Dresses the window of a screen; the nodes of the root have its rectangle to share. -/
def bindWindow (site : BindingSite) (root : Element) (desktop : Rect) (b : Binder) : Binder :=
  let gathered := site.gather b.space ["name", "id"] root
  let applied :=
    site.attributes.applyAll b.screen.className b.screen.window gathered.batch
  let b := b.note (.ofCoordinates gathered.faults ++ applied.notices ++
    (applied.fatal?.map fun fault => Notice.fault (.ofAttribute fault)).toList)
  let space : Space :=
    .ofRect .sequential (gathered.rect?.getD desktop) site.scale site.skin.store.factor
  { b with screen := { b.screen with window := applied.widget }, space := space.resetOrigin }

def unusedElements (b : Binder) : List String :=
  b.screen.elementNames.filter fun name =>
    !b.used.contains name && (b.screen.elements.get? name).any (·.isGui)

/-- Binds a root to a screen, in place of what was bound before. -/
def bindRoot (s : Skin) (components : Components) (screen : Screen) (chosen : ChosenRoot)
    (surface : Nat) : Bound :=
  let size := s.store.surfaceSize surface
  let desktop : Rect := ⟨0, 0, size.width, size.height⟩
  let (scale, notices) := rootScale chosen.root desktop
  let site : BindingSite := ⟨s, components, chosen.name, chosen.base?, surface, scale⟩
  let b : Binder := {
    screen := { screen.clearBindings with scale }
    space := .ofRect .stacking desktop scale s.store.factor
    used := []
    connections := []
    notices := .processing chosen.name screen.className :: notices }
  let b := (bindWindow site chosen.root desktop b).bindRoot site chosen.root
  match unusedElements b with
  | [] => ⟨.ok chosen.name, b.screen, b.notices, b.connections⟩
  | unused => ⟨.error (.unusedElements chosen.name unused), b.screen, b.notices, b.connections⟩

/-- Binds the first suitable fragment of some names to a screen, or else the document that
the screen brings along. -/
def bind (s : Skin) (components : Components) (screen : Screen) (names : List String)
    (surface : Nat) : Bound :=
  let (chosen?, notices) := s.choose screen names
  match chosen? with
  | some (name, fragment) =>
    let bound := s.bindRoot components screen ⟨name, fragment.element, some fragment.base⟩ surface
    { bound with notices := notices ++ bound.notices }
  | none =>
    let name := "<embedded-in-" ++ screen.className ++ ">"
    let reading := screen.readEmbedded name s.store.factor surface
    match reading.root with
    | .error error => ⟨.error (.parse error), reading.screen, notices ++ reading.notices, []⟩
    | .ok root =>
      let bound := s.bindRoot components reading.screen ⟨name, root, none⟩ surface
      { bound with notices := notices ++ reading.notices ++ bound.notices }

end Skin
end Skinning
