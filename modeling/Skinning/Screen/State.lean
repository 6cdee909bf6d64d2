import Skinning.Markup.Element
import Skinning.Screen.Source
import Skinning.Widget.State

/-! Screens: named elements and sources that the host puts there, and what a fragment
adds when it is bound: renderers, decorations and hooks. -/
namespace Skinning

/-- An element that a widget node can dress. Those that are no part of the interface
need no node. -/
structure Component where
  className : String
  widget : Widget
  isGui : Bool
  deriving DecidableEq, Repr

structure Renderer where
  kind : String
  component : Component
  pipeline : Nat
  input : StagePath
  label : String
  deriving DecidableEq, Repr

inductive DecorationKind where
  | label
  | pixmap
  deriving DecidableEq, Repr

def DecorationKind.className : DecorationKind → String
  | .label => "eLabel"
  | .pixmap => "ePixmap"

structure Decoration where
  kind : DecorationKind
  widget : Widget
  deriving DecidableEq, Repr

inductive EmbeddedSkin where
  | single (source : String)
  | candidates (sources : List String)
  /-- A document with places for numbers of pixels. -/
  | template (source : String) (values : List Int)
  deriving DecidableEq, Repr

structure Screen where
  peer : Peer
  /-- The pipelines of all sources there have been, also those of related screens. -/
  pipelines : List Stage
  window : Widget
  elements : Table String Component
  renderers : List Renderer
  decorations : List Decoration
  finishHooks : List String
  contentHooks : List String
  mandatory? : Option (List String)
  embedded? : Option EmbeddedSkin
  embeddedRoot? : Option Element
  scale : Scale

namespace Screen

def ofClass (className : String) : Screen where
  peer := .ofClass className
  pipelines := []
  window := .initial
  elements := ∅
  renderers := []
  decorations := []
  finishHooks := []
  contentHooks := []
  mandatory? := none
  embedded? := none
  embeddedRoot? := none
  scale := .identity

instance : Inhabited Screen := ⟨ofClass ""⟩

def className (s : Screen) : String := s.peer.className

def addElement (s : Screen) (name : String) (component : Component) : Screen :=
  { s with elements := s.elements.insert name component }

def addEntry (s : Screen) (name : String) (source : Source) : Screen :=
  { s with peer := { s.peer with sources := s.peer.sources.insert name source } }

def addSource (s : Screen) (name className : String) : Screen :=
  { s.addEntry name (.live s.pipelines.length) with
    pipelines := s.pipelines ++ [.source name className] }

def addRelated (s : Screen) (name : String) (other : Screen) : Screen :=
  { s with
    peer := { s.peer with related := (name, s.pipelines.length, other.peer) :: s.peer.related }
    pipelines := s.pipelines ++ other.pipelines }

/-- A new embedded document takes the place of one that was read before. -/
def setEmbedded (s : Screen) (skin : EmbeddedSkin) : Screen :=
  { s with embedded? := some skin, embeddedRoot? := none }

def source? (s : Screen) (name : String) : Option Source := s.peer.sources.get? name

def contains (s : Screen) (name : String) : Bool :=
  s.elements.contains name || s.peer.sources.contains name

def classOf? (s : Screen) (name : String) : Option String :=
  match s.elements.get? name with
  | some component => some component.className
  | none =>
    match s.source? name with
    | some (.live pipeline) => s.pipelines[pipeline]?.map (·.kind.className)
    | _ => none

def elementNames (s : Screen) : List String := s.elements.keys.mergeSort fun a b => a ≤ b

/-- Drops what was attached when a fragment was bound. -/
def clearBindings (s : Screen) : Screen :=
  { s with renderers := [], decorations := [], finishHooks := [], contentHooks := [] }

/-- The stages from a renderer's source to the one that it reads from. -/
def trail (s : Screen) (r : Renderer) : List StageKind :=
  (s.pipelines[r.pipeline]?.map (·.trail r.input)).getD []

end Screen
end Skinning
