import Skinning.Binding.Binder
import Skinning.Binding.Resolution

/-! Binding single nodes: widgets that dress an element, show a source or add a component,
applets, and decorations. -/
namespace Skinning

namespace Screen

/-- Puts a renderer behind converters of a source. Converters that are there already are
shared. -/
def attach (s : Screen) (kind : String) (component : Component) (source : ResolvedSource)
    (requests : List ConverterRequest) : Screen :=
  match s.pipelines[source.pipeline]? with
  | none => s
  | some stage =>
    let (stage, input) := stage.connectAll requests
    { s with
      pipelines := s.pipelines.set source.pipeline stage
      renderers := s.renderers ++ [⟨kind, component, source.pipeline, input, source.path⟩] }

def addDecoration (s : Screen) (decoration : Decoration) : Screen :=
  { s with decorations := s.decorations ++ [decoration] }

def addFinishHook (s : Screen) (hook : String) : Screen :=
  { s with finishHooks := s.finishHooks ++ [hook] }

def addContentHook (s : Screen) (hook : String) : Screen :=
  { s with contentHooks := s.contentHooks ++ [hook] }

/-- Whether a screen has one of the names that a node is for. -/
def meetsCondition (s : Screen) (node : Element) : Bool :=
  match node.filled? "conditional" with
  | some names => (Text.split ',' names).any fun name => s.contains (Text.trim name)
  | none => true

/-- Whether the target that a node names is of one of the classes listed behind it. -/
def meetsTypes (s : Screen) (node : Element) : Bool :=
  match (Text.split ',' ((node.attribute? "objectTypes").getD "")).map Text.trim with
  | target :: kind :: kinds =>
    match s.classOf? target with
    | some className => (kind :: kinds).contains className
    | none => false
  | _ => true

/-- Whether a node is for the screen at all. -/
def admits (s : Screen) (node : Element) : Bool := s.meetsCondition node && s.meetsTypes node

end Screen

namespace BindingStep

/-- Dresses an element of the screen. What was applied before a missing image stays. -/
def bindElement (site : BindingSite) (node : Element) (name : String) : BindingStep Unit := do
  use name
  let component ← require ((← get).screen.elements.get? name)
    (.missingComponent name site.fragment)
  let (widget, fatal?) ← dress site ["name"] node component.className component.widget
  changeScreen (·.addElement name { component with widget })
  check fatal?

/-- The text of a `convert` node, without the blanks around it unless it asks for them. -/
def converterArguments (node : Element) : String :=
  if (node.attribute? "nostrip").any (Attribute.isYes "nostrip") then node.text
  else Text.trim node.text

def converter (site : BindingSite) (node : Element) : BindingStep ConverterRequest := do
  let kind ← require (node.filled? "type") .converterWithoutType
  let reported ← require (site.components.converter? kind) (.unknownConverter kind)
  let arguments := converterArguments node
  return ⟨kind, arguments, reported arguments⟩

/-- Adds a renderer that shows a source. One that cannot be dressed leaves no trace in
the pipeline. -/
def bindSource (site : BindingSite) (node : Element) (path : String) : BindingStep Unit := do
  let (source, notices) := (← get).screen.peer.resolve site.fragment path
  note notices
  let source ← ofExcept source
  let kind ← require (node.filled? "render") (.missingRenderAttribute source.path)
  let requests ← (node.childrenNamed "convert").mapM (converter site)
  let component ← require (site.components.renderer? kind) (.unknownRenderer kind)
  let (widget, fatal?) ← dress site ["render", "source"] node component.className component.widget
  check fatal?
  changeScreen (·.attach kind { component with widget } source requests)

def unusedName (lead : String) (used : List String) : String :=
  let names := (List.range (used.length + 1)).map fun i => lead ++ toString i
  (names.find? fun name => !used.contains name).getD lead

/-- Adds a component that is tied to another by its name. It stays even if an image is
missing. -/
def bindAddon (site : BindingSite) (node : Element) (kind : String) : BindingStep Unit := do
  let component ← require (site.components.addon? kind) (.unknownAddon kind)
  let target ← require (node.filled? "connection") (.missingConnection kind)
  let b ← get
  let name := unusedName (site.fragment ++ "_" ++ kind ++ "_" ++ target ++ "_") b.used
  use name
  let connection : Connection := ⟨component.className, target, b.screen.classOf? target⟩
  modify fun b => { b with connections := b.connections ++ [connection] }
  let (widget, fatal?) ←
    dress site ["addon", "connection"] node component.className component.widget
  changeScreen (·.addElement name { component with widget })
  check fatal?

/-- A widget node goes by its name, else by its source, else by its addon. -/
def bindWidget (site : BindingSite) (node : Element) : BindingStep Unit :=
  match node.filled? "name", node.filled? "source", node.filled? "addon" with
  | some name, _, _ => bindElement site node name
  | none, some path, _ => bindSource site node path
  | none, none, some kind => bindAddon site node kind
  | none, none, none => throw .noTarget

def bindApplet (site : BindingSite) (node : Element) : BindingStep Unit := do
  match site.components.compile (Text.trim node.text), node.attribute? "type" with
  | .error error, _ => throw (.appletCompile error)
  | .ok hook, some "onLayoutFinish" => changeScreen (·.addFinishHook hook)
  | .ok hook, some "onContentChanged" => changeScreen (·.addContentHook hook)
  | .ok _, kind? => throw (.unknownAppletTrigger (kind?.getD ""))

def bindDecoration (site : BindingSite) (node : Element) (kind : DecorationKind) :
    BindingStep Unit := do
  let (widget, fatal?) ← dress site ["name"] node kind.className .initial
  check fatal?
  changeScreen (·.addDecoration ⟨kind, widget⟩)

/-- Binds a node that holds no others. Unknown nodes are passed over. -/
def bindLeaf (site : BindingSite) (node : Element) : BindingStep Unit :=
  match node.tag with
  | "widget" => bindWidget site node
  | "applet" => bindApplet site node
  | "eLabel" => bindDecoration site node .label
  | "ePixmap" => bindDecoration site node .pixmap
  | _ => pure ()

end BindingStep
end Skinning
