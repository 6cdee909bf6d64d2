import Mathlib.Data.Option.Basic
import Skinning.Proofs.FragmentChoice
import Skinning.Proofs.SharedConverters

/-! The names that a binding takes up. It comes to no node that a survey of its fragment passes
over, so that an element no fragment declares is left without one. -/
namespace Skinning

open Binder BindingStep Element

/-! A walk does not leave a set of nodes that panels do not lead out of. -/

/-- The nodes inside of a panel are in a set of nodes with it, and so are those that it inlines. -/
structure BindingSite.Encloses (site : BindingSite) (within : Element → Prop) : Prop where
  own : ∀ node, within node → node.tag = "panel" → ∀ child ∈ node.children, within child
  inlined : ∀ node name fragment, within node → node.tag = "panel" →
    node.filled? "name" = some name → site.skin.fragment? name = some fragment →
    ∀ child ∈ fragment.element.children, within child

namespace BindingSite.Encloses

variable {site : BindingSite} {within : Element → Prop} {inliner : Inliner} {inside : Tracer}

/-- A tracer stays within a set of nodes. -/
def Stays (within : Element → Prop) (inside : Tracer) : Prop :=
  ∀ inlined root b, (∀ child ∈ root.children, within child) →
    ∀ v ∈ inside inlined root b, within v.node

theorem visitPanel (encloses : site.Encloses within) (stays : Stays within inside)
    (inlined : List String) {node : Element} (b : Binder) (isWithin : within node)
    (isPanel : node.tag = "panel") : ∀ v ∈ b.visitPanel site inside inlined node, within v.node := by
  rcases inlinePanel_cases b site (fun _ _ b => b) inside inlined node with
    ⟨-, none⟩ | ⟨name, fragment, named, -, found, -, -, visits⟩
  · simp [none]
  · rw [visits]
    exact stays _ _ _ (encloses.inlined node name fragment isWithin isPanel named found)

mutual

theorem visitNode (encloses : site.Encloses within) (stays : Stays within inside)
    (inlined : List String) : (node : Element) → (b : Binder) → within node →
    ∀ v ∈ Binder.visitNode site inliner inside inlined node b, within v.node
  | ⟨tag, attributes, text?, line, children⟩, b, isWithin => by
    generalize same : (⟨tag, attributes, text?, line, children⟩ : Element) = node at isWithin ⊢
    have inner : node.children = children := by rw [← same]
    by_cases admitted : b.screen.admits node
    · by_cases isPanel : node.tag = "panel"
      · have panel := encloses.visitPanel stays inlined b isWithin isPanel
        cases place : node.attribute? "position" with
        | some position =>
          rw [(bindNode_of_placed site inliner inside inlined admitted isPanel place).2, inner]
          have own : ∀ child ∈ children, within child :=
            inner ▸ encloses.own node isWithin isPanel
          have below := encloses.visitNodes stays inlined children
            ((b.inlinePanel site inliner inlined node).openPanel site node position) own
          exact List.forall_mem_cons.mpr ⟨isWithin, List.forall_mem_append.mpr ⟨panel, below⟩⟩
        | none =>
          rw [(bindNode_of_bare site inliner inside inlined admitted isPanel place).2]
          exact List.forall_mem_cons.mpr ⟨isWithin, panel⟩
      · rw [(bindNode_of_leaf site inliner inside inlined admitted isPanel).2]
        simpa using isWithin
    · rw [(bindNode_of_passed site inliner inside inlined admitted).2]
      simpa using isWithin

theorem visitNodes (encloses : site.Encloses within) (stays : Stays within inside)
    (inlined : List String) : (nodes : List Element) → (b : Binder) → (∀ node ∈ nodes, within node) →
    ∀ v ∈ Binder.visitNodes site inliner inside inlined nodes b, within v.node
  | [], b, _ => by simp [Binder.visitNodes]
  | node :: rest, b, areWithin => by
    obtain ⟨isWithin, others⟩ := List.forall_mem_cons.mp areWithin
    rw [Binder.visitNodes]
    exact List.forall_mem_append.mpr ⟨encloses.visitNode stays inlined node b isWithin,
      encloses.visitNodes stays inlined rest _ others⟩

end

theorem visits (encloses : site.Encloses within) (b : Binder) {root : Element}
    (begins : ∀ child ∈ root.children, within child) : ∀ v ∈ b.visits site root, within v.node := by
  have stays (depth : Nat) : Stays within (visitTo site depth) := by
    induction depth with
    | zero =>
      intro inlined root b _ v member
      simp [visitTo] at member
    | succ depth ih =>
      intro inlined root b areWithin
      exact encloses.visitNodes ih inlined root.children b areWithin
  exact encloses.visitNodes (stays _) [] root.children b begins

end BindingSite.Encloses

/-- A node stands in a fragment that panels lead to. -/
def Skin.Lists (s : Skin) (first : String) (node : Element) : Prop :=
  ∃ name fragment, s.LeadsTo first name ∧ s.fragment? name = some fragment ∧
    Listed fragment.element.children node

theorem Element.Listed.append {nodes : List Element} {panel child : Element}
    (listed : Listed nodes panel) (isPanel : panel.tag = "panel") (member : child ∈ panel.children) :
    Listed nodes child := by
  induction listed with
  | here inside => exact .inside inside isPanel (.here member)
  | inside inside isOuter _ ih => exact .inside inside isOuter (ih isPanel member)

theorem BindingSite.encloses_lists (site : BindingSite) (first : String) :
    site.Encloses (site.skin.Lists first) where
  own := by
    rintro node ⟨name, fragment, leads, found, listed⟩ isPanel child member
    exact ⟨name, fragment, leads, found, listed.append isPanel member⟩
  inlined := by
    rintro node next entered ⟨name, fragment, leads, found, listed⟩ isPanel named enters child member
    exact ⟨next, entered, .panel leads found listed isPanel named, enters, .here member⟩

theorem Skin.Lists.declared {s : Skin} {first x : String} {node : Element}
    (lists : s.Lists first node) (isWidget : node.tag = "widget") (declares : node.Declares x) :
    x ∈ s.declaredNames first := by
  obtain ⟨name, fragment, leads, found, listed⟩ := lists
  exact Skin.mem_declaredNames.mpr ⟨name, fragment, node, leads, found, listed, isWidget, declares⟩

/-! The names that nodes take up. -/

theorem Element.attribute?_of_filled? {node : Element} {name value : String}
    (filled : node.filled? name = some value) : node.attribute? name = some value :=
  (Option.filter_eq_some_iff.mp filled).1

namespace Element

/-- The name of the element that a widget node dresses. -/
def dresses? (node : Element) : Option String :=
  if node.tag = "widget" then node.filled? "name" else none

/-- The kind of the component that a widget node adds, and what it is to be tied to. -/
def adds? (node : Element) : Option (String × String) :=
  if node.tag = "widget" ∧ node.filled? "name" = none ∧ node.filled? "source" = none then
    (node.filled? "addon").bind fun kind => (node.filled? "connection").map (kind, ·)
  else none

theorem Declares.of_dresses? {node : Element} {name : String} (dresses : node.dresses? = some name) :
    node.tag = "widget" ∧ node.Declares name := by
  obtain ⟨isWidget, named⟩ : node.tag = "widget" ∧ node.filled? "name" = some name := by
    simpa [dresses?] using dresses
  exact ⟨isWidget, .name (attribute?_of_filled? named)⟩

theorem Declares.of_shows? {node : Element} {path : String} (shows : node.shows? = some path) :
    node.tag = "widget" ∧ node.Declares path := by
  obtain ⟨⟨isWidget, -⟩, sourced⟩ :
      (node.tag = "widget" ∧ node.filled? "name" = none) ∧ node.filled? "source" = some path := by
    simpa [shows?] using shows
  exact ⟨isWidget, .source (attribute?_of_filled? sourced)⟩

end Element

/-- The name that is made for a component which a widget node adds, where some are in use. -/
def BindingSite.makes? (site : BindingSite) (node : Element) (used : List String) :
    Option String := do
  let (kind, target) ← node.adds?
  let _ ← site.components.addon? kind
  return unusedName (site.fragment ++ "_" ++ kind ++ "_" ++ target ++ "_") used

/-- What a binding makes of the element of a name: its class, and whether it is part of the
interface. -/
def Screen.kindOf? (s : Screen) (name : String) : Option (String × Bool) :=
  (s.elements.get? name).map fun component => (component.className, component.isGui)

theorem Screen.mem_elementNames {s : Screen} {name : String} :
    name ∈ s.elementNames ↔ (s.kindOf? name).isSome := by
  rw [elementNames, List.mem_mergeSort, Table.mem_keys_iff, kindOf?, Option.isSome_map]

theorem Screen.kindOf?_addElement (s : Screen) (name : String) (component : Component)
    (other : String) : (s.addElement name component).kindOf? other =
      if other = name then some (component.className, component.isGui) else s.kindOf? other := by
  unfold kindOf? addElement
  rw [Table.get?_insert]
  split <;> rfl

namespace Binder

/-- A binder after one, where a node took up a name or was given one of its own. -/
structure TakesUp (taken? made? : Option String) (before after : Binder) : Prop where
  used : after.used = taken?.toList ++ made?.toList ++ before.used
  kinds : ∀ name, made? ≠ some name → after.screen.kindOf? name = before.screen.kindOf? name

theorem Quiet.takesUp {taken? made? : Option String} {before b after : Binder}
    (takes : before.TakesUp taken? made? b) (quiet : b.Quiet after) :
    before.TakesUp taken? made? after := by
  refine ⟨quiet.used.trans takes.used, fun name other => ?_⟩
  rw [quiet.screen]
  exact takes.kinds name other

theorem Quiet.takesNone {before after : Binder} (quiet : before.Quiet after) :
    before.TakesUp none none after :=
  quiet.takesUp ⟨rfl, fun _ _ => rfl⟩

/-- What holds after a step, whatever its outcome, holds of a binder that attempts it. -/
theorem attempt_of_yields {b : Binder} {site : BindingSite} {tag : String}
    {step : BindingStep Unit} {holds : Binder → Prop}
    (yields : step.Yields b (fun _ => holds) fun _ => holds)
    (stays : ∀ before after, holds before → before.Quiet after → holds after) :
    holds (b.attempt site tag step) := by
  unfold Yields at yields
  unfold attempt
  generalize step.run.run b = outcome at yields ⊢
  obtain ⟨fault | ⟨⟩, after⟩ := outcome
  · have noted := stays _ _ yields (quiet_note after [.faultyNode site.fragment tag])
    exact stays _ _ noted (quiet_note _ [.fault (.binding fault)])
  · exact yields

end Binder

namespace BindingStep

theorem require_takesUp {value? : Option α} {fault : BindingFault} {taken? made? : Option String}
    {before b : Binder} (takes : before.TakesUp taken? made? b) :
    (require value? fault).Yields b (fun _ => before.TakesUp taken? made?)
      fun _ => before.TakesUp taken? made? :=
  .require (fun _ _ => takes) takes

theorem dress_takesUp {site : BindingSite} {ignored : List String} {node : Element}
    {className : String} {w : Widget} {taken? made? : Option String}
    {failed : BindingFault → Binder → Prop} {before b : Binder}
    (takes : before.TakesUp taken? made? b) :
    (dress site ignored node className w).Yields b (fun _ => before.TakesUp taken? made?) failed :=
  .dress fun _ _ quiet => quiet.takesUp takes

theorem changeScreen_takesNone {change : Screen → Screen} {failed : BindingFault → Binder → Prop}
    {before b : Binder} (takes : before.TakesUp none none b)
    (apart : ∀ s, (change s).elements = s.elements) :
    (changeScreen change).Yields b (fun _ => before.TakesUp none none) failed := by
  refine .changeScreen ⟨takes.used, fun name distinct => ?_⟩
  rw [← takes.kinds name distinct]
  exact congrArg (fun elements => (Table.get? elements name).map _) (apart b.screen)

theorem bindElement_takesUp (site : BindingSite) (node : Element) (name : String) (b : Binder) :
    (bindElement site node name).Yields b (fun _ => b.TakesUp (some name) none)
      fun _ => b.TakesUp (some name) none := by
  have used : b.TakesUp (some name) none { b with used := name :: b.used } := ⟨rfl, fun _ _ => rfl⟩
  unfold bindElement
  refine .step (c := { b with used := name :: b.used }) rfl (.step rfl ?_)
  refine .bind (.require (Q := fun component after =>
    b.screen.elements.get? name = some component ∧ after = { b with used := name :: b.used })
    (fun component found => ⟨found, rfl⟩) used) ?_
  rintro component _ ⟨found, rfl⟩
  refine .bind (.dress (Q := fun _ after =>
    Binder.Quiet { b with used := name :: b.used } after) fun _ _ quiet => quiet) ?_
  rintro ⟨widget, fatal?⟩ after quiet
  -- The element keeps its class, and whether it is part of the interface.
  have dressed : b.TakesUp (some name) none
      { after with screen := after.screen.addElement name { component with widget } } := by
    refine ⟨quiet.used, fun other _ => ?_⟩
    rw [Screen.kindOf?_addElement, quiet.screen]
    split
    next same => simp [same, Screen.kindOf?, found]
    · rfl
  exact .bind (.changeScreen dressed) fun _ _ takes => .check takes fun _ => takes

theorem bindAddon_takesUp {site : BindingSite} {node : Element} {kind : String}
    (isWidget : node.tag = "widget") (unnamed : node.filled? "name" = none)
    (sourceless : node.filled? "source" = none) (added : node.filled? "addon" = some kind)
    (b : Binder) :
    (bindAddon site node kind).Yields b (fun _ => b.TakesUp none (site.makes? node b.used))
      fun _ => b.TakesUp none (site.makes? node b.used) := by
  have adds : node.adds? = (node.filled? "connection").map fun target => (kind, target) := by
    cases connected : node.filled? "connection" <;>
      simp [adds?, isWidget, unnamed, sourceless, added, connected]
  unfold bindAddon
  cases known : site.components.addon? kind with
  | none =>
    have made : site.makes? node b.used = none := by
      simp [BindingSite.makes?, adds, known, Option.bind_map]
    rw [made]
    exact .throw (Quiet.refl b).takesNone
  | some component =>
    cases connected : node.filled? "connection" with
    | none =>
      have made : site.makes? node b.used = none := by
        simp [BindingSite.makes?, adds, connected]
      rw [made]
      exact .step rfl (.throw (Quiet.refl b).takesNone)
    | some target =>
      let name := unusedName (site.fragment ++ "_" ++ kind ++ "_" ++ target ++ "_") b.used
      have made : site.makes? node b.used = some name := by
        simp [BindingSite.makes?, adds, connected, known, name]
      rw [made]
      have named : b.TakesUp none (some name)
          { b with
            used := name :: b.used
            connections := b.connections ++
              [⟨component.className, target, b.screen.classOf? target⟩] } :=
        ⟨rfl, fun _ _ => rfl⟩
      refine .step rfl (.step rfl (.step rfl (.step rfl (.step rfl ?_))))
      refine .bind (dress_takesUp named) ?_
      rintro ⟨widget, fatal?⟩ after takes
      have extended : b.TakesUp none (some name)
          { after with screen := after.screen.addElement name { component with widget } } := by
        refine ⟨takes.used, fun other distinct => ?_⟩
        have apart : other ≠ name := fun same => distinct (congrArg some same.symm)
        rw [Screen.kindOf?_addElement, if_neg apart]
        exact takes.kinds other distinct
      exact .bind (.changeScreen extended) fun _ _ takes => .check takes fun _ => takes

theorem bindSource_takesNone (site : BindingSite) (node : Element) (path : String) (b : Binder) :
    (bindSource site node path).Yields b (fun _ => b.TakesUp none none)
      fun _ => b.TakesUp none none := by
  unfold bindSource
  refine .step (a := b) (c := b) rfl ?_
  generalize b.screen.peer.resolve site.fragment path = resolved
  obtain ⟨source, notices⟩ := resolved
  have noted : b.TakesUp none none (b.note notices) := (b.quiet_note notices).takesNone
  refine .step (c := b.note notices) rfl ?_
  refine .bind (.ofExcept (Q := fun _ => b.TakesUp none none) (fun _ _ => noted) fun _ => noted) ?_
  intro source after takes
  refine .bind (require_takesUp takes) fun kind after takes => ?_
  refine .bind (R := fun _ => b.TakesUp none none)
    ((converters_yield site _ after).mono ?_ ?_) fun requests after takes => ?_
  · rintro _ _ ⟨rfl, -⟩
    exact takes
  · rintro _ _ rfl
    exact takes
  refine .bind (require_takesUp takes) fun component after takes => ?_
  refine .bind (dress_takesUp takes) fun dressed after takes => ?_
  refine .bind (.check (Q := fun _ => b.TakesUp none none) takes fun _ => takes) ?_
  intro _ after takes
  refine changeScreen_takesNone takes fun s => ?_
  unfold Screen.attach
  split <;> rfl

theorem bindApplet_takesNone (site : BindingSite) (node : Element) (b : Binder) :
    (bindApplet site node).Yields b (fun _ => b.TakesUp none none)
      fun _ => b.TakesUp none none := by
  have begins : b.TakesUp none none b := (Quiet.refl b).takesNone
  unfold bindApplet
  split
  · exact .throw begins
  · exact changeScreen_takesNone begins fun _ => rfl
  · exact changeScreen_takesNone begins fun _ => rfl
  · exact .throw begins

theorem bindDecoration_takesNone (site : BindingSite) (node : Element) (kind : DecorationKind)
    (b : Binder) :
    (bindDecoration site node kind).Yields b (fun _ => b.TakesUp none none)
      fun _ => b.TakesUp none none := by
  unfold bindDecoration
  refine .bind (dress_takesUp (Quiet.refl b).takesNone) fun dressed after takes => ?_
  refine .bind (.check (Q := fun _ => b.TakesUp none none) takes fun _ => takes) ?_
  intro _ after takes
  exact changeScreen_takesNone takes fun _ => rfl

/-- Of all nodes only widget nodes take up names: those that dress an element its name, and
those that add a component one that is made for it. -/
theorem bindLeaf_takesUp (site : BindingSite) (node : Element) (b : Binder) :
    (bindLeaf site node).Yields b (fun _ => b.TakesUp node.dresses? (site.makes? node b.used))
      fun _ => b.TakesUp node.dresses? (site.makes? node b.used) := by
  by_cases isWidget : node.tag = "widget"
  · have dresses : node.dresses? = node.filled? "name" := by simp [dresses?, isWidget]
    have leaf : bindLeaf site node = bindWidget site node := by simp [bindLeaf, isWidget]
    rw [leaf, dresses]
    unfold bindWidget
    cases named : node.filled? "name" with
    | some name =>
      have made : site.makes? node b.used = none := by simp [BindingSite.makes?, adds?, named]
      rw [made]
      exact bindElement_takesUp site node name b
    | none =>
      cases sourced : node.filled? "source" with
      | some path =>
        have made : site.makes? node b.used = none := by simp [BindingSite.makes?, adds?, sourced]
        rw [made]
        exact bindSource_takesNone site node path b
      | none =>
        cases added : node.filled? "addon" with
        | some kind => exact bindAddon_takesUp isWidget named sourced added b
        | none =>
          have made : site.makes? node b.used = none := by simp [BindingSite.makes?, adds?, added]
          rw [made]
          exact .throw (Quiet.refl b).takesNone
  · have dresses : node.dresses? = none := by simp [dresses?, isWidget]
    have made : site.makes? node b.used = none := by simp [BindingSite.makes?, adds?, isWidget]
    rw [dresses, made]
    unfold bindLeaf
    split
    · contradiction
    · exact bindApplet_takesNone site node b
    · exact bindDecoration_takesNone site node .label b
    · exact bindDecoration_takesNone site node .pixmap b
    · exact .pure (Quiet.refl b).takesNone

end BindingStep

namespace Visit

variable (site : BindingSite)

/-- The name of the element that a visited node dresses, if it is for the screen. -/
def dressed? (v : Visit) : Option String :=
  if v.binder.screen.admits v.node then v.node.dresses? else none

/-- The name that is made for the component which a visited node adds, if it is for the screen. -/
def made? (v : Visit) : Option String :=
  if v.binder.screen.admits v.node then site.makes? v.node v.binder.used else none

/-- The node of a visit takes up a name, or is given one. -/
def TakesUp (v : Visit) (name : String) : Prop := v.dressed? = some name ∨ v.made? site = some name

variable {site} {v : Visit}

theorem dressed?_of_passed (passed : ¬ v.binder.screen.admits v.node) : v.dressed? = none :=
  if_neg passed

theorem made?_of_passed (passed : ¬ v.binder.screen.admits v.node) : v.made? site = none :=
  if_neg passed

theorem dressed?_of_panel (isPanel : v.node.tag = "panel") : v.dressed? = none := by
  simp [dressed?, Element.dresses?, isPanel]

theorem made?_of_panel (isPanel : v.node.tag = "panel") : v.made? site = none := by
  simp [made?, BindingSite.makes?, Element.adds?, isPanel]

variable (site) in
theorem takesUp_attempt (admitted : v.binder.screen.admits v.node) :
    v.binder.TakesUp v.dressed? (v.made? site)
      (v.binder.attempt site v.node.tag (BindingStep.bindLeaf site v.node)) := by
  rw [dressed?, made?, if_pos admitted, if_pos admitted]
  exact attempt_of_yields (BindingStep.bindLeaf_takesUp site v.node v.binder)
    fun _ _ takes quiet => quiet.takesUp takes

end Visit

theorem Visit.shows?_of_attachment? {site : BindingSite} {v : Visit} {a : Attachment}
    (attached : v.attachment? site = some a) :
    ∃ path source, v.node.shows? = some path ∧ a = ⟨v.node, source⟩ := by
  unfold attachment? at attached
  cases shows : v.node.shows? with
  | none => simp [shows] at attached
  | some path =>
    simp only [shows, Option.bind_eq_bind, Option.bind_some, Option.bind_eq_some_iff] at attached
    obtain ⟨-, -, -, -, source, -, -, -, same⟩ := attached
    obtain rfl := Option.some.inj same
    exact ⟨path, source, rfl, rfl⟩

/-- A renderer is the one that a node got for its source. -/
structure Renderer.IsOf (r : Renderer) (a : Attachment) : Prop where
  render : a.node.filled? "render" = some r.kind
  source : r.pipeline = a.source.pipeline
  label : r.label = a.source.path

/-- What some visits have come to: the names in use, the elements that there are, and the
renderers in their order. -/
structure Accounts (site : BindingSite) (start : Screen) (past : List Visit) (b : Binder) :
    Prop where
  used : ∀ name, name ∈ b.used ↔ ∃ v ∈ past, v.TakesUp site name
  kinds : ∀ name, (∀ v ∈ past, v.made? site ≠ some name) →
    b.screen.kindOf? name = start.kindOf? name
  renderers : List.Forall₂ Renderer.IsOf b.screen.renderers (past.filterMap (·.attachment? site))

namespace Accounts

variable {site : BindingSite} {start : Screen} {past : List Visit}

theorem append {v : Visit} {after : Binder} (accounts : Accounts site start past v.binder)
    (takes : v.binder.TakesUp v.dressed? (v.made? site) after)
    (renderers : List.Forall₂ Renderer.IsOf after.screen.renderers
      ((past ++ [v]).filterMap (·.attachment? site))) :
    Accounts site start (past ++ [v]) after := by
  refine ⟨fun name => ?_, fun name new => ?_, renderers⟩
  · rw [takes.used]
    simp only [List.mem_append, Option.mem_toList, accounts.used, Visit.TakesUp, List.mem_singleton,
      or_and_right, exists_or, exists_eq_left]
    exact or_comm
  · rw [takes.kinds name (new v (by simp))]
    exact accounts.kinds name fun w before => new w (by simp [before])

theorem silent {v : Visit} {after : Binder} (accounts : Accounts site start past v.binder)
    (takes : v.binder.TakesUp v.dressed? (v.made? site) after)
    (unattached : v.attachment? site = none)
    (same : after.screen.renderers = v.binder.screen.renderers) :
    Accounts site start (past ++ [v]) after := by
  refine accounts.append takes ?_
  simpa [unattached, same] using accounts.renderers

theorem exists_visit {b : Binder} {r : Renderer} (accounts : Accounts site start past b)
    (member : r ∈ b.screen.renderers) :
    ∃ v ∈ past, ∃ a, v.attachment? site = some a ∧ r.IsOf a := by
  obtain ⟨i, bound, rfl⟩ := List.mem_iff_getElem.mp member
  have inside : i < (past.filterMap (·.attachment? site)).length :=
    accounts.renderers.length_eq ▸ bound
  have isOf := accounts.renderers.get bound inside
  obtain ⟨v, visited, attached⟩ := List.mem_filterMap.mp (List.get_mem _ ⟨i, inside⟩)
  exact ⟨v, visited, _, attached, isOf⟩

end Accounts

theorem tracks_accounts (site : BindingSite) (start : Screen) :
    Tracks site (fun _ _ => True) (Accounts site start) where
  lasts _ _ _ _ := trivial
  inlines _ _ _ _ _ _ _ _ := trivial
  quiet past b after accounts quiet := by
    obtain ⟨used, kinds, renderers⟩ := accounts
    exact ⟨by rwa [quiet.used], by rwa [quiet.screen], by rwa [quiet.screen]⟩
  passed past v accounts _ passed := by
    refine accounts.silent ?_ (Visit.attachment?_of_passed site passed) rfl
    rw [Visit.dressed?_of_passed passed, Visit.made?_of_passed passed]
    exact (Quiet.refl _).takesNone
  panel past v accounts _ _ isPanel := by
    have quiet := quiet_announce v.binder site v.inlined v.node
    refine accounts.silent ?_ (Visit.attachment?_of_panel site isPanel) (by rw [quiet.screen])
    rw [Visit.dressed?_of_panel isPanel, Visit.made?_of_panel isPanel]
    exact quiet.takesNone
  leaf past v accounts _ admitted _ := by
    have takes := Visit.takesUp_attempt site admitted
    rcases Visit.attempt_cases site admitted with
      ⟨unattached, unlinked⟩ |
      ⟨source, kind, component, requests, attached, render, -, present, screen⟩
    · exact accounts.silent takes unattached unlinked.renderers
    · refine accounts.append takes ?_
      obtain ⟨-, renderers⟩ := Screen.attach_eq kind component requests
        (List.getElem?_eq_getElem present)
      rw [screen, renderers, List.filterMap_append]
      refine List.rel_append accounts.renderers ?_
      simpa [attached] using (⟨render, rfl, rfl⟩ : Renderer.IsOf _ ⟨v.node, source⟩)

theorem Skin.mem_unusedElements {b : Binder} {name : String} :
    name ∈ Skin.unusedElements b ↔ name ∉ b.used ∧ (b.screen.kindOf? name).any (·.2) := by
  rw [Skin.unusedElements, List.mem_filter, Screen.mem_elementNames, Screen.kindOf?]
  cases b.screen.elements.get? name <;> simp

/-- An element that no visited node dresses is left as it is, and unused, unless its name is made. -/
theorem Accounts.mem_unusedElements {site : BindingSite} {start : Screen} {past : List Visit}
    {b : Binder} (accounts : Accounts site start past b) {element : String} {component : Component}
    (found : start.elements.get? element = some component) (isGui : component.isGui)
    (undressed : ∀ v ∈ past, v.node.dresses? ≠ some element)
    (unmade : ∀ v ∈ past, v.made? site ≠ some element) : element ∈ Skin.unusedElements b := by
  refine Skin.mem_unusedElements.mpr ⟨fun used => ?_, ?_⟩
  · obtain ⟨v, member, dresses | made⟩ := (accounts.used element).mp used
    · exact undressed v member (Option.ite_none_right_eq_some.mp dresses).2
    · exact unmade v member made
  · rw [accounts.kinds element unmade]
    simp [Screen.kindOf?, found, isGui]

namespace Skin

section

variable (s : Skin) (components : Components) (screen : Screen) (surface : Nat)

theorem bindRoot_result (chosen : ChosenRoot) :
    let unused := unusedElements ((s.beginning components screen chosen surface).bindRoot
      (s.siteFor components chosen surface) chosen.root)
    (s.bindRoot components screen chosen surface).result =
      if unused = [] then .ok chosen.name else .error (.unusedElements chosen.name unused) := by
  unfold bindRoot
  dsimp only
  split
  next none => exact (if_pos none).symm
  next some => exact (if_neg some).symm

/-- The walk of a root accounts for what it finds on the screen. -/
theorem beginning_accounts (chosen : ChosenRoot) :
    let site := s.siteFor components chosen surface
    let b := s.beginning components screen chosen surface
    Accounts site screen (b.visits site chosen.root) (b.bindRoot site chosen.root) := by
  intro site b
  have unused : b.used = [] := rfl
  have begins : Accounts site screen [] b := ⟨by simp [unused], fun _ _ => rfl, .nil⟩
  exact (tracks_accounts site screen).visits trivial b chosen.root begins

/-- A survey covers a binding: the names that its nodes take up, and the sources that they show,
are among those that the survey of the bound fragment finds. So an element of the screen that is
not must get its name from the binding itself, or the binding fails. -/
structure IsSurveyed (bound : Bound) (site : BindingSite) (visits : List Visit) (name : String) :
    Prop where
  dressed : ∀ v ∈ visits, ∀ x, v.node.dresses? = some x → x ∈ s.declaredNames name
  shown : ∀ r ∈ bound.screen.renderers, ∃ v ∈ visits, ∃ path source,
    v.attachment? site = some ⟨v.node, source⟩ ∧ r.IsOf ⟨v.node, source⟩ ∧
    v.node.filled? "source" = some path ∧ path ∈ s.declaredNames name
  complete : ∀ x, bound.result = .ok x → ∀ element component,
    screen.elements.get? element = some component → component.isGui →
    element ∈ s.declaredNames name ∨ ∃ v ∈ visits, v.made? site = some element
  refused : ∀ element component, screen.elements.get? element = some component →
    component.isGui → element ∉ s.declaredNames name → (∀ v ∈ visits, v.made? site ≠ some element) →
    ∃ unused, element ∈ unused ∧ bound.result = .error (.unusedElements name unused)

section

variable {names : List String} {name : String} {fragment : Fragment}
  (chosen : (s.choose screen names).1 = some (name, fragment))
include chosen

/-- A binding comes to no node but those of fragments that panels lead to from the chosen one. -/
theorem visits_listed (b : Binder) (site : BindingSite) (same : site.skin = s) :
    ∀ v ∈ b.visits site fragment.element, s.Lists name v.node := by
  subst same
  refine (site.encloses_lists name).visits b fun child member => ?_
  exact ⟨name, fragment, .here, site.skin.fragment?_of_choose chosen, .here member⟩

theorem bind_result_of_choose :
    let root : ChosenRoot := ⟨name, fragment.element, some fragment.base⟩
    let unused := unusedElements ((s.beginning components screen root surface).bindRoot
      (s.siteFor components root surface) fragment.element)
    (s.bind components screen names surface).result =
      if unused = [] then .ok name else .error (.unusedElements name unused) := by
  obtain ⟨notices, bound⟩ := bind_of_choose components surface chosen
  rw [bound]
  exact s.bindRoot_result components screen surface _

end

/-- A survey of the fragment that a binding chooses covers the binding. -/
theorem bind_isSurveyed {names : List String} {name : String} {fragment : Fragment}
    (chosen : (s.choose screen names).1 = some (name, fragment)) :
    ∃ site visits, s.tour? components screen surface names = some (site, visits) ∧
      site.fragment = name ∧
      s.IsSurveyed screen (s.bind components screen names surface) site visits name := by
  let root : ChosenRoot := ⟨name, fragment.element, some fragment.base⟩
  let site := s.siteFor components root surface
  let b := s.beginning components screen root surface
  have rooted : s.rootFor? screen names surface = some (root, screen) := by
    simp [rootFor?, chosen, root]
  have toured : s.tour? components screen surface names = some (site, b.visits site root.root) := by
    simp [tour?, rooted, site, b]
  obtain ⟨_, found, -⟩ := s.bind_of_rootFor? components screen surface rooted
  refine ⟨site, b.visits site root.root, toured, rfl, ?_⟩
  have lists := s.visits_listed screen chosen b site rfl
  have accounts := s.beginning_accounts components screen surface root
  have outcome := s.bind_result_of_choose components screen surface chosen
  have dressed : ∀ v ∈ b.visits site root.root, ∀ x, v.node.dresses? = some x →
      x ∈ s.declaredNames name := by
    intro v member x dresses
    obtain ⟨isWidget, declares⟩ := Declares.of_dresses? dresses
    exact (lists v member).declared isWidget declares
  have leftover {element : String} {component : Component}
      (found : screen.elements.get? element = some component) (isGui : component.isGui)
      (undeclared : element ∉ s.declaredNames name)
      (unmade : ∀ v ∈ b.visits site root.root, v.made? site ≠ some element) :
      element ∈ unusedElements (b.bindRoot site root.root) :=
    accounts.mem_unusedElements found isGui
      (fun v member dresses => undeclared (dressed v member element dresses)) unmade
  refine ⟨dressed, fun r member => ?_, ?_, ?_⟩
  · rw [found] at member
    obtain ⟨v, visited, a, attached, isOf⟩ := accounts.exists_visit member
    obtain ⟨path, source, shows, rfl⟩ := Visit.shows?_of_attachment? attached
    obtain ⟨isWidget, declares⟩ := Declares.of_shows? shows
    have sourced : v.node.filled? "source" = some path := (Option.ite_none_right_eq_some.mp shows).2
    exact ⟨v, visited, path, source, attached, isOf, sourced,
      (lists v visited).declared isWidget declares⟩
  · intro x bound element component there isGui
    by_contra lost
    obtain ⟨undeclared, unmade⟩ := not_or.mp lost
    have member := leftover there isGui undeclared fun v visited made => unmade ⟨v, visited, made⟩
    rw [outcome, if_neg (List.ne_nil_of_mem member)] at bound
    cases bound
  · intro element component there isGui undeclared unmade
    have member := leftover there isGui undeclared unmade
    exact ⟨_, member, outcome.trans (if_neg (List.ne_nil_of_mem member))⟩

end

/-- Two fragments with panels for each other. -/
def detour : Skin :=
  let panel (name : String) : Element := (Element.ofTag "panel").withAttribute "name" name
  let title : Element := (Element.ofTag "widget").withAttribute "name" "title"
  let clock : Element :=
    { Element.ofTag "widget" with attributes := [("source", "clock"), ("render", "Label")] }
  let screen (children : List Element) : Element := { Element.ofTag "screen" with children }
  .ofCatalog [] [("Main", ⟨screen [title, panel "Side"], ⟨"skins"⟩⟩),
    ("Side", ⟨screen [panel "Main", clock], ⟨"skins"⟩⟩)]

/-- A screen with an element that neither of the fragments declares. -/
def detourScreen : Screen :=
  let label : Component := ⟨"Label", .initial, true⟩
  (((Screen.ofClass "Main").addSource "clock" "Clock").addElement "title" label).addElement
    "lost" label

/-- The survey does not find the element, so that it is the binding that must fail. -/
theorem bind_isSurveyed_detour :
    "lost" ∉ detour.declaredNames "Main" ∧
    ∃ fragment, (detour.choose detourScreen ["Main"]).1 = some ("Main", fragment) ∧
      ∃ site visits, detour.tour? .none detourScreen 0 ["Main"] = some (site, visits) ∧
        site.fragment = "Main" ∧
        detour.IsSurveyed detourScreen (detour.bind .none detourScreen ["Main"] 0) site visits
          "Main" := by
  have found : (detour.survey detour.fragments.size "Main" .empty).found = ["title", "clock"] := by
    decide +kernel
  refine ⟨by simp [declaredNames, found], _, rfl, ?_⟩
  exact detour.bind_isSurveyed .none detourScreen 0 rfl

end Skin
end Skinning
