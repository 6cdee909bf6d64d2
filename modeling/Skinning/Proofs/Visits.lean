import Skinning.Binding.Bind

/-! The nodes that a binding comes to, in order. A binding is no more than the sum of its visits:
what holds at the start and is kept by each visit holds in the end. -/
namespace Skinning

/-- A node that a walk comes to, with the fragments that are being inlined there, the innermost
first, and the binder as it is found. -/
structure Visit where
  inlined : List String
  node : Element
  binder : Binder

/-- A panel that is visited names a fragment. -/
structure Visit.Names (v : Visit) (name : String) : Prop where
  admitted : v.binder.screen.admits v.node
  isPanel : v.node.tag = "panel"
  named : v.node.filled? "name" = some name

/-- The visits to the nodes of a fragment while the fragments of a list are being inlined. -/
abbrev Tracer := List String → Element → Binder → List Visit

namespace Binder

/-- The binder for a panel's own nodes, in the space that the panel opens. -/
def openPanel (b : Binder) (site : BindingSite) (node : Element) (position : String) : Binder :=
  let (placed, inner) := b.derivePanel site node position
  { b.note (.ofCoordinates placed.faults) with space := inner }

def visitPanel (b : Binder) (site : BindingSite) (inside : Tracer) (inlined : List String)
    (node : Element) : List Visit :=
  match node.filled? "name" with
  | none => []
  | some name =>
    if inlined.contains name then []
    else match site.skin.fragment? name with
      | some fragment => inside (name :: inlined) fragment.element b
      | none => []

mutual

def visitNode (site : BindingSite) (inliner : Inliner) (inside : Tracer) (inlined : List String) :
    Element → Binder → List Visit
  | ⟨tag, attributes, text?, line, children⟩, b =>
    let node : Element := ⟨tag, attributes, text?, line, children⟩
    ⟨inlined, node, b⟩ ::
      if !b.screen.admits node then []
      else if tag = "panel" then
        b.visitPanel site inside inlined node ++
          match node.attribute? "position" with
          | some position =>
            visitNodes site inliner inside inlined children
              ((b.inlinePanel site inliner inlined node).openPanel site node position)
          | none => []
      else []

def visitNodes (site : BindingSite) (inliner : Inliner) (inside : Tracer) (inlined : List String) :
    List Element → Binder → List Visit
  | [], _ => []
  | node :: rest, b =>
    visitNode site inliner inside inlined node b ++
      visitNodes site inliner inside inlined rest (bindNode site inliner inlined node b)

end

def visitTo (site : BindingSite) : Nat → Tracer
  | 0 => fun _ _ _ => []
  | depth + 1 => fun inlined root =>
    visitNodes site (inlineTo site depth) (visitTo site depth) inlined root.children

/-- The visits to the nodes of a root. -/
def visits (b : Binder) (site : BindingSite) (root : Element) : List Visit :=
  visitNodes site (inlineTo site site.skin.fragments.size) (visitTo site site.skin.fragments.size)
    [] root.children b

section

variable {b : Binder} (site : BindingSite) (inliner : Inliner) (inside : Tracer)
  (inlined : List String) {node : Element}

theorem bindNode_of_passed (passed : ¬ b.screen.admits node) :
    bindNode site inliner inlined node b = b ∧
      visitNode site inliner inside inlined node b = [⟨inlined, node, b⟩] := by
  cases node
  simp_all [bindNode, visitNode]

theorem bindNode_of_leaf (admitted : b.screen.admits node) (isLeaf : node.tag ≠ "panel") :
    bindNode site inliner inlined node b =
        b.attempt site node.tag (BindingStep.bindLeaf site node) ∧
      visitNode site inliner inside inlined node b = [⟨inlined, node, b⟩] := by
  cases node
  simp_all [bindNode, visitNode]

/-- A panel without a place. -/
theorem bindNode_of_bare (admitted : b.screen.admits node) (isPanel : node.tag = "panel")
    (bare : node.attribute? "position" = none) :
    bindNode site inliner inlined node b =
        (if node.children.isEmpty then b.inlinePanel site inliner inlined node
        else (b.inlinePanel site inliner inlined node).attempt site node.tag
          (throw (.panelSpace none (node.attribute? "size")))) ∧
      visitNode site inliner inside inlined node b =
        ⟨inlined, node, b⟩ :: b.visitPanel site inside inlined node := by
  cases node
  simp_all [bindNode, visitNode]

/-- A panel with a place opens a space for its own nodes. -/
theorem bindNode_of_placed {position : String} (admitted : b.screen.admits node)
    (isPanel : node.tag = "panel") (placed : node.attribute? "position" = some position) :
    let after := b.inlinePanel site inliner inlined node
    let opened := after.openPanel site node position
    bindNode site inliner inlined node b =
        { bindNodes site inliner inlined node.children opened with
          space := (after.derivePanel site node position).1.space } ∧
      visitNode site inliner inside inlined node b =
        ⟨inlined, node, b⟩ :: (b.visitPanel site inside inlined node ++
          visitNodes site inliner inside inlined node.children opened) := by
  cases node
  simp_all [bindNode, visitNode, openPanel]

end

/-- A binder that differs from one before it by its space and by what is noted. -/
structure Quiet (before after : Binder) : Prop where
  screen : after.screen = before.screen
  used : after.used = before.used
  connections : after.connections = before.connections
  notices : before.notices <+: after.notices

theorem quiet_note (b : Binder) (notices : Notices) : b.Quiet (b.note notices) :=
  ⟨rfl, rfl, rfl, List.prefix_append _ _⟩

theorem quiet_space (b : Binder) (space : Space) : b.Quiet { b with space } :=
  ⟨rfl, rfl, rfl, List.prefix_rfl⟩

theorem quiet_openPanel (b : Binder) (site : BindingSite) (node : Element) (position : String) :
    b.Quiet (b.openPanel site node position) :=
  ⟨rfl, rfl, rfl, List.prefix_append _ _⟩

theorem quiet_attempt_throw (b : Binder) (site : BindingSite) (tag : String)
    (fault : BindingFault) : b.Quiet (b.attempt site tag (throw fault)) := by
  refine ⟨rfl, rfl, rfl, ?_⟩
  exact (List.prefix_append _ _).trans (List.prefix_append _ _)

/-- What a panel that names a fragment has to report itself. -/
def announce (b : Binder) (site : BindingSite) (inlined : List String) (node : Element) : Binder :=
  b.inlinePanel site (fun _ _ b => b) inlined node

theorem quiet_announce (b : Binder) (site : BindingSite) (inlined : List String)
    (node : Element) : b.Quiet (b.announce site inlined node) := by
  unfold announce inlinePanel
  split
  · exact b.quiet_space b.space
  · split
    · exact b.quiet_note _
    · split
      · exact b.quiet_space b.space
      · exact b.quiet_note _

/-- A panel inlines nothing but reports, or it inlines a fragment that is not being inlined. -/
theorem inlinePanel_cases (b : Binder) (site : BindingSite) (inliner : Inliner) (inside : Tracer)
    (inlined : List String) (node : Element) :
    (b.inlinePanel site inliner inlined node = b.announce site inlined node ∧
      b.visitPanel site inside inlined node = []) ∨
    ∃ name fragment, node.filled? "name" = some name ∧ name ∉ inlined ∧
      site.skin.fragment? name = some fragment ∧ b.announce site inlined node = b ∧
      b.inlinePanel site inliner inlined node = inliner (name :: inlined) fragment.element b ∧
      b.visitPanel site inside inlined node = inside (name :: inlined) fragment.element b := by
  simp only [announce, inlinePanel, visitPanel]
  cases node.filled? "name" with
  | none => exact .inl ⟨rfl, rfl⟩
  | some name =>
    by_cases isInlined : name ∈ inlined
    · exact .inl (by simp [isInlined])
    cases found : site.skin.fragment? name with
    | none => exact .inl (by simp [isInlined, found])
    | some fragment => exact .inr ⟨name, fragment, rfl, isInlined, found, by simp [isInlined, found]⟩

end Binder

open Binder

/-- A property of the visits so far and the binder that each visit keeps, where the fragments
that are being inlined stand in a relation of their own to the visits. -/
structure Tracks (site : BindingSite) (stack : List Visit → List String → Prop)
    (kept : List Visit → Binder → Prop) : Prop where
  lasts : ∀ past more inlined, stack past inlined → stack (past ++ more) inlined
  inlines : ∀ past v name fragment, stack past v.inlined → v.Names name → name ∉ v.inlined →
    site.skin.fragment? name = some fragment → stack (past ++ [v]) (name :: v.inlined)
  quiet : ∀ past b after, kept past b → b.Quiet after → kept past after
  passed : ∀ past v, kept past v.binder → stack past v.inlined →
    ¬ v.binder.screen.admits v.node → kept (past ++ [v]) v.binder
  panel : ∀ past v, kept past v.binder → stack past v.inlined → v.binder.screen.admits v.node →
    v.node.tag = "panel" → kept (past ++ [v]) (v.binder.announce site v.inlined v.node)
  leaf : ∀ past v, kept past v.binder → stack past v.inlined → v.binder.screen.admits v.node →
    v.node.tag ≠ "panel" → kept (past ++ [v])
      (v.binder.attempt site v.node.tag (BindingStep.bindLeaf site v.node))

namespace Tracks

variable {site : BindingSite} {stack : List Visit → List String → Prop}
  {kept : List Visit → Binder → Prop}

/-- The visits that a fragment is inlined with. -/
def Inside (stack : List Visit → List String → Prop) (kept : List Visit → Binder → Prop)
    (inliner : Inliner) (inside : Tracer) : Prop :=
  ∀ past inlined root b, kept past b → stack past inlined →
    kept (past ++ inside inlined root b) (inliner inlined root b)

theorem visitPanel (tracks : Tracks site stack kept) {inliner : Inliner} {inside : Tracer}
    (fragments : Inside stack kept inliner inside) {past : List Visit} {v : Visit}
    (holds : kept past v.binder) (stacked : stack past v.inlined)
    (admitted : v.binder.screen.admits v.node) (isPanel : v.node.tag = "panel") :
    kept (past ++ [v] ++ v.binder.visitPanel site inside v.inlined v.node)
      (v.binder.inlinePanel site inliner v.inlined v.node) := by
  have announced := tracks.panel past v holds stacked admitted isPanel
  rcases inlinePanel_cases v.binder site inliner inside v.inlined v.node with
    ⟨reports, none⟩ | ⟨name, fragment, named, new, found, silent, inlines, visits⟩
  · rwa [reports, none, List.append_nil]
  · rw [inlines, visits]
    rw [silent] at announced
    have opened := tracks.inlines past v name fragment stacked ⟨admitted, isPanel, named⟩ new found
    exact fragments _ _ _ _ announced opened

mutual

theorem visitNode (tracks : Tracks site stack kept) {inliner : Inliner} {inside : Tracer}
    (fragments : Inside stack kept inliner inside) {inlined : List String} :
    (node : Element) → (past : List Visit) → (b : Binder) → stack past inlined → kept past b →
    kept (past ++ visitNode site inliner inside inlined node b)
      (bindNode site inliner inlined node b)
  | ⟨tag, attributes, text?, line, children⟩, past, b, stacked, holds => by
    generalize same : (⟨tag, attributes, text?, line, children⟩ : Element) = node
    have inner : node.children = children := by rw [← same]
    let v : Visit := ⟨inlined, node, b⟩
    by_cases admitted : b.screen.admits node
    · by_cases isPanel : node.tag = "panel"
      · have inlines := tracks.visitPanel fragments (v := v) holds stacked admitted isPanel
        cases place : node.attribute? "position" with
        | some position =>
          obtain ⟨binds, visits⟩ :=
            bindNode_of_placed site inliner inside inlined admitted isPanel place
          rw [binds, visits, List.append_cons, ← List.append_assoc, inner]
          -- The panel's own nodes come after those that it inlines, in the space that it opens.
          have opens := tracks.quiet _ _ _ inlines (quiet_openPanel _ site node position)
          have stays : stack (past ++ [v] ++ b.visitPanel site inside inlined node) inlined :=
            tracks.lasts _ _ _ (tracks.lasts _ _ _ stacked)
          exact tracks.quiet _ _ _ (tracks.visitNodes fragments children _ _ stays opens)
            (quiet_space _ _)
        | none =>
          obtain ⟨binds, visits⟩ :=
            bindNode_of_bare site inliner inside inlined admitted isPanel place
          rw [binds, visits, List.append_cons]
          split
          · exact inlines
          · exact tracks.quiet _ _ _ inlines (quiet_attempt_throw _ _ _ _)
      · obtain ⟨binds, visits⟩ := bindNode_of_leaf site inliner inside inlined admitted isPanel
        rw [binds, visits]
        exact tracks.leaf past v holds stacked admitted isPanel
    · obtain ⟨binds, visits⟩ := bindNode_of_passed site inliner inside inlined admitted
      rw [binds, visits]
      exact tracks.passed past v holds stacked admitted

theorem visitNodes (tracks : Tracks site stack kept) {inliner : Inliner} {inside : Tracer}
    (fragments : Inside stack kept inliner inside) {inlined : List String} :
    (nodes : List Element) → (past : List Visit) → (b : Binder) → stack past inlined →
    kept past b → kept (past ++ visitNodes site inliner inside inlined nodes b)
      (bindNodes site inliner inlined nodes b)
  | [], past, b, _, holds => by simpa [Binder.visitNodes, bindNodes] using holds
  | node :: rest, past, b, stacked, holds => by
    have first := tracks.visitNode fragments node past b stacked holds
    have stays := tracks.lasts _ (Binder.visitNode site inliner inside inlined node b) _ stacked
    have others := tracks.visitNodes fragments rest _ _ stays first
    simpa [Binder.visitNodes, bindNodes] using others

end

theorem visitTo (tracks : Tracks site stack kept) (depth : Nat) :
    Inside stack kept (inlineTo site depth) (visitTo site depth) := by
  induction depth with
  | zero =>
    intro past inlined root b holds _
    simpa [Binder.visitTo, inlineTo] using holds
  | succ depth ih =>
    intro past inlined root b holds stacked
    exact tracks.visitNodes ih root.children past b stacked holds

/-- What each visit keeps is kept by a binding. -/
theorem visits (tracks : Tracks site stack kept) (empty : stack [] []) (b : Binder)
    (root : Element) (starts : kept [] b) :
    kept (b.visits site root) (b.bindRoot site root) :=
  tracks.visitNodes (tracks.visitTo _) root.children [] b empty starts

end Tracks

/-- A relation of two binders that is kept if a node is bound from both, as long as the visits
from the first one meet a condition. -/
structure InStep (site : BindingSite) (meets : Visit → Prop) (related : Binder → Binder → Prop) :
    Prop where
  space : ∀ b c, related b c → b.space = c.space
  admits : ∀ b c node, related b c → b.screen.admits node = c.screen.admits node
  note : ∀ b c notices, related b c → related (b.note notices) (c.note notices)
  withSpace : ∀ b c space, related b c → related { b with space } { c with space }
  leaf : ∀ v c, related v.binder c → v.binder.screen.admits v.node → meets v →
    related (v.binder.attempt site v.node.tag (BindingStep.bindLeaf site v.node))
      (c.attempt site v.node.tag (BindingStep.bindLeaf site v.node))

namespace InStep

variable {site : BindingSite} {meets : Visit → Prop} {related : Binder → Binder → Prop}
  {inliner : Inliner} {inside : Tracer}

/-- The relation is kept if a fragment is inlined from both binders. -/
def Inside (meets : Visit → Prop) (related : Binder → Binder → Prop) (inliner : Inliner)
    (inside : Tracer) : Prop :=
  ∀ inlined root b c, related b c → (∀ v ∈ inside inlined root b, meets v) →
    related (inliner inlined root b) (inliner inlined root c)

theorem derivePanel (inStep : InStep site meets related) {b c : Binder} (holds : related b c)
    (node : Element) (position : String) :
    b.derivePanel site node position = c.derivePanel site node position := by
  rw [Binder.derivePanel, Binder.derivePanel, inStep.space b c holds]

theorem openPanel (inStep : InStep site meets related) {b c : Binder} (holds : related b c)
    (node : Element) (position : String) :
    related (b.openPanel site node position) (c.openPanel site node position) := by
  unfold Binder.openPanel
  rw [inStep.derivePanel holds]
  exact inStep.withSpace _ _ _ (inStep.note _ _ _ holds)

theorem inlinePanel (inStep : InStep site meets related)
    (fragments : Inside meets related inliner inside) {b c : Binder} (holds : related b c)
    (inlined : List String) (node : Element)
    (met : ∀ v ∈ b.visitPanel site inside inlined node, meets v) :
    related (b.inlinePanel site inliner inlined node)
      (c.inlinePanel site inliner inlined node) := by
  unfold Binder.visitPanel at met
  unfold Binder.inlinePanel
  cases named : node.filled? "name" with
  | none => exact holds
  | some name =>
    rw [named] at met
    dsimp only at met ⊢
    by_cases isInlined : inlined.contains name
    · rw [if_pos isInlined, if_pos isInlined]
      exact inStep.note _ _ _ holds
    · rw [if_neg isInlined] at met
      rw [if_neg isInlined, if_neg isInlined]
      cases found : site.skin.fragment? name with
      | none => exact inStep.note _ _ _ holds
      | some fragment =>
        rw [found] at met
        exact fragments _ _ b c holds met

mutual

theorem bindNode (inStep : InStep site meets related)
    (fragments : Inside meets related inliner inside) (inlined : List String) :
    (node : Element) → (b c : Binder) → related b c →
    (∀ v ∈ visitNode site inliner inside inlined node b, meets v) →
    related (Binder.bindNode site inliner inlined node b)
      (Binder.bindNode site inliner inlined node c)
  | ⟨tag, attributes, text?, line, children⟩, b, c, holds, met => by
    generalize same : (⟨tag, attributes, text?, line, children⟩ : Element) = node at met ⊢
    have inner : node.children = children := by rw [← same]
    by_cases admitted : b.screen.admits node
    · have admittedToo : c.screen.admits node := by rwa [← inStep.admits b c node holds]
      by_cases isPanel : node.tag = "panel"
      · cases place : node.attribute? "position" with
        | some position =>
          obtain ⟨binds, visits⟩ :=
            bindNode_of_placed site inliner inside inlined admitted isPanel place
          obtain ⟨bindsToo, -⟩ :=
            bindNode_of_placed site inliner inside inlined admittedToo isPanel place
          rw [visits, inner] at met
          obtain ⟨panel, own⟩ := List.forall_mem_append.mp (List.forall_mem_cons.mp met).2
          have inlines := inStep.inlinePanel fragments holds inlined node panel
          rw [binds, bindsToo, inner, inStep.derivePanel inlines]
          have opens := inStep.openPanel inlines node position
          exact inStep.withSpace _ _ _ (inStep.bindNodes fragments inlined children _ _ opens own)
        | none =>
          obtain ⟨binds, visits⟩ :=
            bindNode_of_bare site inliner inside inlined admitted isPanel place
          obtain ⟨bindsToo, -⟩ :=
            bindNode_of_bare site inliner inside inlined admittedToo isPanel place
          rw [visits] at met
          have inlines := inStep.inlinePanel fragments holds inlined node
            (List.forall_mem_cons.mp met).2
          rw [binds, bindsToo]
          split
          · exact inlines
          · exact inStep.note _ _ _ (inStep.note _ _ _ inlines)
      · obtain ⟨binds, visits⟩ := bindNode_of_leaf site inliner inside inlined admitted isPanel
        obtain ⟨bindsToo, -⟩ := bindNode_of_leaf site inliner inside inlined admittedToo isPanel
        rw [binds, bindsToo]
        exact inStep.leaf ⟨inlined, node, b⟩ c holds admitted (met _ (by simp [visits]))
    · have passedToo : ¬ c.screen.admits node := by rwa [← inStep.admits b c node holds]
      rw [(bindNode_of_passed site inliner inside inlined admitted).1,
        (bindNode_of_passed site inliner inside inlined passedToo).1]
      exact holds

theorem bindNodes (inStep : InStep site meets related)
    (fragments : Inside meets related inliner inside) (inlined : List String) :
    (nodes : List Element) → (b c : Binder) → related b c →
    (∀ v ∈ visitNodes site inliner inside inlined nodes b, meets v) →
    related (Binder.bindNodes site inliner inlined nodes b)
      (Binder.bindNodes site inliner inlined nodes c)
  | [], _, _, holds, _ => holds
  | node :: rest, b, c, holds, met => by
    rw [visitNodes] at met
    obtain ⟨first, others⟩ := List.forall_mem_append.mp met
    have here := inStep.bindNode fragments inlined node b c holds first
    exact inStep.bindNodes fragments inlined rest _ _ here others

end

theorem inlineTo (inStep : InStep site meets related) (depth : Nat) :
    Inside meets related (Binder.inlineTo site depth) (visitTo site depth) := by
  induction depth with
  | zero => exact fun _ _ _ _ holds _ => holds
  | succ depth ih =>
    intro inlined root b c holds met
    exact inStep.bindNodes ih inlined root.children b c holds met

/-- Bindings of one root from related binders are related. -/
theorem bindRoot (inStep : InStep site meets related) {b c : Binder} (holds : related b c)
    (root : Element) (met : ∀ v ∈ b.visits site root, meets v) :
    related (b.bindRoot site root) (c.bindRoot site root) :=
  inStep.bindNodes (inStep.inlineTo _) [] root.children b c holds met

end InStep

theorem Screen.readEmbedded_unlinked (screen : Screen) (name : String) (factor : Float)
    (surface : Nat) :
    (screen.readEmbedded name factor surface).screen.pipelines = screen.pipelines ∧
      (screen.readEmbedded name factor surface).screen.peer = screen.peer := by
  unfold readEmbedded
  split
  · exact ⟨rfl, rfl⟩
  · dsimp only
    split <;> exact ⟨rfl, rfl⟩

theorem Screen.readEmbedded_of_error {screen : Screen} {name : String} {factor : Float}
    {surface : Nat} {error : Markup.ParseError}
    (faulty : (screen.readEmbedded name factor surface).root = .error error) :
    (screen.readEmbedded name factor surface).screen = screen := by
  unfold readEmbedded at faulty ⊢
  split
  · rfl
  · dsimp only at faulty ⊢
    split <;> simp_all

namespace Skin

/-- The root that a binding goes on with, and the screen that has read it. A screen's own
document may be faulty; then nothing is bound. -/
def rootFor? (s : Skin) (screen : Screen) (names : List String) (surface : Nat) :
    Option (ChosenRoot × Screen) :=
  match (s.choose screen names).1 with
  | some (name, fragment) => some (⟨name, fragment.element, some fragment.base⟩, screen)
  | none =>
    let name := "<embedded-in-" ++ screen.className ++ ">"
    let reading := screen.readEmbedded name s.store.factor surface
    reading.root.toOption.map fun root => (⟨name, root, none⟩, reading.screen)

def desktop (s : Skin) (surface : Nat) : Rect :=
  ⟨0, 0, (s.store.surfaceSize surface).width, (s.store.surfaceSize surface).height⟩

def siteFor (s : Skin) (components : Components) (chosen : ChosenRoot) (surface : Nat) :
    BindingSite :=
  ⟨s, components, chosen.name, chosen.base?, surface, (rootScale chosen.root (s.desktop surface)).1⟩

/-- The binder as the walk of a root finds it: nothing is bound but the window is dressed. -/
def beginning (s : Skin) (components : Components) (screen : Screen) (chosen : ChosenRoot)
    (surface : Nat) : Binder :=
  let site := s.siteFor components chosen surface
  bindWindow site chosen.root (s.desktop surface) {
    screen := { screen.clearBindings with scale := site.scale }
    space := .ofRect .stacking (s.desktop surface) site.scale s.store.factor
    used := []
    connections := []
    notices := .processing chosen.name screen.className ::
      (rootScale chosen.root (s.desktop surface)).2 }

section

variable (s : Skin) (components : Components) (screen : Screen) (surface : Nat)

theorem bindRoot_eq (chosen : ChosenRoot) :
    let b := (s.beginning components screen chosen surface).bindRoot
      (s.siteFor components chosen surface) chosen.root
    (s.bindRoot components screen chosen surface).screen = b.screen ∧
      (s.bindRoot components screen chosen surface).notices = b.notices := by
  unfold bindRoot
  dsimp only
  split <;> exact ⟨rfl, rfl⟩

/-- A binding is the walk of its root. -/
theorem bind_of_rootFor? {names : List String} {chosen : ChosenRoot} {ready : Screen}
    (found : s.rootFor? screen names surface = some (chosen, ready)) :
    ∃ before : Notices,
      let b := (s.beginning components ready chosen surface).bindRoot
        (s.siteFor components chosen surface) chosen.root
      (s.bind components screen names surface).screen = b.screen ∧
        (s.bind components screen names surface).notices = before ++ b.notices := by
  unfold rootFor? at found
  unfold bind
  generalize s.choose screen names = choice at found ⊢
  obtain ⟨chosen?, notices⟩ := choice
  cases chosen? with
  | some pair =>
    obtain ⟨rfl, rfl⟩ := Prod.mk.inj (Option.some.inj found)
    obtain ⟨sameScreen, sameNotices⟩ := s.bindRoot_eq components screen surface
      ⟨pair.1, pair.2.element, some pair.2.base⟩
    exact ⟨notices, sameScreen, congrArg (notices ++ ·) sameNotices⟩
  | none =>
    dsimp only at found ⊢
    generalize screen.readEmbedded _ _ _ = reading at found ⊢
    obtain ⟨root, read, more⟩ := reading
    cases root with
    | error error => cases found
    | ok root =>
      obtain ⟨rfl, rfl⟩ := Prod.mk.inj (Option.some.inj found)
      obtain ⟨sameScreen, sameNotices⟩ := s.bindRoot_eq components read surface
        ⟨"<embedded-in-" ++ screen.className ++ ">", root, none⟩
      exact ⟨notices ++ more, sameScreen, congrArg (notices ++ more ++ ·) sameNotices⟩

/-- Where no root can be had the screen stays as it is. -/
theorem bind_of_rootFor?_eq_none {names : List String}
    (faulty : s.rootFor? screen names surface = none) :
    (s.bind components screen names surface).screen = screen := by
  unfold rootFor? at faulty
  unfold bind
  generalize s.choose screen names = choice at faulty ⊢
  obtain ⟨chosen?, notices⟩ := choice
  cases chosen? with
  | some pair => cases faulty
  | none =>
    dsimp only at faulty ⊢
    have unread := @Screen.readEmbedded_of_error screen
      ("<embedded-in-" ++ screen.className ++ ">") s.store.factor surface
    generalize screen.readEmbedded _ _ _ = reading at faulty unread ⊢
    obtain ⟨root, read, more⟩ := reading
    cases root with
    | ok root => cases faulty
    | error error => exact unread rfl

theorem fragment?_of_choose {screen : Screen} {names : List String} {name : String}
    {fragment : Fragment} (chosen : (s.choose screen names).1 = some (name, fragment)) :
    s.fragment? name = some fragment := by
  induction names with
  | nil => cases chosen
  | cons first rest ih =>
    rw [choose] at chosen
    split at chosen
    · exact ih chosen
    · next known =>
      split at chosen
      · obtain ⟨rfl, rfl⟩ := Prod.mk.inj (Option.some.inj chosen)
        exact known
      · exact ih chosen

/-- A root that has a directory is a fragment of the catalog. -/
theorem fragment?_of_rootFor? {screen : Screen} {surface : Nat} {names : List String}
    {chosen : ChosenRoot} {ready : Screen} {base : Path}
    (found : s.rootFor? screen names surface = some (chosen, ready))
    (placed : chosen.base? = some base) :
    s.fragment? chosen.name = some ⟨chosen.root, base⟩ := by
  unfold rootFor? at found
  split at found
  next pair choice =>
    obtain ⟨rfl, rfl⟩ := Prod.mk.inj (Option.some.inj found)
    obtain rfl := Option.some.inj placed
    exact s.fragment?_of_choose choice
  · obtain ⟨root, -, same⟩ := Option.map_eq_some_iff.mp found
    obtain ⟨rfl, rfl⟩ := Prod.mk.inj same
    cases placed

/-- A binding begins with the pipelines of the screen, and without any renderer. -/
theorem beginning_bare {screen : Screen} {surface : Nat} {names : List String}
    {chosen : ChosenRoot} {ready : Screen}
    (found : s.rootFor? screen names surface = some (chosen, ready)) :
    (s.beginning components ready chosen surface).screen.pipelines = screen.pipelines ∧
      (s.beginning components ready chosen surface).screen.renderers = [] := by
  refine ⟨?_, rfl⟩
  change ready.pipelines = screen.pipelines
  unfold rootFor? at found
  split at found
  · obtain ⟨-, rfl⟩ := Prod.mk.inj (Option.some.inj found)
    rfl
  · obtain ⟨root, -, same⟩ := Option.map_eq_some_iff.mp found
    obtain ⟨-, rfl⟩ := Prod.mk.inj same
    exact (screen.readEmbedded_unlinked _ _ _).1

/-- The site of a binding and the nodes that it comes to, where there is a root to bind. -/
def tour? (names : List String) : Option (BindingSite × List Visit) :=
  (s.rootFor? screen names surface).map fun (chosen, ready) =>
    let site := s.siteFor components chosen surface
    (site, (s.beginning components ready chosen surface).visits site chosen.root)

end

/-- A skin in the usual directories, with some files and fragments. -/
def ofCatalog (files : List (Location × FileKind)) (fragments : List (String × Fragment)) : Skin :=
  { Skin.ofSettings .initial ⟨⟨.ofList files⟩, none, ""⟩ ⟨⟨"skins"⟩, ⟨"display"⟩, ⟨"fonts"⟩, ⟨"user"⟩⟩ id with
    fragments := .ofList fragments }

end Skin
end Skinning
