import Skinning.Proofs.PairedRuns
import Skinning.Proofs.ScreenChanges

/-! Binding a screen again. The renderers, decorations and hooks of the binding before are dropped,
and the state that it has left in elements, pipelines and the screen's own document makes no
difference. What does make one are the components that it has added: they stay on the screen. -/
namespace Skinning

open Binder BindingStep

/-! What a binding leaves a screen with. -/

namespace Screen

/-- A screen after one, with the same sources and documents. No element is gone. -/
structure Outlasts (before after : Screen) : Prop where
  peer : after.peer = before.peer
  sources : after.pipelines.map Stage.kind = before.pipelines.map Stage.kind
  mandatory : after.mandatory? = before.mandatory?
  embedded : after.embedded? = before.embedded?
  embeddedRoot : after.embeddedRoot? = before.embeddedRoot?
  elements : ∀ name, (before.kindOf? name).isSome → (after.kindOf? name).isSome

namespace Outlasts

theorem refl (s : Screen) : s.Outlasts s := ⟨rfl, rfl, rfl, rfl, rfl, fun _ => id⟩

theorem trans {s t u : Screen} (first : s.Outlasts t) (second : t.Outlasts u) : s.Outlasts u where
  peer := second.peer.trans first.peer
  sources := second.sources.trans first.sources
  mandatory := second.mandatory.trans first.mandatory
  embedded := second.embedded.trans first.embedded
  embeddedRoot := second.embeddedRoot.trans first.embeddedRoot
  elements name there := second.elements name (first.elements name there)

theorem addElement (s : Screen) (name : String) (component : Component) :
    s.Outlasts (s.addElement name component) := by
  refine ⟨rfl, rfl, rfl, rfl, rfl, fun other there => ?_⟩
  rw [kindOf?_addElement]
  split
  · rfl
  · exact there

theorem attach (s : Screen) (kind : String) (component : Component) (source : ResolvedSource)
    (requests : List ConverterRequest) :
    s.Outlasts (s.attach kind component source requests) := by
  have sources := s.attach_sources kind component source requests
  unfold Screen.attach at sources ⊢
  split at sources
  · exact refl s
  · exact ⟨rfl, sources, rfl, rfl, rfl, fun _ => id⟩

theorem of_changes {s t : Screen} (changes : s.Changes t) : s.Outlasts t := by
  cases changes with
  | none => exact refl s
  | element name component => exact addElement s name component
  | renderer kind component source requests => exact attach s kind component source requests
  | decoration => exact ⟨rfl, rfl, rfl, rfl, rfl, fun _ => id⟩
  | finishHook => exact ⟨rfl, rfl, rfl, rfl, rfl, fun _ => id⟩
  | contentHook => exact ⟨rfl, rfl, rfl, rfl, rfl, fun _ => id⟩

end Outlasts
end Screen

theorem Binder.bindRoot_outlasts (b : Binder) (site : BindingSite) (root : Element) :
    b.screen.Outlasts (b.bindRoot site root).screen :=
  b.bindRoot_keeps (fun _ _ outlasts changes => outlasts.trans (.of_changes changes)) site root
    (.refl b.screen)

/-! What a binding goes by. -/

namespace Screen

/-- To read the document of a screen is to keep it, if anything. -/
theorem readEmbedded_screen (s : Screen) (name : String) (factor : Float) (surface : Nat) :
    ∃ root?, (s.readEmbedded name factor surface).screen = { s with embeddedRoot? := root? } := by
  unfold readEmbedded
  split
  · exact ⟨s.embeddedRoot?, rfl⟩
  · dsimp only
    split
    · exact ⟨s.embeddedRoot?, rfl⟩
    · exact ⟨_, rfl⟩
    · exact ⟨_, rfl⟩

theorem embeddedRoot?_of_readEmbedded {s : Screen} {name : String} {factor : Float} {surface : Nat}
    {root : Element} (read : (s.readEmbedded name factor surface).root = .ok root) :
    (s.readEmbedded name factor surface).screen.embeddedRoot? = some root := by
  unfold readEmbedded at read ⊢
  split at read
  next cached =>
    obtain rfl := Except.ok.inj read
    exact cached
  · dsimp only at read ⊢
    split at read
    · cases read
    · exact congrArg some (Except.ok.inj read)
    · exact congrArg some (Except.ok.inj read)

/-- A document that was read is the same when it is read again. -/
theorem readEmbedded_again (s : Screen) (name : String) (factor : Float) (surface : Nat) :
    ((s.readEmbedded name factor surface).screen.readEmbedded name factor surface).root =
      (s.readEmbedded name factor surface).root := by
  cases read : (s.readEmbedded name factor surface).root with
  | error error => rw [readEmbedded_of_error read, read]
  | ok root =>
    have kept := embeddedRoot?_of_readEmbedded read
    rw [readEmbedded, kept]

theorem readEmbedded_congr {s t : Screen} (embedded : s.embedded? = t.embedded?)
    (embeddedRoot : s.embeddedRoot? = t.embeddedRoot?) (name : String) (factor : Float)
    (surface : Nat) :
    (s.readEmbedded name factor surface).root = (t.readEmbedded name factor surface).root := by
  unfold readEmbedded
  rw [embedded, embeddedRoot]
  split
  · rfl
  · dsimp only
    split <;> rfl

end Screen

/-! When two bindings come to the same. -/

/-- What is bound to two screens looks the same, and so do the names of their elements. -/
structure Screen.Agrees (s t : Screen) : Prop where
  renderers : s.renderers.map (fun r => (r.kind, r.label, s.trail r)) =
    t.renderers.map fun r => (r.kind, r.label, t.trail r)
  decorations : s.decorations = t.decorations
  finishHooks : s.finishHooks = t.finishHooks
  contentHooks : s.contentHooks = t.contentHooks
  names : ∀ name, name ∈ s.elementNames ↔ name ∈ t.elementNames

/-- Two bindings succeed or fail alike, and where they succeed they have bound the same. -/
structure Bound.Agrees (x y : Bound) : Prop where
  succeeds : x.result.isOk = y.result.isOk
  binds : x.result.isOk → x.screen.Agrees y.screen

theorem Screen.Agrees.symm {s t : Screen} (agrees : s.Agrees t) : t.Agrees s := by
  obtain ⟨renderers, decorations, finishHooks, contentHooks, names⟩ := agrees
  exact ⟨renderers.symm, decorations.symm, finishHooks.symm, contentHooks.symm,
    fun name => (names name).symm⟩

theorem Screen.Agrees.trans {s t u : Screen} (first : s.Agrees t) (second : t.Agrees u) :
    s.Agrees u where
  renderers := first.renderers.trans second.renderers
  decorations := first.decorations.trans second.decorations
  finishHooks := first.finishHooks.trans second.finishHooks
  contentHooks := first.contentHooks.trans second.contentHooks
  names name := (first.names name).trans (second.names name)

namespace Bound.Agrees

variable {x y z : Bound}

theorem symm (agrees : x.Agrees y) : y.Agrees x :=
  ⟨agrees.succeeds.symm, fun isOk => (agrees.binds (agrees.succeeds.trans isOk)).symm⟩

theorem trans (first : x.Agrees y) (second : y.Agrees z) : x.Agrees z := by
  refine ⟨first.succeeds.trans second.succeeds, fun isOk => ?_⟩
  exact (first.binds isOk).trans (second.binds (first.succeeds.symm.trans isOk))

theorem noting (agrees : x.Agrees y) (notices more : Notices) :
    (x.noting notices).Agrees (y.noting more) :=
  ⟨agrees.succeeds, agrees.binds⟩

end Bound.Agrees

theorem Binder.Twins.agrees {b c : Binder} (twins : b.Twins c) : b.screen.Agrees c.screen := by
  have renderers := twins.shows.trails twins.screen
  obtain ⟨-, decorations, finishHooks, contentHooks⟩ := twins.shows
  refine ⟨renderers, decorations, finishHooks, contentHooks, fun name => ?_⟩
  rw [Screen.mem_elementNames, Screen.mem_elementNames, twins.screen.kinds]

namespace Skin

/-- The document that a binding reads from a screen. -/
def document (s : Skin) (screen : Screen) (surface : Nat) : Except Markup.ParseError Element :=
  (screen.readEmbedded ("<embedded-in-" ++ screen.className ++ ">") s.store.factor surface).root

/-- Screens that a binding has no way to tell from each other. -/
structure Confuses (s : Skin) (surface : Nat) (x y : Screen) : Prop where
  screen : x.Resembles y
  mandatory : x.mandatory? = y.mandatory?
  document : s.document x surface = s.document y surface

/-- A screen after one, with the same sources, and with the same document for a binding. No
element is gone. -/
structure Preserves (s : Skin) (surface : Nat) (before after : Screen) : Prop where
  peer : after.peer = before.peer
  sources : after.pipelines.map Stage.kind = before.pipelines.map Stage.kind
  mandatory : after.mandatory? = before.mandatory?
  document : s.document after surface = s.document before surface
  elements : ∀ name, (before.kindOf? name).isSome → (after.kindOf? name).isSome

theorem Preserves.outlasts {s : Skin} {surface : Nat} {before between after : Screen}
    (preserves : s.Preserves surface before between) (outlasts : between.Outlasts after) :
    s.Preserves surface before after where
  peer := outlasts.peer.trans preserves.peer
  sources := outlasts.sources.trans preserves.sources
  mandatory := outlasts.mandatory.trans preserves.mandatory
  document := by
    have className : after.className = between.className := congrArg Peer.className outlasts.peer
    rw [← preserves.document, Skin.document, Skin.document, className]
    exact Screen.readEmbedded_congr outlasts.embedded outlasts.embeddedRoot _ _ _
  elements name there := outlasts.elements name (preserves.elements name there)

section

variable {s : Skin} {components : Components} {surface : Nat} {x y : Screen}

theorem choose_congr (mandatory : x.mandatory? = y.mandatory?) (names : List String) :
    s.choose x names = s.choose y names := by
  induction names with
  | nil => rfl
  | cons name rest ih =>
    have suitable : s.suits x name = s.suits y name := by rw [suits, suits, mandatory]
    rw [choose, choose, suitable, mandatory, ih]

theorem beginning_twins (same : x.Resembles y) (chosen : ChosenRoot) :
    (s.beginning components x chosen surface).Twins
      (s.beginning components y chosen surface) := by
  unfold beginning bindWindow
  dsimp only [Binder.note]
  refine ⟨rfl, rfl, ⟨same.peer, same.kinds, same.sources⟩, ?_⟩
  exact ⟨⟨[], .nil, .nil⟩, rfl, rfl, rfl⟩

theorem bindRoot_isOk (chosen : ChosenRoot) :
    (s.bindRoot components x chosen surface).result.isOk =
      (unusedElements ((s.beginning components x chosen surface).bindRoot
        (s.siteFor components chosen surface) chosen.root)).isEmpty := by
  have result := s.bindRoot_result components x surface chosen
  dsimp only at result
  rw [result]
  cases unusedElements _ <;> rfl

theorem bindRoot_agrees (faithful : components.IsFaithful) (same : x.Resembles y)
    (chosen : ChosenRoot) :
    (s.bindRoot components x chosen surface).Agrees (s.bindRoot components y chosen surface) := by
  let site := s.siteFor components chosen surface
  have twins : ((s.beginning components x chosen surface).bindRoot site chosen.root).Twins
      ((s.beginning components y chosen surface).bindRoot site chosen.root) :=
    (beginning_twins same chosen).bindRoot faithful chosen.root
  refine ⟨?_, fun _ => ?_⟩
  · rw [bindRoot_isOk, bindRoot_isOk, Bool.eq_iff_iff, List.isEmpty_iff, List.isEmpty_iff,
      List.eq_nil_iff_forall_not_mem, List.eq_nil_iff_forall_not_mem]
    refine forall_congr' fun name => not_congr ?_
    rw [mem_unusedElements, mem_unusedElements, twins.used, twins.screen.kinds]
  · rw [(s.bindRoot_eq components x surface chosen).1,
      (s.bindRoot_eq components y surface chosen).1]
    exact twins.agrees

theorem bindEmbedded_agrees (faithful : components.IsFaithful) (confuses : s.Confuses surface x y) :
    (s.bindEmbedded components x surface).Agrees (s.bindEmbedded components y surface) := by
  have className : x.className = y.className := congrArg Peer.className confuses.screen.peer
  have document := confuses.document
  obtain ⟨root?, kept⟩ := x.readEmbedded_screen ("<embedded-in-" ++ x.className ++ ">")
    s.store.factor surface
  obtain ⟨rootOther?, keptOther⟩ := y.readEmbedded_screen ("<embedded-in-" ++ y.className ++ ">")
    s.store.factor surface
  unfold Skin.document at document
  unfold bindEmbedded
  dsimp only
  refine Bound.Agrees.noting ?_ _ _
  rw [document, kept, keptOther, className]
  split
  · refine bindRoot_agrees faithful ?_ _
    exact ⟨confuses.screen.peer, confuses.screen.kinds, confuses.screen.sources⟩
  · exact ⟨rfl, fun isOk => by cases isOk⟩

/-- Screens that a binding cannot tell from each other have the same bound to them. -/
theorem bind_agrees (faithful : components.IsFaithful) (confuses : s.Confuses surface x y)
    (names : List String) :
    (s.bind components x names surface).Agrees (s.bind components y names surface) := by
  have choice := choose_congr (s := s) confuses.mandatory names
  cases chosen : (s.choose x names).1 with
  | some pair =>
    obtain ⟨notices, bound⟩ := bind_of_choose components surface chosen
    obtain ⟨more, boundOther⟩ := bind_of_choose components surface (choice ▸ chosen)
    rw [bound, boundOther]
    exact (bindRoot_agrees faithful confuses.screen _).noting notices more
  | none =>
    obtain ⟨notices, bound⟩ := bind_of_choose_eq_none components surface chosen
    obtain ⟨more, boundOther⟩ := bind_of_choose_eq_none components surface (choice ▸ chosen)
    rw [bound, boundOther]
    exact (bindEmbedded_agrees faithful confuses).noting notices more

end

section

variable (s : Skin) (components : Components) (screen : Screen) (surface : Nat)

/-- To choose a root is to read the document of the screen, if anything. -/
theorem ready_of_rootFor? {names : List String} {chosen : ChosenRoot} {ready : Screen}
    (found : s.rootFor? screen names surface = some (chosen, ready)) :
    ∃ root?, ready = { screen with embeddedRoot? := root? } ∧
      s.document ready surface = s.document screen surface := by
  unfold rootFor? at found
  split at found
  · obtain ⟨-, rfl⟩ := Prod.mk.inj (Option.some.inj found)
    exact ⟨screen.embeddedRoot?, rfl, rfl⟩
  · obtain ⟨root, -, same⟩ := Option.map_eq_some_iff.mp found
    obtain ⟨-, rfl⟩ := Prod.mk.inj same
    have again := screen.readEmbedded_again ("<embedded-in-" ++ screen.className ++ ">")
      s.store.factor surface
    obtain ⟨root?, kept⟩ := screen.readEmbedded_screen
      ("<embedded-in-" ++ screen.className ++ ">") s.store.factor surface
    rw [kept] at again ⊢
    exact ⟨root?, rfl, again⟩

theorem bind_preserves (names : List String) :
    s.Preserves surface screen (s.bind components screen names surface).screen := by
  cases rooted : s.rootFor? screen names surface with
  | none =>
    rw [s.bind_of_rootFor?_eq_none components screen surface rooted]
    exact ⟨rfl, rfl, rfl, rfl, fun _ => id⟩
  | some found =>
    obtain ⟨chosen, ready⟩ := found
    obtain ⟨_, bound, -⟩ := s.bind_of_rootFor? components screen surface rooted
    rw [bound]
    let b := s.beginning components ready chosen surface
    have begins : ready.Outlasts b.screen := ⟨rfl, rfl, rfl, rfl, rfl, fun _ => id⟩
    have outlasts := begins.trans
      (b.bindRoot_outlasts (s.siteFor components chosen surface) chosen.root)
    obtain ⟨root?, rfl, document⟩ := s.ready_of_rootFor? screen surface rooted
    have kept : s.Preserves surface screen { screen with embeddedRoot? := root? } :=
      ⟨rfl, rfl, rfl, document, fun _ => id⟩
    exact kept.outlasts outlasts

/-- The elements that are of another kind after a binding have their names from the binding. -/
theorem made_of_kindOf?_ne {names : List String} {name : String}
    (changed : (s.bind components screen names surface).screen.kindOf? name ≠ screen.kindOf? name) :
    ∃ site visits, s.tour? components screen surface names = some (site, visits) ∧
      ∃ v ∈ visits, v.made? site = some name := by
  cases rooted : s.rootFor? screen names surface with
  | none =>
    rw [s.bind_of_rootFor?_eq_none components screen surface rooted] at changed
    contradiction
  | some found =>
    obtain ⟨chosen, ready⟩ := found
    obtain ⟨_, bound, -⟩ := s.bind_of_rootFor? components screen surface rooted
    rw [bound] at changed
    let site := s.siteFor components chosen surface
    let b := s.beginning components ready chosen surface
    refine ⟨site, b.visits site chosen.root, by simp [tour?, rooted, site, b], ?_⟩
    obtain ⟨root?, rfl, -⟩ := s.ready_of_rootFor? screen surface rooted
    have accounts := s.beginning_accounts components { screen with embeddedRoot? := root? } surface
      chosen
    by_contra unmade
    refine changed (accounts.kinds name fun v visited made => ?_)
    exact unmade ⟨v, visited, made⟩

end

/-- What a second binding of a screen binds is what it would have bound without the first. -/
def Forgets (s : Skin) (components : Components) (screen : Screen) (surface : Nat)
    (first second : List String) : Prop :=
  (s.bind components (s.bind components screen first surface).screen second surface).Agrees
    (s.bind components screen second surface)

/-- Of all that a first binding leaves on a screen only the components that it has added make a
difference to a second one. -/
structure LeavesComponents (s : Skin) (components : Components) (screen left : Screen)
    (surface : Nat) (first second : List String) : Prop where
  /-- The second binding goes as on the screen from before, with the elements that are left. -/
  forgets_iff : s.Forgets components screen surface first second ↔
    (s.bind components { screen with elements := left.elements } second surface).Agrees
      (s.bind components screen second surface)
  forgets : (∀ name, left.kindOf? name = screen.kindOf? name) →
    s.Forgets components screen surface first second
  /-- An element that is of another kind now has its name from the first binding. -/
  made : ∀ name, left.kindOf? name ≠ screen.kindOf? name → ∃ site visits,
    s.tour? components screen surface first = some (site, visits) ∧
      ∃ v ∈ visits, v.made? site = some name
  /-- No element that is left is taken away by the second binding. -/
  remains : s.Forgets components screen surface first second →
    (s.bind components screen second surface).result.isOk → ∀ name ∈ left.elementNames,
      name ∈ (s.bind components screen second surface).screen.elementNames

/-- Rebinding a screen forgets the binding before, but for the components that it has added. -/
theorem rebind_leavesComponents (s : Skin) {components : Components}
    (faithful : components.IsFaithful) (screen : Screen) (surface : Nat)
    (first second : List String) :
    s.LeavesComponents components screen (s.bind components screen first surface).screen surface
      first second := by
  generalize reached : (s.bind components screen first surface).screen = left
  have kept : s.Preserves surface screen left :=
    reached ▸ s.bind_preserves components screen surface first
  let beside : Screen := { screen with elements := left.elements }
  have document : s.document screen surface = s.document beside surface :=
    Screen.readEmbedded_congr (s := screen) (t := beside) rfl rfl _ _ _
  have confuses : s.Confuses surface left beside :=
    ⟨⟨kept.peer, fun _ => rfl, kept.sources⟩, kept.mandatory, kept.document.trans document⟩
  have agrees := bind_agrees faithful confuses second
  refine ⟨?_, fun kinds => ?_, ?_, ?_⟩
  · unfold Forgets
    rw [reached]
    exact ⟨agrees.symm.trans, agrees.trans⟩
  · unfold Forgets
    rw [reached]
    exact bind_agrees faithful ⟨⟨kept.peer, kinds, kept.sources⟩, kept.mandatory, kept.document⟩
      second
  · intro name changed
    exact s.made_of_kindOf?_ne components screen surface (reached ▸ changed)
  · intro forgets isOk name member
    unfold Forgets at forgets
    rw [reached] at forgets
    have stays := (s.bind_preserves components left surface second).elements name
      (Screen.mem_elementNames.mp member)
    have bound := forgets.binds (forgets.succeeds.trans isOk)
    exact (bound.names name).mp (Screen.mem_elementNames.mpr stays)

/-- Two fragments for a screen with a list, of which the first adds a label that scrolls with it. -/
def scrolling : Skin :=
  let label : Element :=
    { Element.ofTag "widget" with attributes := [("addon", "ScrollLabel"), ("connection", "list")] }
  .ofCatalog [] [("Main", ⟨{ Element.ofTag "screen" with children := [label] }, ⟨"skins"⟩⟩),
    ("Other", ⟨Element.ofTag "screen", ⟨"skins"⟩⟩)]

def scrollComponents : Components :=
  { Components.none with
    converter? := fun _ => some id
    addon? := fun _ => some ⟨"ScrollLabel", .initial, true⟩ }

def listScreen : Screen := (Screen.ofClass "MainScreen").addSource "list" "List"

/-- In the other order no component is left behind, and the first binding is forgotten. -/
theorem rebind_leavesComponents_list :
    let left := (scrolling.bind scrollComponents listScreen ["Other"] 0).screen
    scrollComponents.IsFaithful ∧
      scrolling.LeavesComponents scrollComponents listScreen left 0 ["Other"] ["Main"] ∧
      scrolling.Forgets scrollComponents listScreen 0 ["Other"] ["Main"] := by
  have faithful : scrollComponents.IsFaithful := by
    rintro kind reported known arguments
    obtain rfl : id = reported := Option.some.inj known
    rfl
  have leaves := scrolling.rebind_leavesComponents faithful listScreen 0 ["Other"] ["Main"]
  refine ⟨faithful, leaves, leaves.forgets fun name => ?_⟩
  by_contra changed
  obtain ⟨site, visits, toured, v, visited, -⟩ := leaves.made name changed
  have silent : (scrolling.tour? scrollComponents listScreen 0 ["Other"]).map (·.2.length) =
      some 0 := by
    decide +kernel
  rw [toured] at silent
  obtain rfl : visits = [] := by simpa using silent
  cases visited

/-- The label that the first binding has added has no node in the second one, which fails. -/
theorem scrolling_not_forgets :
    ¬ scrolling.Forgets scrollComponents listScreen 0 ["Main"] ["Other"] := by
  intro forgets
  have alone : (scrolling.bind scrollComponents listScreen ["Other"] 0).result.isOk = true := by
    decide +kernel
  have again : (scrolling.bind scrollComponents
      (scrolling.bind scrollComponents listScreen ["Main"] 0).screen ["Other"] 0).result.isOk =
      false := by
    decide +kernel
  have succeeds := forgets.succeeds
  rw [alone, again] at succeeds
  cases succeeds

end Skin
end Skinning
