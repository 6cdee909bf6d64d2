import Skinning.Proofs.AgreeingRuns
import Skinning.Proofs.FragmentChoice
import Skinning.Proofs.Rebinding
import Skinning.Proofs.Translation
import Skinning.Proofs.TransparentPanels

/-! Where a window stands makes no difference to what is inside of it. The nodes of a root share a
space with its own corner as the origin, so that of the position of the root they see no more than
the size of the window. -/
namespace Skinning

open Binder

theorem Space.resetOrigin_ofRect (mode : SpaceMode) (r : Rect) (scale : Scale) (factor : Float) :
    (ofRect mode r scale factor).resetOrigin = ofRect mode ⟨0, 0, r.width, r.height⟩ scale factor := by
  simp [ofRect, resetOrigin]

/-! Another position. -/

/-- An element with another text for its position, if it has one. -/
def Element.withPosition (e : Element) (position : String) : Element :=
  { e with
    attributes := e.attributes.map fun (name, value) =>
      (name, if name = "position" then position else value) }

theorem Element.attribute?_withPosition (e : Element) (position : String) {name : String}
    (other : name ≠ "position") : (e.withPosition position).attribute? name = e.attribute? name := by
  unfold attribute? withPosition
  dsimp only
  induction e.attributes with
  | nil => rfl
  | cons first rest ih =>
    obtain ⟨key, value⟩ := first
    by_cases here : name = key
    · subst here
      simp [other]
    · simp [List.lookup_cons, beq_false_of_ne here, ih]

theorem Skin.rootScale_withPosition (root : Element) (position : String) (desktop : Rect) :
    rootScale (root.withPosition position) desktop = rootScale root desktop := by
  simp only [rootScale, root.attribute?_withPosition position (by decide : "resolution" ≠ "position")]

/-! Screens that are the same inside. -/

/-- A screen that is as another one, but for its window and for the document that it brings
along. -/
def Screen.SameInside (s t : Screen) : Prop := ∃ frame, t = s.inFrame frame

/-- Two bindings in screens that are the same inside, at the same place in the same space. -/
structure Binder.SameInside (b c : Binder) : Prop where
  screen : b.screen.SameInside c.screen
  space : c.space = b.space
  used : c.used = b.used
  connections : c.connections = b.connections

/-- Two bindings end alike, and leave screens that are the same inside: all that is bound has the
same position, the same size and the same look. -/
structure Bound.SameInside (x y : Bound) : Prop where
  result : y.result = x.result
  screen : x.screen.SameInside y.screen
  connections : y.connections = x.connections

theorem Screen.SameInside.refl (s : Screen) : s.SameInside s := ⟨s, rfl⟩

namespace Bound.SameInside

theorem refl (x : Bound) : x.SameInside x := ⟨rfl, .refl x.screen, rfl⟩

theorem noting {x y : Bound} (same : x.SameInside y) (notices more : Notices) :
    (x.noting notices).SameInside (y.noting more) := ⟨same.result, same.screen, same.connections⟩

end Bound.SameInside

namespace Binder.SameInside

theorem stepsKeep : StepsKeep SameInside where
  space same := same.space
  screen same := same.screen
  note same _ := ⟨same.screen, same.space, same.used, same.connections⟩
  withSpace same _ := ⟨same.screen, rfl, same.used, same.connections⟩
  withScreen := by
    intro b c same change isInside
    obtain ⟨⟨frame, screen⟩, space, used, connections⟩ := same
    exact ⟨⟨frame, by rw [screen, isInside]⟩, space, used, connections⟩
  use same name := ⟨same.screen, same.space, congrArg (name :: ·) same.used, same.connections⟩
  connect same connection :=
    ⟨same.screen, same.space, same.used, congrArg (· ++ [connection]) same.connections⟩

theorem bindRoot {b c : Binder} (same : b.SameInside c) (site : BindingSite) (root : Element) :
    (b.bindRoot site root).SameInside (c.bindRoot site root) := by
  have inStep : InStep site (fun _ => True) SameInside :=
    stepsKeep.inStep site fun _ _ same _ _ => by rw [same.used]
  exact inStep.bindRoot same root fun _ _ => trivial

end Binder.SameInside

namespace Skin

/-- The rectangle of a window: what the position of its root comes to on the desktop, or else all of
the desktop. -/
def windowRect (s : Skin) (root : Element) (surface : Nat) : Rect :=
  let desktop := s.desktop surface
  let space : Space := .ofRect .stacking desktop (rootScale root desktop).1 s.store.factor
  match root.attribute? "position" with
  | some position =>
    (space.place ⟨position, root.attribute? "size",
      (root.attribute? "font").map s.store.metrics⟩).rect
  | none => desktop

section

variable (s : Skin) (components : Components) (screen : Screen) (chosen : ChosenRoot) (surface : Nat)

theorem beginning_space :
    let size := (s.windowRect chosen.root surface).size
    (s.beginning components screen chosen surface).space =
      .ofRect .sequential ⟨0, 0, size.width, size.height⟩
        (rootScale chosen.root (s.desktop surface)).1 s.store.factor := by
  unfold beginning bindWindow windowRect
  dsimp only
  rw [Space.resetOrigin_ofRect]
  unfold BindingSite.gather
  cases chosen.root.attribute? "position" with
  | some position => rfl
  | none => cases chosen.root.attribute? "size" <;> rfl

theorem beginning_screen :
    ∃ window, (s.beginning components screen chosen surface).screen =
      { screen.clearBindings with
        scale := (rootScale chosen.root (s.desktop surface)).1, window } :=
  ⟨_, rfl⟩

theorem beginning_unused :
    (s.beginning components screen chosen surface).used = [] ∧
      (s.beginning components screen chosen surface).connections = [] := ⟨rfl, rfl⟩

end

section

variable {s : Skin} {components : Components} {surface : Nat} {x y : Screen} {root : Element}
  {position : String}

/-- The walks of two roots begin alike if only the positions are different and come to one size. -/
theorem beginning_sameInside (same : x.SameInside y) (name : String) (base? : Option Path)
    (size : (s.windowRect (root.withPosition position) surface).size =
      (s.windowRect root surface).size) :
    (s.beginning components x ⟨name, root, base?⟩ surface).SameInside
      (s.beginning components y ⟨name, root.withPosition position, base?⟩ surface) := by
  obtain ⟨frame, rfl⟩ := same
  let chosen : ChosenRoot := ⟨name, root, base?⟩
  let other : ChosenRoot := ⟨name, root.withPosition position, base?⟩
  refine ⟨?_, ?_, ?_, ?_⟩
  · obtain ⟨window, here⟩ := s.beginning_screen components x chosen surface
    obtain ⟨moved, there⟩ := s.beginning_screen components (x.inFrame frame) other surface
    rw [here, there, rootScale_withPosition]
    exact ⟨{ frame with window := moved }, rfl⟩
  · rw [beginning_space, beginning_space, size, rootScale_withPosition]
  · rw [(s.beginning_unused ..).1, (s.beginning_unused ..).1]
  · rw [(s.beginning_unused ..).2, (s.beginning_unused ..).2]

theorem unusedElements_congr {b c : Binder} (same : b.SameInside c) :
    unusedElements c = unusedElements b := by
  obtain ⟨⟨frame, screen⟩, -, used, -⟩ := same
  unfold unusedElements
  rw [used, screen]
  rfl

/-- Two bindings are alike if the binders that they end with are. -/
theorem bindRoot_sameInside_of_ending {chosen other : ChosenRoot} (name : other.name = chosen.name)
    (same : (s.ending components x chosen surface).SameInside
      (s.ending components y other surface)) :
    (s.bindRoot components x chosen surface).SameInside
      (s.bindRoot components y other surface) := by
  have unused := unusedElements_congr same
  unfold ending at same unused
  refine ⟨?_, ?_, ?_⟩
  · rw [bindRoot_result, bindRoot_result, unused, name]
  · rw [(s.bindRoot_eq components x surface chosen).1, (s.bindRoot_eq components y surface other).1]
    exact same.screen
  · rw [bindRoot_connections, bindRoot_connections]
    exact same.connections

theorem bindRoot_withPosition (same : x.SameInside y) (name : String) (base? : Option Path)
    (size : (s.windowRect (root.withPosition position) surface).size =
      (s.windowRect root surface).size) :
    (s.bindRoot components x ⟨name, root, base?⟩ surface).SameInside
      (s.bindRoot components y ⟨name, root.withPosition position, base?⟩ surface) := by
  refine bindRoot_sameInside_of_ending rfl ?_
  have site : s.siteFor components ⟨name, root.withPosition position, base?⟩ surface =
      s.siteFor components ⟨name, root, base?⟩ surface := by
    simp only [siteFor, rootScale_withPosition]
  unfold ending
  rw [site]
  exact (beginning_sameInside same name base? size).bindRoot _ root

end

/-! Another position in the catalog. -/

section

variable {site : BindingSite} {fragments : Table String Fragment}

/-- Catalogs of which the fragments have the same nodes. -/
def HasNodesOf (site : BindingSite) (fragments : Table String Fragment) : Prop :=
  ∀ name, (fragments.get? name).map (·.element.children) =
    (site.skin.fragment? name).map (·.element.children)

theorem HasNodesOf.panelsAgree (same : HasNodesOf site fragments) {inliner other : Inliner}
    (opens : ∀ (inlined : List String) (root entered : Element) (b : Binder),
      entered.children = root.children → other inlined entered b = inliner inlined root b)
    (inlined : List String) :
    PanelsAgree site fragments inliner other (fun _ _ _ => []) (fun _ => True) inlined inlined := by
  intro panel b _ _ _ _
  unfold inlinePanel
  cases panel.filled? "name" with
  | none => rfl
  | some name =>
    have nodes := same name
    have known : (site.withFragments fragments).skin.fragment? name = fragments.get? name := rfl
    dsimp only
    rw [known]
    cases here : site.skin.fragment? name with
    | none =>
      rw [here, Option.map_none, Option.map_eq_none_iff] at nodes
      rw [nodes]
    | some fragment =>
      rw [here, Option.map_some, Option.map_eq_some_iff] at nodes
      obtain ⟨entered, there, children⟩ := nodes
      rw [there]
      dsimp only
      rw [opens _ fragment.element entered.element b children]

/-- Of the fragments of a catalog no more is inlined than the nodes. -/
theorem HasNodesOf.inlineTo (same : HasNodesOf site fragments) (depth : Nat)
    (inlined : List String) (root entered : Element) (b : Binder)
    (children : entered.children = root.children) :
    Binder.inlineTo (site.withFragments fragments) depth inlined entered b =
      Binder.inlineTo site depth inlined root b := by
  induction depth generalizing inlined root entered b with
  | zero => rfl
  | succ depth ih =>
    dsimp only [Binder.inlineTo]
    rw [children]
    exact (same.panelsAgree ih inlined).bindNodes root.children b fun _ _ => trivial

theorem HasNodesOf.bindRoot (same : HasNodesOf site fragments) (b : Binder) (root : Element) :
    b.bindRoot (site.withFragments fragments) root = b.bindRoot site root := by
  have size : fragments.size = site.skin.fragments.size := by
    refine Table.size_congr fun name => ?_
    have nodes := congrArg Option.isSome (same name)
    rwa [Option.isSome_map, Option.isSome_map] at nodes
  have sizes : (site.withFragments fragments).skin.fragments.size = fragments.size := rfl
  have agree := same.panelsAgree (same.inlineTo site.skin.fragments.size) []
  rw [Binder.bindRoot, Binder.bindRoot, sizes, size]
  exact agree.bindNodes root.children b fun _ _ => trivial

end

section

variable {s : Skin} {host : String} {root : Element} {base : Path} {entered : Fragment}
  (found : s.fragment? host = some ⟨root, base⟩) (children : entered.element.children = root.children)
include found children

theorem hasNodesOf_withFragment (site : BindingSite) (isSite : site.skin = s) :
    HasNodesOf site (s.withFragment host entered).fragments := by
  subst isSite
  intro name
  have known : (site.skin.withFragment host entered).fragments.get? name = _ :=
    fragment?_withFragment site.skin host entered name
  rw [known]
  by_cases isHost : name = host
  · simp [isHost, found, children]
  · simp [isHost]

theorem ending_withNodes (components : Components) (screen : Screen) (chosen : ChosenRoot)
    (surface : Nat) :
    (s.withFragment host entered).ending components screen chosen surface =
      s.ending components screen chosen surface := by
  have same := hasNodesOf_withFragment found children (s.siteFor components chosen surface) rfl
  unfold ending
  rw [beginning_withFragment]
  exact same.bindRoot _ _

/-- The nodes of a fragment are all that counts for what it declares. -/
theorem declares_withNodes (first x : String) :
    (s.withFragment host entered).Declares first x ↔ s.Declares first x := by
  have has (name : String) (errand : Survey.Errand) :
      (s.withFragment host entered).HasErrand name errand ↔ s.HasErrand name errand := by
    rw [hasErrand_withFragment]
    split
    next isHost => rw [isHost, hasErrand_iff_of_fragment? found, children]
    · rfl
  have unfolds : s.Unfolds (s.withFragment host entered) host host :=
    ⟨fun name errand before => .inl ((has name errand).mpr before),
      fun name errand after => .inl ((has name errand).mp after)⟩
  exact unfolds.declares_iff

theorem bindRoot_withNodes (components : Components) (screen : Screen) (chosen : ChosenRoot)
    (surface : Nat) :
    (s.withFragment host entered).bindRoot components screen chosen surface =
      s.bindRoot components screen chosen surface :=
  s.bindRoot_eq_of_ending components screen surface
    (ending_withNodes found children components screen chosen surface) rfl

theorem bindEmbedded_withNodes (components : Components) (screen : Screen) (surface : Nat) :
    (s.withFragment host entered).bindEmbedded components screen surface =
      s.bindEmbedded components screen surface := by
  have factor : (s.withFragment host entered).store.factor = s.store.factor := rfl
  unfold bindEmbedded
  simp only [factor, bindRoot_withNodes found children]

end

section

variable {s : Skin} {components : Components} {surface : Nat} {root : Element} {position : String}
  (size : (s.windowRect (root.withPosition position) surface).size =
    (s.windowRect root surface).size)
include size

/-- Another position of a fragment of the catalog. -/
theorem bind_withPosition {host : String} {base : Path}
    (found : s.fragment? host = some ⟨root, base⟩) (screen : Screen) (names : List String) :
    (s.bind components screen names surface).SameInside
      ((s.withFragment host ⟨root.withPosition position, base⟩).bind components screen names
        surface) := by
  let entered : Fragment := ⟨root.withPosition position, base⟩
  have children : entered.element.children = root.children := rfl
  have choice : (s.withFragment host entered).choose screen names = _ :=
    choose_withFragment (by simp [found]) (declares_withNodes found children) screen names
  cases chosen : (s.choose screen names).1 with
  | some pair =>
    obtain ⟨name, fragment⟩ := pair
    rw [chosen, Option.map_some] at choice
    obtain ⟨notices, bound⟩ := bind_of_choose components surface chosen
    by_cases isHost : name = host
    · obtain rfl : fragment = ⟨root, base⟩ := by
        have known := s.fragment?_of_choose chosen
        rw [isHost, found] at known
        exact (Option.some.inj known).symm
      rw [if_pos isHost] at choice
      obtain ⟨more, other⟩ := bind_of_choose components surface (congrArg Prod.fst choice)
      rw [bound, other, bindRoot_withNodes found children, isHost]
      exact (bindRoot_withPosition (.refl screen) host (some base) size).noting notices more
    · rw [if_neg isHost] at choice
      obtain ⟨more, other⟩ := bind_of_choose components surface (congrArg Prod.fst choice)
      rw [bound, other, bindRoot_withNodes found children]
      exact (Bound.SameInside.refl _).noting notices more
  | none =>
    rw [chosen, Option.map_none] at choice
    obtain ⟨notices, bound⟩ := bind_of_choose_eq_none components surface chosen
    obtain ⟨more, other⟩ := bind_of_choose_eq_none components surface (congrArg Prod.fst choice)
    rw [bound, other, bindEmbedded_withNodes found children]
    exact (Bound.SameInside.refl _).noting notices more

/-- Another position of the document that a screen brings along. -/
theorem bind_withEmbedded {x y : Screen} {names : List String} (same : x.SameInside y)
    (none : (s.choose x names).1 = none) (here : s.document x surface = .ok root)
    (there : s.document y surface = .ok (root.withPosition position)) :
    (s.bind components x names surface).SameInside (s.bind components y names surface) := by
  obtain ⟨frame, rfl⟩ := same
  have mandatory : x.mandatory? = (x.inFrame frame).mandatory? := rfl
  have choice : s.choose x names = _ := choose_congr mandatory names
  obtain ⟨notices, bound⟩ := bind_of_choose_eq_none components surface none
  obtain ⟨more, other⟩ := bind_of_choose_eq_none components surface (choice ▸ none)
  rw [bound, other]
  refine Bound.SameInside.noting ?_ notices more
  obtain ⟨root?, read⟩ := x.readEmbedded_screen ("<embedded-in-" ++ x.className ++ ">")
    s.store.factor surface
  obtain ⟨other?, readOther⟩ := (x.inFrame frame).readEmbedded_screen
    ("<embedded-in-" ++ (x.inFrame frame).className ++ ">") s.store.factor surface
  unfold Skin.document at here there
  unfold bindEmbedded
  dsimp only
  rw [here, there, read, readOther]
  dsimp only
  refine Bound.SameInside.noting (bindRoot_withPosition ?_ _ _ size) _ _
  exact ⟨{ frame with embeddedRoot? := other? }, rfl⟩

end

/-- Another position of a root leaves all inside of its window as it is, be it the root of a document
that is bound by itself, of a fragment in the catalog or of what a screen brings along. -/
structure PlacesInside (s : Skin) (root : Element) (position : String) (surface : Nat) : Prop where
  document : ∀ components x y name base?, x.SameInside y →
    (s.bindRoot components x ⟨name, root, base?⟩ surface).SameInside
      (s.bindRoot components y ⟨name, root.withPosition position, base?⟩ surface)
  fragment : ∀ components host base screen names, s.fragment? host = some ⟨root, base⟩ →
    (s.bind components screen names surface).SameInside
      ((s.withFragment host ⟨root.withPosition position, base⟩).bind components screen names
        surface)
  embedded : ∀ components x y names, x.SameInside y → (s.choose x names).1 = none →
    s.document x surface = .ok root → s.document y surface = .ok (root.withPosition position) →
    (s.bind components x names surface).SameInside (s.bind components y names surface)

end Skin

/-- All that a space gives moves with it. In a run of calls to a space that is moved, the same sizes
are come to, the same is reported, and every rectangle and every space is moved by as much. A space
that makes its corner the origin, at any point of a run, moves all that it gives from then on by the
old corner. And with another position of its root, a document gives all that is inside of the window
the same place if the window has the same size. -/
theorem layout_translates :
    (∀ (s : Space) (d : Point) (calls : List (Nat × SpaceCall)),
      let run := (SpaceRun.ofSpace s).goOn calls
      let other := (SpaceRun.ofSpace (s.translate d)).goOn calls
      other.spaces = run.spaces.map (·.translate d) ∧
        other.answers = run.answers.map (·.translate d) ∧ other.faults = run.faults) ∧
    (∀ (run : SpaceRun) (number : Nat) (calls : List (Nat × SpaceCall)),
      let moving := (MovingRun.resetting run number).goOn calls
      run.goOn calls = moving.here ∧ (run.resetAt number).goOn calls = moving.there) ∧
    ∀ (s : Skin) (root : Element) (position : String) (surface : Nat),
      (s.windowRect (root.withPosition position) surface).size =
        (s.windowRect root surface).size →
      s.PlacesInside root position surface := by
  refine ⟨SpaceRun.goOn_translate, SpaceRun.goOn_resetAt, fun s root position surface size => ?_⟩
  refine ⟨?_, ?_, ?_⟩
  · intro components x y name base? same
    exact Skin.bindRoot_withPosition same name base? size
  · intro components host base screen names found
    exact Skin.bind_withPosition size found screen names
  · intro components x y names same none here there
    exact Skin.bind_withEmbedded size same none here there

/-- A window of a fixed size with a label in its middle. -/
def dialog : Element :=
  { Element.ofTag "screen" with
    attributes := [("position", "10,10"), ("size", "200,100")]
    children := [{ Element.ofTag "eLabel" with
      attributes := [("position", "center,center"), ("size", "50,20")] }] }

/-- The window is put in the middle of the desktop, and the label stays in the middle of it. -/
theorem layout_translates_dialog :
    let s : Skin := .ofCatalog [] [("Dialog", ⟨dialog, ⟨"skins"⟩⟩)]
    let moved := dialog.withPosition "center,center"
    let bound := s.bind .none (Screen.ofClass "Dialog") ["Dialog"] 0
    s.windowRect dialog 0 = ⟨10, 10, 200, 100⟩ ∧ s.windowRect moved 0 = ⟨540, 310, 200, 100⟩ ∧
      (s.windowRect moved 0).size = (s.windowRect dialog 0).size ∧
      bound.SameInside ((s.withFragment "Dialog" ⟨moved, ⟨"skins"⟩⟩).bind .none
        (Screen.ofClass "Dialog") ["Dialog"] 0) := by
  intro s moved bound
  have here : s.windowRect dialog 0 = ⟨10, 10, 200, 100⟩ := by decide +kernel
  have there : s.windowRect moved 0 = ⟨540, 310, 200, 100⟩ := by decide +kernel
  have size : (s.windowRect moved 0).size = (s.windowRect dialog 0).size := by rw [here, there]; rfl
  refine ⟨here, there, size, ?_⟩
  exact (layout_translates.2.2 s dialog "center,center" 0 size).fragment .none "Dialog" ⟨"skins"⟩
    (Screen.ofClass "Dialog") ["Dialog"] rfl

end Skinning
