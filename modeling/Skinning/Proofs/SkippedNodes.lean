import Skinning.Proofs.AgreeingRuns

/-! Nodes that nothing comes of. They leave the screen and the space as they are, so that all that
follows is bound as if they were not there. Only the name of an element that is missing stays in
use, and a component that would have been given this name is given another one. -/
namespace Skinning

open Binder BindingStep

/-! A skipped node. -/

/-- Nothing comes of a node: it is not for the screen, or something that it asks for is not
there. -/
def BindingSite.skips (site : BindingSite) (node : Element) (b : Binder) : Bool :=
  !b.screen.admits node ||
    match (bindLeaf site node).run.run b with
    | (.error fault, _) => !fault.isMissingImage
    | (.ok (), _) => false

/-- The name that a node leaves in use: that of the element it dresses, if it is for the screen. -/
def Binder.taken? (b : Binder) (node : Element) : Option String :=
  if b.screen.admits node then node.dresses? else none

section

variable {site : BindingSite} {node : Element} {b : Binder}

theorem BindingSite.skips_cases (skips : site.skips node b) :
    ¬ b.screen.admits node ∨ b.screen.admits node ∧
      ∃ fault notices, (∀ name, node.dresses? = some name → b.screen.elements.get? name = none) ∧
        Notices.faults notices = [] ∧
        (bindLeaf site node).run.run b = (.error fault, b.passOver node.dresses? notices) := by
  by_cases admitted : b.screen.admits node
  · simp only [BindingSite.skips, admitted, Bool.not_true, Bool.false_or] at skips
    split at skips
    next fault after run =>
      refine .inr ⟨admitted, fault, ?_⟩
      cases fails_of_run site b run with
      | @lacking _ notices _ silent missing => exact ⟨notices, missing, silent, run⟩
      | undressed isFatal | added isFatal | unattached isFatal =>
        simp [BindingFault.isMissingImage, isFatal] at skips
    · cases skips
  · exact .inl admitted

/-- The element whose name a skipped node leaves in use is not on the screen. -/
theorem BindingSite.missing_of_skips (skips : site.skips node b) {name : String}
    (taken : b.taken? node = some name) : b.screen.elements.get? name = none := by
  obtain ⟨admitted, dresses⟩ := Option.ite_none_right_eq_some.mp taken
  rcases BindingSite.skips_cases skips with passed | ⟨-, _, _, missing, -⟩
  · contradiction
  · exact missing name dresses

/-- There is one report of a skipped node at most, and nothing else that is seen of it. -/
theorem bindNode_of_skips (inliner : Inliner) (inlined : List String)
    (isLeaf : node.tag ≠ "panel") (skips : site.skips node b) :
    ∃ lines : Notices, lines.faults.length ≤ 1 ∧
      bindNode site inliner inlined node b = b.passOver (b.taken? node) lines := by
  rcases BindingSite.skips_cases skips with passed | ⟨admitted, fault, notices, -, silent, run⟩
  · refine ⟨[], by decide, ?_⟩
    rw [(bindNode_of_passed site inliner (fun _ _ _ => []) inlined passed).1, taken?, if_neg passed]
    simp [passOver]
  · rw [(bindNode_of_leaf site inliner (fun _ _ _ => []) inlined admitted isLeaf).1, taken?,
      if_pos admitted]
    unfold Binder.attempt
    rw [run]
    refine ⟨notices ++ [.faultyNode site.fragment node.tag] ++ [.fault (.binding fault)], ?_, ?_⟩
    · rw [Notices.faults_append, Notices.faults_append, silent]
      exact Nat.le_refl 1
    · simp [report, Binder.note, passOver]

end

/-! Two runs, one of them with a name in use that the other has not. -/

/-- A binder that is as another one, but for a name in use and some lines in the log. -/
structure Binder.Shadows (taken? : Option String) (start lines : Notices) (b c : Binder) :
    Prop where
  screen : c.screen = b.screen
  space : c.space = b.space
  connections : c.connections = b.connections
  used : ∀ name, name ∈ c.used ↔ taken? = some name ∨ name ∈ b.used
  notices : ∃ more, b.notices = start ++ more ∧ c.notices = start ++ lines ++ more

theorem Binder.shadows_passOver (b : Binder) (taken? : Option String) (lines : Notices) :
    b.Shadows taken? b.notices lines (b.passOver taken? lines) := by
  refine ⟨rfl, rfl, rfl, fun name => ?_, [], by simp, by simp [passOver]⟩
  simp [passOver]

namespace Binder.Shadows

/-- Two runs of the same steps go on with one of the names in use in only one of them. -/
theorem stepsKeep (taken? : Option String) (start lines : Notices) :
    StepsKeep (Shadows taken? start lines) where
  space shadows := shadows.space
  screen := by
    intro b c shadows
    exact ⟨b.screen, shadows.screen⟩
  note := by
    intro b c shadows notices
    obtain ⟨more, here, there⟩ := shadows.notices
    refine ⟨shadows.screen, shadows.space, shadows.connections, shadows.used, more ++ notices, ?_, ?_⟩
    · simp [Binder.note, here]
    · simp [Binder.note, there]
  withSpace shadows _ := ⟨shadows.screen, rfl, shadows.connections, shadows.used, shadows.notices⟩
  withScreen shadows change _ :=
    ⟨congrArg change shadows.screen, shadows.space, shadows.connections, shadows.used,
      shadows.notices⟩
  use := by
    intro b c shadows name
    refine ⟨shadows.screen, shadows.space, shadows.connections, fun other => ?_, shadows.notices⟩
    rw [List.mem_cons, List.mem_cons, shadows.used, or_left_comm]
  connect shadows connection :=
    ⟨shadows.screen, shadows.space, congrArg (· ++ [connection]) shadows.connections, shadows.used,
      shadows.notices⟩

section

variable {taken? : Option String} {start lines : Notices} {b c : Binder}
  (shadows : b.Shadows taken? start lines c)
include shadows

/-- A name that is made stays the same, if it is not the one that is in use already. -/
theorem unusedName_eq {lead : String} (other : taken? ≠ some (unusedName lead b.used)) :
    unusedName lead c.used = unusedName lead b.used := by
  obtain ⟨i, first⟩ := exists_isFirstUnused lead b.used
  rw [first.unusedName_eq] at other ⊢
  apply IsFirstUnused.unusedName_eq
  refine ⟨fun inUse => ?_, fun j below => (shadows.used _).mpr (.inr (first.taken j below))⟩
  rcases (shadows.used _).mp inUse with taken | inUse
  · exact other taken
  · exact first.unused inUse

theorem makes?_eq {site : BindingSite} {node : Element}
    (other : ∀ name, site.makes? node b.used = some name → taken? ≠ some name) :
    site.makes? node c.used = site.makes? node b.used := by
  have same {kind target : String} {component : Component}
      (adds : node.adds? = some (kind, target))
      (known : site.components.addon? kind = some component) :
      unusedName (site.lead kind target) c.used = unusedName (site.lead kind target) b.used :=
    shadows.unusedName_eq
      (other _ (site.makes?_eq_some_iff.mpr ⟨kind, target, component, adds, known, rfl⟩))
  refine Option.ext fun name => ?_
  rw [site.makes?_eq_some_iff, site.makes?_eq_some_iff]
  constructor
  · rintro ⟨kind, target, component, adds, known, rfl⟩
    exact ⟨kind, target, component, adds, known, (same adds known).symm⟩
  · rintro ⟨kind, target, component, adds, known, rfl⟩
    exact ⟨kind, target, component, adds, known, same adds known⟩

end
end Binder.Shadows

/-- The node of a visit is not given a name that is in use in another run. -/
def Visit.Spares (site : BindingSite) (taken? : Option String) (v : Visit) : Prop :=
  ∀ name, v.made? site = some name → taken? ≠ some name

/-- Two runs stay together as long as the name in use is spared. -/
theorem Binder.Shadows.inStep (site : BindingSite) (taken? : Option String)
    (start lines : Notices) :
    InStep site (·.Spares site taken?) (Shadows taken? start lines) := by
  refine (stepsKeep taken? start lines).inStep site fun v c shadows admitted spares => ?_
  exact shadows.makes?_eq fun name makes => spares name ((if_pos admitted).trans makes)

/-- What is left of a node that was skipped, and what becomes of the nodes after it. -/
structure BindingSite.Skipped (site : BindingSite) (depth : Nat) (inlined : List String)
    (node : Element) (b : Binder) (lines : Notices) : Prop where
  reports : lines.faults.length ≤ 1
  after : bindNode site (inlineTo site depth) inlined node b = b.passOver (b.taken? node) lines
  /-- Nodes that follow find the same places, attach the same and report the same as without it,
  if none of them adds a component that would be given the name in use. -/
  follows : ∀ rest,
    (∀ v ∈ visitNodes site (inlineTo site depth) (visitTo site depth) inlined rest b,
      v.Spares site (b.taken? node)) →
    (bindNodes site (inlineTo site depth) inlined rest b).Shadows (b.taken? node) b.notices lines
      (bindNodes site (inlineTo site depth) inlined rest
        (bindNode site (inlineTo site depth) inlined node b))
  /-- If one of them does, this component is under another name on the screen. -/
  only : ∀ rest,
    (bindNodes site (inlineTo site depth) inlined rest
      (bindNode site (inlineTo site depth) inlined node b)).screen =
        (bindNodes site (inlineTo site depth) inlined rest b).screen →
    ∀ v ∈ visitNodes site (inlineTo site depth) (visitTo site depth) inlined rest b,
      v.Spares site (b.taken? node)

/-- A node that is skipped leaves the screen and the space as they are, and so what follows is
bound as if it were not there, unless a component would be given the name that it left in use. -/
theorem bindNode_skipped (site : BindingSite) (depth : Nat) (inlined : List String)
    {node : Element} {b : Binder} (isLeaf : node.tag ≠ "panel") (skips : site.skips node b) :
    ∃ lines, site.Skipped depth inlined node b lines := by
  obtain ⟨lines, reports, after⟩ := bindNode_of_skips (inlineTo site depth) inlined isLeaf skips
  refine ⟨lines, reports, after, fun rest spared => ?_, ?_⟩
  · rw [after]
    have inStep := Shadows.inStep site (b.taken? node) b.notices lines
    have begins := b.shadows_passOver (b.taken? node) lines
    exact inStep.bindNodes (inStep.inlineTo depth) inlined rest _ _ begins spared
  · intro rest same v visited name made taken
    have alone := bindNodes_naming site depth inlined rest b
    obtain ⟨kind, target, component, -, present⟩ := alone.added v visited name made
    -- In the other run the name is in use from the start, and there is nothing under it.
    rw [after] at same
    have later := bindNodes_naming site depth inlined rest (b.passOver (b.taken? node) lines)
    have inUse : name ∈ (b.passOver (b.taken? node) lines).used := by simp [passOver, taken]
    have absent : b.screen.kindOf? name = none := by
      simp [Screen.kindOf?, BindingSite.missing_of_skips skips taken]
    rw [← same, later.kinds name (later.made?_ne inUse)] at present
    cases absent.symm.trans present

/-- A node that is skipped leaves no trace: what follows is bound as if it were not there. -/
def BindingSite.LeavesNoTrace (site : BindingSite) : Prop :=
  ∀ depth inlined node b, node.tag ≠ "panel" → site.skips node b → ∃ lines : Notices,
    lines.faults.length ≤ 1 ∧
    bindNode site (inlineTo site depth) inlined node b = b.passOver (b.taken? node) lines ∧
    ∀ rest, (bindNodes site (inlineTo site depth) inlined rest
      (bindNode site (inlineTo site depth) inlined node b)).screen =
        (bindNodes site (inlineTo site depth) inlined rest b).screen

/-- A node for an element that is not there, by the name that a label of the list would get. -/
def absent : Element := (Element.ofTag "widget").withAttribute "name" "Main_ScrollLabel_list_0"

theorem bindNode_skipped_absent :
    absent.tag ≠ "panel" ∧ scrollSite.skips absent scrollStart ∧
      scrollStart.taken? absent = some "Main_ScrollLabel_list_0" ∧
      ∃ lines, scrollSite.Skipped 0 [] absent scrollStart lines := by
  have isLeaf : absent.tag ≠ "panel" := by decide
  have skips : scrollSite.skips absent scrollStart := by decide +kernel
  exact ⟨isLeaf, skips, by decide +kernel, bindNode_skipped scrollSite 0 [] isLeaf skips⟩

/-- A label that follows goes by another name. -/
theorem scrollSite_not_leavesNoTrace : ¬ scrollSite.LeavesNoTrace := by
  intro leaves
  have skips : scrollSite.skips absent scrollStart := by decide +kernel
  obtain ⟨lines, -, -, follows⟩ := leaves 0 [] absent scrollStart (by decide) skips
  have alone : (bindNodes scrollSite (inlineTo scrollSite 0) [] [scrollLabel]
      scrollStart).screen.contains "Main_ScrollLabel_list_0" = true := by
    decide +kernel
  have later : (bindNodes scrollSite (inlineTo scrollSite 0) [] [scrollLabel]
      (bindNode scrollSite (inlineTo scrollSite 0) [] absent scrollStart)).screen.contains
        "Main_ScrollLabel_list_0" = false := by
    decide +kernel
  rw [follows, alone] at later
  cases later

end Skinning
