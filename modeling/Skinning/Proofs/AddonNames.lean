import Mathlib.Data.Nat.Find
import Skinning.Proofs.NodeFaults

/-! The names that a binding makes for components. They are counted up past the names in use, so
that they differ from each other and from those that nodes took up before. What the screen had
from the start is not looked at. -/
namespace Skinning

open Binder BindingStep

/-! Counting up. -/

/-- The first number that makes an unused name with a lead. -/
structure IsFirstUnused (lead : String) (used : List String) (i : Nat) : Prop where
  unused : lead ++ toString i ∉ used
  taken : ∀ j < i, lead ++ toString j ∈ used

section

variable {lead : String} {used : List String} {i : Nat}

theorem numbered_injective (lead : String) :
    Function.Injective fun i : Nat => lead ++ toString i := by
  intro i j same
  have numbers : (toString i).toList = (toString j).toList :=
    congrArg String.toList ((String.append_right_inj lead).mp same)
  have digits : Nat.toDigits 10 i = Nat.toDigits 10 j := by
    simpa only [Nat.toString_eq_repr, Nat.toList_repr] using numbers
  simpa using congrArg (Nat.ofDigitChars 10 · 0) digits

/-- There is no counting further than there are names in use. -/
theorem le_length_of_taken (taken : ∀ j < i, lead ++ toString j ∈ used) : i ≤ used.length := by
  have distinct : ((List.range i).map fun j => lead ++ toString j).Nodup :=
    List.nodup_range.map (numbered_injective lead)
  have inside : ((List.range i).map fun j => lead ++ toString j) ⊆ used := by
    intro name member
    obtain ⟨j, below, rfl⟩ := List.mem_map.mp member
    exact taken j (List.mem_range.mp below)
  simpa using (List.subperm_of_subset distinct inside).length_le

theorem exists_isFirstUnused (lead : String) (used : List String) :
    ∃ i, IsFirstUnused lead used i := by
  have free : ∃ i : Nat, lead ++ toString i ∉ used := by
    by_contra none
    have taken : ∀ j < used.length + 1, lead ++ toString j ∈ used := by
      intro j _
      by_contra unused
      exact none ⟨j, unused⟩
    have := le_length_of_taken taken
    omega
  refine ⟨Nat.find free, Nat.find_spec free, fun j below => ?_⟩
  exact not_not.mp (Nat.find_min free below)

theorem IsFirstUnused.unusedName_eq (first : IsFirstUnused lead used i) :
    unusedName lead used = lead ++ toString i := by
  have bound := le_length_of_taken first.taken
  have found : (List.range (used.length + 1)).find?
      ((fun name => !used.contains name) ∘ fun i : Nat => lead ++ toString i) = some i := by
    rw [List.find?_range_eq_some]
    refine ⟨by simpa using first.unused, List.mem_range.mpr (by omega), fun j below => ?_⟩
    simpa using first.taken j below
  unfold unusedName
  dsimp only
  rw [List.find?_map, found]
  rfl

theorem unusedName_notMem (lead : String) (used : List String) : unusedName lead used ∉ used := by
  obtain ⟨i, first⟩ := exists_isFirstUnused lead used
  rw [first.unusedName_eq]
  exact first.unused

end

/-! What a node is given. -/

theorem BindingSite.makes?_eq_some_iff {site : BindingSite} {node : Element} {used : List String}
    {name : String} : site.makes? node used = some name ↔ ∃ kind target component,
      node.adds? = some (kind, target) ∧ site.components.addon? kind = some component ∧
      unusedName (site.lead kind target) used = name := by
  unfold BindingSite.makes?
  constructor
  · intro makes
    simp only [Option.bind_eq_bind, Option.bind_eq_some_iff] at makes
    obtain ⟨⟨kind, target⟩, adds, component, known, same⟩ := makes
    exact ⟨kind, target, component, adds, known, Option.some.inj same⟩
  · rintro ⟨kind, target, component, adds, known, rfl⟩
    simp [adds, known, lead]

namespace Visit

/-- A visited node that is for the screen adds a component to it. -/
structure Adds (site : BindingSite) (v : Visit) (kind target : String) (component : Component) :
    Prop where
  admitted : v.binder.screen.admits v.node
  adds : v.node.adds? = some (kind, target)
  known : site.components.addon? kind = some component

variable {site : BindingSite} {v : Visit} {kind target name : String} {component : Component}

theorem made?_eq_some_iff : v.made? site = some name ↔ ∃ kind target component,
    v.Adds site kind target component ∧
      unusedName (site.lead kind target) v.binder.used = name := by
  unfold made?
  constructor
  · intro made
    obtain ⟨admitted, makes⟩ := Option.ite_none_right_eq_some.mp made
    obtain ⟨kind, target, component, adds, known, same⟩ := site.makes?_eq_some_iff.mp makes
    exact ⟨kind, target, component, ⟨admitted, adds, known⟩, same⟩
  · rintro ⟨kind, target, component, adding, same⟩
    rw [if_pos adding.admitted]
    exact BindingSite.makes?_eq_some_iff.mpr
      ⟨kind, target, component, adding.adds, adding.known, same⟩

theorem made?_notMem (made : v.made? site = some name) : name ∉ v.binder.used := by
  obtain ⟨kind, target, component, -, rfl⟩ := made?_eq_some_iff.mp made
  exact unusedName_notMem _ _

theorem Adds.attempt (adding : v.Adds site kind target component) :
    (v.binder.attempt site v.node.tag (bindLeaf site v.node)).screen =
      v.binder.screen.addElement (unusedName (site.lead kind target) v.binder.used)
        (site.addition v.binder.space v.node component) := by
  obtain ⟨isWidget, unnamed, sourceless, added, connected⟩ :=
    Element.adds?_eq_some_iff.mp adding.adds
  have leaf : bindLeaf site v.node = bindAddon site v.node kind := by
    simp [bindLeaf, bindWidget, isWidget, unnamed, sourceless, added]
  rw [leaf]
  have adds := bindAddon_adds site v.binder adding.known connected
  have yields := adds.mono (fun _ _ => id) fun _ _ fails => fails.1
  exact attempt_of_yields yields fun before after screen quiet => quiet.screen.trans screen

end Visit

/-! What a run comes to. -/

/-- What some visits have come to from a binder on, as far as names go. -/
structure Naming (site : BindingSite) (start : Binder) (past : List Visit) (b : Binder) :
    Prop where
  used : ∀ name, name ∈ b.used ↔ name ∈ start.used ∨ ∃ v ∈ past, v.TakesUp site name
  /-- A visit finds in use what the visits before it took up. -/
  finds : ∀ before v rest, past = before ++ v :: rest → ∀ name,
    name ∈ v.binder.used ↔ name ∈ start.used ∨ ∃ w ∈ before, w.TakesUp site name
  kinds : ∀ name, (∀ v ∈ past, v.made? site ≠ some name) →
    b.screen.kindOf? name = start.screen.kindOf? name
  /-- A component that was added is on the screen under the name that was made for it. -/
  added : ∀ v ∈ past, ∀ name, v.made? site = some name → ∃ kind target component,
    v.Adds site kind target component ∧
    b.screen.kindOf? name = some (component.className, component.isGui)

namespace Naming

variable {site : BindingSite} {start : Binder} {past : List Visit}

theorem refl (site : BindingSite) (b : Binder) : Naming site b [] b :=
  ⟨by simp, by simp, fun _ _ => rfl, by simp⟩

/-- The names in use at a visit are never made again, and so what is on the screen under them
stays of its kind. -/
theorem append {v : Visit} {after : Binder} (naming : Naming site start past v.binder)
    (takes : v.binder.TakesUp v.dressed? (v.made? site) after)
    (adds : ∀ kind target component, v.Adds site kind target component →
      after.screen.kindOf? (unusedName (site.lead kind target) v.binder.used) =
        some (component.className, component.isGui)) :
    Naming site start (past ++ [v]) after := by
  refine ⟨fun name => ?_, fun before w rest split name => ?_, fun name new => ?_,
    fun w member name made => ?_⟩
  · have last : name ∈ after.used ↔ v.TakesUp site name ∨ name ∈ v.binder.used := by
      simp [takes.used, Visit.TakesUp, or_assoc]
    rw [last, naming.used, or_left_comm]
    simp [or_and_right, exists_or, or_comm]
  · rcases List.eq_nil_or_concat rest with rfl | ⟨others, last, rfl⟩
    · obtain ⟨rfl, same⟩ := List.append_inj' split rfl
      obtain rfl : v = w := List.head_eq_of_cons_eq same
      exact naming.used name
    · rw [List.concat_eq_append, ← List.cons_append, ← List.append_assoc] at split
      obtain ⟨split, -⟩ := List.append_inj' split rfl
      exact naming.finds before w others split name
  · rw [takes.kinds name (new v (by simp))]
    exact naming.kinds name fun w before => new w (by simp [before])
  · rcases List.mem_append.mp member with earlier | isLast
    · obtain ⟨kind, target, component, adding, found⟩ := naming.added w earlier name made
      have inUse : name ∈ v.binder.used :=
        (naming.used name).mpr (.inr ⟨w, earlier, .inr made⟩)
      refine ⟨kind, target, component, adding, ?_⟩
      rw [takes.kinds name fun again => Visit.made?_notMem again inUse]
      exact found
    · obtain rfl := List.mem_singleton.mp isLast
      obtain ⟨kind, target, component, adding, rfl⟩ := Visit.made?_eq_some_iff.mp made
      exact ⟨kind, target, component, adding, adds kind target component adding⟩

end Naming

theorem tracks_naming (site : BindingSite) (start : Binder) :
    Tracks site (fun _ _ => True) (Naming site start) where
  lasts _ _ _ _ := trivial
  inlines _ _ _ _ _ _ _ _ := trivial
  quiet past b after naming quiet := by
    obtain ⟨used, finds, kinds, added⟩ := naming
    exact ⟨by rwa [quiet.used], finds, by rwa [quiet.screen], by rwa [quiet.screen]⟩
  passed past v naming _ passed := by
    refine naming.append ?_ fun _ _ _ adding => absurd adding.admitted passed
    rw [Visit.dressed?_of_passed passed, Visit.made?_of_passed passed]
    exact (Quiet.refl _).takesNone
  panel past v naming _ admitted isPanel := by
    refine naming.append ?_ fun kind target component adding => ?_
    · rw [Visit.dressed?_of_panel isPanel, Visit.made?_of_panel isPanel]
      exact (quiet_announce v.binder site v.inlined v.node).takesNone
    · obtain ⟨isWidget, -⟩ := Element.adds?_eq_some_iff.mp adding.adds
      simp [isPanel] at isWidget
  leaf past v naming _ admitted isLeaf := by
    refine naming.append (Visit.takesUp_attempt site admitted) ?_
    intro kind target component adding
    rw [adding.attempt, Screen.kindOf?_addElement, if_pos rfl]
    rfl

/-- The nodes of a fragment are named as they are bound. -/
theorem bindNodes_naming (site : BindingSite) (depth : Nat) (inlined : List String)
    (nodes : List Element) (b : Binder) :
    Naming site b (visitNodes site (inlineTo site depth) (visitTo site depth) inlined nodes b)
      (bindNodes site (inlineTo site depth) inlined nodes b) := by
  have tracks := tracks_naming site b
  exact tracks.visitNodes (tracks.visitTo depth) nodes [] b trivial (.refl site b)

namespace Naming

variable {site : BindingSite} {start : Binder} {past : List Visit} {b : Binder}

/-- No name is made that an earlier visit took up. -/
theorem pairwise (naming : Naming site start past b) :
    past.Pairwise fun w v => ∀ name, v.made? site = some name → ¬ w.TakesUp site name := by
  rw [List.pairwise_iff_getElem]
  intro i j _ bound below name made takes
  have split : past = past.take j ++ past[j] :: past.drop (j + 1) := by
    rw [List.getElem_cons_drop, List.take_append_drop]
  have earlier : past[i] ∈ past.take j := List.mem_take_iff_getElem.mpr ⟨i, by omega, rfl⟩
  have inUse := (naming.finds _ _ _ split name).mpr (.inr ⟨_, earlier, takes⟩)
  exact Visit.made?_notMem made inUse

theorem made_nodup (naming : Naming site start past b) :
    (past.filterMap (·.made? site)).Nodup := by
  apply List.pairwise_filterMap.mpr
  refine naming.pairwise.imp fun apart name made other madeLater same => ?_
  exact apart other madeLater (.inr (same ▸ made))

/-- No name is made that was in use from the start. -/
theorem made?_ne (naming : Naming site start past b) {name : String} (inUse : name ∈ start.used) :
    ∀ v ∈ past, v.made? site ≠ some name := by
  intro v member made
  obtain ⟨before, rest, split⟩ := List.append_of_mem member
  exact Visit.made?_notMem made ((naming.finds before v rest split name).mpr (.inl inUse))

end Naming

namespace Skin

section

variable (s : Skin) (components : Components) (screen : Screen) (surface : Nat)
  (names : List String)

/-- A binding has no names in use when it begins. -/
theorem tour?_naming {site : BindingSite} {visits : List Visit}
    (toured : s.tour? components screen surface names = some (site, visits)) :
    ∃ start b : Binder, (s.bind components screen names surface).screen = b.screen ∧
      start.used = [] ∧ Naming site start visits b := by
  obtain ⟨⟨chosen, ready⟩, rooted, same⟩ := Option.map_eq_some_iff.mp toured
  obtain ⟨rfl, rfl⟩ := Prod.mk.inj same
  obtain ⟨_, bound, -⟩ := s.bind_of_rootFor? components screen surface rooted
  exact ⟨_, _, bound, rfl, bindNodes_naming _ _ _ _ _⟩

/-- The names that a binding makes differ from each other and from those of all elements that the
screen had, so that it keeps each of these. -/
structure AddonsApart : Prop where
  distinct : ∀ site visits, s.tour? components screen surface names = some (site, visits) →
    (visits.filterMap (·.made? site)).Nodup
  apart : ∀ site visits, s.tour? components screen surface names = some (site, visits) →
    ∀ v ∈ visits, ∀ name, v.made? site = some name → screen.elements.get? name = none
  kept : ∀ name component, screen.elements.get? name = some component →
    (s.bind components screen names surface).screen.kindOf? name =
      some (component.className, component.isGui)

/-- Nothing is counted up to the name of an element that the screen had, unless a node has taken
that name up by then. -/
def CountsClear : Prop :=
  ∀ site visits, s.tour? components screen surface names = some (site, visits) →
    ∀ before v rest, visits = before ++ v :: rest →
    ∀ kind target component, v.Adds site kind target component →
    ∀ i : Nat, screen.elements.get? (site.lead kind target ++ toString i) ≠ none →
    (∀ j < i, ∃ w ∈ before, w.TakesUp site (site.lead kind target ++ toString j)) →
    ∃ w ∈ before, w.TakesUp site (site.lead kind target ++ toString i)

/-- Made names always differ from each other, and from those taken up before. From a name that
the screen had from the start they differ only if the counting never stops there. -/
theorem addonsApart_iff :
    s.AddonsApart components screen surface names ↔
      s.CountsClear components screen surface names := by
  constructor
  · intro addons site visits toured before v rest split kind target component adding i present taken
    obtain ⟨start, b, -, unused, naming⟩ := s.tour?_naming components screen surface names toured
    by_contra untaken
    have finds (j : Nat) := naming.finds before v rest split (site.lead kind target ++ toString j)
    simp only [unused, List.not_mem_nil, false_or] at finds
    have first : IsFirstUnused (site.lead kind target) v.binder.used i :=
      ⟨fun inUse => untaken ((finds i).mp inUse), fun j below => (finds j).mpr (taken j below)⟩
    have made : v.made? site = some (site.lead kind target ++ toString i) :=
      Visit.made?_eq_some_iff.mpr ⟨kind, target, component, adding, first.unusedName_eq⟩
    have member : v ∈ visits := by simp [split]
    exact present (addons.apart site visits toured v member _ made)
  · intro clear
    have apart : ∀ site visits, s.tour? components screen surface names = some (site, visits) →
        ∀ v ∈ visits, ∀ name, v.made? site = some name → screen.elements.get? name = none := by
      intro site visits toured v member name made
      obtain ⟨start, b, -, unused, naming⟩ :=
        s.tour?_naming components screen surface names toured
      obtain ⟨before, rest, split⟩ := List.append_of_mem member
      obtain ⟨kind, target, component, adding, same⟩ := Visit.made?_eq_some_iff.mp made
      obtain ⟨i, first⟩ := exists_isFirstUnused (site.lead kind target) v.binder.used
      obtain rfl := first.unusedName_eq.symm.trans same
      have finds (j : Nat) := naming.finds before v rest split (site.lead kind target ++ toString j)
      simp only [unused, List.not_mem_nil, false_or] at finds
      by_contra present
      have taken := clear site visits toured before v rest split kind target component adding i
        present fun j below => (finds j).mp (first.taken j below)
      exact first.unused ((finds i).mpr taken)
    refine ⟨fun site visits toured => ?_, apart, fun name component found => ?_⟩
    · obtain ⟨_, _, -, -, naming⟩ := s.tour?_naming components screen surface names toured
      exact naming.made_nodup
    · have stays : (s.bind components screen names surface).screen.kindOf? name =
          screen.kindOf? name := by
        by_contra changed
        obtain ⟨site, visits, toured, v, member, made⟩ :=
          s.made_of_kindOf?_ne components screen surface changed
        simp [apart site visits toured v member name made] at found
      rw [stays, Screen.kindOf?, found]
      rfl

/-- An element whose name is made gives way to the component that is added. -/
theorem kindOf?_of_made {site : BindingSite} {visits : List Visit} {v : Visit} {name : String}
    (toured : s.tour? components screen surface names = some (site, visits)) (member : v ∈ visits)
    (made : v.made? site = some name) : ∃ kind target component,
      v.Adds site kind target component ∧
      (s.bind components screen names surface).screen.kindOf? name =
        some (component.className, component.isGui) := by
  obtain ⟨_, b, bound, -, naming⟩ := s.tour?_naming components screen surface names toured
  rw [bound]
  exact naming.added v member name made

end

/-- A screen that has an element under the first name that is made for a label of its list. -/
def crowdedScreen : Screen :=
  listScreen.addElement "Main_ScrollLabel_list_0" ⟨"Label", .initial, true⟩

/-- The label takes the place of the element. -/
theorem crowdedScreen_not_addonsApart :
    ¬ scrolling.AddonsApart scrollComponents crowdedScreen 0 ["Main"] := by
  intro addons
  have kept := addons.kept "Main_ScrollLabel_list_0" ⟨"Label", .initial, true⟩ (by decide +kernel)
  have replaced : (scrolling.bind scrollComponents crowdedScreen ["Main"] 0).screen.kindOf?
      "Main_ScrollLabel_list_0" = some ("ScrollLabel", true) := by
    decide +kernel
  rw [replaced] at kept
  simp at kept

end Skin
end Skinning
