import Skinning.Proofs.BoundNames
import Skinning.Proofs.InliningWalk

/-! The check at the end of a binding. It refuses exactly those elements of the interface whose
names no node took up on the way, as the names in use are those that the walk has come to. -/
namespace Skinning

open Binder

namespace Walk

/-- The node of a visit is the next one to be bound. -/
def IsAt (w : Walk) (v : Visit) : Prop := ∃ rest, w = ⟨.node v.node :: rest, v.inlined, v.binder⟩

/-- The walk comes to a node, be it of the root, in a panel or of a fragment that it enters. -/
def ComesTo (site : BindingSite) (first : Walk) (v : Visit) : Prop :=
  ∃ w, first.Reaches site w ∧ w.IsAt v

theorem IsAt.unique {w : Walk} {v u : Visit} (isAt : w.IsAt v) (again : w.IsAt u) : v = u := by
  obtain ⟨rest, rfl⟩ := isAt
  obtain ⟨others, same⟩ := again
  cases v
  cases u
  cases same
  rfl

section

variable {site : BindingSite} {w next last : Walk}

theorem quiet_enterPanel (site : BindingSite) (node : Element) (rest : List Task)
    (inlining : List String) (b : Binder) :
    b.Quiet (enterPanel site node rest inlining b).binder := by
  unfold enterPanel
  split
  · exact .refl b
  · split
    · exact b.quiet_note _
    · split
      · exact .refl b
      · exact b.quiet_note _

/-- Only the step that binds a node can take up names. -/
theorem quiet_next? (step : w.next? site = some next) (noNode : ∀ v, ¬ w.IsAt v) :
    w.binder.Quiet next.binder := by
  match w with
  | ⟨[], _, _⟩ => cases step
  | ⟨.node node :: rest, inlining, b⟩ => exact absurd ⟨rest, rfl⟩ (noNode ⟨inlining, node, b⟩)
  | ⟨.panel node :: rest, inlining, b⟩ =>
    cases place : node.attribute? "position" with
    | some position =>
      obtain rfl := Option.some.inj ((next?_of_placed site rest inlining place).symm.trans step)
      exact b.quiet_openPanel site node position
    | none =>
      obtain rfl := Option.some.inj ((next?_of_bare site rest inlining place).symm.trans step)
      dsimp only
      split
      · exact .refl b
      · exact b.quiet_attempt_throw site node.tag _
  | ⟨.leaveFragment :: rest, inlining, b⟩ =>
    cases step
    exact .refl b
  | ⟨.leavePanel outer :: rest, inlining, b⟩ =>
    cases step
    exact b.quiet_space outer

/-- A node takes up its names in the step that binds it. Those inside of a panel have their own. -/
theorem takesUp_next? {v : Visit} (isAt : w.IsAt v) (step : w.next? site = some next) :
    v.binder.TakesUp v.dressed? (v.made? site) next.binder := by
  obtain ⟨rest, rfl⟩ := isAt
  by_cases admitted : v.binder.screen.admits v.node
  · by_cases isPanel : v.node.tag = "panel"
    · have enters := next?_of_panel site rest v.inlined admitted isPanel
      obtain rfl := Option.some.inj (enters.symm.trans step)
      rw [Visit.dressed?_of_panel isPanel, Visit.made?_of_panel isPanel]
      exact (quiet_enterPanel site v.node rest v.inlined v.binder).takesNone
    · have binds := next?_of_leaf site rest v.inlined admitted isPanel
      obtain rfl := Option.some.inj (binds.symm.trans step)
      exact Visit.takesUp_attempt site admitted
  · have passes := next?_of_passed site rest v.inlined admitted
    obtain rfl := Option.some.inj (passes.symm.trans step)
    rw [Visit.dressed?_of_passed admitted, Visit.made?_of_passed admitted]
    exact (Quiet.refl _).takesNone

theorem mem_used_next? (step : w.next? site = some next) (name : String) :
    name ∈ next.binder.used ↔
      name ∈ w.binder.used ∨ ∃ v, w.IsAt v ∧ v.TakesUp site name := by
  by_cases somewhere : ∃ v, w.IsAt v
  · obtain ⟨v, isAt⟩ := somewhere
    have here : (∃ u, w.IsAt u ∧ u.TakesUp site name) ↔ v.TakesUp site name :=
      ⟨fun ⟨u, isAtToo, takes⟩ => isAt.unique isAtToo ▸ takes, fun takes => ⟨v, isAt, takes⟩⟩
    have before : w.binder = v.binder := by
      obtain ⟨rest, rfl⟩ := isAt
      rfl
    rw [here, (takesUp_next? isAt step).used, before]
    simp [Visit.TakesUp, or_comm, or_left_comm]
  · have nowhere := not_exists.mp somewhere
    simp [(quiet_next? step nowhere).used, nowhere]

theorem comesTo_iff_of_next? (step : w.next? site = some next) (v : Visit) :
    w.ComesTo site v ↔ w.IsAt v ∨ next.ComesTo site v := by
  constructor
  · rintro ⟨u, reached, isAt⟩
    rcases reached.cases_head with rfl | ⟨other, first, others⟩
    · exact .inl isAt
    · obtain rfl := Option.some.inj (step.symm.trans first)
      exact .inr ⟨u, others, isAt⟩
  · rintro (isAt | ⟨u, reached, isAt⟩)
    · exact ⟨w, .refl, isAt⟩
    · exact ⟨u, .head step reached, isAt⟩

/-- At the end of a walk those names are in use that its nodes took up, and those that were
before. -/
theorem mem_used_of_reaches {inlining : List String} {b : Binder}
    (reached : w.Reaches site ⟨[], inlining, b⟩) (name : String) :
    name ∈ b.used ↔ name ∈ w.binder.used ∨ ∃ v, w.ComesTo site v ∧ v.TakesUp site name := by
  induction reached using Relation.ReflTransGen.head_induction_on with
  | refl =>
    have nowhere (v : Visit) : ¬ (⟨[], inlining, b⟩ : Walk).ComesTo site v := by
      rintro ⟨u, reached, rest, rfl⟩
      rcases reached.cases_head with same | ⟨other, first, -⟩
      · cases same
      · cases first
    simp [nowhere]
  | head step _ ih =>
    rw [ih, mem_used_next? step]
    simp only [comesTo_iff_of_next? step, or_and_right, exists_or, or_assoc]

end

end Walk

namespace Skin

theorem elementNames_pairwise (screen : Screen) : screen.elementNames.Pairwise (· < ·) := by
  have ascends : screen.elementNames.Pairwise fun a b => decide (a ≤ b) = true := by
    refine List.pairwise_mergeSort (fun a b c first second => ?_) (fun a b => ?_) _
    · simp only [decide_eq_true_eq] at first second ⊢
      exact String.le_trans first second
    · simp only [Bool.or_eq_true, decide_eq_true_eq]
      exact String.le_total a b
  have apart : screen.elementNames.Nodup :=
    (List.mergeSort_perm _ _).nodup_iff.mpr screen.elements.keys_nodup
  refine (ascends.and apart).imp ?_
  rintro a b ⟨below, distinct⟩
  exact Std.lt_of_le_of_ne (of_decide_eq_true below) distinct

theorem unusedElements_pairwise (b : Binder) : (unusedElements b).Pairwise (· < ·) :=
  (elementNames_pairwise b.screen).filter _

/-- An element of the interface whose name no node took up on a walk. -/
structure IsLeftOut (site : BindingSite) (first : Walk) (screen : Screen) (name : String) :
    Prop where
  present : ∃ component, screen.elements.get? name = some component ∧ component.isGui
  untaken : ∀ v, first.ComesTo site v → ¬ v.TakesUp site name

/-- A binding fails by what its walk leaves out, and reports exactly this. -/
structure IsChecked (bound : Bound) (site : BindingSite) (first : Walk) : Prop where
  succeeds : (∃ fragment, bound.result = .ok fragment) ↔
    ∀ name component, bound.screen.elements.get? name = some component → component.isGui →
      ∃ v, first.ComesTo site v ∧ v.TakesUp site name
  fails : ∀ error, bound.result = .error error →
    ∃ unused, error = .unusedElements site.fragment unused ∧ unused.Pairwise (· < ·) ∧
      ∀ name, name ∈ unused ↔ IsLeftOut site first bound.screen name

theorem IsChecked.of_unused {bound : Bound} {site : BindingSite} {first : Walk}
    {unused : List String}
    (result : bound.result = if unused = [] then .ok site.fragment
      else .error (.unusedElements site.fragment unused))
    (ascends : unused.Pairwise (· < ·))
    (members : ∀ name, name ∈ unused ↔ IsLeftOut site first bound.screen name) :
    IsChecked bound site first := by
  refine ⟨⟨?_, fun taken => ?_⟩, fun error failed => ?_⟩
  · rintro ⟨fragment, succeeded⟩ name component found isGui
    by_contra untaken
    have leftOut : IsLeftOut site first bound.screen name :=
      ⟨⟨component, found, isGui⟩, fun v comes takes => untaken ⟨v, comes, takes⟩⟩
    have some : unused ≠ [] := List.ne_nil_of_mem ((members name).mpr leftOut)
    rw [result, if_neg some] at succeeded
    cases succeeded
  · have none : unused = [] := by
      refine List.eq_nil_iff_forall_not_mem.mpr fun name member => ?_
      obtain ⟨⟨component, found, isGui⟩, untaken⟩ := (members name).mp member
      obtain ⟨v, comes, takes⟩ := taken name component found isGui
      exact untaken v comes takes
    exact ⟨site.fragment, result.trans (if_pos none)⟩
  · by_cases none : unused = []
    · rw [result, if_pos none] at failed
      cases failed
    · rw [result, if_neg none] at failed
      exact ⟨unused, (Except.error.inj failed).symm, ascends, members⟩

/-- A walk that begins with no names in use leaves out what is unused in the end. -/
theorem mem_unusedElements_iff {site : BindingSite} {root : Element} {b : Binder}
    (unused : b.used = []) (name : String) :
    name ∈ unusedElements (b.bindRoot site root) ↔
      IsLeftOut site (.ofRoot root b) (b.bindRoot site root).screen name := by
  obtain ⟨-, reached, -, -⟩ := Walk.bindRoot_walks site root b
  have taken := Walk.mem_used_of_reaches reached name
  have present : ((b.bindRoot site root).screen.kindOf? name).any (·.2) ↔ ∃ component,
      (b.bindRoot site root).screen.elements.get? name = some component ∧ component.isGui := by
    rw [Screen.kindOf?]
    cases (b.bindRoot site root).screen.elements.get? name <;> simp
  rw [mem_unusedElements, taken, present]
  simp only [Walk.ofRoot, unused, List.not_mem_nil, false_or, not_exists, not_and]
  constructor
  · rintro ⟨untaken, present⟩
    exact ⟨present, untaken⟩
  · rintro ⟨present, untaken⟩
    exact ⟨untaken, present⟩

section

variable (s : Skin) (components : Components) (screen : Screen) (surface : Nat)

theorem result_of_rootFor? {names : List String} {chosen : ChosenRoot} {ready : Screen}
    (found : s.rootFor? screen names surface = some (chosen, ready)) :
    (s.bind components screen names surface).result =
      (s.bindRoot components ready chosen surface).result := by
  unfold rootFor? at found
  split at found
  next pair choice =>
    obtain ⟨rfl, rfl⟩ := Prod.mk.inj (Option.some.inj found)
    obtain ⟨notices, bound⟩ := bind_of_choose components surface choice
    rw [bound]
    rfl
  next choice =>
    obtain ⟨notices, bound⟩ := bind_of_choose_eq_none components surface choice
    simp only [bound, bindEmbedded, Bound.noting]
    dsimp only at found
    generalize screen.readEmbedded _ _ _ = reading at found ⊢
    obtain ⟨root, read, more⟩ := reading
    cases root with
    | error error => cases found
    | ok root =>
      obtain ⟨rfl, rfl⟩ := Prod.mk.inj (Option.some.inj found)
      rfl

theorem result_of_rootFor?_eq_none {names : List String}
    (faulty : s.rootFor? screen names surface = none) :
    ∃ error, (s.bind components screen names surface).result = .error (.parse error) := by
  unfold rootFor? at faulty
  split at faulty
  next => cases faulty
  next choice =>
    obtain ⟨notices, bound⟩ := bind_of_choose_eq_none components surface choice
    simp only [bound, bindEmbedded, Bound.noting]
    dsimp only at faulty
    generalize screen.readEmbedded _ _ _ = reading at faulty ⊢
    obtain ⟨root, read, more⟩ := reading
    cases root with
    | error error => exact ⟨error, rfl⟩
    | ok root => cases faulty

/-- A binding that has a root succeeds exactly if each element of the interface that is on the
screen in the end was named by a node which the walk came to and did not pass over, or was added by
such a node. Else it reports the others, ascending and each once. Without a root nothing is
checked. -/
theorem bind_isChecked (names : List String) :
    match s.rootFor? screen names surface with
    | some (chosen, ready) => IsChecked (s.bind components screen names surface)
      (s.siteFor components chosen surface)
      (.ofRoot chosen.root (s.beginning components ready chosen surface))
    | none => ∃ error, (s.bind components screen names surface).result = .error (.parse error) := by
  split
  next chosen ready rooted =>
    let site := s.siteFor components chosen surface
    let b := s.beginning components ready chosen surface
    obtain ⟨-, sameScreen, -⟩ := s.bind_of_rootFor? components screen surface rooted
    have result := (s.result_of_rootFor? components screen surface rooted).trans
      (s.bindRoot_result components ready surface chosen)
    have members := @mem_unusedElements_iff site chosen.root b rfl
    rw [← sameScreen] at members
    exact .of_unused result (unusedElements_pairwise _) members
  next faulty => exact s.result_of_rootFor?_eq_none components screen surface faulty

end

end Skin
end Skinning
