import Skinning.Proofs.ReplacedFragments

/-! Panels that stand for a fragment, and documents that have the nodes of the fragment in their
place. -/
namespace Skinning

open Binder

theorem Table.size_congr {κ α : Type} [DecidableEq κ] {t u : Table κ α}
    (same : ∀ key, (t.get? key).isSome = (u.get? key).isSome) : t.size = u.size := by
  have members (key : κ) : key ∈ t.keys ↔ key ∈ u.keys := by
    rw [mem_keys_iff, mem_keys_iff, same]
  have keys : t.keys.Perm u.keys :=
    (List.perm_ext_iff_of_nodup t.keys_nodup u.keys_nodup).mpr members
  simpa [Table.keys, size] using keys.length_eq

theorem Walk.isStack_nil {site : BindingSite} : Walk.IsStack site [] := ⟨List.nodup_nil, by simp⟩

/-- A panel that inlines a fragment and has neither nodes nor a space of its own. -/
structure Element.StandsFor (panel : Element) (name : String) : Prop where
  isPanel : panel.tag = "panel"
  named : panel.filled? "name" = some name
  unplaced : panel.attribute? "position" = none
  childless : panel.children = []

/-- The panels of a fragment, or of those that they lead to, lead back to it. -/
def Skin.ReachesItself (s : Skin) (name : String) : Prop := Mentions (s.Lists name) name

namespace Gap

/-- The binder that a walk comes to a gap with, if it does. -/
def binderAt? (site : BindingSite) (inliner : Inliner) (inlined : List String) :
    Gap → Binder → Option Binder
  | .here before _, b => some (bindNodes site inliner inlined before b)
  | .inside before outer gap _, b =>
    let b := bindNodes site inliner inlined before b
    if b.screen.admits outer && outer.tag = "panel" then
      (outer.attribute? "position").bind fun position =>
        gap.binderAt? site inliner inlined
          ((b.inlinePanel site inliner inlined outer).openPanel site outer position)
    else none

/-- If a walk comes to a panel in the gap, then it is for the screen, and what it names is not
being inlined. -/
def IsClear (gap : Gap) (site : BindingSite) (panel : Element) (name : String)
    (inlined : List String) (b : Binder) : Prop :=
  ∀ c, gap.binderAt? site (inlineTo site site.skin.fragments.size) inlined b = some c →
    c.screen.admits panel ∧ name ∉ inlined

section

variable {site : BindingSite} {inliner other : Inliner} {inlined : List String}

theorem isOpen_of_binderAt? : (gap : Gap) → {b c : Binder} →
    gap.binderAt? site inliner inlined b = some c → gap.IsOpen
  | .here _ _, _, _, _ => trivial
  | .inside before outer gap after, b, c, comes => by
    unfold binderAt? at comes
    obtain ⟨reached, inside⟩ := Option.ite_none_right_eq_some.mp comes
    obtain ⟨position, -, comes⟩ := Option.bind_eq_some_iff.mp inside
    exact ⟨by simpa using (Bool.and_eq_true_iff.mp reached).2, gap.isOpen_of_binderAt? comes⟩

theorem binderAt?_congr (alike : Alike site inlined inliner other) : (gap : Gap) → (b : Binder) →
    gap.binderAt? site inliner inlined b = gap.binderAt? site other inlined b
  | .here before _, b => by rw [binderAt?, binderAt?, alike.bindNodes]
  | .inside before outer gap after, b => by
    have inner := gap.binderAt?_congr alike
    simp only [binderAt?, alike.bindNodes, alike.inlinePanel, inner]

theorem binderAt?_inside {before after : List Element} {outer : Element} {gap : Gap} {b : Binder}
    {position : String} (admitted : (bindNodes site inliner inlined before b).screen.admits outer)
    (isPanel : outer.tag = "panel") (placed : outer.attribute? "position" = some position) :
    (inside before outer gap after).binderAt? site inliner inlined b =
      gap.binderAt? site inliner inlined
        (((bindNodes site inliner inlined before b).inlinePanel site inliner inlined
          outer).openPanel site outer position) := by
  rw [binderAt?]
  simp [admitted, isPanel, placed]

end

/-- No walk comes to a gap in a node that is no panel, or in a panel without a space. -/
theorem isClear_of_shut {site : BindingSite} {before after : List Element} {outer : Element}
    {gap : Gap} {panel : Element} {name : String} {inlined : List String} {b : Binder}
    (shut : outer.tag = "panel" → outer.attribute? "position" = none) :
    (inside before outer gap after).IsClear site panel name inlined b := by
  intro c comes
  unfold binderAt? at comes
  obtain ⟨reached, inside⟩ := Option.ite_none_right_eq_some.mp comes
  have isPanel : outer.tag = "panel" := by simpa using (Bool.and_eq_true_iff.mp reached).2
  simp [shut isPanel] at inside

theorem takes_panel {panel : Element} (isPanel : panel.tag = "panel") : (gap : Gap) →
    gap.Takes [panel]
  | .here _ _ => trivial
  | .inside _ _ (.here _ _) _ => ⟨by simp, by simp [isPanel]⟩
  | .inside _ _ (.inside before outer gap after) _ => takes_panel isPanel (inside before outer gap after)

end Gap

namespace PanelsAgree

variable {site : BindingSite} {fragments : Table String Fragment} {inliner other : Inliner}
  {inside : Tracer} {meets : Visit → Prop} {inlined : List String}

/-- A node is bound the same with other nodes in it that are bound the same. -/
theorem bindNode_withChildren
    (agree : PanelsAgree site fragments inliner other inside meets inlined inlined)
    {outer : Element} {nodes others : List Element} {b : Binder}
    (leaf : BindingStep.bindLeaf site (outer.withChildren others) =
      BindingStep.bindLeaf site (outer.withChildren nodes))
    (occupied : outer.tag = "panel" → outer.attribute? "position" = none →
      others.isEmpty = nodes.isEmpty)
    (own : ∀ position, b.screen.admits outer → outer.tag = "panel" →
      outer.attribute? "position" = some position →
      let opened := (b.inlinePanel site inliner inlined outer).openPanel site outer position
      (∀ v ∈ visitNodes site inliner inside inlined nodes opened, meets v) →
      Binder.bindNodes (site.withFragments fragments) other inlined others opened =
        Binder.bindNodes site inliner inlined nodes opened)
    (met : ∀ v ∈ visitNode site inliner inside inlined (outer.withChildren nodes) b, meets v) :
    Binder.bindNode (site.withFragments fragments) other inlined (outer.withChildren others) b =
      Binder.bindNode site inliner inlined (outer.withChildren nodes) b := by
  let site' := site.withFragments fragments
  by_cases admitted : b.screen.admits outer
  · have admits (nodes : List Element) : b.screen.admits (outer.withChildren nodes) := admitted
    by_cases isPanel : outer.tag = "panel"
    · -- Of a panel only its attributes count for what it inlines, and for the space that it opens.
      have inlines (here : meets ⟨inlined, outer.withChildren nodes, b⟩)
          (met : ∀ v ∈ b.visitPanel site inside inlined outer, meets v) :
          b.inlinePanel site' other inlined outer = b.inlinePanel site inliner inlined outer :=
        agree (outer.withChildren nodes) b admitted isPanel here met
      cases place : outer.attribute? "position" with
      | some position =>
        obtain ⟨binds, visits⟩ := bindNode_of_placed site inliner inside inlined (admits nodes) isPanel
          place
        obtain ⟨bindsToo, -⟩ := bindNode_of_placed site' other inside inlined (admits others) isPanel
          place
        rw [visits] at met
        obtain ⟨here, met⟩ := List.forall_mem_cons.mp met
        obtain ⟨panel, below⟩ := List.forall_mem_append.mp met
        rw [binds, bindsToo]
        simp only [inlinePanel_withChildren, openPanel_withChildren, derivePanel_withChildren,
          Element.children_withChildren]
        rw [inlines here panel, BindingSite.openPanel_withFragments,
          BindingSite.derivePanel_withFragments, own position admitted isPanel place below]
      | none =>
        obtain ⟨binds, visits⟩ := bindNode_of_bare site inliner inside inlined (admits nodes) isPanel place
        obtain ⟨bindsToo, -⟩ := bindNode_of_bare site' other inside inlined (admits others) isPanel place
        rw [visits] at met
        obtain ⟨here, panel⟩ := List.forall_mem_cons.mp met
        rw [binds, bindsToo]
        simp only [inlinePanel_withChildren, Element.children_withChildren, occupied isPanel place,
          Element.tag_withChildren]
        rw [inlines here panel, BindingSite.attempt_withFragments]
        rfl
    · rw [(bindNode_of_leaf site inliner inside inlined (admits nodes) isPanel).1,
        (bindNode_of_leaf site' other inside inlined (admits others) isPanel).1,
        BindingSite.attempt_withFragments, BindingSite.bindLeaf_withFragments, leaf]
      rfl
  · have passes (nodes : List Element) : ¬ b.screen.admits (outer.withChildren nodes) := admitted
    rw [(bindNode_of_passed site inliner inside inlined (passes nodes)).1,
      (bindNode_of_passed site' other inside inlined (passes others)).1]

/-- A document is bound the same with other nodes in a gap that are bound the same there. -/
theorem bindNodes_fill
    (agree : PanelsAgree site fragments inliner other inside meets inlined inlined)
    {nodes others : List Element} : (gap : Gap) → gap.Takes nodes → gap.Takes others →
    (b : Binder) →
    (∀ c, gap.binderAt? site inliner inlined b = some c →
      (∀ v ∈ visitNodes site inliner inside inlined nodes c, meets v) →
      Binder.bindNodes (site.withFragments fragments) other inlined others c =
        Binder.bindNodes site inliner inlined nodes c) →
    (∀ v ∈ visitNodes site inliner inside inlined (gap.fill nodes) b, meets v) →
    Binder.bindNodes (site.withFragments fragments) other inlined (gap.fill others) b =
      Binder.bindNodes site inliner inlined (gap.fill nodes) b
  | .here before after, _, _, b, inPlace, met => by
    simp only [Gap.fill, visitNodes_append, List.forall_mem_append] at met
    obtain ⟨⟨first, here⟩, last⟩ := met
    simp only [Gap.fill, bindNodes_append]
    rw [agree.bindNodes before b first, inPlace _ rfl here]
    rw [bindNodes_append] at last
    rw [agree.bindNodes after _ last]
  | .inside before outer gap after, takes, takesOthers, b, inPlace, met => by
    simp only [Gap.fill, visitNodes_append, visitNodes, List.forall_mem_append] at met
    obtain ⟨first, here, last⟩ := met
    simp only [Gap.fill, bindNodes_append, Binder.bindNodes]
    rw [agree.bindNodes before b first]
    have around : Binder.bindNode (site.withFragments fragments) other inlined
          (outer.withChildren (gap.fill others)) (Binder.bindNodes site inliner inlined before b) =
        Binder.bindNode site inliner inlined (outer.withChildren (gap.fill nodes))
          (Binder.bindNodes site inliner inlined before b) := by
      refine agree.bindNode_withChildren (takesOthers.bindLeaf site takes) ?_ ?_ here
      · intro isPanel unplaced
        rw [takes.isEmpty_fill isPanel unplaced, takesOthers.isEmpty_fill isPanel unplaced]
      · intro position admitted isPanel placed opened met
        refine bindNodes_fill agree gap takes.inner takesOthers.inner opened ?_ met
        intro c comes
        exact inPlace c ((Gap.binderAt?_inside admitted isPanel placed).trans comes)
    rw [around, agree.bindNodes after _ last]

end PanelsAgree

section

variable {site : BindingSite} {fragments : Table String Fragment} {panel : Element} {name : String}
  {fragment : Fragment} {depth : Nat} {inlined : List String}

/-- What a panel stands for can be bound in its place, if the fragment does not lead back to it. -/
theorem bindNodes_inPlace (stands : panel.StandsFor name)
    (found : site.skin.fragment? name = some fragment) (apart : ¬ site.skin.ReachesItself name)
    (known : ∀ other, Mentions (site.skin.Lists name) other →
      fragments.get? other = site.skin.fragment? other)
    (isStack : Walk.IsStack site inlined) (deep : site.skin.fragments.size ≤ depth + inlined.length)
    {b : Binder} (admitted : b.screen.admits panel) (new : name ∉ inlined) :
    bindNodes (site.withFragments fragments) (inlineTo (site.withFragments fragments) depth)
        inlined fragment.element.children b =
      bindNode site (inlineTo site depth) inlined panel b := by
  have pushed := isStack.push new found
  have inlines : bindNode site (inlineTo site depth) inlined panel b =
      inlineTo site depth (name :: inlined) fragment.element b := by
    rw [(bindNode_of_bare site _ (fun _ _ _ => []) inlined admitted stands.isPanel
      stands.unplaced).1]
    simp [stands.childless, inlinePanel, stands.named, new, found]
  rw [inlines]
  cases depth with
  | zero =>
    have room := isStack.length_lt new found
    omega
  | succ depth =>
    refine bindNodes_of_mentions (site.encloses_lists name) known depth pushed ?_ ?_ ?_ b
    · rw [List.length_cons]
      omega
    · intro other mentions
      have distinct : other ≠ name := fun same => apart (same ▸ mentions)
      simp [distinct]
    · exact fun child member => ⟨name, fragment, .here, found, .here member⟩

/-- Fragments that are open already leave that much less depth for those inside of them. -/
theorem alike_inlineTo (isStack : Walk.IsStack site inlined)
    (deep : site.skin.fragments.size = depth + inlined.length) :
    Alike site inlined (inlineTo site site.skin.fragments.size) (inlineTo site depth) := by
  intro name fragment b new found
  have pushed := isStack.push new found
  have deeper (more : Nat) : inlineTo site (depth + more) (name :: inlined) fragment.element b =
      inlineTo site depth (name :: inlined) fragment.element b := by
    induction more with
    | zero => rfl
    | succ more ih =>
      refine (inlineTo_succ (depth + more) pushed.apart pushed.known ?_ fragment.element b).trans ih
      rw [List.length_cons]
      omega
  rw [deep]
  exact deeper inlined.length

/-- A fragment of the catalog has the nodes of another one in the place of a panel. -/
structure IsReplaced (site : BindingSite) (fragments : Table String Fragment) (host : String)
    (root : Element) (base : Path) (gap : Gap) (panel : Element) (name : String)
    (fragment : Fragment) : Prop where
  stands : panel.StandsFor name
  found : site.skin.fragment? name = some fragment
  apart : ¬ site.skin.ReachesItself name
  takes : gap.Takes fragment.element.children
  before : site.skin.fragment? host = some ⟨root.withChildren (gap.fill [panel]), base⟩
  after : fragments.get? host =
    some ⟨root.withChildren (gap.fill fragment.element.children), base⟩
  others : ∀ other, other ≠ host → fragments.get? other = site.skin.fragment? other

/-- A panel that names the host of a gap finds it clear. -/
def FindsClear (site : BindingSite) (host : String) (gap : Gap) (panel : Element) (name : String)
    (v : Visit) : Prop :=
  v.Names host → host ∉ v.inlined → gap.IsClear site panel name (host :: v.inlined) v.binder

namespace IsReplaced

variable {host : String} {root : Element} {base : Path} {gap : Gap}

theorem inPlace (replaced : IsReplaced site fragments host root base gap panel name fragment)
    (isStack : Walk.IsStack site inlined) (deep : site.skin.fragments.size = depth + inlined.length)
    {b c : Binder} (clear : gap.IsClear site panel name inlined b)
    (comes : gap.binderAt? site (inlineTo site depth) inlined b = some c) :
    bindNodes (site.withFragments fragments) (inlineTo (site.withFragments fragments) depth)
        inlined fragment.element.children c =
      bindNode site (inlineTo site depth) inlined panel c := by
  have isOpen := gap.isOpen_of_binderAt? comes
  rw [← gap.binderAt?_congr (alike_inlineTo isStack deep)] at comes
  obtain ⟨admitted, new⟩ := clear c comes
  refine bindNodes_inPlace replaced.stands replaced.found replaced.apart ?_ isStack deep.le
    admitted new
  rintro other ⟨toHost, ⟨source, entered, leads, foundSource, listed⟩, isPanel, named⟩
  refine replaced.others other ?_
  rintro rfl
  -- The panel is one of the host's, so that what leads to the host leads back to the fragment.
  have leadsToHost := leads.panel foundSource listed isPanel named
  have stands := replaced.stands
  exact replaced.apart ⟨panel, ⟨other, _, leadsToHost, replaced.before,
    gap.listed_fill isOpen (List.mem_singleton_self panel)⟩, stands.isPanel, stands.named⟩

theorem panelsAgree_of_opens {inliner other : Inliner} {inside : Tracer}
    (replaced : IsReplaced site fragments host root base gap panel name fragment)
    (opens : ∀ next entered b, next ∉ inlined → next ≠ host →
      site.skin.fragment? next = some entered →
      (∀ v ∈ inside (next :: inlined) entered.element b, FindsClear site host gap panel name v) →
      other (next :: inlined) entered.element b = inliner (next :: inlined) entered.element b)
    (opensHost : ∀ b, host ∉ inlined → gap.IsClear site panel name (host :: inlined) b →
      (∀ v ∈ inside (host :: inlined) (root.withChildren (gap.fill [panel])) b,
        FindsClear site host gap panel name v) →
      other (host :: inlined) (root.withChildren (gap.fill fragment.element.children)) b =
        inliner (host :: inlined) (root.withChildren (gap.fill [panel])) b) :
    PanelsAgree site fragments inliner other inside (FindsClear site host gap panel name) inlined
      inlined := by
  intro node b admitted isPanel clear met
  unfold visitPanel at met
  unfold inlinePanel
  cases named : node.filled? "name" with
  | none => rfl
  | some next =>
    rw [named] at met
    by_cases isInlined : next ∈ inlined
    · simp [isInlined]
    by_cases isHost : next = host
    · subst isHost
      have after : (site.withFragments fragments).skin.fragment? next = _ := replaced.after
      simp only [List.contains_iff_mem, isInlined, if_false, replaced.before] at met
      simp only [List.contains_iff_mem, isInlined, if_false, replaced.before, after]
      exact opensHost b isInlined (clear ⟨admitted, isPanel, named⟩ isInlined) met
    · have same : (site.withFragments fragments).skin.fragment? next = site.skin.fragment? next :=
        replaced.others next isHost
      cases found : site.skin.fragment? next with
      | none => simp [isInlined, same, found]
      | some entered =>
        simp only [List.contains_iff_mem, isInlined, if_false, found] at met
        simp only [List.contains_iff_mem, isInlined, if_false, same, found]
        exact opens next entered b isInlined isHost found met

theorem bindNodes_host {inside : Tracer} {meets : Visit → Prop}
    (replaced : IsReplaced site fragments host root base gap panel name fragment)
    (agree : PanelsAgree site fragments (inlineTo site depth)
      (inlineTo (site.withFragments fragments) depth) inside meets inlined inlined)
    (isStack : Walk.IsStack site inlined) (deep : site.skin.fragments.size = depth + inlined.length)
    {b : Binder} (clear : gap.IsClear site panel name inlined b)
    (met : ∀ v ∈ visitNodes site (inlineTo site depth) inside inlined (gap.fill [panel]) b,
      meets v) :
    bindNodes (site.withFragments fragments) (inlineTo (site.withFragments fragments) depth)
        inlined (gap.fill fragment.element.children) b =
      bindNodes site (inlineTo site depth) inlined (gap.fill [panel]) b := by
  have takes := gap.takes_panel replaced.stands.isPanel
  refine agree.bindNodes_fill gap takes replaced.takes b (fun c comes _ => ?_) met
  exact replaced.inPlace isStack deep clear comes

/-- Wherever the host is opened its gap is clear, so that its panels inline the same. -/
theorem panelsAgree (replaced : IsReplaced site fragments host root base gap panel name fragment)
    (isStack : Walk.IsStack site inlined)
    (deep : site.skin.fragments.size = depth + inlined.length) :
    PanelsAgree site fragments (inlineTo site depth) (inlineTo (site.withFragments fragments) depth)
      (visitTo site depth) (FindsClear site host gap panel name) inlined inlined := by
  induction depth generalizing inlined with
  | zero => exact replaced.panelsAgree_of_opens (fun _ _ _ _ _ _ _ => rfl) fun _ _ _ _ => rfl
  | succ depth ih =>
    have shallower (next : String) :
        site.skin.fragments.size = depth + (next :: inlined).length := by
      rw [List.length_cons]
      omega
    refine replaced.panelsAgree_of_opens ?_ ?_
    · intro next entered b new _ found met
      exact (ih (isStack.push new found) (shallower next)).bindNodes entered.element.children b met
    · intro b new clear met
      have pushed := isStack.push new replaced.before
      exact replaced.bindNodes_host (ih pushed (shallower host)) pushed (shallower host) clear met

/-- There are as many fragments as before, so that a binding goes down as far. -/
theorem size (replaced : IsReplaced site fragments host root base gap panel name fragment) :
    fragments.size = site.skin.fragments.size := by
  refine Table.size_congr fun key => ?_
  by_cases isHost : key = host
  · rw [isHost, replaced.after, ← Skin.fragment?, replaced.before]
    rfl
  · rw [replaced.others key isHost, Skin.fragment?]

/-- No fragment is open yet where a root is bound. -/
theorem panelsAgree_root
    (replaced : IsReplaced site fragments host root base gap panel name fragment) :
    let depth := site.skin.fragments.size
    (site.withFragments fragments).skin.fragments.size = depth ∧
      PanelsAgree site fragments (inlineTo site depth)
        (inlineTo (site.withFragments fragments) depth) (visitTo site depth)
        (FindsClear site host gap panel name) [] [] :=
  ⟨replaced.size, replaced.panelsAgree Walk.isStack_nil rfl⟩

theorem bindRoot (replaced : IsReplaced site fragments host root base gap panel name fragment)
    {b : Binder} {other : Element}
    (clear : ∀ v ∈ b.visits site other, FindsClear site host gap panel name v) :
    b.bindRoot (site.withFragments fragments) other = b.bindRoot site other := by
  obtain ⟨depth, agree⟩ := replaced.panelsAgree_root
  rw [Binder.bindRoot, depth]
  exact agree.bindNodes other.children b clear

theorem bindRoot_host (replaced : IsReplaced site fragments host root base gap panel name fragment)
    {b : Binder} (opens : gap.IsClear site panel name [] b)
    (clear : ∀ v ∈ b.visits site (root.withChildren (gap.fill [panel])),
      FindsClear site host gap panel name v) :
    b.bindRoot (site.withFragments fragments)
        (root.withChildren (gap.fill fragment.element.children)) =
      b.bindRoot site (root.withChildren (gap.fill [panel])) := by
  obtain ⟨depth, agree⟩ := replaced.panelsAgree_root
  rw [Binder.bindRoot, depth]
  exact replaced.bindNodes_host agree Walk.isStack_nil rfl opens clear

end IsReplaced

/-- A document that is no fragment of the catalog is bound once, so that its panel is come to once
at most. -/
theorem bindRoot_inPlace {root : Element} {gap : Gap} (stands : panel.StandsFor name)
    (found : site.skin.fragment? name = some fragment) (apart : ¬ site.skin.ReachesItself name)
    (takes : gap.Takes fragment.element.children) {b : Binder}
    (clear : gap.IsClear site panel name [] b) :
    b.bindRoot site (root.withChildren (gap.fill fragment.element.children)) =
      b.bindRoot site (root.withChildren (gap.fill [panel])) := by
  have agree : PanelsAgree site site.skin.fragments (inlineTo site site.skin.fragments.size)
      (inlineTo site site.skin.fragments.size) (fun _ _ _ => []) (fun _ => True) [] [] :=
    fun _ _ _ _ _ _ => rfl
  refine agree.bindNodes_fill gap (gap.takes_panel stands.isPanel) takes b (fun c comes _ => ?_)
    fun _ _ => trivial
  obtain ⟨admitted, new⟩ := clear c comes
  exact bindNodes_inPlace stands found apart (fun _ _ => rfl) Walk.isStack_nil (by simp) admitted new

end

end Skinning
