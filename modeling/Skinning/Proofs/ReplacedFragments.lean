import Skinning.Proofs.Gaps
import Skinning.Proofs.InliningWalk

/-! Bindings by two catalogs. They are the same as long as the panels that are come to inline the
same by both, and those of a fragment do so wherever none of the fragments that they lead to is
another one or is being inlined in but one of the bindings. -/
namespace Skinning

open Binder BindingStep

namespace BindingSite

/-- A site with another catalog. -/
def withFragments (site : BindingSite) (fragments : Table String Fragment) : BindingSite :=
  { site with skin := { site.skin with fragments } }

section

variable (site : BindingSite) (fragments : Table String Fragment)

theorem attempt_withFragments (b : Binder) (tag : String) (step : BindingStep Unit) :
    b.attempt (site.withFragments fragments) tag step = b.attempt site tag step := rfl

theorem derivePanel_withFragments (b : Binder) (node : Element) (position : String) :
    b.derivePanel (site.withFragments fragments) node position =
      b.derivePanel site node position := rfl

theorem openPanel_withFragments (b : Binder) (node : Element) (position : String) :
    b.openPanel (site.withFragments fragments) node position = b.openPanel site node position := by
  simp only [openPanel, derivePanel_withFragments]

theorem attributes_withFragments : (site.withFragments fragments).attributes = site.attributes :=
  rfl

theorem gather_withFragments (space : Space) (ignored : List String) (node : Element) :
    (site.withFragments fragments).gather space ignored node = site.gather space ignored node := by
  have plain : (site.withFragments fragments).plainBatch = site.plainBatch := rfl
  have metrics : (site.withFragments fragments).metrics? = site.metrics? := rfl
  simp only [gather, plain, metrics]

theorem dress_withFragments (ignored : List String) (node : Element) (className : String)
    (w : Widget) : dress (site.withFragments fragments) ignored node className w =
      dress site ignored node className w := by
  simp only [dress, gather_withFragments, attributes_withFragments]

/-- A node other than a panel is bound without the catalog. -/
theorem bindLeaf_withFragments (node : Element) :
    bindLeaf (site.withFragments fragments) node = bindLeaf site node := by
  have converts : converter (site.withFragments fragments) = converter site := rfl
  have components : (site.withFragments fragments).components = site.components := rfl
  have name : (site.withFragments fragments).fragment = site.fragment := rfl
  simp only [bindLeaf, bindWidget, bindElement, bindSource, bindAddon, bindApplet, bindDecoration,
    dress_withFragments, converts, components, name]

end

end BindingSite

open BindingSite

/-- The panels that meet a condition inline the same by two catalogs, with an inliner for each and
a list of the fragments that are being inlined. -/
def PanelsAgree (site : BindingSite) (fragments : Table String Fragment) (inliner other : Inliner)
    (inside : Tracer) (meets : Visit → Prop) (inlined others : List String) : Prop :=
  ∀ node b, b.screen.admits node → node.tag = "panel" → meets ⟨inlined, node, b⟩ →
    (∀ v ∈ b.visitPanel site inside inlined node, meets v) →
    b.inlinePanel (site.withFragments fragments) other others node =
      b.inlinePanel site inliner inlined node

namespace PanelsAgree

variable {site : BindingSite} {fragments : Table String Fragment} {inliner other : Inliner}
  {inside : Tracer} {meets : Visit → Prop} {inlined others : List String}

mutual

theorem bindNode (agree : PanelsAgree site fragments inliner other inside meets inlined others) :
    (node : Element) → (b : Binder) →
    (∀ v ∈ visitNode site inliner inside inlined node b, meets v) →
    Binder.bindNode (site.withFragments fragments) other others node b =
      Binder.bindNode site inliner inlined node b
  | ⟨tag, attributes, text?, line, children⟩, b, met => by
    generalize same : (⟨tag, attributes, text?, line, children⟩ : Element) = node at met ⊢
    have inner : node.children = children := by rw [← same]
    by_cases admitted : b.screen.admits node
    · by_cases isPanel : node.tag = "panel"
      · cases place : node.attribute? "position" with
        | some position =>
          obtain ⟨binds, visits⟩ :=
            bindNode_of_placed site inliner inside inlined admitted isPanel place
          obtain ⟨bindsToo, -⟩ := bindNode_of_placed (site.withFragments fragments) other inside
            others admitted isPanel place
          rw [visits, inner] at met
          obtain ⟨here, met⟩ := List.forall_mem_cons.mp met
          obtain ⟨panel, own⟩ := List.forall_mem_append.mp met
          rw [binds, bindsToo, agree node b admitted isPanel here panel, inner,
            openPanel_withFragments, derivePanel_withFragments]
          rw [agree.bindNodes children _ own]
        | none =>
          obtain ⟨binds, visits⟩ :=
            bindNode_of_bare site inliner inside inlined admitted isPanel place
          obtain ⟨bindsToo, -⟩ := bindNode_of_bare (site.withFragments fragments) other inside
            others admitted isPanel place
          rw [visits] at met
          obtain ⟨here, panel⟩ := List.forall_mem_cons.mp met
          rw [binds, bindsToo, agree node b admitted isPanel here panel, attempt_withFragments]
      · rw [(bindNode_of_leaf site inliner inside inlined admitted isPanel).1,
          (bindNode_of_leaf (site.withFragments fragments) other inside others admitted isPanel).1,
          attempt_withFragments, bindLeaf_withFragments]
    · rw [(bindNode_of_passed site inliner inside inlined admitted).1,
        (bindNode_of_passed (site.withFragments fragments) other inside others admitted).1]

theorem bindNodes (agree : PanelsAgree site fragments inliner other inside meets inlined others) :
    (nodes : List Element) → (b : Binder) →
    (∀ v ∈ visitNodes site inliner inside inlined nodes b, meets v) →
    Binder.bindNodes (site.withFragments fragments) other others nodes b =
      Binder.bindNodes site inliner inlined nodes b
  | [], _, _ => rfl
  | node :: rest, b, met => by
    rw [visitNodes] at met
    obtain ⟨first, later⟩ := List.forall_mem_append.mp met
    rw [Binder.bindNodes, Binder.bindNodes, agree.bindNode node b first,
      agree.bindNodes rest _ later]

end

end PanelsAgree

namespace Binder

variable (site : BindingSite) (inliner : Inliner) (inside : Tracer) (inlined : List String)

theorem bindNodes_append (nodes others : List Element) (b : Binder) :
    bindNodes site inliner inlined (nodes ++ others) b =
      bindNodes site inliner inlined others (bindNodes site inliner inlined nodes b) := by
  induction nodes generalizing b with
  | nil => rfl
  | cons node rest ih => rw [List.cons_append, bindNodes, ih, bindNodes]

theorem visitNodes_append (nodes others : List Element) (b : Binder) :
    visitNodes site inliner inside inlined (nodes ++ others) b =
      visitNodes site inliner inside inlined nodes b ++
        visitNodes site inliner inside inlined others (bindNodes site inliner inlined nodes b) := by
  induction nodes generalizing b with
  | nil => rfl
  | cons node rest ih =>
    rw [List.cons_append, visitNodes, ih, visitNodes, bindNodes, List.append_assoc]

end Binder

/-! Fragments of which but one of two bindings inlines some. -/

/-- Where another fragment can be opened, the catalog has more of them than are open. -/
theorem Walk.IsStack.length_lt {site : BindingSite} {inlined : List String} {name : String}
    {fragment : Fragment} (isStack : Walk.IsStack site inlined) (new : name ∉ inlined)
    (found : site.skin.fragment? name = some fragment) :
    inlined.length < site.skin.fragments.size := by
  have pushed := isStack.push new found
  exact site.skin.length_le_of_nodup pushed.apart pushed.known

/-- A panel among some nodes names a fragment. -/
def Mentions (within : Element → Prop) (name : String) : Prop :=
  ∃ panel, within panel ∧ panel.tag = "panel" ∧ panel.filled? "name" = some name

section

variable {site : BindingSite} {fragments : Table String Fragment} {within : Element → Prop}
  {inlined others : List String}

theorem panelsAgree_of_mentions {inliner other : Inliner}
    (known : ∀ name, Mentions within name → fragments.get? name = site.skin.fragment? name)
    (alike : ∀ name, Mentions within name → (name ∈ others ↔ name ∈ inlined))
    (opens : ∀ name fragment b, name ∉ inlined → site.skin.fragment? name = some fragment →
      (∀ child ∈ fragment.element.children, within child) → Mentions within name →
      other (name :: others) fragment.element b = inliner (name :: inlined) fragment.element b)
    (encloses : site.Encloses within) :
    PanelsAgree site fragments inliner other (fun _ _ _ => []) (fun v => within v.node) inlined
      others := by
  intro panel b _ isPanel isWithin _
  unfold inlinePanel
  cases named : panel.filled? "name" with
  | none => rfl
  | some name =>
    have mentions : Mentions within name := ⟨panel, isWithin, isPanel, named⟩
    have same : (site.withFragments fragments).skin.fragment? name = site.skin.fragment? name :=
      known name mentions
    by_cases isInlined : name ∈ inlined
    · simp [isInlined, (alike name mentions).mpr isInlined]
    · have new : name ∉ others := mt (alike name mentions).mp isInlined
      cases found : site.skin.fragment? name with
      | none => simp [isInlined, new, same, found]
      | some fragment =>
        have inside := encloses.inlined panel name fragment isWithin isPanel named found
        simp [isInlined, new, same, found, opens name fragment b isInlined found inside mentions]

theorem bindNodes_of_opens {inliner other : Inliner} (encloses : site.Encloses within)
    (known : ∀ name, Mentions within name → fragments.get? name = site.skin.fragment? name)
    (alike : ∀ name, Mentions within name → (name ∈ others ↔ name ∈ inlined))
    {nodes : List Element} (areWithin : ∀ node ∈ nodes, within node) (b : Binder)
    (opens : ∀ name fragment b, name ∉ inlined → site.skin.fragment? name = some fragment →
      (∀ child ∈ fragment.element.children, within child) → Mentions within name →
      other (name :: others) fragment.element b = inliner (name :: inlined) fragment.element b) :
    bindNodes (site.withFragments fragments) other others nodes b =
      bindNodes site inliner inlined nodes b := by
  have agree := panelsAgree_of_mentions known alike opens encloses
  refine agree.bindNodes nodes b ?_
  exact encloses.visitNodes (by simp [BindingSite.Encloses.Stays]) inlined nodes b areWithin

/-- Nodes are bound the same by another catalog, a list of other fragments being inlined, if that
makes no difference to what their panels lead to. -/
theorem bindNodes_of_mentions (encloses : site.Encloses within)
    (known : ∀ name, Mentions within name → fragments.get? name = site.skin.fragment? name)
    (depth : Nat) (isStack : Walk.IsStack site inlined)
    (deep : site.skin.fragments.size ≤ depth + inlined.length)
    (alike : ∀ name, Mentions within name → (name ∈ others ↔ name ∈ inlined))
    {nodes : List Element} (areWithin : ∀ node ∈ nodes, within node) (b : Binder) :
    bindNodes (site.withFragments fragments)
        (inlineTo (site.withFragments fragments) (depth + 1)) others nodes b =
      bindNodes site (inlineTo site depth) inlined nodes b := by
  induction depth generalizing inlined others nodes b with
  | zero =>
    refine bindNodes_of_opens encloses known alike areWithin b fun name fragment b new found => ?_
    have room := isStack.length_lt new found
    omega
  | succ depth ih =>
    refine bindNodes_of_opens encloses known alike areWithin b fun name fragment b new found => ?_
    refine fun inside _ => ih (isStack.push new found) ?_ (fun other mentions => ?_) inside b
    · rw [List.length_cons]
      omega
    · rw [List.mem_cons, List.mem_cons, alike other mentions]

end

end Skinning
