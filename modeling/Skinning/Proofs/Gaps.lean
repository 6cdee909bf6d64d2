import Skinning.Proofs.BoundNames

/-! Documents with a gap in which some nodes stand or others. Outside of the gap they are bound
alike, as what is done for a node depends on its own nodes only where it is a panel or shows a
source. -/
namespace Skinning

namespace Element

/-- An element with other nodes in it. -/
def withChildren (e : Element) (children : List Element) : Element := { e with children }

section

variable (e : Element) (nodes : List Element)

@[simp] theorem tag_withChildren : (e.withChildren nodes).tag = e.tag := rfl

@[simp] theorem children_withChildren : (e.withChildren nodes).children = nodes := rfl

@[simp] theorem attribute?_withChildren (name : String) :
    (e.withChildren nodes).attribute? name = e.attribute? name := rfl

@[simp] theorem filled?_withChildren (name : String) :
    (e.withChildren nodes).filled? name = e.filled? name := rfl

end

end Element

/-- A place among some nodes, or among those in one of them. -/
inductive Gap where
  | here (before after : List Element)
  | inside (before : List Element) (outer : Element) (gap : Gap) (after : List Element)

namespace Gap

/-- The nodes around a gap, and some nodes in it. -/
def fill : Gap → List Element → List Element
  | .here before after, nodes => before ++ nodes ++ after
  | .inside before outer gap after, nodes => before ++ outer.withChildren (gap.fill nodes) :: after

/-- There is nothing but panels around a gap. -/
def IsOpen : Gap → Prop
  | .here _ _ => True
  | .inside _ outer gap _ => outer.tag = "panel" ∧ gap.IsOpen

theorem listed_fill {nodes : List Element} {node : Element} : (gap : Gap) → gap.IsOpen →
    node ∈ nodes → Element.Listed (gap.fill nodes) node
  | .here _ _, _, member => .here (by simp [fill, member])
  | .inside before outer gap after, ⟨isPanel, isOpen⟩, member => by
    have among : outer.withChildren (gap.fill nodes) ∈ (inside before outer gap after).fill nodes :=
      by simp [fill]
    exact .inside among isPanel (gap.listed_fill isOpen member)

end Gap

/-! What a survey does for a document with a gap. -/

namespace Survey

theorem errands_append (nodes others : List Element) :
    errands (nodes ++ others) = errands nodes ++ errands others := by
  induction nodes with
  | nil => rfl
  | cons node rest ih => rw [List.cons_append, errands, ih, errands, List.append_assoc]

theorem errands_cons (node : Element) (rest : List Element) :
    errands (node :: rest) = errandsOf node ++ errands rest := by rw [errands]

end Survey

namespace Gap

open Survey

/-- In an open gap the errands for its nodes are among those for the document. -/
theorem errands_fill_of_isOpen : (gap : Gap) → gap.IsOpen →
    ∃ before after, ∀ nodes, errands (gap.fill nodes) = before ++ errands nodes ++ after
  | .here before after, _ =>
    ⟨errands before, errands after, fun nodes => by simp only [fill, errands_append]⟩
  | .inside before outer gap after, ⟨isPanel, isOpen⟩ => by
    obtain ⟨first, last, inner⟩ := errands_fill_of_isOpen gap isOpen
    refine ⟨errands before ++ ((outer.filled? "name").toList.map .enter ++ first),
      last ++ errands after, fun nodes => ?_⟩
    simp [fill, errands_append, errands_cons, errandsOf_eq, isPanel, inner]

/-- Nothing is looked for in a gap that is not open. -/
theorem errands_fill_of_not_isOpen : (gap : Gap) → ¬ gap.IsOpen → (nodes others : List Element) →
    errands (gap.fill nodes) = errands (gap.fill others)
  | .here _ _, closed, _, _ => absurd trivial closed
  | .inside before outer gap after, closed, nodes, others => by
    simp only [fill, errands_append, errands_cons, errandsOf_eq, Element.tag_withChildren,
      Element.children_withChildren, Element.filled?_withChildren]
    by_cases isPanel : outer.tag = "panel"
    · have inner := errands_fill_of_not_isOpen gap (fun isOpen => closed ⟨isPanel, isOpen⟩)
      rw [inner nodes others]
      rfl
    · simp only [isPanel, if_false]
      rfl

end Gap

/-! What is done for a panel besides its own nodes. -/

namespace Binder

variable (b : Binder) (site : BindingSite) (e : Element) (nodes : List Element)

theorem inlinePanel_withChildren (inliner : Inliner) (inlined : List String) :
    b.inlinePanel site inliner inlined (e.withChildren nodes) =
      b.inlinePanel site inliner inlined e := rfl

theorem derivePanel_withChildren (position : String) :
    b.derivePanel site (e.withChildren nodes) position = b.derivePanel site e position := rfl

theorem openPanel_withChildren (position : String) :
    b.openPanel site (e.withChildren nodes) position = b.openPanel site e position := rfl

end Binder

/-! What is done for a node that is no panel. -/

theorem BindingSite.gather_withChildren (site : BindingSite) (space : Space)
    (ignored : List String) (e : Element) (nodes : List Element) :
    site.gather space ignored (e.withChildren nodes) = site.gather space ignored e := by
  have plain : site.plainBatch ignored (e.withChildren nodes) = site.plainBatch ignored e := rfl
  have metrics : site.metrics? (e.withChildren nodes) = site.metrics? e := rfl
  simp only [gather, plain, metrics, Element.attribute?_withChildren]

namespace BindingStep

theorem dress_withChildren (site : BindingSite) (ignored : List String) (e : Element)
    (nodes : List Element) (className : String) (w : Widget) :
    dress site ignored (e.withChildren nodes) className w = dress site ignored e className w := by
  simp only [dress, site.gather_withChildren]

/-- What a converter node asks for does not depend on its own nodes. -/
theorem converter_withChildren (site : BindingSite) (e : Element) (nodes : List Element) :
    converter site (e.withChildren nodes) = converter site e := rfl

/-- Of its own nodes a node without a space uses only the converters, where it shows a source. -/
theorem bindLeaf_withChildren (site : BindingSite) (e : Element) {nodes others : List Element}
    (converts : e.shows?.isSome →
      (nodes.filter (·.tag == "convert")).mapM (converter site) =
        (others.filter (·.tag == "convert")).mapM (converter site)) :
    bindLeaf site (e.withChildren nodes) = bindLeaf site (e.withChildren others) := by
  have decorates (kind : DecorationKind) :
      bindDecoration site (e.withChildren nodes) kind =
        bindDecoration site (e.withChildren others) kind := by
    simp only [bindDecoration, dress_withChildren]
  have widget (isWidget : e.tag = "widget") :
      bindWidget site (e.withChildren nodes) = bindWidget site (e.withChildren others) := by
    simp only [bindWidget, Element.filled?_withChildren]
    split
    · simp only [bindElement, dress_withChildren]
    next path named sourced =>
      have shows : e.shows?.isSome := by simp [Element.shows?, isWidget, named, sourced]
      simp only [bindSource, Element.childrenNamed, Element.children_withChildren, converts shows,
        dress_withChildren, Element.filled?_withChildren]
    · simp only [bindAddon, dress_withChildren, Element.filled?_withChildren]
    · rfl
  simp only [bindLeaf, Element.tag_withChildren]
  split
  next isWidget => exact widget isWidget
  · rfl
  · exact decorates .label
  · exact decorates .pixmap
  · rfl

end BindingStep

/-- An element that has nodes where they are left out or in, but neither is left without any where
it may have none, nor given converters by them. -/
structure Element.Takes (outer : Element) (before nodes after : List Element) : Prop where
  occupied : outer.tag = "panel" → outer.attribute? "position" = none →
    before ++ nodes ++ after ≠ []
  unconverted : outer.shows?.isSome → ∀ node ∈ nodes, node.tag ≠ "convert"

namespace Gap

open BindingStep

/-- The element around a gap, if there is one, takes the nodes in it. -/
def Takes (nodes : List Element) : Gap → Prop
  | .here _ _ => True
  | .inside _ outer (.here before after) _ => outer.Takes before nodes after
  | .inside _ _ (.inside before outer gap after) _ => (inside before outer gap after).Takes nodes

section

variable {before after nodes others : List Element} {outer : Element} {gap : Gap}

theorem Takes.inner (takes : (inside before outer gap after).Takes nodes) : gap.Takes nodes := by
  cases gap with
  | here => trivial
  | inside => exact takes

theorem Takes.isEmpty_fill (takes : (inside before outer gap after).Takes nodes)
    (isPanel : outer.tag = "panel") (unplaced : outer.attribute? "position" = none) :
    (gap.fill nodes).isEmpty = false := by
  cases gap with
  | here => exact List.isEmpty_eq_false_iff.mpr (takes.occupied isPanel unplaced)
  | inside => simp [fill]

/-- The nodes that are taken stand for no converters, whatever is asked of the others. -/
theorem Takes.converts (site : BindingSite) (takes : (inside before outer gap after).Takes nodes)
    (takesOther : (inside before outer gap after).Takes others) (shows : outer.shows?.isSome) :
    ((gap.fill nodes).filter (·.tag == "convert")).map (converter site) =
      ((gap.fill others).filter (·.tag == "convert")).map (converter site) := by
  cases gap with
  | here first last =>
    have none (nodes : List Element) (unconverted : ∀ node ∈ nodes, node.tag ≠ "convert") :
        nodes.filter (·.tag == "convert") = [] := by
      simpa [List.filter_eq_nil_iff] using unconverted
    simp [fill, none nodes (takes.unconverted shows), none others (takesOther.unconverted shows)]
  | inside first inner gap last =>
    by_cases isConverter : inner.tag = "convert" <;>
      simp [fill, isConverter, converter_withChildren]

theorem Takes.bindLeaf (site : BindingSite) (takes : (inside before outer gap after).Takes nodes)
    (takesOther : (inside before outer gap after).Takes others) :
    bindLeaf site (outer.withChildren (gap.fill nodes)) =
      bindLeaf site (outer.withChildren (gap.fill others)) := by
  refine bindLeaf_withChildren site outer fun shows => ?_
  have asked := congrArg (List.mapM id) (takes.converts site takesOther shows)
  simpa only [List.mapM_map, Function.id_comp] using asked

end

end Gap
end Skinning
