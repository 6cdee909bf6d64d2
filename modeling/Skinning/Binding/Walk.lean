import Skinning.Binding.Node

/-! Binding the nodes of a fragment in their order. A panel first inlines the fragment it
names, in the space it stands in itself, and then opens a space for its own nodes. -/
namespace Skinning

/-- Binds the nodes of a fragment while the fragments of a list are being inlined. -/
abbrev Inliner := List String → Element → Binder → Binder

namespace Binder

/-- Inlines the fragment that a panel names, unless that is going on already. -/
def inlinePanel (b : Binder) (site : BindingSite) (inliner : Inliner) (inlined : List String)
    (node : Element) : Binder :=
  match node.filled? "name" with
  | none => b
  | some name =>
    if inlined.contains name then b.report (.panelCycle name)
    else match site.skin.fragment? name with
      | some fragment => inliner (name :: inlined) fragment.element b
      | none => b.report (.unknownFragment name)

/-- What a panel is given in the space around it, and the space that it opens. -/
def derivePanel (b : Binder) (site : BindingSite) (node : Element) (position : String) :
    Placed × Space :=
  b.space.derive (.ofLayout (node.attribute? "layout"))
    ⟨position, node.attribute? "size", site.metrics? node⟩

mutual

def bindNode (site : BindingSite) (inliner : Inliner) (inlined : List String) :
    Element → Binder → Binder
  | ⟨tag, attributes, text?, line, children⟩, b =>
    let node : Element := ⟨tag, attributes, text?, line, children⟩
    if !b.screen.admits node then b
    else if tag = "panel" then
      let b := b.inlinePanel site inliner inlined node
      match node.attribute? "position" with
      | some position =>
        let (placed, inner) := b.derivePanel site node position
        let b := { b.note (.ofCoordinates placed.faults) with space := inner }
        { bindNodes site inliner inlined children b with space := placed.space }
      | none =>
        if children.isEmpty then b
        else b.attempt site tag (throw (.panelSpace none (node.attribute? "size")))
    else b.attempt site tag (BindingStep.bindLeaf site node)

def bindNodes (site : BindingSite) (inliner : Inliner) (inlined : List String) :
    List Element → Binder → Binder
  | [], b => b
  | node :: rest, b => bindNodes site inliner inlined rest (bindNode site inliner inlined node b)

end

/-- Binds the nodes of fragments inside each other, down to a depth. -/
def inlineTo (site : BindingSite) : Nat → Inliner
  | 0 => fun _ _ b => b
  | depth + 1 => fun inlined root => bindNodes site (inlineTo site depth) inlined root.children

/-- Binds the nodes of a root. The fragments that are inlined inside each other are
different, so their number is depth enough. -/
def bindRoot (b : Binder) (site : BindingSite) (root : Element) : Binder :=
  bindNodes site (inlineTo site site.skin.fragments.size) [] root.children b

end Binder
end Skinning
