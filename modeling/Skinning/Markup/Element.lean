/-! The tree of a document. Attributes and children stand in document order. -/
namespace Skinning

/-- An element. Its text is all character data directly inside it, and its line that of
its start tag, counted from 1. -/
structure Element where
  tag : String
  attributes : List (String × String)
  text? : Option String
  line : Nat
  children : List Element
  deriving Repr, Inhabited

namespace Element

mutual

def decEq : (a b : Element) → Decidable (a = b)
  | ⟨tag, attributes, text?, line, children⟩, ⟨otherTag, others, otherText?, otherLine, more⟩ =>
    have := decEqList children more
    decidable_of_iff (tag = otherTag ∧ attributes = others ∧ text? = otherText? ∧ line = otherLine ∧
      children = more) (by simp)

def decEqList : (as bs : List Element) → Decidable (as = bs)
  | [], [] => isTrue rfl
  | [], _ :: _ | _ :: _, [] => isFalse nofun
  | a :: as, b :: bs =>
    have := a.decEq b
    have := decEqList as bs
    decidable_of_iff (a = b ∧ as = bs) (by simp)

end

instance : DecidableEq Element := decEq

def ofTag (tag : String) : Element := ⟨tag, [], none, 0, []⟩

def withAttribute (e : Element) (name value : String) : Element :=
  { e with attributes := e.attributes ++ [(name, value)] }

def withChild (e child : Element) : Element := { e with children := e.children ++ [child] }

def attribute? (e : Element) (name : String) : Option String := e.attributes.lookup name

def filled? (e : Element) (name : String) : Option String :=
  (e.attribute? name).filter fun value => !value.isEmpty

def childrenNamed (e : Element) (tag : String) : List Element :=
  e.children.filter (·.tag == tag)

def text (e : Element) : String := e.text?.getD ""

end Element
end Skinning
