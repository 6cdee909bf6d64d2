import Skinning.Skin.State

/-! What fragments declare, without binding them: the names in the widget nodes of a
fragment and of all fragments that its panels lead to. -/
namespace Skinning

structure Survey where
  visited : List String
  found : List String
  deriving DecidableEq, Repr

namespace Survey

def empty : Survey := ⟨[], []⟩

def visit (s : Survey) (fragment : String) : Survey := { s with visited := fragment :: s.visited }

def add (s : Survey) (names : List String) : Survey := { s with found := s.found ++ names }

/-- A widget node declares its name, its source and what it is connected to. -/
def declared (node : Element) : List String :=
  (node.attribute? "name").toList ++ (node.attribute? "source").toList ++
    match node.attribute? "connection" with
    | some connection => (Text.split ',' connection).map Text.trim
    | none => []

mutual

/-- A panel is followed to its fragment first; then its own nodes count. -/
def scanNode (follow : String → Survey → Survey) : Element → Survey → Survey
  | ⟨tag, attributes, text?, line, children⟩, s =>
    let node : Element := ⟨tag, attributes, text?, line, children⟩
    match tag with
    | "widget" => s.add (declared node)
    | "panel" =>
      scanNodes follow children (match node.filled? "name" with
        | some name => follow name s
        | none => s)
    | _ => s

def scanNodes (follow : String → Survey → Survey) : List Element → Survey → Survey
  | [], s => s
  | node :: rest, s => scanNodes follow rest (scanNode follow node s)

end

end Survey

namespace Skin

/-- Looks into a fragment unless that was done before. Fragments that are looked into
inside each other are different, so the depth need not exceed their number. -/
def survey (s : Skin) : Nat → String → Survey → Survey
  | depth, name, found =>
    if found.visited.contains name then found
    else match s.fragment? name, depth with
      | some fragment, depth + 1 =>
        Survey.scanNodes (s.survey depth) fragment.element.children (found.visit name)
      | _, _ => found.visit name

/-- The names that a fragment and the fragments in it declare, ascending and each once. -/
def declaredNames (s : Skin) (name : String) : List String :=
  (s.survey s.fragments.size name .empty).found.eraseDups.mergeSort fun a b => a ≤ b

end Skin
end Skinning
