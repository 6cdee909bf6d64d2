import Skinning.Markup.Element
import Skinning.Markup.Event
import Skinning.Markup.Position

/-! Documents: one root element, with properly nested tags. -/
namespace Skinning.Markup

/-- The elements that are open, the innermost first, and the root once it is closed. -/
structure Assembly where
  root? : Option Element
  opened : List Element
  deriving Repr

namespace Assembly

def empty : Assembly := ⟨none, []⟩

/-- A complete element takes its place in the element that encloses it. -/
def attach (a : Assembly) (e : Element) : Except Fault Assembly :=
  match a.opened, a.root? with
  | parent :: rest, _ => .ok { a with opened := parent.withChild e :: rest }
  | [], none => .ok ⟨some e, []⟩
  | [], some _ => .error (.secondRoot e.tag)

/-- Text outside the root is dropped. -/
def addText (a : Assembly) (text : String) : Assembly :=
  match a.opened with
  | e :: rest => { a with opened := { e with text? := some (e.text ++ text) } :: rest }
  | [] => a

def elementOf (tag : Tag) (line : Nat) : Element := ⟨tag.name, tag.attributes, none, line, []⟩

def settle (e : Element) : Element :=
  { e with text? := e.text?.filter fun text => !text.isEmpty }

/-- A closing name without the blanks at its end. One of blanks alone keeps them. -/
def trimName (name : String) : String :=
  if name.toList.all isBlank then name
  else String.ofList ((name.toList.reverse.dropWhile isBlank).reverse)

def close (a : Assembly) (offset : Nat) (name : String) (complete : Bool) :
    Except LocatedFault Assembly :=
  let place := offset + if complete then 2 else 1
  match a.opened with
  | [] => .error ⟨place, .mismatch "" name⟩
  | e :: rest =>
    let name := trimName name
    if e.tag = name then
      match ({ a with opened := rest } : Assembly).attach (settle e) with
      | .ok a => .ok a
      | .error fault => .error ⟨offset, fault⟩
    else .error ⟨place, .mismatch e.tag name⟩

def step (lineAt : Nat → Nat) (a : Assembly) (item : Item) : Except LocatedFault Assembly :=
  match item.event with
  | .opening tag => .ok { a with opened := elementOf tag (lineAt item.offset) :: a.opened }
  | .single tag =>
    match a.attach (elementOf tag (lineAt item.offset)) with
    | .ok a => .ok a
    | .error fault => .error ⟨item.offset, fault⟩
  | .closing name complete => a.close item.offset name complete
  | .text text => .ok (a.addText text)

def run (lineAt : Nat → Nat) (a : Assembly) : List Item → Except LocatedFault Assembly
  | [] => .ok a
  | item :: rest => do (← a.step lineAt item).run lineAt rest

/-- The root, if everything is closed; `size` is the offset of the source's end. -/
def finish (a : Assembly) (size : Nat) : Except LocatedFault Element :=
  match a.opened, a.root? with
  | e :: _, _ => .error ⟨size, .unclosed e.tag⟩
  | [], none => .error ⟨size, .noRoot⟩
  | [], some root => .ok root

end Assembly

/-- A faulty document: its name, and where and what the fault is. -/
structure ParseError where
  origin : String
  position : Position
  fault : Fault
  deriving DecidableEq, Repr

def ParseError.message (e : ParseError) : String :=
  "XML parse error in '" ++ e.origin ++ "' at line " ++ toString e.position.line ++
    ", column " ++ toString e.position.column ++ ": " ++ e.fault.message

def readTree (source : String) : Except LocatedFault Element := do
  let scan := Scan.ofString source
  let assembly ← Assembly.empty.run (fun offset => (Position.ofOffset source offset).line) scan.items
  match scan.fault? with
  | some fault => throw fault
  | none => assembly.finish source.utf8ByteSize

def readDocument (source origin : String) : Except ParseError Element :=
  match readTree source with
  | .ok root => .ok root
  | .error located =>
    .error ⟨origin, Position.ofOffset source located.offset, located.fault⟩

end Skinning.Markup
