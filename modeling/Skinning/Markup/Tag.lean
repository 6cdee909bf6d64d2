import Skinning.Markup.Escape

/-! What stands in a start tag: a name up to the first blank, then attributes. Blanks
may stand around `=` and need not stand between attributes. -/
namespace Skinning.Markup

def isBlank (c : Char) : Bool := c == ' ' || c == '\r' || c == '\n' || c == '\t'

structure Tag where
  name : String
  attributes : List (String × String)
  deriving DecidableEq, Repr

/-- How far an attribute has been read. Keys and values are held last character first. -/
inductive AttributeState where
  | between
  | key (start : Nat) (key : List Char)
  | afterKey (start : Nat) (key : String)
  | beforeValue (key : String)
  | value (key : String) (quote : Char) (value : List Char)
  deriving DecidableEq, Repr

structure TagReader where
  state : AttributeState
  seen : List (String × Nat)
  attributes : List (String × String)
  deriving DecidableEq, Repr

namespace TagReader

def initial : TagReader := ⟨.between, [], []⟩

/-- A key is complete and `=` has been met. -/
def endKey (r : TagReader) (start : Nat) (key : String) : Except TagFault TagReader :=
  match r.seen.lookup key with
  | some previous => .error (.duplicate start previous)
  | none => .ok { r with state := .beforeValue key, seen := r.seen ++ [(key, start)] }

def endValue (r : TagReader) (key : String) (value : List Char) : Except TagFault TagReader :=
  match unescape value with
  | .ok text => .ok { r with state := .between, attributes := r.attributes ++ [(key, text)] }
  | .error fault => .error (.value key fault)

/-- Reads the character at byte `offset` of the tag's content. A key's first character
is taken whatever it is. -/
def step (r : TagReader) (offset : Nat) (c : Char) : Except TagFault TagReader :=
  match r.state with
  | .between => .ok (if isBlank c then r else { r with state := .key offset [c] })
  | .key start key =>
    if c = '=' then r.endKey start (String.ofList key.reverse)
    else if isBlank c then .ok { r with state := .afterKey start (String.ofList key.reverse) }
    else .ok { r with state := .key start (c :: key) }
  | .afterKey start key =>
    if isBlank c then .ok r
    else if c = '=' then r.endKey start key
    else .error (.noEquals offset)
  | .beforeValue key =>
    if isBlank c then .ok r
    else if c = '"' ∨ c = '\'' then .ok { r with state := .value key c [] }
    else .error (.noQuote offset)
  | .value key quote value =>
    if c = quote then r.endValue key value.reverse
    else .ok { r with state := .value key quote (c :: value) }

/-- The attributes, if the tag may end at byte `size` of its content. -/
def finish (r : TagReader) (size : Nat) : Except TagFault (List (String × String)) :=
  match r.state with
  | .between => .ok r.attributes
  | .key _ _ | .afterKey _ _ => .error (.noEquals size)
  | .beforeValue _ => .error (.noValue size)
  | .value _ quote _ => .error (.unclosedQuote size quote)

def read (r : TagReader) : Nat → List Char → Except TagFault (List (String × String))
  | offset, [] => r.finish offset
  | offset, c :: rest => do (← r.step offset c).read (offset + c.utf8Size) rest

end TagReader

/-- The tag with the given content, without `<`, `>` and a final `/`. -/
def Tag.read (content : List Char) : Except TagFault Tag :=
  let name := content.takeWhile fun c => !isBlank c
  let rest := content.dropWhile fun c => !isBlank c
  (TagReader.initial.read (String.ofList name).utf8ByteSize rest).map fun attributes =>
    ⟨String.ofList name, attributes⟩

end Skinning.Markup
