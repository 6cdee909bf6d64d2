import Skinning.Markup.Tag

/-! A document as a sequence of events: tags, and runs of text between them. Comments,
processing instructions and the document type are read over. The source is read a
character at a time; what has been read of a construct is held last character first. -/
namespace Skinning.Markup

inductive Event where
  | opening (tag : Tag)
  | single (tag : Tag)
  /-- A closing tag; `complete` tells whether its `>` is there. -/
  | closing (name : String) (complete : Bool)
  | text (text : String)
  deriving DecidableEq, Repr

structure Item where
  offset : Nat
  event : Event
  deriving DecidableEq, Repr

structure LocatedFault where
  offset : Nat
  fault : Fault
  deriving DecidableEq, Repr

/-- The construct that is being read, with the offset of its first byte. -/
inductive Mode where
  | text (start : Nat) (read : List Char)
  | markup (start : Nat)
  | tag (start : Nat) (quote : Option Char) (read : List Char)
  | closing (start : Nat) (read : List Char)
  | instruction (start : Nat) (read : List Char)
  | bang (start : Nat)
  | comment (start : Nat) (read : List Char)
  | cdata (start : Nat) (read : List Char)
  | doctype (start depth : Nat) (read : List Char)
  deriving DecidableEq, Repr

def lower (cs : List Char) : List Char := cs.map Char.toLower

namespace Mode

def endText (start : Nat) (read : List Char) : Except LocatedFault (List Item) :=
  if read.isEmpty then .ok []
  else match unescape read.reverse with
    | .ok decoded => .ok [⟨start, .text decoded⟩]
    | .error fault => .error ⟨start, .text fault⟩

/-- A final `/` makes a tag that stands for a whole element. -/
def endTag (start : Nat) (read : List Char) : Except LocatedFault (List Item) :=
  match read with
  | '/' :: content =>
    match Tag.read content.reverse with
    | .ok single => .ok [⟨start, .single single⟩]
    | .error fault => .error ⟨start, .tag fault⟩
  | content =>
    match Tag.read content.reverse with
    | .ok opening => .ok [⟨start, .opening opening⟩]
    | .error fault => .error ⟨start, .tag fault⟩

def endClosing (start : Nat) (read : List Char) (complete : Bool) : List Item :=
  [⟨start, .closing (String.ofList read.reverse) complete⟩]

/-- An instruction needs something between its question marks. -/
def endInstruction (start : Nat) (read : List Char) (complete : Bool) :
    Except LocatedFault (List Item) :=
  if read.head? = some '?' ∧ 2 < (String.ofList read).utf8ByteSize then .ok []
  else .error ⟨start + if complete then 2 else 1, .incomplete .declaration⟩

def endComment (next : Nat) (read : List Char) : Except LocatedFault (List Item) :=
  if "!--".toList.isPrefixOf read.reverse then .ok []
  else .error ⟨next, .incomplete .comment⟩

def endCData (start next : Nat) (read : List Char) : Except LocatedFault (List Item) :=
  let content := read.reverse
  if "![cdata[".toList.isPrefixOf (lower content) then
    .ok [⟨start, .text (String.ofList ((content.drop 8).take (content.length - 10)))⟩]
  else .error ⟨next, .incomplete .cdata⟩

def endDoctype (next : Nat) (read : List Char) : Except LocatedFault (List Item) :=
  let content := read.reverse
  if "!doctype".toList.isPrefixOf (lower content) then
    if (content.drop 8).all isBlank then .error ⟨next, .emptyDoctype⟩ else .ok []
  else .error ⟨next, .incomplete .doctype⟩

def textAt (start : Nat) : Mode := .text start []

def ofMarkup (start : Nat) (c : Char) : Except LocatedFault (Mode × List Item) :=
  match c with
  | '!' => .ok (.bang start, [])
  | '/' => .ok (.closing start [], [])
  | '?' => .ok (.instruction start ['?'], [])
  | '>' => (endTag start []).map (textAt (start + 2), ·)
  | c => .ok (.tag start (if c = '"' ∨ c = '\'' then some c else none) [c], [])

def ofBang (start : Nat) (c : Char) : Except LocatedFault (Mode × List Item) :=
  match c with
  | '-' => .ok (.comment start ['-', '!'], [])
  | '[' => .ok (.cdata start ['[', '!'], [])
  | 'D' | 'd' => .ok (.doctype start 0 [c, '!'], [])
  | c => .error ⟨start + 1, .bangSymbol (leadByte c)⟩

def step (mode : Mode) (offset : Nat) (c : Char) : Except LocatedFault (Mode × List Item) :=
  let next := offset + c.utf8Size
  match mode with
  | .text start read =>
    if c = '<' then (endText start read).map (.markup offset, ·)
    else .ok (.text start (c :: read), [])
  | .markup start => ofMarkup start c
  | .tag start quote read =>
    match quote with
    | some q => .ok (.tag start (if c = q then none else quote) (c :: read), [])
    | none =>
      if c = '>' then (endTag start read).map (textAt next, ·)
      else .ok (.tag start (if c = '"' ∨ c = '\'' then some c else none) (c :: read), [])
  | .closing start read =>
    if c = '>' then .ok (textAt next, endClosing start read true)
    else .ok (.closing start (c :: read), [])
  | .instruction start read =>
    if c = '>' then (endInstruction start read true).map (textAt next, ·)
    else .ok (.instruction start (c :: read), [])
  | .bang start => ofBang start c
  | .comment start read =>
    if c = '>' ∧ ['-', '-'].isPrefixOf read ∧ start + 6 ≤ offset then
      (endComment next read).map (textAt next, ·)
    else .ok (.comment start (c :: read), [])
  | .cdata start read =>
    if c = '>' ∧ [']', ']'].isPrefixOf read then (endCData start next read).map (textAt next, ·)
    else .ok (.cdata start (c :: read), [])
  | .doctype start depth read =>
    if c = '>' ∧ depth = 0 then (endDoctype next read).map (textAt next, ·)
    else
      let depth := if c = '<' then depth + 1 else if c = '>' then depth - 1 else depth
      .ok (.doctype start depth (c :: read), [])

/-- What the end of the source makes of an unfinished construct. A lone `<` is nothing,
and a tag needs no `>`. -/
def finish : Mode → Except LocatedFault (List Item)
  | .text start read => endText start read
  | .markup _ => .ok []
  | .tag start _ read => endTag start read
  | .closing start read => .ok (endClosing start read false)
  | .instruction start read => endInstruction start read false
  | .bang start => .error ⟨start + 1, .incomplete .bang⟩
  | .comment start _ => .error ⟨start + 1, .incomplete .comment⟩
  | .cdata start _ => .error ⟨start + 1, .incomplete .cdata⟩
  | .doctype start _ _ => .error ⟨start + 1, .incomplete .doctype⟩

end Mode

structure Scan where
  items : List Item
  fault? : Option LocatedFault
  deriving Repr

def Scan.after (items : List Item) (rest : Scan) : Scan := ⟨items ++ rest.items, rest.fault?⟩

def Mode.scan (mode : Mode) : Nat → List Char → Scan
  | _, [] =>
    match mode.finish with
    | .ok items => ⟨items, none⟩
    | .error fault => ⟨[], some fault⟩
  | offset, c :: rest =>
    match mode.step offset c with
    | .ok (next, items) => Scan.after items (next.scan (offset + c.utf8Size) rest)
    | .error fault => ⟨[], some fault⟩

/-- A byte order mark in front does not count. -/
def withoutMark : List Char → List Char
  | '\uFEFF' :: rest => rest
  | cs => cs

def Scan.ofString (source : String) : Scan := (Mode.textAt 0).scan 0 (withoutMark source.toList)

end Skinning.Markup
