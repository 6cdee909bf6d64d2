import Skinning.Color
import Skinning.Toml.Node

/-! Writing TOML documents of one level: sections of keys with plain values. A text is
written in the first of four styles that needs no escapes, so far as there is one. -/
namespace Skinning.Toml

inductive Style where
  | basic
  | literal
  | longBasic
  | longLiteral
  deriving DecidableEq, Repr

namespace Style

def isLong : Style → Bool
  | .basic | .literal => false
  | .longBasic | .longLiteral => true

def isLiteral : Style → Bool
  | .basic | .longBasic => false
  | .literal | .longLiteral => true

/-- Controls that have to be escaped, whatever the style. -/
def isControl (c : Char) : Bool := (c < ' ' && c != '\t' && c != '\n') || c == '\x7f'

/-- The greatest number of a character in a row, when `count` of them come before. -/
def longestRun (mark : Char) : Nat → List Char → Nat
  | count, [] => count
  | count, c :: rest =>
    if c = mark then longestRun mark (count + 1) rest else max count (longestRun mark 0 rest)

def ofText (cs : List Char) : Style :=
  let broken := cs.contains '\n'
  let backslash := cs.contains '\\'
  let double := longestRun '"' 0 cs
  let single := longestRun '\'' 0 cs
  if cs.any isControl then (if broken then .longBasic else .basic)
  else if !backslash && !broken && double == 0 then .basic
  else if !broken && single == 0 then .literal
  else if !backslash && double ≤ 2 then .longBasic
  else if single ≤ 2 then .longLiteral
  else if broken then .longBasic
  else .basic

def delimiter : Style → List Char
  | .basic => ['"']
  | .literal => ['\'']
  | .longBasic => ['"', '"', '"']
  | .longLiteral => ['\'', '\'', '\'']

end Style

/-- The text's character after a backslash, if it needs one. Line ends need one on a
single line only. -/
def escapeOf? (long : Bool) : Char → Option (List Char)
  | '\x08' => some ['\\', 'b']
  | '\t' => some ['\\', 't']
  | '\n' => if long then none else some ['\\', 'n']
  | '\x0c' => some ['\\', 'f']
  | '\r' => some ['\\', 'r']
  | '\\' => some ['\\', '\\']
  | c => if Style.isControl c then
      some ('\\' :: 'u' :: (Color.hexDigits 4 c.toNat).map Char.toUpper)
    else none

/-- Escapes a text after `marks` quotes. A long text may hold two of them in a row. -/
def escapeFrom (long : Bool) : Nat → List Char → List Char
  | _, [] => []
  | marks, c :: rest =>
    if c = '"' then
      if long && marks < 2 then c :: escapeFrom long (marks + 1) rest
      else '\\' :: c :: escapeFrom long 0 rest
    else match escapeOf? long c with
      | some escaped => escaped ++ escapeFrom long 0 rest
      | none => c :: escapeFrom long 0 rest

/-- A text with its marks. The line end after the first marks of a long text does not
belong to it. -/
def quote (s : String) : List Char :=
  let cs := s.toList
  let style := Style.ofText cs
  let lead := if style.isLong && cs.contains '\n' then ['\n'] else []
  let body := if style.isLiteral then cs else escapeFrom style.isLong 0 cs
  style.delimiter ++ lead ++ body ++ style.delimiter

inductive Plain where
  | text (s : String)
  | integer (value : Int)
  | nothing
  deriving DecidableEq, Repr

def Plain.node : Plain → Node
  | .text s => .text s
  | .integer value => .scalar (.integer value)
  | .nothing => .array []

def Plain.written : Plain → List Char
  | .text s => quote s
  | .integer value => (toString value).toList
  | .nothing => ['[', ']']

inductive Heading where
  | none
  | table (key : String)
  | tables (key : String)
  deriving DecidableEq, Repr

def Heading.written : Heading → List Char
  | .none => []
  | .table key => '[' :: key.toList ++ [']', '\n']
  | .tables key => '[' :: '[' :: key.toList ++ [']', ']', '\n']

/-- A heading and the pairs below it, with bare keys. -/
structure Section where
  heading : Heading
  pairs : List (String × Plain)
  deriving DecidableEq, Repr

def Section.statements (s : Section) : List Statement :=
  (match s.heading with
    | .none => []
    | .table key => [.table [key]]
    | .tables key => [.tables [key]]) ++
  s.pairs.map fun (key, value) => .pair [key] value.node

def Section.written (s : Section) : List Char :=
  s.heading.written ++
    s.pairs.flatMap fun (key, value) => key.toList ++ [' ', '=', ' '] ++ value.written ++ ['\n']

def print (sections : List Section) : String :=
  String.ofList (['\n'].intercalate (sections.map Section.written))

end Skinning.Toml
