import Skinning.Text.Integer

/-! The tokens of a TOML document. Words, quoted texts, marks and line ends are told apart
by their characters alone; comments are read over. What has been read of a word or a text
is held last character first. -/
namespace Skinning.Toml

inductive Token where
  /-- Characters of bare keys, numbers and moments without their points. -/
  | word (cs : List Char)
  /-- A text; `long` texts stand between three marks and may hold line ends. -/
  | text (s : String) (long : Bool)
  | dot
  | equals
  | comma
  | opening
  | closing
  | openingBrace
  | closingBrace
  | space
  | tab
  | newline
  deriving DecidableEq, Repr

/-- A text that is being read: its mark, and whether there are three of them. -/
structure Quote where
  mark : Char
  long : Bool
  read : List Char
  deriving DecidableEq, Repr

inductive Phase where
  | plain
  /-- At the start of a long text, where a line end does not count. -/
  | fresh
  | escape
  /-- A number with `left` digits to come. -/
  | code (left value : Nat)
  /-- After a backslash that joins lines; `broken` once there was a line end. -/
  | joining (broken : Bool)
  /-- Marks that may end a long text. -/
  | marks (count : Nat)
  deriving DecidableEq, Repr

inductive Mode where
  | between
  | comment
  | word (read : List Char)
  /-- After one or two marks that start a text. -/
  | opened (mark : Char) (twice : Bool)
  | quote (quote : Quote) (phase : Phase)
  deriving DecidableEq, Repr

def isWordChar (c : Char) : Bool :=
  c.isAlphanum || c == '-' || c == '_' || c == '+' || c == ':'

/-- Texts and comments hold tabs and no other controls. -/
def isTextChar (c : Char) : Bool := c == '\t' || (' ' ≤ c && c != '\x7f')

def mark? : Char → Option Token
  | '.' => some .dot
  | '=' => some .equals
  | ',' => some .comma
  | '[' => some .opening
  | ']' => some .closing
  | '\x7b' => some .openingBrace
  | '\x7d' => some .closingBrace
  | ' ' => some .space
  | '\t' => some .tab
  | '\n' => some .newline
  | _ => none

/-- The character that a letter after a backslash stands for. -/
def escaped? : Char → Option Char
  | 'b' => some '\x08'
  | 't' => some '\t'
  | 'n' => some '\n'
  | 'f' => some '\x0c'
  | 'r' => some '\r'
  | '"' => some '"'
  | '\\' => some '\\'
  | _ => none

def charOf? (code : Nat) : Option Char :=
  if h : code.isValidChar then some (Char.ofNatAux code h) else none

namespace Quote

def push (q : Quote) (c : Char) : Quote := { q with read := c :: q.read }

/-- Marks that do not end the text belong to it. -/
def pushMarks (q : Quote) (count : Nat) : Quote :=
  { q with read := List.replicate count q.mark ++ q.read }

def token (q : Quote) : Token := .text (String.ofList q.read.reverse) q.long

end Quote

namespace Mode

/-- What a step leads to: the next mode, and the tokens that are complete. -/
abbrev Next := Option (Mode × List Token)

def start (c : Char) : Next :=
  match mark? c with
  | some token => some (.between, [token])
  | none =>
    if c == '#' then some (.comment, [])
    else if c == '"' || c == '\'' then some (.opened c false, [])
    else if isWordChar c then some (.word [c], [])
    else none

def startAfter (token : Token) (c : Char) : Next :=
  (start c).map fun (mode, tokens) => (mode, token :: tokens)

/-- A character of a text. Backslashes count between double marks only. -/
def plain (q : Quote) (c : Char) : Next :=
  if c == q.mark then
    if q.long then some (.quote q (.marks 1), []) else some (.between, [q.token])
  else if c == '\\' && q.mark == '"' then some (.quote q .escape, [])
  else if isTextChar c || (c == '\n' && q.long) then some (.quote (q.push c) .plain, [])
  else none

def escape (q : Quote) (c : Char) : Next :=
  match escaped? c with
  | some found => some (.quote (q.push found) .plain, [])
  | none =>
    if c == 'u' then some (.quote q (.code 4 0), [])
    else if c == 'U' then some (.quote q (.code 8 0), [])
    else if q.long && (c == ' ' || c == '\t') then some (.quote q (.joining false), [])
    else if q.long && c == '\n' then some (.quote q (.joining true), [])
    else none

def code (q : Quote) (left value : Nat) (c : Char) : Next := do
  let value := value * 16 + (← Text.digit? 16 c)
  if left ≤ 1 then return (.quote (q.push (← charOf? value)) .plain, [])
  else return (.quote q (.code (left - 1) value), [])

/-- Joined lines lose the blanks between them. -/
def joining (q : Quote) (broken : Bool) (c : Char) : Next :=
  if c == ' ' || c == '\t' then some (.quote q (.joining broken), [])
  else if c == '\n' then some (.quote q (.joining true), [])
  else if broken then plain q c
  else none

/-- Three marks end a long text, and up to two more before them belong to it. -/
def marks (q : Quote) (count : Nat) (c : Char) : Next :=
  if c == q.mark then
    if count < 5 then some (.quote q (.marks (count + 1)), []) else none
  else if count < 3 then plain (q.pushMarks count) c
  else startAfter (q.pushMarks (count - 3)).token c

def inQuote (q : Quote) (phase : Phase) (c : Char) : Next :=
  match phase with
  | .plain => plain q c
  | .fresh => if c == '\n' then some (.quote q .plain, []) else plain q c
  | .escape => escape q c
  | .code left value => code q left value c
  | .joining broken => joining q broken c
  | .marks count => marks q count c

def step (mode : Mode) (c : Char) : Next :=
  match mode with
  | .between => start c
  | .comment =>
    if c == '\n' then some (.between, [.newline])
    else if isTextChar c then some (.comment, [])
    else none
  | .word read =>
    if isWordChar c then some (.word (c :: read), [])
    else startAfter (.word read.reverse) c
  | .opened mark false =>
    if c == mark then some (.opened mark true, []) else plain ⟨mark, false, []⟩ c
  | .opened mark true =>
    if c == mark then some (.quote ⟨mark, true, []⟩ .fresh, [])
    else startAfter (.text "" false) c
  | .quote q phase => inQuote q phase c

def finish : Mode → Option (List Token)
  | .between | .comment => some []
  | .word read => some [.word read.reverse]
  | .opened _ twice => if twice then some [.text "" false] else none
  | .quote q (.marks count) =>
    if 3 ≤ count then some [(q.pushMarks (count - 3)).token] else none
  | .quote _ _ => none

def scan : Mode → List Char → Option (List Token)
  | mode, [] => mode.finish
  | mode, c :: rest => do
    let (next, tokens) ← mode.step c
    return tokens ++ (← scan next rest)

end Mode

/-- A line may end with a carriage return and a line feed. -/
def unifyLineEnds : List Char → List Char
  | '\r' :: '\n' :: rest => '\n' :: unifyLineEnds rest
  | c :: rest => c :: unifyLineEnds rest
  | [] => []

/-- A byte order mark in front is no part of the document. -/
def withoutMark : List Char → List Char
  | '\uFEFF' :: rest => rest
  | cs => cs

def tokens? (source : String) : Option (List Token) :=
  Mode.between.scan (unifyLineEnds (withoutMark source.toList))

end Skinning.Toml
