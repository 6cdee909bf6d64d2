import Skinning.Toml.Node
import Skinning.Toml.Token

/-! Reading TOML documents: tokens become groups by their brackets, groups become lines,
and lines statements. A document with a fault has no tree at all. -/
namespace Skinning.Toml

inductive Group where
  | leaf (token : Token)
  | brackets (items : List Group)
  | braces (items : List Group)
  deriving Repr

namespace Group

/-- Groups the tokens. `read` is what was read since the last open bracket and `opened`
what was read before each of them, all last first. -/
def collect : List Group → List (Bool × List Group) → List Token → Option (List Group)
  | read, [], [] => some read.reverse
  | _, _ :: _, [] => none
  | read, opened, .opening :: rest => collect [] ((false, read) :: opened) rest
  | read, opened, .openingBrace :: rest => collect [] ((true, read) :: opened) rest
  | read, (false, before) :: opened, .closing :: rest =>
    collect (.brackets read.reverse :: before) opened rest
  | read, (true, before) :: opened, .closingBrace :: rest =>
    collect (.braces read.reverse :: before) opened rest
  | _, _, .closing :: _ | _, _, .closingBrace :: _ => none
  | read, opened, token :: rest => collect (.leaf token :: read) opened rest

def isLeaf (token : Token) : Group → Bool
  | .leaf found => found == token
  | _ => false

def isBlank (g : Group) : Bool := g.isLeaf .space || g.isLeaf .tab

def isSpacing (g : Group) : Bool := g.isBlank || g.isLeaf .newline

end Group

/-- The list without what it starts and ends with of a kind. -/
def strip (drop : α → Bool) (items : List α) : List α :=
  ((items.dropWhile drop).reverse.dropWhile drop).reverse

def pieces (isSep : α → Bool) : List α → List (List α)
  | [] => [[]]
  | item :: rest =>
    if isSep item then [] :: pieces isSep rest
    else match pieces isSep rest with
      | [] => [[item]]
      | piece :: more => (item :: piece) :: more

def isKeyChar (c : Char) : Bool := c.isAlphanum || c == '-' || c == '_'

/-- A part of a key: a word, or a text on one line. -/
def keyPart? (groups : List Group) : Option String :=
  match strip Group.isBlank groups with
  | [.leaf (.word cs)] => if cs.all isKeyChar then some (String.ofList cs) else none
  | [.leaf (.text s false)] => some s
  | _ => none

/-- The greatest number of parts of a key, and of groups inside each other. -/
def depthLimit : Nat := 79

def key? (groups : List Group) : Option (List String) := do
  let parts ← (pieces (Group.isLeaf .dot) groups).mapM keyPart?
  if parts.length ≤ depthLimit then some parts else none

/-- The characters of a value without quotes; a moment may have a space in it. -/
def wordChars? : List Group → Option (List Char)
  | [] => some []
  | .leaf (.word cs) :: rest => (wordChars? rest).map (cs ++ ·)
  | .leaf .dot :: rest => (wordChars? rest).map ('.' :: ·)
  | .leaf .space :: rest => (wordChars? rest).map (' ' :: ·)
  | _ => none

def pair? (value? : List Group → Option Node) (groups : List Group) :
    Option (List String × Node) :=
  match groups.span fun g => !g.isLeaf .equals with
  | (key, _ :: value) => do return (← key? key, ← value? value)
  | (_, []) => none

/-- The elements of an array: there may be a comma after the last. -/
def elements (items : List Group) : List (List Group) :=
  let found := (pieces (Group.isLeaf .comma) items).map (strip Group.isSpacing)
  if found.getLast?.any List.isEmpty then found.dropLast else found

/-- The pairs of a table between braces, all on one line. -/
def members (items : List Group) : List (List Group) :=
  if items.all Group.isBlank then [] else pieces (Group.isLeaf .comma) items

def closedTable? (pairs : List (List String × Node)) : Option Node := do
  match ← pairs.foldlM (fun node (path, value) => node.addPair path value) Node.emptyTable with
  | .table _ entries => some (.table .closed entries)
  | _ => none

/-- A value with at most the given number of groups inside each other. -/
def value? : Nat → List Group → Option Node
  | depth, groups =>
    match depth, strip Group.isBlank groups with
    | _, [.leaf (.text s _)] => some (.text s)
    | depth + 1, [.brackets items] => do return .array (← (elements items).mapM (value? depth))
    | depth + 1, [.braces items] => do closedTable? (← (members items).mapM (pair? (value? depth)))
    | _, words => do return .scalar (← Scalar.read? (← wordChars? words))

def statement? (line : List Group) : Option Statement :=
  match line with
  | [.brackets [.brackets items]] => (key? items).map .tables
  | [.brackets items] => (key? items).map .table
  | _ => (pair? (value? depthLimit) line).map fun (path, value) => .pair path value

def statements? (groups : List Group) : Option (List Statement) :=
  let lines := (pieces (Group.isLeaf .newline) groups).map (strip Group.isBlank)
  (lines.filter fun line => !line.isEmpty).mapM statement?

def read? (source : String) : Option Node := do
  let groups ← Group.collect [] [] (← tokens? source)
  Node.ofStatements? (← statements? groups)

end Skinning.Toml
