import Skinning.Toml.Scalar

/-! The tree that a TOML document describes, and how its statements build it. A table may
be completed only in the way in which it was begun. -/
namespace Skinning.Toml

/-- How a table came to be. -/
inductive TableKind where
  | headed
  /-- As part of the heading of a table below it. -/
  | implied
  | dotted
  | closed
  deriving DecidableEq, Repr

inductive Node where
  | text (s : String)
  | scalar (value : Scalar)
  | array (items : List Node)
  | table (kind : TableKind) (entries : List (String × Node))
  | tables (items : List Node)
  deriving Repr

inductive Statement where
  | table (path : List String)
  | tables (path : List String)
  | pair (path : List String) (value : Node)

namespace Node

def emptyTable : Node := .table .headed []

/-- The entry of a key; tables have each key once. -/
def put (entries : List (String × Node)) (key : String) (node : Node) : List (String × Node) :=
  entries.filter (·.1 != key) ++ [(key, node)]

/-- Changes what is below a key of a table. -/
def changeEntry (kind : TableKind) (entries : List (String × Node)) (key : String)
    (f : Option Node → Option Node) : Option Node := do
  return .table kind (put entries key (← f (entries.lookup key)))

/-- What a path may pass through: the last of several tables, and a table that stands
open to this kind of path. -/
def passThrough (dotted : Bool) (f : Node → Option Node) : Option Node → Option Node
  | none => f (.table (if dotted then .dotted else .implied) [])
  | some (.tables items) => do
    let last ← items.getLast?
    return .tables (items.dropLast ++ [← f last])
  | some (.table .closed _) => none
  | some (.table .headed entries) => if dotted then none else f (.table .headed entries)
  | some (.table kind entries) => f (.table kind entries)
  | some _ => none

/-- Changes the table that a path of keys leads to. -/
def change (dotted : Bool) (f : TableKind → List (String × Node) → Option Node) :
    List String → Node → Option Node
  | [], .table kind entries => f kind entries
  | key :: path, .table kind entries =>
    changeEntry kind entries key (passThrough dotted (change dotted f path))
  | _, _ => none

/-- A new key, in a table whose kind fits the form of the key. -/
def addKey (bare : Bool) (key : String) (value : Node) (kind : TableKind)
    (entries : List (String × Node)) : Option Node :=
  if (kind == .dotted) == bare || (entries.lookup key).isSome then none
  else some (.table kind (put entries key value))

def addPair (node : Node) (path : List String) (value : Node) : Option Node := do
  let key ← path.getLast?
  node.change true (addKey (path.length == 1) key value) path.dropLast

def headTable : Option Node → Option Node
  | none => some emptyTable
  | some (.table .implied entries) => some (.table .headed entries)
  | some _ => none

def headTables : Option Node → Option Node
  | none => some (.tables [emptyTable])
  | some (.tables items) => some (.tables (items ++ [emptyTable]))
  | some _ => none

def addHeading (head : Option Node → Option Node) (path : List String) (root : Node) :
    Option Node := do
  let key ← path.getLast?
  root.change false (fun kind entries => changeEntry kind entries key head) path.dropLast

/-- The tree of statements; pairs belong to the last heading. -/
def build : Node → List String → List Statement → Option Node
  | root, _, [] => some root
  | root, _, .table path :: rest => do build (← root.addHeading headTable path) path rest
  | root, _, .tables path :: rest => do build (← root.addHeading headTables path) path rest
  | root, heading, .pair path value :: rest => do
    let root ← root.change false (fun kind entries => addPair (.table kind entries) path value) heading
    build root heading rest

def ofStatements? (statements : List Statement) : Option Node := build emptyTable [] statements

end Node
end Skinning.Toml
