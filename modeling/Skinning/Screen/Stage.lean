/-! Pipelines. A source is the root of a tree of converter stages; renderers read from any
of its stages. Stages are only added, so a place in the tree, given by the numbers of the
branches that lead there, stays the same. -/
namespace Skinning

inductive StageKind where
  | source (name className : String)
  | converter (kind arguments : String)
  deriving DecidableEq, Repr

/-- A stage with the stages that read from it, the oldest first. -/
structure Stage where
  kind : StageKind
  downstream : List Stage
  deriving Repr

abbrev StagePath := List Nat

/-- A converter as a document asks for it, and the arguments that it reports once made. -/
structure ConverterRequest where
  kind : String
  arguments : String
  reported : String
  deriving DecidableEq, Repr

namespace StageKind

def className : StageKind → String
  | .source _ className => className
  | .converter kind _ => kind

def arguments? : StageKind → Option String
  | .source _ _ => none
  | .converter _ arguments => some arguments

def text : StageKind → String
  | .source name className => "Source(" ++ name ++ " : " ++ className ++ ")"
  | .converter kind arguments => "Converter(" ++ kind ++ " '" ++ arguments ++ "')"

end StageKind

def lastIndex? (p : α → Bool) : List α → Option Nat
  | [] => none
  | item :: rest =>
    match lastIndex? p rest with
    | some i => some (i + 1)
    | none => if p item then some 0 else none

namespace Stage

def source (name className : String) : Stage := ⟨.source name className, []⟩

/-- The newest branch for a kind of converter with such arguments. -/
def find? (s : Stage) (kind arguments : String) : Option Nat :=
  lastIndex? (fun child => child.kind == .converter kind arguments) s.downstream

def connect (s : Stage) (request : ConverterRequest) : Stage × Nat :=
  match s.find? request.kind request.arguments with
  | some i => (s, i)
  | none =>
    ({ s with downstream := s.downstream ++ [⟨.converter request.kind request.reported, []⟩] },
      s.downstream.length)

def at? (s : Stage) : StagePath → Option Stage
  | [] => some s
  | i :: path => s.downstream[i]?.bind (at? · path)

def connectAt (request : ConverterRequest) : StagePath → Stage → Stage × StagePath
  | [], s =>
    let (s, i) := s.connect request
    (s, [i])
  | i :: path, s =>
    match s.downstream[i]? with
    | none => (s, i :: path)
    | some child =>
      let (child, path) := connectAt request path child
      ({ s with downstream := s.downstream.set i child }, i :: path)

/-- Connects converters one behind the other, beginning at the root. -/
def connectAll (s : Stage) (requests : List ConverterRequest) : Stage × StagePath :=
  requests.foldl (fun (s, path) request => connectAt request path s) (s, [])

def trail (s : Stage) : StagePath → List StageKind
  | [] => [s.kind]
  | i :: path =>
    s.kind :: match s.downstream[i]? with
      | some child => child.trail path
      | none => []

end Stage
end Skinning
