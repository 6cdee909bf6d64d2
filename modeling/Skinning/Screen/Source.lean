import Skinning.Screen.Stage
import Skinning.Table

/-! The sources of a screen, and how other screens reach them. -/
namespace Skinning

inductive Source where
  /-- A source in use, by the number of its pipeline. -/
  | live (pipeline : Nat)
  /-- A name that is given up for another. -/
  | obsolete (replacement date : String) (description? : Option String)
  deriving DecidableEq, Repr

/-- What a screen shows to screens that are related to it. Each related screen has a
name, and its pipelines are numbered from a first number on. -/
structure Peer where
  className : String
  sources : Table String Source
  related : List (String × Nat × Peer)

namespace Peer

def ofClass (className : String) : Peer := ⟨className, ∅, []⟩

/-- The related screen that was named so last, and the number of its first pipeline. -/
def related? (p : Peer) (name : String) : Option (Nat × Peer) := p.related.lookup name

def follow? (p : Peer) : List String → Option (Nat × Peer)
  | [] => some (0, p)
  | name :: rest => do
    let (first, next) ← p.related? name
    let (more, found) ← next.follow? rest
    return (first + more, found)

/-- The sources of the screen itself that are given up. -/
def obsolete (p : Peer) : List String :=
  p.sources.entries.filterMap fun
    | (_, .obsolete replacement _ _) => some replacement
    | _ => none

mutual

/-- The names that stand in for sources here and in all screens that can be reached. -/
def replacements : Peer → List String
  | ⟨className, sources, related⟩ =>
    (Peer.mk className sources []).obsolete ++ replacementsOf related

def replacementsOf : List (String × Nat × Peer) → List String
  | [] => []
  | (_, _, peer) :: rest => peer.replacements ++ replacementsOf rest

end

end Peer
end Skinning
