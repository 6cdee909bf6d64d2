import Skinning.Diagnostics
import Skinning.Screen.Source

/-! Resolving the source that a node reads from. A path names related screens and, last,
a source; a source that is given up sends the search on to its replacement, which is
again a path from the first screen. -/
namespace Skinning

inductive Destination where
  | source (pipeline : Nat)
  | obsolete (replacement date : String) (description? : Option String)
  | noScreen
  | noSource
  deriving DecidableEq, Repr

/-- A source in use, and the path that leads to it. -/
structure ResolvedSource where
  pipeline : Nat
  path : String
  deriving DecidableEq, Repr

namespace Peer

def destination (p : Peer) (path : String) : Destination :=
  let segments := Text.split '.' path
  match p.follow? segments.dropLast with
  | none => .noScreen
  | some (first, screen) =>
    match screen.sources.get? (segments.getLastD "") with
    | some (.live pipeline) => .source (first + pipeline)
    | some (.obsolete replacement date description?) => .obsolete replacement date description?
    | none => .noSource

def obsoleteNotices (fragment path replacement date : String) (description? : Option String) :
    Notices :=
  .obsoleteSource fragment path replacement date ::
    description?.toList.map Notice.sourceDescription

/-- Follows replacements up to a source in use, or to a path that was met before. -/
def resolveFrom (p : Peer) (fragment : String) :
    Nat → List String → String → Except BindingFault ResolvedSource × Notices
  | fuel, seen, path =>
    match p.destination path with
    | .source pipeline => (.ok ⟨pipeline, path⟩, [])
    | .noScreen => (.error (.missingRelatedScreen path fragment), [])
    | .noSource => (.error (.missingSource path fragment), [])
    | .obsolete replacement date description? =>
      let notices := obsoleteNotices fragment path replacement date description?
      match seen.contains path, fuel with
      | false, fuel + 1 =>
        let (source, more) := p.resolveFrom fragment fuel (path :: seen) replacement
        (source, notices ++ more)
      | _, _ => (.error (.missingSource path fragment), notices)

/-- Resolves a path for a fragment. Every path after the first is a replacement, so there
are at most so many different ones before a path is met again. -/
def resolve (p : Peer) (fragment path : String) : Except BindingFault ResolvedSource × Notices :=
  p.resolveFrom fragment (p.replacements.length + 1) [] path

end Peer
end Skinning
