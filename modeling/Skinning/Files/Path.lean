import Skinning.Text.Split

/-! Paths of files. A path keeps its spelling: joining inserts at most one `/` and
resolves nothing. Two spellings are the same path when their components agree, that is,
without regard to repeated slashes and to `.` anywhere but in front. -/
namespace Skinning

structure Path where
  text : String
  deriving DecidableEq, Repr, Inhabited

namespace Path

def segments (p : Path) : List String := Text.split '/' p.text

def steps (p : Path) : List String := p.segments.filter fun segment => !segment.isEmpty

/-- Whether a path can only be that of a directory. -/
def asksDirectory (p : Path) : Bool := p.text.toList.getLast? == some '/'

def isAbsolute (p : Path) : Bool := p.text.toList.head? == some '/'

/-- The right path if it is absolute, else the right path below the left one. -/
def join (left right : Path) : Path :=
  if right.isAbsolute || left.text.isEmpty then right
  else if left.asksDirectory then ⟨left.text ++ right.text⟩
  else ⟨left.text ++ "/" ++ right.text⟩

/-- Whether a segment counts as a component; `.` does in front only. -/
def counts (first : Bool) (segment : String) : Bool :=
  !segment.isEmpty && (first || segment != ".")

def componentsOf : List String → List String
  | [] => []
  | first :: rest =>
    (if counts true first then [first] else []) ++ rest.filter (counts false)

structure Components where
  absolute : Bool
  names : Array String
  deriving DecidableEq, Repr

def components (p : Path) : Components := ⟨p.isAbsolute, (componentsOf p.segments).toArray⟩

/-- The segments up to the last that counts, read from the back. -/
def dropIdle : List String → List String
  | [] => []
  | [first] => if counts true first then [first] else []
  | last :: earlier => if counts false last then last :: earlier else dropIdle earlier

/-- The path of the enclosing directory, spelled as the path itself. The root and the
empty path have none. -/
def parent? (p : Path) : Option Path :=
  match dropIdle p.segments.reverse with
  | [] => none
  | _ :: earlier =>
    let kept := "/".intercalate (dropIdle earlier).reverse
    some ⟨if kept.isEmpty && p.isAbsolute then "/" else kept⟩

/-- The path of the enclosing directory, empty where there is none. -/
def base (p : Path) : Path := p.parent?.getD ⟨""⟩

end Path
end Skinning
