import Skinning.Files.Content
import Skinning.Files.Fault
import Skinning.Files.Path
import Skinning.Table

/-! A tree of files, and how paths are followed in it: a directory must exist to be passed
through, also where `..` leaves it again. Of what lies outside the working directory only
the directories above it and the root are there from the start. -/
namespace Skinning

inductive FileKind where
  | file (content : Content)
  | directory
  deriving DecidableEq, Repr

inductive Origin where
  | root
  /-- Some levels above the working directory. -/
  | above (levels : Nat)
  deriving DecidableEq, Repr

/-- A place in the tree: the names on the way down from an origin. -/
structure Location where
  origin : Origin
  names : List String
  deriving DecidableEq, Repr

namespace Location

def root : Location := ⟨.root, []⟩

def working : Location := ⟨.above 0, []⟩

def child (place : Location) (name : String) : Location :=
  { place with names := place.names ++ [name] }

/-- The enclosing directory; for the root that is the root. -/
def parent : Location → Location
  | ⟨.root, []⟩ => root
  | ⟨.above levels, []⟩ => ⟨.above (levels + 1), []⟩
  | ⟨origin, names⟩ => ⟨origin, names.dropLast⟩

def nameLimit : Nat := 255

def enter (place : Location) : String → Except FileFault Location
  | "." => .ok place
  | ".." => .ok place.parent
  | name => if nameLimit < name.utf8ByteSize then .error .nameTooLong else .ok (place.child name)

end Location

namespace Path

def limit : Nat := 4095

/-- Where a path begins, if it can be followed at all. -/
def start (path : Path) : Except FileFault Location :=
  if path.text.toList.contains '\x00' then .error .zeroInPath
  else if path.text.isEmpty then .error .notFound
  else if limit < path.text.utf8ByteSize then .error .nameTooLong
  else .ok (if path.isAbsolute then .root else .working)

end Path

structure Files where
  places : Table Location FileKind
  deriving Repr, Inhabited

namespace Files

def empty : Files := ⟨.empty⟩

def kindAt? (files : Files) (place : Location) : Option FileKind :=
  if place.names.isEmpty then some .directory else files.places.get? place

def set (files : Files) (place : Location) (kind : FileKind) : Files :=
  ⟨files.places.insert place kind⟩

theorem kindAt?_set_self (files : Files) {place : Location} (kind : FileKind)
    (below : place.names ≠ []) : (files.set place kind).kindAt? place = some kind := by
  simp [kindAt?, set, below]

theorem kindAt?_set_ne (files : Files) {place other : Location} (kind : FileKind)
    (apart : other ≠ place) : (files.set place kind).kindAt? other = files.kindAt? other := by
  simp [kindAt?, set, apart]

/-- What must hold of a place for a path to go on from there. -/
def requireDirectory (files : Files) (place : Location) : Except FileFault PUnit :=
  match files.kindAt? place with
  | none => .error .notFound
  | some (.file _) => .error .notDirectory
  | some .directory => .ok ⟨⟩

theorem kindAt?_of_requireDirectory {files : Files} {place : Location} {a : PUnit}
    (passes : files.requireDirectory place = .ok a) : files.kindAt? place = some .directory := by
  unfold requireDirectory at passes
  split at passes
  · cases passes
  · cases passes
  next stands => exact stands

/-- Follows steps. All but the last must lead to directories. -/
def follow (files : Files) : Location → List String → Except FileFault Location
  | place, [] => .ok place
  | place, step :: rest => do
    files.requireDirectory place
    files.follow (← place.enter step) rest

theorem follow_cons_eq_ok {files : Files} {start last : Location} {step : String}
    {rest : List String} : files.follow start (step :: rest) = .ok last ↔
      files.kindAt? start = some .directory ∧
        ∃ next, start.enter step = .ok next ∧ files.follow next rest = .ok last := by
  simp only [follow, bind, Except.bind]
  cases stands : files.kindAt? start with
  | none => simp [requireDirectory, stands]
  | some kind =>
    cases kind with
    | file content => simp [requireDirectory, stands]
    | directory => cases start.enter step <;> simp [requireDirectory, stands]

/-- What a path leads to, and its place. A `/` at the end asks for a directory. -/
def locate (files : Files) (path : Path) : Except FileFault (Location × FileKind) := do
  let place ← files.follow (← path.start) path.steps
  match files.kindAt? place with
  | none => throw .notFound
  | some kind =>
    if path.asksDirectory then files.requireDirectory place
    return (place, kind)

def lookup (files : Files) (path : Path) : Except FileFault FileKind :=
  (files.locate path).map Prod.snd

def isPresent (files : Files) (path : Path) : Bool := (files.lookup path).isOk

def isFile (files : Files) (path : Path) : Bool :=
  match files.lookup path with
  | .ok (.file _) => true
  | _ => false

def read (files : Files) (path : Path) : Except FileFault String :=
  match files.lookup path with
  | .ok (.file (.text text)) => .ok text
  | .ok (.file (.binary _)) => .error .notText
  | .ok .directory => .error .isDirectory
  | .error fault => .error fault

/-- The place of the file that a path names, whether it is there or not. -/
def target (files : Files) (path : Path) : Except FileFault Location := do
  let start ← path.start
  match path.steps.reverse with
  | [] => throw .isDirectory
  | last :: earlier =>
    let directory ← files.follow start earlier.reverse
    files.requireDirectory directory
    if last = "." ∨ last = ".." ∨ path.asksDirectory then throw .isDirectory
    let place ← directory.enter last
    match files.kindAt? place with
    | some .directory => throw .isDirectory
    | _ => return place

def write (files : Files) (path : Path) (content : Content) : Except FileFault Files := do
  return files.set (← files.target path) (.file content)

/-- Follows steps and makes every directory that is missing. There is none if a file is in
the way. -/
def makeDirectories : Files → Location → List String → Option Files
  | files, _, [] => some files
  | files, place, step :: rest =>
    match place.enter step with
    | .error _ => none
    | .ok next =>
      match files.kindAt? next with
      | some (.file _) => none
      | some .directory => makeDirectories files next rest
      | none => makeDirectories (files.set next .directory) next rest

def makeDirectory? (files : Files) (path : Path) : Option Files :=
  files.makeDirectories (if path.isAbsolute then .root else .working) path.steps

def put? (files : Files) (path : Path) (content : Content) : Option Files := do
  ((← files.makeDirectory? path.base).write path content).toOption

def without (files : Files) (place : Location) : Files := ⟨files.places.erase place⟩

end Files
end Skinning
