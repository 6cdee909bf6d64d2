import Skinning.Journal
import Skinning.Registry.Merge
import Skinning.Settings

/-! A skin: what the documents that were loaded declare. -/
namespace Skinning

/-- A screen of a document, and the directory that its files are relative to. -/
structure Fragment where
  element : Element
  base : Path
  deriving Repr

/-- A window style block with its place, to be merged again. -/
structure RecordedStyle where
  element : Element
  base : Path
  scope : Scope
  surface : Nat
  isStyle : element.tag = "windowstyle"
  deriving Repr

structure Skin where
  /-- The files, and the log among them. -/
  journal : Journal
  directories : Directories
  translate : String → String
  store : Store
  primary : String
  display : String
  fragments : Table String Fragment
  /-- The last window style block of each surface. -/
  styles : Table Nat RecordedStyle
  /-- The skins that could be loaded. -/
  currentPrimary? : Option String
  currentDisplay? : Option String
  /-- Names of the callbacks by their numbers. -/
  callbacks : List (Nat × String)
  nextCallback : Nat
  hasStarted : Bool

namespace Skin

def ofSettings (settings : Settings) (journal : Journal) (directories : Directories)
    (translate : String → String) : Skin where
  journal := journal
  directories := directories
  translate := translate
  store := .withSurfaces settings.surfaceTable
  primary := settings.primary
  display := settings.display
  fragments := ∅
  styles := ∅
  currentPrimary? := none
  currentDisplay? := none
  callbacks := []
  nextCallback := 0
  hasStarted := false

def files (s : Skin) : Files := s.journal.files

def withFiles (s : Skin) (files : Files) : Skin :=
  { s with journal := { s.journal with files } }

def assets (s : Skin) : Assets := ⟨s.files, s.directories, s.translate⟩

def log (s : Skin) (notices : Notices) : Skin :=
  { s with journal := s.journal.addAll notices.lines }

def fragment? (s : Skin) (name : String) : Option Fragment := s.fragments.get? name

def find? (s : Skin) (names : List String) : Option String := names.find? s.fragments.contains

/-- A callback is run after the first start. -/
def addCallback (s : Skin) (name : String) : Skin :=
  { s with callbacks := s.callbacks ++ [(s.nextCallback, name)], nextCallback := s.nextCallback + 1 }

def removeCallback (s : Skin) (number : Nat) : Skin :=
  { s with callbacks := s.callbacks.filter (·.1 ≠ number) }

end Skin

/-- A block is for a surface unless its id names another. -/
def isForSurface (block : Element) (surface : Nat) : Bool :=
  match block.attribute? "id" with
  | none => true
  | some id => Text.readNat32? (Text.trim id) == some surface

end Skinning
