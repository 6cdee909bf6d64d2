import Skinning.Assets
import Skinning.Registry.Store
import Skinning.Toml.Printer
import Skinning.Toml.Reader

/-! Settings: the chosen skins, the directories, the surfaces and the log file, and the
file that keeps them. What the file leaves out has a default. -/
namespace Skinning

structure Surface where
  id : UInt32
  width : Int32
  height : Int32
  deriving DecidableEq, Repr

namespace Surface

def size (s : Surface) : Size := ⟨s.width, s.height⟩

def defaults : List Surface := [⟨0, 1280, 720⟩, ⟨1, 400, 240⟩]

end Surface

structure ChosenDirectories where
  skins : Option String
  display : Option String
  fonts : Option String
  user : Option String
  deriving DecidableEq, Repr

def ChosenDirectories.none : ChosenDirectories := ⟨Option.none, Option.none, Option.none, Option.none⟩

/-- The chosen directories, and for the others those below the program's data. -/
def ChosenDirectories.resolve (c : ChosenDirectories) (data : Path) : Directories :=
  let resolved (chosen : Option String) (name : String) : Path :=
    (chosen.map Path.mk).getD (data.join ⟨name⟩)
  ⟨resolved c.skins "skins", resolved c.display "display", resolved c.fonts "fonts",
    resolved c.user "user"⟩

structure Settings where
  primary : String
  display : String
  directories : ChosenDirectories
  surfaces : List Surface
  log : Option String
  deriving DecidableEq, Repr

inductive SettingsFault where
  | read (fault : FileFault)
  /-- A file that is no TOML document, or not one of settings. -/
  | malformed
  deriving DecidableEq, Repr

def SettingsFault.message : SettingsFault → String
  | .read fault => "IO error: " ++ fault.message
  | .malformed => "Parse error"

structure UserPlaces where
  settings : Path
  data : Path
  deriving DecidableEq, Repr

namespace UserPlaces

def program : Path := ⟨"veneer"⟩

def fileName : Path := ⟨"veneer.toml"⟩

def dataDirectory (u : UserPlaces) : Path := u.data.join program

/-- The files of settings, the user's own first. -/
def settingsFiles (u : UserPlaces) : List Path :=
  [(u.settings.join program).join fileName, fileName]

end UserPlaces

namespace Settings

def defaultPrimary : String := "Default/skin.xml"
def defaultDisplay : String := "skin_default/skin_display.xml"

def bare : Settings := ⟨defaultPrimary, defaultDisplay, .none, [], none⟩

def initial : Settings := { bare with surfaces := Surface.defaults }

/-- The size of a surface; the first entry of an id counts. -/
def surfaceSize? (s : Settings) (id : Nat) : Option Size :=
  (s.surfaces.find? fun surface => surface.id.toNat = id).map Surface.size

/-- The sizes of all surfaces as a store takes them over; the last entry of an id counts. -/
def surfaceTable (s : Settings) : Table Nat Size :=
  .ofList (s.surfaces.map fun surface => (surface.id.toNat, surface.size))

/-- The fields of a structure by their names; an array gives them by their places. A
moment has none of the names. -/
def fields? (names : List String) : Toml.Node → Option (String → Option Toml.Node)
  | .table _ entries => some fun name => entries.lookup name
  | .array items | .tables items => some fun name => (names.zip items).lookup name
  | .scalar .moment => some fun _ => none
  | _ => none

def text? : Toml.Node → Option String
  | .text s => some s
  | _ => none

def integer? : Toml.Node → Option Int
  | .scalar (.integer value) => some value
  | _ => none

/-- Reads what is there; the outer result says whether it could be read. -/
def optional? (read : Toml.Node → Option α) : Option Toml.Node → Option (Option α)
  | none => some none
  | some node => (read node).map some

def int32? (node : Toml.Node) : Option Int32 := do
  let value ← integer? node
  if -2147483648 ≤ value ∧ value ≤ 2147483647 then some (.ofInt value) else none

def id? (node : Toml.Node) : Option UInt32 := do
  let value ← integer? node
  if 0 ≤ value ∧ value ≤ 4294967295 then some (.ofNat value.toNat) else none

def surface? (node : Toml.Node) : Option Surface := do
  let field ← fields? ["id", "width", "height"] node
  return ⟨← id? (← field "id"), ← int32? (← field "width"), ← int32? (← field "height")⟩

def surfaces? : Toml.Node → Option (List Surface)
  | .array items | .tables items => items.mapM surface?
  | _ => none

def directories? (node : Toml.Node) : Option ChosenDirectories := do
  let field ← fields? ["skin_dir", "display_skin_dir", "fonts_dir", "user_dir"] node
  let path (name : String) : Option (Option String) := optional? text? (field name)
  return ⟨← path "skin_dir", ← path "display_skin_dir", ← path "fonts_dir", ← path "user_dir"⟩

def skins? (node : Toml.Node) : Option (String × String) := do
  let field ← fields? ["primary", "display"] node
  let primary ← optional? text? (field "primary")
  let display ← optional? text? (field "display")
  return (primary.getD defaultPrimary, display.getD defaultDisplay)

def log? (node : Toml.Node) : Option (Option String) := do
  let field ← fields? ["file"] node
  optional? text? (field "file")

def ofNode? (node : Toml.Node) : Option Settings := do
  let field ← fields? [] node
  let (primary, display) := (← optional? skins? (field "skin")).getD (defaultPrimary, defaultDisplay)
  let directories ← optional? directories? (field "paths")
  let surfaces ← optional? surfaces? (field "surface")
  let log ← optional? log? (field "log")
  return ⟨primary, display, directories.getD .none, surfaces.getD Surface.defaults, log.getD none⟩

def parse (source : String) : Except SettingsFault Settings :=
  match (Toml.read? source).bind ofNode? with
  | some settings => .ok settings
  | none => .error .malformed

def surfaceSection (s : Surface) : Toml.Section :=
  ⟨.tables "surface", [("id", .integer s.id.toNat), ("width", .integer s.width.toInt),
    ("height", .integer s.height.toInt)]⟩

def entry (key : String) (value : Option String) : List (String × Toml.Plain) :=
  value.toList.map fun s => (key, .text s)

/-- Without surfaces the file says so, lest the defaults be put in. -/
def sections (s : Settings) : List Toml.Section :=
  (if s.surfaces.isEmpty then [⟨.none, [("surface", .nothing)]⟩] else []) ++
  [⟨.table "skin", [("primary", .text s.primary), ("display", .text s.display)]⟩,
    ⟨.table "paths", entry "skin_dir" s.directories.skins ++
      entry "display_skin_dir" s.directories.display ++ entry "fonts_dir" s.directories.fonts ++
      entry "user_dir" s.directories.user⟩] ++
  s.surfaces.map surfaceSection ++
  [⟨.table "log", entry "file" s.log⟩]

def print (s : Settings) : String := Toml.print s.sections

/-- The file of settings that is in use; a directory of its name is found, too. -/
def find? (files : Files) (user : UserPlaces) : Option Path :=
  user.settingsFiles.find? files.isPresent

def loadFrom (files : Files) (path : Path) : Except SettingsFault Settings :=
  match files.read path with
  | .ok source => parse source
  | .error fault => .error (.read fault)

/-- Without a file the settings are the initial ones. -/
def load (files : Files) (user : UserPlaces) : Except SettingsFault Settings :=
  match find? files user with
  | some path => loadFrom files path
  | none => .ok initial

def save (s : Settings) (files : Files) (path : Path) : Except SettingsFault Files :=
  match files.write path (.text s.print) with
  | .ok files => .ok files
  | .error fault => .error (.read fault)

end Settings
end Skinning
