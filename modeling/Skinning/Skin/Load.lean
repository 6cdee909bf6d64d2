import Skinning.Files.Spelling
import Skinning.Skin.State

/-! Loading documents. The blocks of a document count in their order, those of a document
that it includes in the place of the `include`. The first faulty block ends a document; a
faulty document that is included does not end the one around it, unless it includes
itself. What is noted goes to the log at once, so that a document finds it there. -/
namespace Skinning

/-- A skin after a document or a block was loaded, completely or not. -/
structure Loaded where
  skin : Skin
  fault? : Option SkinFault
  notices : Notices

namespace Loaded

def done (skin : Skin) : Loaded := ⟨skin, none, []⟩

def failed (skin : Skin) (fault : SkinFault) : Loaded := ⟨skin, some fault, []⟩

/-- Goes on with a skin that was loaded without a fault. -/
def andThen (l : Loaded) (next : Skin → Loaded) : Loaded :=
  match l.fault? with
  | some _ => l
  | none =>
    let after := next l.skin
    { after with notices := l.notices ++ after.notices }

theorem andThen_of_fault {l : Loaded} {fault : SkinFault} (faulty : l.fault? = some fault)
    (next : Skin → Loaded) : l.andThen next = l := by
  simp only [andThen, faulty]

theorem andThen_of_none {l : Loaded} (sound : l.fault? = none) (next : Skin → Loaded) :
    l.andThen next = { next l.skin with notices := l.notices ++ (next l.skin).notices } := by
  simp only [andThen, sound]

/-- Notes a fault, unless it is an include cycle. -/
def absorb (l : Loaded) : Loaded :=
  match l.fault? with
  | none => l
  | some (.registry (.includeCycle _)) => l
  | some fault => ⟨l.skin.log [.fault fault], none, l.notices ++ [.fault fault]⟩

end Loaded

structure DocumentSite where
  scope : Scope
  surface : Nat
  base : Path
  deriving DecidableEq, Repr

namespace Skin

def blockSite (s : Skin) (scope : Scope) (base : Path) (surface : Nat) : BlockSite :=
  ⟨s.assets, scope, base, surface⟩

def mergeBlock (s : Skin) (site : BlockSite) (block : Element) : Loaded :=
  let merged := s.store.mergeBlock site block
  let after := { s with store := merged.store }
  ⟨after.log merged.notices, merged.fault?.map .registry, merged.notices⟩

def styleId (block : Element) : Nat :=
  ((block.attribute? "id").bind fun id => Text.readNat32? (Text.trim id)).getD guiSurface

def recordStyle (s : Skin) (site : DocumentSite) (block : Element) : Skin :=
  if isStyle : block.tag = "windowstyle" then
    { s with
      styles := s.styles.insert (styleId block)
        ⟨block, site.base, site.scope, site.surface, isStyle⟩ }
  else s

def recordedStyles (s : Skin) : List RecordedStyle :=
  (s.styles.keys.mergeSort fun a b => a ≤ b).filterMap s.styles.get?

/-- Merges one recorded style; a fault is noted. -/
def replayStyle (s : Skin) (style : RecordedStyle) : Skin × Notices :=
  let merged := s.mergeBlock (s.blockSite style.scope style.base style.surface) style.element
  let faults := (merged.fault?.map Notice.fault).toList
  (merged.skin.log faults, merged.notices ++ faults)

/-- Builds all window styles again, from the values that are declared by now. -/
def replayStyles (s : Skin) : Skin × Notices :=
  s.recordedStyles.foldl (fun (s, notices) style =>
    let (s, more) := s.replayStyle style
    (s, notices ++ more)) (s, [])

/-- A screen with a name is kept if it is for the document's surface. -/
def addFragment (s : Skin) (site : DocumentSite) (block : Element) : Skin :=
  match block.filled? "name" with
  | none => s
  | some name =>
    if isForSurface block site.surface then
      { s with fragments := s.fragments.insert name ⟨block, site.base⟩ }
    else s

/-- The file that a document names. -/
def included (s : Skin) (site : DocumentSite) (name : String) : Path :=
  s.assets.resolve site.scope name (some site.base)

/-- Loads a document that a block names; `load` is for the file. -/
def includeFile (s : Skin) (load : Path → Skin → Loaded) (site : DocumentSite) (block : Element) :
    Loaded :=
  match block.filled? "filename" with
  | none => .done s
  | some name =>
    let path := s.included site name
    if s.files.isFile path then (load path s).absorb
    else .failed s (.registry (.includeNotFound path))

/-- Takes what a block itself declares. -/
def declareBlock (s : Skin) (site : DocumentSite) (block : Element) : Loaded :=
  if block.tag = "screen" then .done (s.addFragment site block)
  else
    (s.mergeBlock (s.blockSite site.scope site.base site.surface) block).andThen fun s =>
      .done (s.recordStyle site block)

def loadBlock (s : Skin) (load : Path → Skin → Loaded) (site : DocumentSite) (block : Element) :
    Loaded :=
  if block.tag = "include" then s.includeFile load site block else s.declareBlock site block

def loadBlocks (load : Path → Skin → Loaded) (site : DocumentSite) : Skin → List Element → Loaded
  | s, [] => .done s
  | s, block :: rest => (s.loadBlock load site block).andThen (loadBlocks load site · rest)

def loadRoot (s : Skin) (load : Path → Skin → Loaded) (site : DocumentSite) (root : Element) :
    Loaded :=
  if root.tag = "skin" then loadBlocks load site s root.children
  else .failed s (.registry (.badRoot root.tag))

/-- The styles are built again after each document. -/
def finish (l : Loaded) : Loaded :=
  l.andThen fun s =>
    let (s, notices) := s.replayStyles
    ⟨s, none, notices⟩

def readFile (s : Skin) (path : Path) : Except SkinFault Element :=
  match s.files.read path with
  | .error fault => .error (.read path fault)
  | .ok source =>
    match Markup.readDocument source path.text with
    | .ok root => .ok root
    | .error error => .error (.parse error)

/-- A file that can be read has a path that can be followed. -/
theorem start_of_readFile {s : Skin} {path : Path} {root : Element}
    (readable : s.readFile path = .ok root) : ∃ place, path.start = .ok place := by
  cases starts : path.start with
  | ok place => exact ⟨place, rfl⟩
  | error fault =>
    have unread : s.files.read path = .error fault := by
      simp [Files.read, Files.lookup, Files.locate, starts, bind, Except.bind, Except.map]
    simp [readFile, unread] at readable

/-- Loads the file at a path while the files of a list are being loaded. No path is in the
list twice, so files are not inside each other without end. -/
def loadPath (scope : Scope) (surface : Nat) (loading : List Path.Components) (path : Path)
    (s : Skin) : Loaded :=
  if _new : loading.contains path.components then .failed s (.registry (.includeCycle path))
  else match _readable : s.readFile path with
    | .error fault => .failed s fault
    | .ok root =>
      finish (s.loadRoot (loadPath scope surface (path.components :: loading))
        ⟨scope, surface, path.base⟩ root)
  termination_by Path.unopened loading
  decreasing_by
    obtain ⟨_, starts⟩ := start_of_readFile _readable
    exact Path.unopened_cons_lt starts _new

structure Outcome where
  isLoaded : Bool
  skin : Skin
  notices : Notices

def outcome (l : Loaded) : Outcome :=
  match l.fault? with
  | none => ⟨true, l.skin, l.notices⟩
  | some fault => ⟨false, l.skin.log [.fault fault], l.notices ++ [.fault fault]⟩

/-- Notes around a load that it begins and, if it is complete, that it ends. -/
def Outcome.announce (after : Outcome) (path : Path) : Outcome :=
  let closing : Notices := if after.isLoaded then [.loaded path] else []
  ⟨after.isLoaded, after.skin.log closing, .loading path :: after.notices ++ closing⟩

def load (s : Skin) (filename : String) (scope : Scope) (surface : Nat) : Outcome :=
  let path := s.assets.resolve scope filename none
  (outcome (loadPath scope surface [] path (s.log [.loading path]))).announce path

/-- Loads a document that is at hand, as if it were the file at a path. -/
def loadSource (s : Skin) (source : String) (path : Path) (scope : Scope) (surface : Nat) :
    Outcome :=
  match Markup.readDocument source path.text with
  | .error error => outcome (.failed s (.parse error))
  | .ok root =>
    outcome (finish (s.loadRoot (loadPath scope surface []) ⟨scope, surface, path.base⟩ root))

end Skin
end Skinning
