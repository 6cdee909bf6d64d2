import Skinning.Proofs.BuiltTables
import Skinning.Proofs.DeclaredKeys
import Skinning.Settings

/-! Settings that are saved. Whatever they are, the file that they are written to has all of them:
read again, it gives the same settings, and nothing is taken from the defaults. -/
namespace Skinning

/-! What is written to a file is read from it. -/

namespace Files

variable {files : Files} {path : Path} {place start last : Location}

/-- What is put where no directory is stands in no path's way. -/
theorem follow_set (kind : FileKind) (free : files.kindAt? place ≠ some .directory)
    {steps : List String} (follows : files.follow start steps = .ok last) :
    (files.set place kind).follow start steps = .ok last := by
  induction steps generalizing start with
  | nil => exact follows
  | cons step rest ih =>
    obtain ⟨stands, next, enters, follows⟩ := follow_cons_eq_ok.mp follows
    -- Steps go on from directories only.
    have apart : start ≠ place := by
      rintro rfl
      exact free stands
    exact follow_cons_eq_ok.mpr
      ⟨(kindAt?_set_ne files kind apart).trans stands, next, enters, ih follows⟩

theorem follow_concat {steps : List String} {step : String} {directory : Location}
    (follows : files.follow start steps = .ok directory)
    (stands : files.kindAt? directory = some .directory) (enters : directory.enter step = .ok last) :
    files.follow start (steps ++ [step]) = .ok last := by
  induction steps generalizing start with
  | nil =>
    cases follows
    exact follow_cons_eq_ok.mpr ⟨stands, last, enters, rfl⟩
  | cons first rest ih =>
    obtain ⟨passed, next, entered, follows⟩ := follow_cons_eq_ok.mp follows
    exact follow_cons_eq_ok.mpr ⟨passed, next, entered, ih follows⟩

/-- A place for a file: paths lead there, and there is no directory. -/
structure IsTarget (files : Files) (path : Path) (place : Location) : Prop where
  file : path.asksDirectory = false
  free : files.kindAt? place ≠ some .directory
  below : place.names ≠ []
  leads : ∃ start, path.start = .ok start ∧ files.follow start path.steps = .ok place

theorem names_ne_nil_of_enter {directory : Location} {step : String} (down : step ≠ "." ∧ step ≠ "..")
    (enters : directory.enter step = .ok place) : place.names ≠ [] := by
  unfold Location.enter at enters
  split at enters
  · exact absurd rfl down.1
  · exact absurd rfl down.2
  · split at enters
    · cases enters
    · cases enters
      simp [Location.child]

theorem isTarget_of_target (found : files.target path = .ok place) : files.IsTarget path place := by
  obtain ⟨start, starts, found⟩ := ok_of_bind found
  split at found
  · cases found
  next step earlier steps =>
    obtain ⟨directory, follows, found⟩ := ok_of_bind found
    obtain ⟨_, passes, found⟩ := ok_of_bind found
    split at found
    · cases found
    next names =>
      simp only [not_or, Bool.not_eq_true] at names
      obtain ⟨here, up, file⟩ := names
      obtain ⟨next, enters, found⟩ := ok_of_bind found
      have stands := kindAt?_of_requireDirectory passes
      split at found
      · cases found
      next free =>
        cases found
        have inOrder : path.steps = earlier.reverse ++ [step] := by
          simpa using congrArg List.reverse steps
        refine ⟨file, free, names_ne_nil_of_enter ⟨here, up⟩ enters, start, starts, ?_⟩
        rw [inOrder]
        exact follow_concat follows stands enters

/-- A text that is written is what is read then. -/
theorem read_of_write {text : String} {after : Files}
    (written : files.write path (.text text) = .ok after) : after.read path = .ok text := by
  obtain ⟨place, found, written⟩ := ok_of_bind written
  cases written
  obtain ⟨file, free, below, start, starts, follows⟩ := isTarget_of_target found
  have located : (files.set place (.file (.text text))).locate path =
      .ok (place, .file (.text text)) := by
    simp only [locate, starts, bind, Except.bind, follow_set _ free follows,
      kindAt?_set_self files _ below, file]
    rfl
  simp [read, lookup, located, Except.map]

end Files

namespace Settings

open Toml

/-! Every section can be written. -/

theorem int64_of_uint32 (value : UInt32) : Text.Bounds.int64.Holds value.toNat := by
  have small := value.toNat_lt
  constructor <;> simp only [Text.Bounds.int64] <;> omega

theorem int64_of_int32 (value : Int32) : Text.Bounds.int64.Holds value.toInt := by
  have low := value.le_toInt
  have high := value.toInt_lt
  constructor <;> simp only [Text.Bounds.int64] <;> omega

theorem surfaceSection_isWritable (surface : Surface) : (surfaceSection surface).IsWritable := by
  refine ⟨(by decide : IsBare "surface"), ?_⟩
  simp only [surfaceSection, List.forall_mem_cons]
  exact ⟨⟨by decide, int64_of_uint32 _⟩, ⟨by decide, int64_of_int32 _⟩,
    ⟨by decide, int64_of_int32 _⟩, by simp⟩

theorem entry_isWritable {key : String} (bare : IsBare key) (value : Option String) :
    ∀ pair ∈ entry key value, IsBare pair.1 ∧ pair.2.IsWritable := by
  intro pair member
  obtain ⟨s, -, rfl⟩ := List.mem_map.mp member
  exact ⟨bare, trivial⟩

def skinPairs (s : Settings) : List (String × Plain) :=
  [("primary", .text s.primary), ("display", .text s.display)]

def directoryPairs (c : ChosenDirectories) : List (String × Plain) :=
  entry "skin_dir" c.skins ++ entry "display_skin_dir" c.display ++ entry "fonts_dir" c.fonts ++
    entry "user_dir" c.user

theorem sections_isWritable (s : Settings) : ∀ part ∈ s.sections, part.IsWritable := by
  have none : Section.IsWritable ⟨.none, [("surface", .nothing)]⟩ := by
    refine ⟨trivial, ?_⟩
    simp only [List.forall_mem_cons]
    exact ⟨⟨by decide, trivial⟩, by simp⟩
  have skin : Section.IsWritable ⟨.table "skin", s.skinPairs⟩ := by
    refine ⟨(by decide : IsBare "skin"), ?_⟩
    simp only [skinPairs, List.forall_mem_cons]
    exact ⟨⟨by decide, trivial⟩, ⟨by decide, trivial⟩, by simp⟩
  have paths : Section.IsWritable ⟨.table "paths", directoryPairs s.directories⟩ := by
    refine ⟨(by decide : IsBare "paths"), ?_⟩
    simp only [directoryPairs, List.forall_mem_append]
    exact ⟨⟨⟨entry_isWritable (by decide) _, entry_isWritable (by decide) _⟩,
      entry_isWritable (by decide) _⟩, entry_isWritable (by decide) _⟩
  have log : Section.IsWritable ⟨.table "log", entry "file" s.log⟩ :=
    ⟨(by decide : IsBare "log"), entry_isWritable (by decide) _⟩
  simp only [sections, List.forall_mem_append, List.forall_mem_cons]
  refine ⟨⟨⟨?_, skin, paths, by simp⟩, ?_⟩, log, by simp⟩
  · split
    · simpa using none
    · simp
  · simpa using fun surface _ => surfaceSection_isWritable surface

/-! The tables of the sections. -/

/-- The parts of the tree that the sections describe. -/
def parts (s : Settings) : List (String × Node) :=
  (if s.surfaces.isEmpty then [("surface", .array [])] else []) ++
    [("skin", Node.tableOf s.skinPairs), ("paths", Node.tableOf (directoryPairs s.directories))] ++
    (if s.surfaces.isEmpty then [] else
      [("surface", .tables (s.surfaces.map fun surface =>
        Node.tableOf (surfaceSection surface).pairs))]) ++
    [("log", Node.tableOf (entry "file" s.log))]

def tree (s : Settings) : Node := .table .headed s.parts

theorem keys_entry (key : String) (value : Option String) :
    ((entry key value).map Prod.fst).Sublist [key] := by
  cases value <;> simp [entry]

theorem directoryPairs_distinct (c : ChosenDirectories) :
    ((directoryPairs c).map Prod.fst).Nodup := by
  have keys := (((keys_entry "skin_dir" c.skins).append
    (keys_entry "display_skin_dir" c.display)).append (keys_entry "fonts_dir" c.fonts)).append
    (keys_entry "user_dir" c.user)
  rw [directoryPairs, List.map_append, List.map_append, List.map_append]
  exact keys.nodup (by decide)

theorem build_skins (s : Settings) {before : List (String × Node)}
    (fresh : ∀ key ∈ before.map Prod.fst, key = "surface") (path : List String)
    (rest : List Statement) :
    Node.build (.table .headed before) path (Section.statements ⟨.table "skin", s.skinPairs⟩ ++
        (Section.statements ⟨.table "paths", directoryPairs s.directories⟩ ++ rest)) =
      Node.build (.table .headed (before ++ [("skin", Node.tableOf s.skinPairs)] ++
        [("paths", Node.tableOf (directoryPairs s.directories))])) ["paths"] rest := by
  have skin : "skin" ∉ before.map Prod.fst := fun member => absurd (fresh _ member) (by decide)
  have paths : "paths" ∉ (before ++ [("skin", Node.tableOf s.skinPairs)]).map Prod.fst := by
    rw [List.map_append, List.mem_append, not_or]
    exact ⟨fun member => absurd (fresh _ member) (by decide), by simp⟩
  rw [Node.build_table skin (by simp [skinPairs]),
    Node.build_table paths (directoryPairs_distinct s.directories)]

theorem ofStatements?_sections (s : Settings) :
    Node.ofStatements? (s.sections.flatMap Section.statements) = some s.tree := by
  have log := (keys_entry "file" s.log).nodup (by decide)
  -- Without surfaces a pair in front of all tables says so.
  cases listed : s.surfaces with
  | nil =>
    have statements : s.sections.flatMap Section.statements =
        Section.statements ⟨.none, [("surface", .nothing)]⟩ ++
          (Section.statements ⟨.table "skin", s.skinPairs⟩ ++
            (Section.statements ⟨.table "paths", directoryPairs s.directories⟩ ++
              (Section.statements ⟨.table "log", entry "file" s.log⟩ ++ []))) := by
      simp [sections, listed, skinPairs, directoryPairs]
    rw [statements, Node.ofStatements?, Node.build_bare (by simp), Node.tableOf,
      build_skins s (by simp [Node.ofPairs]), Node.build_table (by simp [Node.ofPairs]) log]
    simp [Node.build, tree, parts, listed, Node.ofPairs, Plain.node]
  | cons first others =>
    have some : s.surfaces.map (fun surface => (surfaceSection surface).pairs) ≠ [] := by
      simp [listed]
    have distinct : ∀ pairs ∈ s.surfaces.map (fun surface => (surfaceSection surface).pairs),
        (pairs.map Prod.fst).Nodup := by
      simp [surfaceSection]
    have statements : s.sections.flatMap Section.statements =
        Section.statements ⟨.table "skin", s.skinPairs⟩ ++
          (Section.statements ⟨.table "paths", directoryPairs s.directories⟩ ++
            ((s.surfaces.map fun surface => (surfaceSection surface).pairs).flatMap
                (fun pairs => Section.statements ⟨.tables "surface", pairs⟩) ++
              (Section.statements ⟨.table "log", entry "file" s.log⟩ ++ []))) := by
      simp [sections, listed, skinPairs, directoryPairs, surfaceSection, List.flatMap_map]
    rw [statements, Node.ofStatements?, Node.emptyTable, build_skins s (by simp),
      Node.build_tables (by simp) some distinct, Node.build_table (by simp) log]
    simp [Node.build, tree, parts, listed]

/-! What is read from the tables. -/

theorem optional?_text (value : Option String) :
    optional? text? (value.map Node.text) = some value := by
  cases value <;> rfl

theorem int32?_toInt (value : Int32) : int32? (.scalar (.integer value.toInt)) = some value := by
  have low := value.le_toInt
  have high := value.toInt_lt
  have bounds : -2147483648 ≤ value.toInt ∧ value.toInt ≤ 2147483647 := by omega
  simp [int32?, integer?, bounds]

theorem id?_toNat (value : UInt32) : id? (.scalar (.integer value.toNat)) = some value := by
  have small := value.toNat_lt
  have bounds : (0 : Int) ≤ value.toNat ∧ (value.toNat : Int) ≤ 4294967295 := by omega
  simp [id?, integer?, bounds]

theorem surface?_tableOf (surface : Surface) :
    surface? (Node.tableOf (surfaceSection surface).pairs) = some surface := by
  have id := id?_toNat surface.id
  have width := int32?_toInt surface.width
  have height := int32?_toInt surface.height
  simp [surface?, Node.tableOf, Node.ofPairs, fields?, surfaceSection, List.lookup_cons, Plain.node,
    id, width, height]

theorem surfaces?_tables (surfaces : List Surface) :
    (surfaces.map fun surface => Node.tableOf (surfaceSection surface).pairs).mapM surface? =
      some surfaces := by
  induction surfaces with
  | nil => rfl
  | cons surface rest ih => simp [surface?_tableOf, ih]

theorem skins?_tableOf (s : Settings) :
    skins? (Node.tableOf s.skinPairs) = some (s.primary, s.display) := by
  simp [skins?, fields?, Node.tableOf, Node.ofPairs, skinPairs, Plain.node, optional?, text?,
    List.lookup_cons]

theorem lookup_entry (key name : String) (value : Option String) :
    (Node.ofPairs (entry key value)).lookup name =
      if name = key then value.map Node.text else none := by
  cases value with
  | none => simp [entry, Node.ofPairs]
  | some s =>
    by_cases same : name = key
    · simp [entry, Node.ofPairs, Plain.node, same]
    · simp [entry, Node.ofPairs, List.lookup_cons, same, beq_false_of_ne same]

theorem directories?_tableOf (c : ChosenDirectories) :
    directories? (Node.tableOf (directoryPairs c)) = some c := by
  have lookup (name : String) : (Node.ofPairs (directoryPairs c)).lookup name =
      ((((if name = "skin_dir" then c.skins.map Node.text else none).or
        (if name = "display_skin_dir" then c.display.map Node.text else none)).or
        (if name = "fonts_dir" then c.fonts.map Node.text else none)).or
        (if name = "user_dir" then c.user.map Node.text else none)) := by
    simp only [← lookup_entry, ← List.lookup_append, directoryPairs, Node.ofPairs, List.map_append]
  simp [directories?, fields?, Node.tableOf, lookup, optional?_text]

theorem log?_tableOf (log : Option String) :
    log? (Node.tableOf (entry "file" log)) = some log := by
  simp [log?, fields?, Node.tableOf, lookup_entry, optional?_text]

/-- The tree has all of its parts, and the surfaces also where there are none. -/
theorem lookup_parts (s : Settings) : s.parts.lookup "skin" = some (Node.tableOf s.skinPairs) ∧
    s.parts.lookup "paths" = some (Node.tableOf (directoryPairs s.directories)) ∧
    s.parts.lookup "log" = some (Node.tableOf (entry "file" s.log)) ∧
    ∃ node, s.parts.lookup "surface" = some node ∧ surfaces? node = some s.surfaces := by
  cases listed : s.surfaces with
  | nil => simp [parts, listed, List.lookup_cons, surfaces?]
  | cons first others =>
    have read := surfaces?_tables s.surfaces
    rw [listed] at read
    simpa [parts, listed, List.lookup_cons, surfaces?] using read

theorem ofNode?_tree (s : Settings) : ofNode? s.tree = some s := by
  obtain ⟨skin, paths, log, node, surface, surfaces⟩ := s.lookup_parts
  simp [ofNode?, fields?, tree, skin, paths, log, surface, optional?, skins?_tableOf,
    directories?_tableOf, log?_tableOf, surfaces]

/-- Every setting is read from the text that it was written to, so that none is lost and no default
stands in for one; so is what is saved to a file. -/
theorem settings_are_kept (s : Settings) : parse s.print = .ok s ∧
    ∀ files path after, s.save files path = .ok after → loadFrom after path = .ok s := by
  have kept : parse s.print = .ok s := by
    rw [parse, print, read?_print s.sections_isWritable, ofStatements?_sections, Option.bind_some,
      ofNode?_tree]
  refine ⟨kept, fun files path after saved => ?_⟩
  have written : files.write path (.text s.print) = .ok after := by
    unfold save at saved
    split at saved
    next after written =>
      cases saved
      exact written
    next => cases saved
  rw [loadFrom, Files.read_of_write written]
  exact kept

/-- Settings that a careless printer would spoil: marks and line ends in a text, a control
character in a path, and no surfaces. -/
def unusual : Settings :=
  { bare with
    primary := "it's \"mine\"\n\"\"\"/skin.xml"
    directories := { ChosenDirectories.none with display := some "C:\\skins\\" }
    log := some "\x01\r.log" }

theorem settings_are_kept_unusual : ∃ after,
    unusual.save .empty UserPlaces.fileName = .ok after ∧
      loadFrom after UserPlaces.fileName = .ok unusual := by
  have target : Files.empty.target UserPlaces.fileName = .ok ⟨.above 0, ["veneer.toml"]⟩ := by
    decide +kernel
  have saved : unusual.save .empty UserPlaces.fileName =
      .ok (Files.empty.set ⟨.above 0, ["veneer.toml"]⟩ (.file (.text unusual.print))) := by
    rw [save, Files.write, target]
    rfl
  exact ⟨_, saved, (settings_are_kept unusual).2 _ _ _ saved⟩

example : bare.print = "surface = []\n\n[skin]\nprimary = \"Default/skin.xml\"\n" ++
    "display = \"skin_default/skin_display.xml\"\n\n[paths]\n\n[log]\n" := by
  decide +kernel

end Settings

end Skinning
