import Mathlib.Data.List.Nodup
import Mathlib.Data.List.Perm.Subperm
import Mathlib.Logic.Relation
import Skinning.Proofs.PlainPaths

/-! Files inside files. A load comes to its end, since no path is in the list of the files
that are being loaded twice. The list tells paths apart by their components, and a file has
more than one path as soon as `..` leads to it: then it can be inside itself. -/
namespace Skinning

namespace Files

def place? (files : Files) (path : Path) : Option Location :=
  (files.locate path).toOption.map Prod.fst

theorem place?_eq_some {files : Files} {path : Path} {place : Location} :
    files.place? path = some place ↔ ∃ kind, files.locate path = .ok (place, kind) := by
  unfold place?
  cases files.locate path <;> simp [Except.toOption, Prod.ext_iff]

def filePlaces (files : Files) : List Location :=
  files.places.keys.filter fun place => files.shape place = some false

theorem mem_filePlaces {files : Files} {place : Location} (stands : files.shape place = some false) :
    place ∈ files.filePlaces := by
  refine List.mem_filter.mpr ⟨?_, by simpa using stands⟩
  simp only [shape, kindAt?] at stands
  split at stands
  · simp [FileKind.isDirectory] at stands
  · obtain ⟨kind, found, -⟩ := Option.map_eq_some_iff.mp stands
    exact Table.mem_keys_of_get? found

theorem place_of_isFile {files : Files} {path : Path} (named : files.isFile path) :
    ∃ place ∈ files.filePlaces, files.place? path = some place := by
  unfold isFile lookup at named
  cases leads : files.locate path with
  | error fault => simp [leads, Except.map] at named
  | ok found =>
    obtain ⟨place, kind⟩ := found
    obtain ⟨-, -, -, stands⟩ := locate_ok leads
    cases kind with
    | directory => simp [leads, Except.map] at named
    | file content =>
      refine ⟨place, mem_filePlaces ?_, by simp [place?, leads, Except.toOption]⟩
      simp [shape, stands, FileKind.isDirectory]

theorem isFile_of_read {files : Files} {path : Path} {text : String}
    (reads : files.read path = .ok text) : files.isFile path := by
  unfold read at reads
  unfold isFile
  split at reads <;> simp_all

end Files

namespace Skin

theorem isFile_of_readFile {s : Skin} {path : Path} {root : Element}
    (readable : s.readFile path = .ok root) : s.files.isFile path := by
  unfold readFile at readable
  split at readable
  · cases readable
  next text reads => exact Files.isFile_of_read reads

/-- The files that blocks have loaded, each with the skin that it is loaded into. -/
inductive Includes (load : Path → Skin → Loaded) (site : DocumentSite) :
    Skin → List Element → Path → Skin → Prop
  | here : block.tag = "include" → block.filled? "filename" = some name →
      s.files.isFile (s.included site name) →
      Includes load site s (block :: rest) (s.included site name) s
  | later : (s.loadBlock load site block).fault? = none →
      Includes load site (s.loadBlock load site block).skin rest path t →
      Includes load site s (block :: rest) path t

/-- These files are all that is loaded for blocks. -/
theorem loadBlocks_congr {load other : Path → Skin → Loaded} {site : DocumentSite} {s : Skin}
    {blocks : List Element}
    (agree : ∀ path t, Includes load site s blocks path t → load path t = other path t) :
    loadBlocks load site s blocks = loadBlocks other site s blocks := by
  induction blocks generalizing s with
  | nil => rfl
  | cons block rest ih =>
    have same : s.loadBlock load site block = s.loadBlock other site block := by
      unfold loadBlock
      split
      next isInclude =>
        unfold includeFile
        split
        · rfl
        next name named =>
          dsimp only
          split
          next isFile => rw [agree _ s (.here isInclude named isFile)]
          · rfl
      · rfl
    rw [loadBlocks, loadBlocks, ← same]
    cases faulty : (s.loadBlock load site block).fault? with
    | some fault => rw [Loaded.andThen_of_fault faulty, Loaded.andThen_of_fault faulty]
    | none =>
      rw [Loaded.andThen_of_none faulty, Loaded.andThen_of_none faulty,
        ih fun path t includes => agree path t (.later faulty includes)]

theorem Includes.origin {load : Path → Skin → Loaded}
    (loads : ∀ path t, Continues t (load path t).skin)
    (includes : Includes load site s blocks path t) :
    Continues s t ∧ t.files.isFile path ∧ ∃ block ∈ blocks, block.tag = "include" ∧
      ∃ name, block.filled? "filename" = some name ∧ path = t.included site name := by
  induction includes with
  | here isInclude named isFile =>
    exact ⟨.refl _, isFile, _, List.mem_cons_self, isInclude, _, named, rfl⟩
  | later _ _ ih =>
    obtain ⟨continues, isFile, block, member, included⟩ := ih
    exact ⟨(holdsOfSteps_continues.loadBlock loads _ _ _).trans continues, isFile, block,
      List.mem_cons_of_mem _ member, included⟩

/-- A load of a file: the files around it from the inside out, and the skin it goes on from. -/
structure Call where
  around : List Path
  path : Path
  skin : Skin

namespace Call

/-- The files that are being loaded once a call has opened its own. -/
def stack (c : Call) : List Path := c.path :: c.around

def loading (c : Call) : List Path.Components := c.around.map Path.components

/-- A call goes on to the document of its file. -/
structure Opens (c : Call) (root : Element) : Prop where
  new : ¬ c.loading.contains c.path.components
  readable : c.skin.readFile c.path = .ok root

end Call

/-- One call begins another before it ends. -/
inductive Begins (scope : Scope) (surface : Nat) (c : Call) : Call → Prop
  | file : c.Opens root → root.tag = "skin" →
      Includes (loadPath scope surface (c.path.components :: c.loading))
        ⟨scope, surface, c.path.base⟩ c.skin root.children path t →
      Begins scope surface c ⟨c.stack, path, t⟩

theorem begins_wellFounded (scope : Scope) (surface : Nat) :
    WellFounded fun inner outer => Begins scope surface outer inner := by
  have fewer {inner outer : Call} (begins : Begins scope surface outer inner) :
      Path.unopened inner.loading < Path.unopened outer.loading := by
    obtain ⟨opens, -, -⟩ := begins
    obtain ⟨place, starts⟩ := start_of_readFile opens.readable
    exact Path.unopened_cons_lt starts opens.new
  exact Subrelation.wf fewer (InvImage.wf (fun c : Call => Path.unopened c.loading) Nat.lt_wfRel.wf)

/-- The calls in a load of a file of a scope. -/
def Makes (s : Skin) (filename : String) (scope : Scope) (surface : Nat) : Call → Prop :=
  Relation.ReflTransGen (Begins scope surface)
    ⟨[], s.assets.resolve scope filename none,
      s.log [.loading (s.assets.resolve scope filename none)]⟩

/-- The files that are being loaded at some moment, from the inside out. -/
def Nests (s : Skin) (filename : String) (scope : Scope) (surface : Nat) (stack : List Path) :
    Prop :=
  ∃ call root, s.Makes filename scope surface call ∧ call.Opens root ∧ call.stack = stack

structure Call.Sound (origin : Skin) (c : Call) : Prop where
  continues : Continues origin c.skin
  distinct : c.loading.Nodup
  isFile : ∀ path ∈ c.around, origin.files.isFile path

theorem Call.Sound.opens {origin : Skin} {c : Call} (sound : c.Sound origin)
    (opens : c.Opens root) :
    (c.stack.map Path.components).Nodup ∧ ∀ path ∈ c.stack, origin.files.isFile path := by
  refine ⟨List.nodup_cons.mpr ⟨by simpa [Call.loading] using opens.new, sound.distinct⟩, ?_⟩
  intro path member
  rcases List.mem_cons.mp member with rfl | around
  · rw [← Files.isFile_congr sound.continues.shape]
    exact isFile_of_readFile opens.readable
  · exact sound.isFile path around

theorem Call.Sound.begins {origin : Skin} {c d : Call} (sound : c.Sound origin)
    (begins : Begins scope surface c d) : d.Sound origin := by
  obtain ⟨opens, -, includes⟩ := begins
  obtain ⟨distinct, isFile⟩ := sound.opens opens
  obtain ⟨continues, -, -⟩ := includes.origin (holdsOfSteps_continues.loadPath scope surface _)
  exact ⟨sound.continues.trans continues, distinct, isFile⟩

theorem Makes.sound (makes : Makes s filename scope surface call) : call.Sound s := by
  induction makes with
  | refl => exact ⟨(Continues.refl s).log _, List.nodup_nil, by simp⟩
  | tail _ begins ih => exact ih.begins begins

/-- No path is in the list twice, and all lead to files. -/
theorem Nests.distinct (nests : Nests s filename scope surface stack) :
    (stack.map Path.components).Nodup ∧ ∀ path ∈ stack, s.files.isFile path := by
  obtain ⟨call, root, makes, opens, rfl⟩ := nests
  exact makes.sound.opens opens

/-- In a load no file is inside itself, so that at most all files are inside each other. -/
def OpensOnce (s : Skin) (filename : String) (scope : Scope) (surface : Nat) : Prop :=
  ∀ stack, s.Nests filename scope surface stack →
    (stack.map s.files.place?).Nodup ∧ stack.length ≤ s.files.filePlaces.length

theorem Nests.nesting_le (nests : Nests s filename scope surface stack)
    (once : (stack.map s.files.place?).Nodup) : stack.length ≤ s.files.filePlaces.length := by
  have inside : stack.map s.files.place? ⊆ s.files.filePlaces.map some := by
    intro place? member
    obtain ⟨path, inStack, rfl⟩ := List.mem_map.mp member
    obtain ⟨place, found, leads⟩ := Files.place_of_isFile (nests.distinct.2 path inStack)
    rw [leads]
    exact List.mem_map_of_mem found
  have fewer := (once.subperm inside).length_le
  rwa [List.length_map, List.length_map] at fewer

theorem Nests.places_nodup_iff (nests : Nests s filename scope surface stack) :
    (stack.map s.files.place?).Nodup ↔ ∀ a ∈ stack, ∀ b ∈ stack,
      s.files.place? a = s.files.place? b → a.components = b.components := by
  obtain ⟨distinct, -⟩ := nests.distinct
  constructor
  · intro once a inA b inB same
    rw [List.inj_on_of_nodup_map once inA inB same]
  · intro apart
    refine List.Nodup.map_on (fun a inA b inB same => ?_) distinct.of_map
    exact List.inj_on_of_nodup_map distinct inA inB (apart a inA b inB same)

/-- No name that a load takes has `.` or `..` in it. -/
structure PlainNames (s : Skin) (filename : String) (scope : Scope) (surface : Nat) : Prop where
  directories : s.directories.IsPlain
  first : Path.IsPlain ⟨filename⟩
  includes : ∀ call root, s.Makes filename scope surface call → call.Opens root →
    ∀ block ∈ root.children, block.tag = "include" →
      ∀ name, block.filled? "filename" = some name → Path.IsPlain ⟨name⟩

theorem PlainNames.stack {s : Skin} {filename : String} {scope : Scope} {surface : Nat}
    {call : Call} (plain : s.PlainNames filename scope surface)
    (makes : s.Makes filename scope surface call) : ∀ path ∈ call.stack, path.IsPlain := by
  induction makes with
  | refl =>
    intro path member
    rw [List.mem_singleton.mp member]
    exact Assets.resolve_isPlain plain.directories plain.first nofun
  | @tail c d makes begins ih =>
    obtain @⟨root, path, t, opens, -, includes⟩ := begins
    obtain ⟨continues, -, block, member, isInclude, name, named, rfl⟩ :=
      includes.origin (holdsOfSteps_continues.loadPath scope surface _)
    have directories : t.assets.directories = s.directories :=
      ((Makes.sound makes).continues.trans continues).directories
    have namePlain := plain.includes c root makes opens block member isInclude name named
    intro path inStack
    rcases List.mem_cons.mp inStack with rfl | around
    · refine Assets.resolve_isPlain (directories ▸ plain.directories) namePlain ?_
      intro base isBase
      rw [← Option.some.inj isBase]
      exact (ih c.path List.mem_cons_self).base
    · exact ih path around

theorem PlainNames.opensOnce {s : Skin} {filename : String} {scope : Scope} {surface : Nat}
    (plain : s.PlainNames filename scope surface) : s.OpensOnce filename scope surface := by
  intro stack nests
  have once : (stack.map s.files.place?).Nodup := by
    refine nests.places_nodup_iff.mpr fun a inA b inB same => ?_
    obtain ⟨-, isFile⟩ := nests.distinct
    obtain ⟨place, -, leadsA⟩ := Files.place_of_isFile (isFile a inA)
    obtain ⟨kindA, locatesA⟩ := Files.place?_eq_some.mp leadsA
    obtain ⟨kindB, locatesB⟩ := Files.place?_eq_some.mp (same.symm.trans leadsA)
    obtain ⟨call, root, makes, -, rfl⟩ := nests
    have plainPaths := plain.stack makes
    exact (plainPaths a inA).components_eq_of_place (plainPaths b inB) locatesA locatesB
  exact ⟨once, nests.nesting_le once⟩

/-- Every load comes to its end. The files in it are not inside themselves exactly if none of
them is named in two ways that the list of loaded files tells apart; this is so if no name
has `.` or `..` in it. -/
theorem opensOnce_iff (s : Skin) (filename : String) (scope : Scope) (surface : Nat) :
    (WellFounded fun inner outer => Begins scope surface outer inner) ∧
      (s.OpensOnce filename scope surface ↔
        ∀ stack, s.Nests filename scope surface stack → ∀ a ∈ stack, ∀ b ∈ stack,
          s.files.place? a = s.files.place? b → a.components = b.components) ∧
      (s.PlainNames filename scope surface → s.OpensOnce filename scope surface) := by
  refine ⟨begins_wellFounded scope surface, ⟨?_, ?_⟩, PlainNames.opensOnce⟩
  · intro once stack nests
    exact nests.places_nodup_iff.mp (once stack nests).1
  · intro apart stack nests
    have once := nests.places_nodup_iff.mpr (apart stack nests)
    exact ⟨once, nests.nesting_le once⟩

/-- A skin with a document that includes itself by a way through `..`. -/
def echoing : Skin :=
  let files : Table Location FileKind := .ofList [
    (⟨.above 0, ["skins"]⟩, .directory),
    (⟨.above 0, ["skins", "a"]⟩, .directory),
    (⟨.above 0, ["skins", "a", "b.xml"]⟩,
      .file (.text "<skin><include filename=\"../a/b.xml\"/></skin>"))]
  .ofSettings .initial ⟨⟨files⟩, none, ""⟩ ⟨⟨"skins"⟩, ⟨"display"⟩, ⟨"fonts"⟩, ⟨"user"⟩⟩ id

/-- Both ways lead to a document whose one block includes the second way. -/
theorem echoing_reads (path : Path)
    (isWay : path ∈ [(⟨"skins/a/b.xml"⟩ : Path), ⟨"skins/a/../a/b.xml"⟩]) :
    ∃ root block, echoing.readFile path = .ok root ∧ root.tag = "skin" ∧
      root.children = [block] ∧ block.tag = "include" ∧
      block.filled? "filename" = some "../a/b.xml" := by
  have outline : (echoing.readFile path).toOption.map (fun root =>
      (root.tag, root.children.map fun block => (block.tag, block.filled? "filename"))) =
      some ("skin", [("include", some "../a/b.xml")]) := by
    simp only [List.mem_cons, List.not_mem_nil, or_false] at isWay
    rcases isWay with rfl | rfl <;> decide +kernel
  cases reads : echoing.readFile path with
  | error fault => simp [reads, Except.toOption] at outline
  | ok root =>
    simp only [reads, Except.toOption, Option.map_some, Option.some.injEq, Prod.mk.injEq] at outline
    obtain ⟨isSkin, blocks⟩ := outline
    obtain ⟨block, children, only⟩ := List.map_eq_singleton_iff.mp blocks
    obtain ⟨isInclude, named⟩ := Prod.mk.inj only
    exact ⟨root, block, rfl, isSkin, children, isInclude, named⟩

theorem echoing_nests : echoing.Nests "a/b.xml" .shared guiSurface
    [⟨"skins/a/../a/b.xml"⟩, ⟨"skins/a/b.xml"⟩] := by
  have unlogged (notices : Notices) : echoing.log notices = echoing := log_of_closed rfl notices
  have first : echoing.assets.resolve .shared "a/b.xml" none = ⟨"skins/a/b.xml"⟩ := by
    decide +kernel
  have second : echoing.included ⟨.shared, guiSurface, (⟨"skins/a/b.xml"⟩ : Path).base⟩
      "../a/b.xml" = ⟨"skins/a/../a/b.xml"⟩ := by
    decide +kernel
  have apart : ¬ [(⟨"skins/a/b.xml"⟩ : Path).components].contains
      (⟨"skins/a/../a/b.xml"⟩ : Path).components := by
    decide +kernel
  obtain ⟨root, block, reads, isSkin, blocks, isInclude, named⟩ :=
    echoing_reads ⟨"skins/a/b.xml"⟩ (by simp)
  obtain ⟨again, _, readsAgain, -⟩ := echoing_reads ⟨"skins/a/../a/b.xml"⟩ (by simp)
  have includes (load : Path → Skin → Loaded) :
      Includes load ⟨.shared, guiSurface, (⟨"skins/a/b.xml"⟩ : Path).base⟩ echoing root.children
        ⟨"skins/a/../a/b.xml"⟩ echoing := by
    rw [blocks, ← second]
    exact .here isInclude named (second ▸ isFile_of_readFile readsAgain)
  have begins : Begins .shared guiSurface ⟨[], ⟨"skins/a/b.xml"⟩, echoing⟩
      ⟨[⟨"skins/a/b.xml"⟩], ⟨"skins/a/../a/b.xml"⟩, echoing⟩ :=
    .file ⟨by simp [Call.loading], reads⟩ isSkin (includes _)
  refine ⟨⟨[⟨"skins/a/b.xml"⟩], ⟨"skins/a/../a/b.xml"⟩, echoing⟩, again, ?_, ⟨apart, readsAgain⟩, rfl⟩
  unfold Makes
  rw [first, unlogged]
  exact .single begins

theorem echoing_not_opensOnce : ¬ echoing.OpensOnce "a/b.xml" .shared guiSurface := by
  intro once
  have apart := (once _ echoing_nests).1
  revert apart
  decide +kernel

end Skin
end Skinning
