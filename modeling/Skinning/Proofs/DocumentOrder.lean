import Skinning.Proofs.LocalFaults
import Skinning.Proofs.Merging

/-! The order in which blocks count. A load declares what the blocks of its documents declare
one after the other, with those of an included document in the place of the `include`,
whatever is noted and however often the window styles are built in between. -/
namespace Skinning

structure PlacedBlock where
  site : DocumentSite
  block : Element

inductive Ending where
  | complete
  /-- At a fault that does not end the documents around. -/
  | stopped
  /-- At an include cycle, which ends the documents around as well. -/
  | cycle
  deriving DecidableEq, Repr

def Ending.ofFault? : Option SkinFault → Ending
  | none => .complete
  | some (.registry (.includeCycle _)) => .cycle
  | some _ => .stopped

namespace Skin

def declare (s : Skin) (placed : PlacedBlock) : Skin :=
  (s.declareBlock placed.site placed.block).skin

/-- What was declared: the values, the screens and the blocks of window styles, but not the
styles that are built from them. -/
def declared (s : Skin) : Store × Table String Fragment × Table Nat RecordedStyle :=
  (s.store.withoutStyles, s.fragments, s.styles)

/-- What a file holds at some time in a load: the same as at first, unless it is the log. -/
def Reads (origin : Skin) (path : Path) (document : Except SkinFault Element) : Prop :=
  ∃ notices, (origin.log notices).readFile path = document

section

variable (origin : Skin) (scope : Scope) (surface : Nat)

mutual

/-- The blocks of the document at a path in their order, each as it stands where it counts,
and how they end. The skin is what the blocks before them declare; the list is of the files
that the document is inside. -/
inductive FlatDocument :
    List Path.Components → Path → Skin → List PlacedBlock → Ending → Prop
  | cyclic : loading.contains path.components → FlatDocument loading path s [] .cycle
  | unreadable : ¬ loading.contains path.components → origin.Reads path (.error fault) →
      FlatDocument loading path s [] .stopped
  | foreign : ¬ loading.contains path.components → origin.Reads path (.ok root) →
      root.tag ≠ "skin" → FlatDocument loading path s [] .stopped
  | skin : ¬ loading.contains path.components → origin.Reads path (.ok root) →
      root.tag = "skin" →
      FlatBlocks (path.components :: loading) ⟨scope, surface, path.base⟩ s root.children
        blocks ending →
      FlatDocument loading path s blocks ending

/-- The same for blocks of a document. Only a block whose merge fails, a file that is missing
and an include cycle end the list. -/
inductive FlatBlocks :
    List Path.Components → DocumentSite → Skin → List Element → List PlacedBlock → Ending → Prop
  | nil : FlatBlocks loading site s [] [] .complete
  | merged : block.tag ≠ "include" → (s.declareBlock site block).fault? = none →
      FlatBlocks loading site (s.declare ⟨site, block⟩) rest blocks ending →
      FlatBlocks loading site s (block :: rest) (⟨site, block⟩ :: blocks) ending
  | faulty : block.tag ≠ "include" → (s.declareBlock site block).fault? = some fault →
      FlatBlocks loading site s (block :: rest) [⟨site, block⟩] .stopped
  | nameless : block.tag = "include" → block.filled? "filename" = none →
      FlatBlocks loading site s rest blocks ending →
      FlatBlocks loading site s (block :: rest) blocks ending
  | missing : block.tag = "include" → block.filled? "filename" = some name →
      ¬ origin.files.isFile (origin.included site name) →
      FlatBlocks loading site s (block :: rest) [] .stopped
  | included : block.tag = "include" → block.filled? "filename" = some name →
      origin.files.isFile (origin.included site name) →
      FlatDocument loading (origin.included site name) s nested nestedEnding →
      nestedEnding ≠ .cycle →
      FlatBlocks loading site (nested.foldl declare s) rest blocks ending →
      FlatBlocks loading site s (block :: rest) (nested ++ blocks) ending
  | cyclic : block.tag = "include" → block.filled? "filename" = some name →
      origin.files.isFile (origin.included site name) →
      FlatDocument loading (origin.included site name) s nested .cycle →
      FlatBlocks loading site s (block :: rest) nested .cycle

end
end

/-! Merging one block. -/

theorem declared_eq_iff {s t : Skin} : s.declared = t.declared ↔
    s.store.withoutStyles = t.store.withoutStyles ∧ s.fragments = t.fragments ∧
      s.styles = t.styles := by
  simp only [declared, Prod.mk.injEq]

section

variable {s t : Skin} (alike : Assets.Alike s.assets t.assets) (same : s.declared = t.declared)
include same

theorem addFragment_congr (site : DocumentSite) (block : Element) :
    (s.addFragment site block).declared = (t.addFragment site block).declared := by
  obtain ⟨stores, fragments, styles⟩ := declared_eq_iff.mp same
  unfold addFragment
  split
  · exact same
  · split
    · exact declared_eq_iff.mpr ⟨stores, by simp only [fragments], styles⟩
    · exact same

theorem recordStyle_congr (site : DocumentSite) (block : Element) :
    (s.recordStyle site block).declared = (t.recordStyle site block).declared := by
  obtain ⟨stores, fragments, styles⟩ := declared_eq_iff.mp same
  unfold recordStyle
  split
  · exact declared_eq_iff.mpr ⟨stores, fragments, by simp only [styles]⟩
  · exact same

include alike

theorem mergeBlock_congr (scope : Scope) (base : Path) (surface : Nat) (block : Element) :
    (s.mergeBlock (s.blockSite scope base surface) block).fault? =
        (t.mergeBlock (t.blockSite scope base surface) block).fault? ∧
      (s.mergeBlock (s.blockSite scope base surface) block).skin.declared =
        (t.mergeBlock (t.blockSite scope base surface) block).skin.declared := by
  obtain ⟨stores, fragments, styles⟩ := declared_eq_iff.mp same
  obtain ⟨merged, faults, -⟩ := Store.mergeBlock_congr alike scope base surface stores block
  exact ⟨congrArg (Option.map _) faults, declared_eq_iff.mpr ⟨merged, fragments, styles⟩⟩

/-- What a block declares, and its fault, depend on what was declared before it. -/
theorem declareBlock_congr (site : DocumentSite) (block : Element) :
    (s.declareBlock site block).fault? = (t.declareBlock site block).fault? ∧
      (s.declareBlock site block).skin.declared = (t.declareBlock site block).skin.declared := by
  unfold declareBlock
  split
  · exact ⟨rfl, addFragment_congr same site block⟩
  · obtain ⟨faults, merged⟩ :=
      mergeBlock_congr alike same site.scope site.base site.surface block
    cases faulty : (t.mergeBlock (t.blockSite site.scope site.base site.surface) block).fault? with
    | some fault =>
      rw [Loaded.andThen_of_fault faulty, Loaded.andThen_of_fault (faults.trans faulty)]
      exact ⟨faults, merged⟩
    | none =>
      rw [Loaded.andThen_of_none faulty, Loaded.andThen_of_none (faults.trans faulty)]
      exact ⟨rfl, recordStyle_congr merged site block⟩

end

theorem declareBlock_local (s : Skin) (site : DocumentSite) (block : Element) (path : Path) :
    (s.declareBlock site block).fault? ≠ some (.registry (.includeCycle path)) := by
  unfold declareBlock
  split
  · exact nofun
  · have isLocal := s.store.mergeBlock_local (s.blockSite site.scope site.base site.surface) block path
    cases faulty : (s.mergeBlock (s.blockSite site.scope site.base site.surface) block).fault? with
    | none =>
      rw [Loaded.andThen_of_none faulty]
      exact nofun
    | some fault =>
      rw [Loaded.andThen_of_fault faulty]
      intro cycle
      rw [mergeBlock, Option.map_eq_some_iff] at cycle
      obtain ⟨found, merged, equal⟩ := cycle
      exact isLocal (merged.trans (congrArg some (SkinFault.registry.inj equal)))

/-! Building window styles again. -/

theorem declared_replayStyle (s : Skin) (style : RecordedStyle) :
    (s.replayStyle style).1.declared = s.declared := by
  have stores := s.store.mergeBlock_style (s.blockSite style.scope style.base style.surface)
    style.isStyle
  exact declared_eq_iff.mpr ⟨stores, rfl, rfl⟩

theorem declared_replayStyles (s : Skin) : s.replayStyles.1.declared = s.declared := by
  unfold replayStyles
  generalize s.recordedStyles = styles
  generalize ([] : Notices) = notices
  induction styles generalizing s notices with
  | nil => rfl
  | cons style rest ih => exact (ih _ _).trans (s.declared_replayStyle style)

theorem finish_declared (l : Loaded) :
    (finish l).fault? = l.fault? ∧ (finish l).skin.declared = l.skin.declared := by
  unfold finish
  cases faulty : l.fault? with
  | some fault =>
    rw [Loaded.andThen_of_fault faulty]
    exact ⟨faulty, rfl⟩
  | none =>
    rw [Loaded.andThen_of_none faulty]
    exact ⟨rfl, l.skin.declared_replayStyles⟩

/-! A load and the list of its blocks. -/

theorem ofFault?_eq_cycle {fault? : Option SkinFault} :
    Ending.ofFault? fault? = .cycle ↔ ∃ path, fault? = some (.registry (.includeCycle path)) := by
  unfold Ending.ofFault?
  split <;> simp_all

theorem ofFault?_eq_complete {fault? : Option SkinFault} :
    Ending.ofFault? fault? = .complete ↔ fault? = none := by
  unfold Ending.ofFault?
  split <;> simp_all

theorem ofFault?_of_other {fault : SkinFault}
    (other : ∀ path, fault ≠ .registry (.includeCycle path)) :
    Ending.ofFault? (some fault) = .stopped := by
  unfold Ending.ofFault?
  split
  · contradiction
  next path equal => exact absurd (Option.some.inj equal) (other path)
  · rfl

theorem absorb_of_cycle {l : Loaded} {path : Path}
    (faulty : l.fault? = some (.registry (.includeCycle path))) : l.absorb = l := by
  simp only [Loaded.absorb, faulty]

theorem absorb_of_other {l : Loaded} (other : Ending.ofFault? l.fault? ≠ .cycle) :
    l.absorb.fault? = none ∧ ∃ notices, l.absorb.skin = l.skin.log notices := by
  unfold Loaded.absorb
  split
  next sound => exact ⟨sound, [], rfl⟩
  next path faulty =>
    rw [faulty] at other
    exact absurd rfl other
  next fault _ faulty => exact ⟨rfl, [.fault fault], rfl⟩

/-- A skin in the course of a load, beside the one that only the blocks before have led to. -/
structure Tracks (origin folded actual : Skin) : Prop where
  declared : actual.declared = folded.declared
  folded : Continues origin folded
  actual : Continues origin actual

/-- A load of a document or a block declares what a list of blocks does, and its fault is
that at the end of the list. -/
def Follows (origin : Skin) (flat : List PlacedBlock → Ending → Prop) (s : Skin) (l : Loaded) :
    Prop :=
  ∃ blocks, flat blocks (.ofFault? l.fault?) ∧ Tracks origin (blocks.foldl declare s) l.skin

theorem Tracks.declare (tracks : Tracks origin s t) (site : DocumentSite) (block : Element) :
    (t.declareBlock site block).fault? = (s.declareBlock site block).fault? ∧
      Tracks origin (s.declare ⟨site, block⟩) (t.declareBlock site block).skin := by
  have alike : Assets.Alike t.assets s.assets :=
    tracks.actual.assets.trans tracks.folded.assets.symm
  obtain ⟨faults, same⟩ := declareBlock_congr alike tracks.declared site block
  exact ⟨faults, same, tracks.folded.trans (holdsOfSteps_continues.declareBlock s site block),
    tracks.actual.trans (holdsOfSteps_continues.declareBlock t site block)⟩

theorem Tracks.log (tracks : Tracks origin s t) (notices : Notices) :
    Tracks origin s (t.log notices) :=
  ⟨tracks.declared, tracks.folded, tracks.actual.log notices⟩

theorem Tracks.finish {l : Loaded} (tracks : Tracks origin s l.skin) :
    Tracks origin s (finish l).skin :=
  ⟨(finish_declared l).2.trans tracks.declared, tracks.folded,
    holdsOfSteps_continues.finish tracks.actual⟩

theorem Tracks.included (tracks : Tracks origin s t) (site : DocumentSite) (name : String) :
    t.included site name = origin.included site name :=
  tracks.actual.assets.resolve site.scope name (some site.base)

theorem loadBlocks_follows {load : Path → Skin → Loaded} {loading : List Path.Components}
    (loads : ∀ path t s, Tracks origin s t →
      Follows origin (FlatDocument origin scope surface loading path s) s (load path t))
    (site : DocumentSite) (blocks : List Element) (s t : Skin) (tracks : Tracks origin s t) :
    Follows origin (FlatBlocks origin scope surface loading site s blocks) s
      (loadBlocks load site t blocks) := by
  induction blocks generalizing s t with
  | nil => exact ⟨[], .nil, tracks⟩
  | cons block rest ih =>
    rw [loadBlocks, loadBlock]
    by_cases isInclude : block.tag = "include"
    · rw [if_pos isInclude, includeFile]
      cases named : block.filled? "filename" with
      | none =>
        obtain ⟨list, flat, after⟩ := ih s t tracks
        exact ⟨list, .nameless isInclude named flat, after⟩
      | some name =>
        simp only [tracks.included site name]
        have sameFile := Files.isFile_congr tracks.actual.shape (origin.included site name)
        by_cases isFile : origin.files.isFile (origin.included site name)
        · rw [if_pos (sameFile.trans isFile)]
          obtain ⟨nested, flat, after⟩ := loads (origin.included site name) t s tracks
          by_cases cycle : Ending.ofFault? (load (origin.included site name) t).fault? = .cycle
          · obtain ⟨path, faulty⟩ := ofFault?_eq_cycle.mp cycle
            rw [absorb_of_cycle faulty, Loaded.andThen_of_fault faulty]
            refine ⟨nested, ?_, after⟩
            rw [cycle] at flat ⊢
            exact .cyclic isInclude named isFile flat
          · obtain ⟨sound, notices, logged⟩ := absorb_of_other cycle
            rw [Loaded.andThen_of_none sound, logged]
            obtain ⟨list, more, final⟩ := ih _ _ (after.log notices)
            refine ⟨nested ++ list, .included isInclude named isFile flat cycle more, ?_⟩
            rwa [List.foldl_append]
        · rw [if_neg (by rwa [sameFile])]
          exact ⟨[], .missing isInclude named isFile, tracks⟩
    · rw [if_neg isInclude]
      obtain ⟨faults, declares⟩ := tracks.declare site block
      cases faulty : (s.declareBlock site block).fault? with
      | some fault =>
        rw [Loaded.andThen_of_fault (faults.trans faulty)]
        refine ⟨[⟨site, block⟩], ?_, declares⟩
        have other (path : Path) : fault ≠ .registry (.includeCycle path) := by
          rintro rfl
          exact s.declareBlock_local site block path faulty
        rw [faults, faulty, ofFault?_of_other other]
        exact .faulty isInclude faulty
      | none =>
        rw [Loaded.andThen_of_none (faults.trans faulty)]
        obtain ⟨list, flat, after⟩ := ih _ _ declares
        exact ⟨⟨site, block⟩ :: list, .merged isInclude faulty flat, after⟩

theorem readFile_other {s : Skin} {path : Path} {fault : SkinFault}
    (unread : s.readFile path = .error fault) (cycle : Path) :
    fault ≠ .registry (.includeCycle cycle) := by
  rintro rfl
  unfold readFile at unread
  split at unread
  · cases unread
  · split at unread
    · cases unread
    · cases unread

theorem loadPath_follows (origin : Skin) (scope : Scope) (surface : Nat)
    (loading : List Path.Components) (path : Path) (s t : Skin) (tracks : Tracks origin s t) :
    Follows origin (FlatDocument origin scope surface loading path s) s
      (loadPath scope surface loading path t) := by
  fun_induction loadPath generalizing s with
  | case1 loading path t cycle => exact ⟨[], .cyclic cycle, tracks⟩
  | case2 loading path t new fault unread =>
    obtain ⟨notices, read⟩ := tracks.actual.readFile path
    have reads : origin.Reads path (.error fault) := ⟨notices, read.symm.trans unread⟩
    refine ⟨[], ?_, tracks⟩
    rw [Loaded.failed, ofFault?_of_other (readFile_other unread)]
    exact .unreadable new reads
  | case3 loading path t new root readable ih =>
    obtain ⟨notices, read⟩ := tracks.actual.readFile path
    have reads : origin.Reads path (.ok root) := ⟨notices, read.symm.trans readable⟩
    by_cases isSkin : root.tag = "skin"
    · rw [loadRoot, if_pos isSkin]
      obtain ⟨blocks, flat, after⟩ :=
        loadBlocks_follows ih ⟨scope, surface, path.base⟩ root.children s t tracks
      refine ⟨blocks, ?_, after.finish⟩
      rw [(finish_declared _).1]
      exact .skin new reads isSkin flat
    · rw [loadRoot, if_neg isSkin]
      exact ⟨[], .foreign new reads isSkin, tracks⟩

/-! One list of blocks only. -/

/-- Whatever is logged, what can be read as a document stays the same: the log is none. -/
def IsSettled (s : Skin) : Prop :=
  ∀ path root notices more, (s.log notices).readFile path = .ok root →
    (s.log more).readFile path = .ok root

theorem isSettled_of_closed {s : Skin} (closed : s.journal.open? = none) : s.IsSettled := by
  intro path root notices more read
  simpa only [log_of_closed closed] using read

theorem IsSettled.reads_ok {s : Skin} (settled : s.IsSettled) {path : Path} {root : Element}
    {document : Except SkinFault Element} (first : s.Reads path (.ok root))
    (second : s.Reads path document) : document = .ok root := by
  obtain ⟨notices, read⟩ := first
  obtain ⟨more, again⟩ := second
  exact again.symm.trans (settled path root notices more read)

theorem FlatBlocks.unique
    (documents : ∀ path s a b endA endB,
      FlatDocument origin scope surface loading path s a endA →
      FlatDocument origin scope surface loading path s b endB → a = b ∧ endA = endB)
    {a b : List PlacedBlock} {endA endB : Ending}
    (first : FlatBlocks origin scope surface loading site s blocks a endA)
    (second : FlatBlocks origin scope surface loading site s blocks b endB) :
    a = b ∧ endA = endB := by
  induction blocks generalizing s a b endA endB with
  | nil =>
    cases first
    cases second
    exact ⟨rfl, rfl⟩
  | cons block rest ih =>
    cases first with
    | merged notInclude sound flat =>
      cases second with
      | merged _ _ other =>
        obtain ⟨rfl, rfl⟩ := ih flat other
        exact ⟨rfl, rfl⟩
      | faulty _ faulty => nomatch sound.symm.trans faulty
      | nameless isInclude => exact absurd isInclude notInclude
      | missing isInclude => exact absurd isInclude notInclude
      | included isInclude => exact absurd isInclude notInclude
      | cyclic isInclude => exact absurd isInclude notInclude
    | faulty notInclude faulty =>
      cases second with
      | merged _ sound => nomatch sound.symm.trans faulty
      | faulty => exact ⟨rfl, rfl⟩
      | nameless isInclude => exact absurd isInclude notInclude
      | missing isInclude => exact absurd isInclude notInclude
      | included isInclude => exact absurd isInclude notInclude
      | cyclic isInclude => exact absurd isInclude notInclude
    | nameless isInclude nameless flat =>
      cases second with
      | merged notInclude => exact absurd isInclude notInclude
      | faulty notInclude => exact absurd isInclude notInclude
      | nameless _ _ other => exact ih flat other
      | missing _ named => nomatch nameless.symm.trans named
      | included _ named => nomatch nameless.symm.trans named
      | cyclic _ named => nomatch nameless.symm.trans named
    | missing isInclude named missing =>
      cases second with
      | merged notInclude => exact absurd isInclude notInclude
      | faulty notInclude => exact absurd isInclude notInclude
      | nameless _ nameless => nomatch nameless.symm.trans named
      | missing => exact ⟨rfl, rfl⟩
      | included _ again isFile =>
        obtain rfl := Option.some.inj (named.symm.trans again)
        exact absurd isFile missing
      | cyclic _ again isFile =>
        obtain rfl := Option.some.inj (named.symm.trans again)
        exact absurd isFile missing
    | included isInclude named isFile nested notCycle flat =>
      cases second with
      | merged notInclude => exact absurd isInclude notInclude
      | faulty notInclude => exact absurd isInclude notInclude
      | nameless _ nameless => nomatch nameless.symm.trans named
      | missing _ again missing =>
        obtain rfl := Option.some.inj (named.symm.trans again)
        exact absurd isFile missing
      | included _ again _ otherNested _ other =>
        obtain rfl := Option.some.inj (named.symm.trans again)
        obtain ⟨rfl, rfl⟩ := documents _ _ _ _ _ _ nested otherNested
        obtain ⟨rfl, rfl⟩ := ih flat other
        exact ⟨rfl, rfl⟩
      | cyclic _ again _ otherNested =>
        obtain rfl := Option.some.inj (named.symm.trans again)
        exact absurd (documents _ _ _ _ _ _ nested otherNested).2 notCycle
    | cyclic isInclude named isFile nested =>
      cases second with
      | merged notInclude => exact absurd isInclude notInclude
      | faulty notInclude => exact absurd isInclude notInclude
      | nameless _ nameless => nomatch nameless.symm.trans named
      | missing _ again missing =>
        obtain rfl := Option.some.inj (named.symm.trans again)
        exact absurd isFile missing
      | included _ again _ otherNested notCycle other =>
        obtain rfl := Option.some.inj (named.symm.trans again)
        exact absurd (documents _ _ _ _ _ _ nested otherNested).2.symm notCycle
      | cyclic _ again _ otherNested =>
        obtain rfl := Option.some.inj (named.symm.trans again)
        exact documents _ _ _ _ _ _ nested otherNested

/-- A document has one list of blocks, unless it is the log. -/
theorem FlatDocument.unique (settled : origin.IsSettled) (loading : List Path.Components)
    (path : Path) (s : Skin) (a b : List PlacedBlock) (endA endB : Ending)
    (first : FlatDocument origin scope surface loading path s a endA)
    (second : FlatDocument origin scope surface loading path s b endB) :
    a = b ∧ endA = endB := by
  induction unopened : Path.unopened loading using Nat.strongRecOn
    generalizing loading path s a b endA endB with
  | _ n ih =>
    cases first with
    | cyclic around =>
      cases second with
      | cyclic => exact ⟨rfl, rfl⟩
      | unreadable new => exact absurd around new
      | foreign new => exact absurd around new
      | skin new => exact absurd around new
    | unreadable new unread =>
      cases second with
      | cyclic around => exact absurd around new
      | unreadable => exact ⟨rfl, rfl⟩
      | foreign => exact ⟨rfl, rfl⟩
      | skin _ read => nomatch settled.reads_ok read unread
    | foreign new read notSkin =>
      cases second with
      | cyclic around => exact absurd around new
      | unreadable => exact ⟨rfl, rfl⟩
      | foreign => exact ⟨rfl, rfl⟩
      | skin _ again isSkin =>
        cases settled.reads_ok read again
        exact absurd isSkin notSkin
    | skin new read isSkin flat =>
      cases second with
      | cyclic around => exact absurd around new
      | unreadable _ unread => nomatch settled.reads_ok read unread
      | foreign _ again notSkin =>
        cases settled.reads_ok read again
        exact absurd isSkin notSkin
      | skin _ again _ other =>
        cases settled.reads_ok read again
        obtain ⟨notices, readable⟩ := read
        obtain ⟨place, starts⟩ := start_of_readFile readable
        have fewer := Path.unopened_cons_lt starts new
        rw [unopened] at fewer
        have deeper := ih (Path.unopened (path.components :: loading)) fewer
          (path.components :: loading)
        exact flat.unique (fun path s a b endA endB nested otherNested =>
          deeper path s a b endA endB nested otherNested rfl) other

theorem outcome_declared (l : Loaded) : (outcome l).skin.declared = l.skin.declared := by
  unfold outcome
  split <;> rfl

theorem outcome_isLoaded (l : Loaded) : (outcome l).isLoaded = true ↔ l.fault? = none := by
  unfold outcome
  split <;> simp_all

theorem announce_declared (after : Outcome) (path : Path) :
    (after.announce path).skin.declared = after.skin.declared :=
  rfl

theorem announce_isLoaded (after : Outcome) (path : Path) :
    (after.announce path).isLoaded = after.isLoaded :=
  rfl

/-- A load declares what the blocks of its documents declare in their order, and it is
complete if their list is. -/
theorem load_declared (s : Skin) (filename : String) (scope : Scope) (surface : Nat) :
    ∃ blocks ending,
      FlatDocument s scope surface [] (s.assets.resolve scope filename none) s blocks ending ∧
      (s.load filename scope surface).skin.declared = (blocks.foldl declare s).declared ∧
      ((s.load filename scope surface).isLoaded = true ↔ ending = .complete) ∧
      (s.IsSettled → ∀ others otherEnding,
        FlatDocument s scope surface [] (s.assets.resolve scope filename none) s others
          otherEnding → others = blocks ∧ otherEnding = ending) := by
  rw [load, announce_declared, announce_isLoaded, outcome_declared, outcome_isLoaded]
  generalize s.assets.resolve scope filename none = path
  have tracks : Tracks s s (s.log [.loading path]) := ⟨rfl, .refl s, (Continues.refl s).log _⟩
  obtain ⟨blocks, flat, after⟩ := loadPath_follows s scope surface [] path s _ tracks
  refine ⟨blocks, _, flat, after.declared, ofFault?_eq_complete.symm, ?_⟩
  intro settled others otherEnding other
  exact FlatDocument.unique settled [] path s _ _ _ _ other flat

end Skin
end Skinning
