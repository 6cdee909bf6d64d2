import Skinning.Proofs.DocumentOrder
import Skinning.Proofs.StyleReading
import Skinning.Skin.Start

/-! Building window styles again. What a skin has recorded is, for every surface, the last block
that was merged for it since the last reset. Such a block can be merged again at any time, and
then its style is that of the values that are declared by now. -/
namespace Skinning

def RecordedStyle.placed (r : RecordedStyle) : PlacedBlock :=
  ⟨⟨r.scope, r.surface, r.base⟩, r.element⟩

namespace Store

/-- A block that is merged builds its style for its surface. -/
theorem mergeBlock_of_style {s : Store} {site : BlockSite} {block : Element} {id : Nat}
    {style : WindowStyle} {notices : Notices} (isStyle : block.tag = "windowstyle")
    (surface : Declaration.surfaceId block = .ok id)
    (reads : (Declaration.readStyle site s block).run.run [] = (.ok style, notices)) :
    s.mergeBlock site block = ⟨{ s with styles := s.styles.insert id style }, none, notices⟩ := by
  have read : ((Declaration.style id block).read site s).run.run [] =
      (.ok [.style id style], notices) := by
    simp only [Declaration.read, ExceptT.run_bind, StateT.run_bind, reads]
    rfl
  simp only [mergeBlock, Declaration.ofBlock, isStyle, surface, Except.map, mergeDeclarations, read,
    List.append_nil]
  rfl

/-- A block that is merged without a fault has a surface, and a style can be built from it. -/
theorem exists_of_mergeBlock_style {s : Store} {site : BlockSite} {block : Element}
    (isStyle : block.tag = "windowstyle") (sound : (s.mergeBlock site block).fault? = none) :
    ∃ id style notices, Declaration.surfaceId block = .ok id ∧
      (Declaration.readStyle site s block).run.run [] = (.ok style, notices) := by
  simp only [mergeBlock, Declaration.ofBlock, isStyle] at sound
  cases surface : Declaration.surfaceId block with
  | error fault => simp [surface, Except.map] at sound
  | ok id =>
    have read : (Declaration.style id block).read site s =
        (fun style => [Entry.style id style]) <$> Declaration.readStyle site s block := rfl
    simp only [surface, Except.map, mergeDeclarations, read, ExceptT.run_map, StateT.run_map]
      at sound
    generalize (Declaration.readStyle site s block).run.run [] = outcome at sound ⊢
    obtain ⟨fault | style, notices⟩ := outcome
    · cases sound
    · exact ⟨id, style, notices, rfl, rfl⟩

end Store

namespace Skin

/-- The style of a block, as it is built where the block stands. -/
def readPlaced (s : Skin) (placed : PlacedBlock) : Except RegistryFault WindowStyle × Notices :=
  let site := s.blockSite placed.site.scope placed.site.base placed.site.surface
  (Declaration.readStyle site s.store placed.block).run.run []

theorem readPlaced_congr {s t : Skin} (alike : Assets.Alike s.assets t.assets)
    (same : s.store.withoutStyles = t.store.withoutStyles) (placed : PlacedBlock) :
    s.readPlaced placed = t.readPlaced placed := by
  unfold readPlaced
  dsimp only [blockSite]
  rw [Declaration.readStyle_congr alike, ← Declaration.readStyle_withoutStyles, same,
    Declaration.readStyle_withoutStyles]

/-- A block from which a style was built can be read again when there are more colors. -/
theorem isOk_readPlaced {s t : Skin} (alike : Assets.Alike s.assets t.assets)
    (covers : s.store.Covers t.store) {placed : PlacedBlock}
    (isOk : (s.readPlaced placed).1.isOk) : (t.readPlaced placed).1.isOk := by
  unfold readPlaced at isOk ⊢
  dsimp only [blockSite] at isOk ⊢
  rw [Declaration.readStyle_congr alike] at isOk
  exact (Declaration.readStyle_lasts _ covers placed.block).run [] [] isOk

/-! Replays. -/

/-- A skin with other window styles, after something was noted. -/
def restyled (s : Skin) (styles : Table Nat WindowStyle) (notices : Notices) : Skin :=
  { s.log notices with store := { s.store with styles } }

theorem restyled_restyled (s : Skin) (styles others : Table Nat WindowStyle)
    (notices more : Notices) :
    (s.restyled styles notices).restyled others more = s.restyled others (notices ++ more) := by
  have journal : (s.journal.addAll notices.lines).addAll more.lines =
      s.journal.addAll (notices ++ more).lines := by
    rw [← Journal.addAll_append, Notices.lines, Notices.lines, Notices.lines, List.map_append]
  simp only [restyled, log, journal]

theorem restyled_assets (s : Skin) (styles : Table Nat WindowStyle) (notices : Notices) :
    Assets.Alike (s.restyled styles notices).assets s.assets :=
  ((Continues.refl s).log notices).assets

theorem readPlaced_restyled (s : Skin) (styles : Table Nat WindowStyle) (notices : Notices)
    (placed : PlacedBlock) : (s.restyled styles notices).readPlaced placed = s.readPlaced placed :=
  readPlaced_congr (s.restyled_assets styles notices) rfl placed

/-- The fault that a recorded block is merged with. -/
def replayFault? (s : Skin) (record : RecordedStyle) : Option SkinFault :=
  (s.mergeBlock (s.blockSite record.scope record.base record.surface) record.element).fault?

/-- A style can be built from a recorded block for the surface that it is recorded for. -/
structure IsReplayable (s : Skin) (record : RecordedStyle) : Prop where
  surface : Declaration.surfaceId record.element = .ok (styleId record.element)
  isOk : (s.readPlaced record.placed).1.isOk

theorem IsReplayable.restyled {s : Skin} {record : RecordedStyle} (replayable : s.IsReplayable record)
    (styles : Table Nat WindowStyle) (notices : Notices) :
    (s.restyled styles notices).IsReplayable record :=
  ⟨replayable.surface, by rw [readPlaced_restyled]; exact replayable.isOk⟩

/-- A block that can be replayed builds its style, and nothing else. -/
theorem IsReplayable.replayStyle {s : Skin} {record : RecordedStyle}
    (replayable : s.IsReplayable record) :
    s.replayFault? record = none ∧
    ∃ style notices, (s.readPlaced record.placed).1 = .ok style ∧
      s.replayStyle record =
        (s.restyled (s.store.styles.insert (styleId record.element) style) notices, notices) := by
  obtain ⟨surface, isOk⟩ := replayable
  generalize reads : s.readPlaced record.placed = outcome at isOk
  obtain ⟨fault | style, notices⟩ := outcome
  · exact absurd isOk Bool.false_ne_true
  · have stores := Store.mergeBlock_of_style record.isStyle surface reads
    have merges : s.mergeBlock (s.blockSite record.scope record.base record.surface) record.element =
        ⟨s.restyled (s.store.styles.insert (styleId record.element) style) notices, none, notices⟩ := by
      unfold mergeBlock
      exact congrArg (fun merged : Merged =>
        (⟨{ s with store := merged.store }.log merged.notices, merged.fault?.map .registry,
          merged.notices⟩ : Loaded)) stores
    refine ⟨congrArg Loaded.fault? merges, style, notices, rfl, ?_⟩
    unfold Skin.replayStyle
    rw [merges]
    exact congrArg (Prod.mk _) (List.append_nil notices)

def replayNext (replayed : Skin × Notices) (record : RecordedStyle) : Skin × Notices :=
  let (s, more) := replayed.1.replayStyle record
  (s, replayed.2 ++ more)

/-- Builds the styles of some recorded blocks again. -/
def replayAll (s : Skin) (records : List RecordedStyle) : Skin × Notices :=
  records.foldl replayNext (s, [])

theorem replayStyles_eq (s : Skin) : s.replayStyles = s.replayAll s.recordedStyles := rfl

/-- The window styles of a skin after some blocks were replayed: each of their surfaces has the
style of one of them, and the others have kept theirs. -/
structure IsRebuilt (s : Skin) (records : List RecordedStyle) (styles : Table Nat WindowStyle) :
    Prop where
  kept : ∀ id, (∀ record ∈ records, styleId record.element ≠ id) →
    styles.get? id = s.store.styles.get? id
  built : ∀ id, (∃ record ∈ records, styleId record.element = id) →
    ∃ record ∈ records, styleId record.element = id ∧
      ∃ style, (s.readPlaced record.placed).1 = .ok style ∧ styles.get? id = some style

theorem IsRebuilt.cons {s : Skin} {record : RecordedStyle} {rest : List RecordedStyle}
    {style : WindowStyle} {notices : Notices} {styles : Table Nat WindowStyle}
    (reads : (s.readPlaced record.placed).1 = .ok style)
    (rebuilt : IsRebuilt (s.restyled (s.store.styles.insert (styleId record.element) style) notices)
      rest styles) : s.IsRebuilt (record :: rest) styles := by
  refine ⟨fun id others => ?_, fun id some => ?_⟩
  · obtain ⟨itself, others⟩ := List.forall_mem_cons.mp others
    rw [rebuilt.kept id others]
    simp [restyled, Ne.symm itself]
  · by_cases later : ∃ other ∈ rest, styleId other.element = id
    · obtain ⟨other, member, same, built, readsOther, found⟩ := rebuilt.built id later
      rw [readPlaced_restyled] at readsOther
      exact ⟨other, List.mem_cons_of_mem _ member, same, built, readsOther, found⟩
    · have none : ∀ other ∈ rest, styleId other.element ≠ id :=
        fun other member same => later ⟨other, member, same⟩
      obtain ⟨other, member, same⟩ := some
      obtain rfl : other = record := by
        rcases List.mem_cons.mp member with here | inside
        · exact here
        · exact absurd same (none other inside)
      refine ⟨other, List.mem_cons_self, same, style, reads, ?_⟩
      rw [rebuilt.kept id none]
      simp [restyled, same]

theorem replayAll_eq {s : Skin} {records : List RecordedStyle}
    (replayable : ∀ record ∈ records, s.IsReplayable record) :
    ∃ styles notices, s.replayAll records = (s.restyled styles notices, notices) ∧
      s.IsRebuilt records styles := by
  suffices ∀ before : Notices, ∃ styles notices,
      records.foldl replayNext (s, before) = (s.restyled styles notices, before ++ notices) ∧
        s.IsRebuilt records styles by
    simpa [replayAll] using this []
  intro before
  induction records generalizing s before with
  | nil =>
    have same : (s, before) = (s.restyled s.store.styles [], before ++ []) := by
      rw [List.append_nil]
      rfl
    exact ⟨s.store.styles, [], same, ⟨fun _ _ => rfl, fun _ some => by simp at some⟩⟩
  | cons record rest ih =>
    obtain ⟨first, others⟩ := List.forall_mem_cons.mp replayable
    obtain ⟨-, style, notices, reads, replays⟩ := first.replayStyle
    have next : replayNext (s, before) record =
        (s.restyled (s.store.styles.insert (styleId record.element) style) notices,
          before ++ notices) := by
      rw [replayNext, replays]
    rw [List.foldl_cons, next]
    obtain ⟨styles, more, equal, rebuilt⟩ :=
      ih (fun other member => (others other member).restyled _ notices) (before ++ notices)
    refine ⟨styles, notices ++ more, ?_, rebuilt.cons reads⟩
    rw [equal, restyled_restyled, List.append_assoc]

/-! What is recorded. -/

/-- A window style block is merged where it stands. -/
def mergesStyle (s : Skin) (placed : PlacedBlock) : Bool :=
  placed.block.tag == "windowstyle" && (s.declareBlock placed.site placed.block).fault?.isNone

/-- The window style blocks among some blocks that are merged, each where it stands. -/
def mergedStyles (s : Skin) : List PlacedBlock → List PlacedBlock
  | [] => []
  | placed :: rest =>
    (if s.mergesStyle placed then [placed] else []) ++ (s.declare placed).mergedStyles rest

/-- The last of some blocks that is recorded for a surface. -/
def lastStyle? (merged : List PlacedBlock) (id : Nat) : Option PlacedBlock :=
  merged.reverse.find? fun placed => styleId placed.block = id

theorem lastStyle?_append (merged : List PlacedBlock) (placed : PlacedBlock) (id : Nat) :
    lastStyle? (merged ++ [placed]) id =
      if styleId placed.block = id then some placed else lastStyle? merged id := by
  rw [lastStyle?, List.reverse_append, List.reverse_singleton, List.singleton_append,
    List.find?_cons]
  by_cases same : styleId placed.block = id <;> simp [same, lastStyle?]

/-- A skin has recorded the last of some blocks for each surface, and it can read all of them. -/
structure Remembers (s : Skin) (merged : List PlacedBlock) : Prop where
  recorded : ∀ id, (s.styles.get? id).map RecordedStyle.placed = lastStyle? merged id
  surfaces : ∀ placed ∈ merged,
    Declaration.surfaceId placed.block = .ok (styleId placed.block)
  isOk : ∀ placed ∈ merged, (s.readPlaced placed).1.isOk

theorem Remembers.congr {s t : Skin} {merged : List PlacedBlock} (remembers : s.Remembers merged)
    (alike : Assets.Alike s.assets t.assets) (covers : s.store.Covers t.store)
    (styles : t.styles = s.styles) : t.Remembers merged :=
  ⟨styles ▸ remembers.recorded, remembers.surfaces,
    fun placed member => isOk_readPlaced alike covers (remembers.isOk placed member)⟩

theorem styles_addFragment (s : Skin) (site : DocumentSite) (block : Element) :
    (s.addFragment site block).styles = s.styles := by
  unfold addFragment
  split
  · rfl
  · split <;> rfl

/-- A block is recorded if it is a window style that is merged. -/
theorem styles_declare (s : Skin) (placed : PlacedBlock) (id : Nat) :
    ((s.declare placed).styles.get? id).map RecordedStyle.placed =
      if s.mergesStyle placed ∧ styleId placed.block = id then some placed
      else (s.styles.get? id).map RecordedStyle.placed := by
  unfold declare mergesStyle declareBlock
  by_cases isScreen : placed.block.tag = "screen"
  · have other : (placed.block.tag == "windowstyle") = false := by simp [isScreen]
    rw [if_pos isScreen, Loaded.done, styles_addFragment]
    simp [other]
  · rw [if_neg isScreen]
    generalize merges : s.mergeBlock (s.blockSite placed.site.scope placed.site.base
      placed.site.surface) placed.block = merged
    have styles : merged.skin.styles = s.styles := by rw [← merges]; rfl
    cases faulty : merged.fault? with
    | some fault =>
      rw [Loaded.andThen_of_fault faulty, styles]
      simp [faulty]
    | none =>
      rw [Loaded.andThen_of_none faulty]
      by_cases isStyle : placed.block.tag = "windowstyle"
      · simp only [Loaded.done, recordStyle, isStyle, dite_true, Table.get?_insert, styles]
        by_cases same : styleId placed.block = id
        · simp [same, RecordedStyle.placed]
        · simp [same, Ne.symm same]
      · simp [Loaded.done, recordStyle, isStyle, styles]

/-- A block that is merged is recorded for its surface, and it can be read. -/
theorem reads_of_mergesStyle {s : Skin} {placed : PlacedBlock} (merges : s.mergesStyle placed) :
    Declaration.surfaceId placed.block = .ok (styleId placed.block) ∧
      (s.readPlaced placed).1.isOk := by
  obtain ⟨isStyle, sound⟩ : placed.block.tag = "windowstyle" ∧
      (s.declareBlock placed.site placed.block).fault? = none := by
    simpa [mergesStyle] using merges
  have notScreen : placed.block.tag ≠ "screen" := by simp [isStyle]
  let site := s.blockSite placed.site.scope placed.site.base placed.site.surface
  have mergesBlock : (s.store.mergeBlock site placed.block).fault? = none := by
    rw [declareBlock, if_neg notScreen] at sound
    cases faulty : (s.mergeBlock site placed.block).fault? with
    | some fault =>
      rw [Loaded.andThen_of_fault faulty] at sound
      exact nomatch faulty.symm.trans sound
    | none => exact Option.map_eq_none_iff.mp faulty
  obtain ⟨id, style, notices, surface, reads⟩ :=
    Store.exists_of_mergeBlock_style isStyle mergesBlock
  refine ⟨surface.trans (congrArg Except.ok (Declaration.styleId_of_surfaceId surface).symm), ?_⟩
  have read : s.readPlaced placed = (.ok style, notices) := reads
  rw [read]
  rfl

theorem Remembers.declare {s : Skin} {merged : List PlacedBlock} (remembers : s.Remembers merged)
    (placed : PlacedBlock) :
    (s.declare placed).Remembers
      (merged ++ if s.mergesStyle placed then [placed] else []) := by
  have alike : Assets.Alike s.assets (s.declare placed).assets :=
    (holdsOfSteps_continues.declareBlock s placed.site placed.block).assets.symm
  have covers : s.store.Covers (s.declare placed).store :=
    (holdsOfSteps_store Store.Covers.holdsOfSets).declareBlock s placed.site placed.block
  have stays (other : PlacedBlock) (isOk : (s.readPlaced other).1.isOk) :
      ((s.declare placed).readPlaced other).1.isOk := isOk_readPlaced alike covers isOk
  by_cases merges : s.mergesStyle placed
  · obtain ⟨surface, isOk⟩ := reads_of_mergesStyle merges
    rw [if_pos merges]
    refine ⟨fun id => ?_, ?_, ?_⟩
    · rw [styles_declare, lastStyle?_append, remembers.recorded]
      simp [merges]
    · exact List.forall_mem_append.mpr ⟨remembers.surfaces, by simpa using surface⟩
    · refine List.forall_mem_append.mpr ⟨fun other member => ?_, by simpa using stays placed isOk⟩
      exact stays other (remembers.isOk other member)
  · rw [if_neg merges, List.append_nil]
    refine ⟨fun id => ?_, remembers.surfaces, fun other member =>
      stays other (remembers.isOk other member)⟩
    rw [styles_declare, ← remembers.recorded]
    simp [merges]

theorem Remembers.foldl_declare {s : Skin} {merged : List PlacedBlock}
    (remembers : s.Remembers merged) (blocks : List PlacedBlock) :
    (blocks.foldl Skin.declare s).Remembers (merged ++ s.mergedStyles blocks) := by
  induction blocks generalizing s merged with
  | nil => simpa [mergedStyles] using remembers
  | cons placed rest ih =>
    rw [List.foldl_cons, mergedStyles, ← List.append_assoc]
    exact ih (remembers.declare placed)

theorem foldl_declare_continues (s : Skin) (blocks : List PlacedBlock) :
    Continues s (blocks.foldl declare s) := by
  induction blocks generalizing s with
  | nil => exact .refl s
  | cons placed rest ih =>
    exact (holdsOfSteps_continues.declareBlock s placed.site placed.block).trans (ih _)

/-- A skin that declares the same as another has recorded the same. -/
theorem Remembers.of_declared {s t : Skin} {merged : List PlacedBlock}
    (remembers : s.Remembers merged) (alike : Assets.Alike s.assets t.assets)
    (same : t.declared = s.declared) : t.Remembers merged := by
  obtain ⟨stores, -, styles⟩ := declared_eq_iff.mp same
  refine remembers.congr alike (fun name given => ?_) styles
  have colors : t.store.withoutStyles.colors = s.store.withoutStyles.colors := by rw [stores]
  have same : t.store.colors = s.store.colors := colors
  rwa [same]

theorem mem_recordedStyles {s : Skin} {record : RecordedStyle} :
    record ∈ s.recordedStyles ↔ ∃ id, s.styles.get? id = some record := by
  unfold recordedStyles
  rw [List.mem_filterMap]
  constructor
  · rintro ⟨id, -, found⟩
    exact ⟨id, found⟩
  · rintro ⟨id, found⟩
    exact ⟨id, List.mem_mergeSort.mpr (Table.mem_keys_of_get? found), found⟩

namespace Remembers

variable {s : Skin} {merged : List PlacedBlock} (remembers : s.Remembers merged)
include remembers

/-- Whatever is recorded for a surface is the last of the blocks that were merged for it. -/
theorem of_get? {id : Nat} {record : RecordedStyle} (found : s.styles.get? id = some record) :
    record.placed ∈ merged ∧ styleId record.element = id := by
  have last := remembers.recorded id
  rw [found, Option.map_some] at last
  have member := List.mem_reverse.mp (List.mem_of_find?_eq_some last.symm)
  have same := List.find?_some last.symm
  exact ⟨member, of_decide_eq_true same⟩

theorem isReplayable {record : RecordedStyle} (member : record ∈ s.recordedStyles) :
    s.IsReplayable record := by
  obtain ⟨id, found⟩ := mem_recordedStyles.mp member
  obtain ⟨merges, -⟩ := remembers.of_get? found
  exact ⟨remembers.surfaces _ merges, remembers.isOk _ merges⟩

end Remembers

/-- A replay of the recorded blocks meets no fault, it changes nothing but the window styles and
what is noted, and another replay leaves the values as they are. -/
structure ReplaysStyles (s : Skin) : Prop where
  sound : ∀ before record after, s.recordedStyles = before ++ record :: after →
    (s.replayAll before).1.replayFault? record = none
  frame : s.replayStyles.1 = s.restyled s.replayStyles.1.store.styles s.replayStyles.2
  again : let once := s.replayStyles.1
    let twice := once.replayStyles.1
    twice.store.withoutStyles = once.store.withoutStyles ∧
      ∀ id, twice.store.styles.get? id = once.store.styles.get? id

/-- Of some blocks, the last one whose style is built for a surface. -/
structure IsLastStyle (merged : List PlacedBlock) (id : Nat) (placed : PlacedBlock) : Prop where
  surface : Declaration.surfaceId placed.block = .ok id
  last : ∃ before after, merged = before ++ placed :: after ∧
    ∀ later ∈ after, Declaration.surfaceId later.block ≠ .ok id

/-- The window style of each surface is built from the last block that was merged for it, with
the values that are declared by now. -/
structure ShowsStyles (s : Skin) (merged : List PlacedBlock) : Prop where
  surfaces : ∀ placed ∈ merged,
    Declaration.surfaceId placed.block = .ok (styleId placed.block)
  current : ∀ id, (∃ placed ∈ merged, Declaration.surfaceId placed.block = .ok id) →
    ∃ placed style, IsLastStyle merged id placed ∧ s.store.styles.get? id = some style ∧
      (s.readPlaced placed).1 = .ok style

namespace Remembers

variable {s : Skin} {merged : List PlacedBlock} (remembers : s.Remembers merged)
include remembers

/-- After a replay the style of a recorded block is the one that is built from it. -/
theorem built_replayStyles : ∃ styles notices,
    s.replayStyles = (s.restyled styles notices, notices) ∧
    (∀ id, s.styles.get? id = none → styles.get? id = s.store.styles.get? id) ∧
    ∀ id record, s.styles.get? id = some record →
      ∃ style, (s.readPlaced record.placed).1 = .ok style ∧ styles.get? id = some style := by
  obtain ⟨styles, notices, replays, rebuilt⟩ :=
    replayAll_eq fun record member => remembers.isReplayable member
  refine ⟨styles, notices, s.replayStyles_eq.trans replays, fun id none => ?_,
    fun id record found => ?_⟩
  · refine rebuilt.kept id fun record member same => ?_
    obtain ⟨other, found⟩ := mem_recordedStyles.mp member
    obtain rfl : other = id := (remembers.of_get? found).2.symm.trans same
    exact nomatch none.symm.trans found
  · have listed : record ∈ s.recordedStyles := mem_recordedStyles.mpr ⟨id, found⟩
    obtain ⟨other, member, same, style, reads, shows⟩ :=
      rebuilt.built id ⟨record, listed, (remembers.of_get? found).2⟩
    obtain ⟨otherId, otherFound⟩ := mem_recordedStyles.mp member
    obtain rfl : otherId = id := (remembers.of_get? otherFound).2.symm.trans same
    obtain rfl : other = record := Option.some.inj (otherFound.symm.trans found)
    exact ⟨style, reads, shows⟩

theorem replaysStyles : s.ReplaysStyles := by
  obtain ⟨styles, notices, replays, kept, built⟩ := remembers.built_replayStyles
  refine ⟨fun before record after split => ?_, by rw [replays]; rfl, ?_⟩
  · have replayable (other : RecordedStyle) (member : other ∈ before ++ record :: after) :
        s.IsReplayable other := remembers.isReplayable (split ▸ member)
    obtain ⟨earlier, noted, replayed, -⟩ :=
      replayAll_eq fun other member => replayable other (List.mem_append_left _ member)
    rw [replayed]
    exact ((replayable record (by simp)).restyled earlier noted).replayStyle.1
  · have again : (s.restyled styles notices).Remembers merged :=
      remembers.of_declared (s.restyled_assets styles notices).symm rfl
    obtain ⟨others, more, replaysAgain, keptAgain, builtAgain⟩ := again.built_replayStyles
    dsimp only
    rw [replays]
    dsimp only
    rw [replaysAgain]
    refine ⟨rfl, fun id => ?_⟩
    cases found : s.styles.get? id with
    | none => exact keptAgain id found
    | some record =>
      obtain ⟨style, reads, shows⟩ := built id record found
      obtain ⟨other, readsAgain, showsAgain⟩ := builtAgain id record found
      rw [readPlaced_restyled, reads] at readsAgain
      obtain rfl : style = other := Except.ok.inj readsAgain
      exact showsAgain.trans shows.symm

/-- The last of the blocks for a surface is the one that is recorded. -/
theorem exists_isLastStyle {id : Nat}
    (some : ∃ placed ∈ merged, Declaration.surfaceId placed.block = .ok id) :
    ∃ record, s.styles.get? id = .some record ∧ IsLastStyle merged id record.placed := by
  have surfaces {placed : PlacedBlock} (member : placed ∈ merged) :
      Declaration.surfaceId placed.block = .ok id ↔ styleId placed.block = id := by
    rw [remembers.surfaces placed member, Except.ok.injEq]
  have recorded : (lastStyle? merged id).isSome := by
    obtain ⟨placed, member, surface⟩ := some
    rw [lastStyle?, List.find?_isSome]
    exact ⟨placed, List.mem_reverse.mpr member, by simpa using (surfaces member).mp surface⟩
  obtain ⟨last, found⟩ := Option.isSome_iff_exists.mp recorded
  obtain ⟨record, there, rfl⟩ := Option.map_eq_some_iff.mp ((remembers.recorded id).trans found)
  obtain ⟨same, newer, older, split, others⟩ := List.find?_eq_some_iff_append.mp found
  have order : merged = older.reverse ++ record.placed :: newer.reverse := by
    rw [← List.reverse_reverse merged, split]
    simp
  have member : record.placed ∈ merged := by simp [order]
  refine ⟨record, there, (surfaces member).mpr (of_decide_eq_true same), _, _, order, ?_⟩
  intro later after surface
  have listed : later ∈ merged := by
    rw [order]
    exact List.mem_append_right _ (List.mem_cons_of_mem _ after)
  have other := others later (List.mem_reverse.mp after)
  simp [(surfaces listed).mp surface] at other

theorem showsStyles : s.replayStyles.1.ShowsStyles merged := by
  obtain ⟨styles, notices, replays, -, built⟩ := remembers.built_replayStyles
  refine ⟨remembers.surfaces, fun id some => ?_⟩
  obtain ⟨record, found, isLast⟩ := remembers.exists_isLastStyle some
  obtain ⟨style, reads, shows⟩ := built id record found
  rw [replays]
  exact ⟨record.placed, style, isLast, shows, (readPlaced_restyled ..).symm ▸ reads⟩

end Remembers

theorem ShowsStyles.log {s : Skin} {merged : List PlacedBlock} (shows : s.ShowsStyles merged)
    (notices : Notices) : (s.log notices).ShowsStyles merged := by
  refine ⟨shows.surfaces, fun id some => ?_⟩
  obtain ⟨placed, style, isLast, found, reads⟩ := shows.current id some
  have alike : Assets.Alike (s.log notices).assets s.assets := ((Continues.refl s).log notices).assets
  exact ⟨placed, style, isLast, found, (readPlaced_congr alike rfl placed).symm ▸ reads⟩

/-! Loads. -/

/-- The blocks of the documents that a load comes to, in their order. -/
inductive Loads (s : Skin) : List PlacedBlock → Outcome → Prop
  | file {filename : String} {scope : Scope} {surface : Nat} {blocks : List PlacedBlock}
      {ending : Ending} :
      FlatDocument s scope surface [] (s.assets.resolve scope filename none) s blocks ending →
      (s.load filename scope surface).skin.declared = (blocks.foldl declare s).declared →
      Loads s blocks (s.load filename scope surface)
  | source {source : String} {path : Path} {scope : Scope} {surface : Nat} {root : Element}
      {blocks : List PlacedBlock} {ending : Ending} :
      Markup.readDocument source path.text = .ok root → root.tag = "skin" →
      FlatBlocks s scope surface [] ⟨scope, surface, path.base⟩ s root.children blocks ending →
      (s.loadSource source path scope surface).skin.declared = (blocks.foldl declare s).declared →
      Loads s blocks (s.loadSource source path scope surface)
  | foreign {source : String} {path : Path} {scope : Scope} {surface : Nat} :
      (∀ root, Markup.readDocument source path.text = .ok root → root.tag ≠ "skin") →
      Loads s [] (s.loadSource source path scope surface)

theorem load_loads (s : Skin) (filename : String) (scope : Scope) (surface : Nat) :
    ∃ blocks, s.Loads blocks (s.load filename scope surface) := by
  have tracks : Tracks s s (s.log [.loading (s.assets.resolve scope filename none)]) :=
    ⟨rfl, .refl s, (Continues.refl s).log _⟩
  obtain ⟨blocks, flat, after⟩ := loadPath_follows s scope surface [] _ s _ tracks
  refine ⟨blocks, .file flat ?_⟩
  rw [load, announce_declared, outcome_declared]
  exact after.declared

theorem loadSource_loads (s : Skin) (source : String) (path : Path) (scope : Scope)
    (surface : Nat) : ∃ blocks, s.Loads blocks (s.loadSource source path scope surface) := by
  cases read : Markup.readDocument source path.text with
  | error error => exact ⟨[], .foreign fun root same => nomatch read.symm.trans same⟩
  | ok root =>
    by_cases isSkin : root.tag = "skin"
    · obtain ⟨blocks, flat, after⟩ := loadBlocks_follows
        (fun path t s tracks => loadPath_follows _ scope surface [] path s t tracks)
        ⟨scope, surface, path.base⟩ root.children s s ⟨rfl, .refl s, .refl s⟩
      refine ⟨blocks, .source read isSkin flat ?_⟩
      simp only [loadSource, read, outcome_declared, finish_declared, loadRoot, if_pos isSkin]
      exact after.declared
    · refine ⟨[], .foreign fun other same => ?_⟩
      obtain rfl : root = other := Except.ok.inj (read.symm.trans same)
      exact isSkin

/-- A load that is complete ends with a replay. -/
structure EndsWithReplay (s : Skin) (after : Outcome) : Prop where
  continues : Continues s after.skin
  replays : after.isLoaded → ∃ l notices, Continues s l ∧ after.skin = l.replayStyles.1.log notices

theorem finish_replays {s : Skin} {l : Loaded} (continues : Continues s l.skin)
    (sound : (finish l).fault? = none) :
    ∃ t, Continues s t ∧ (finish l).skin = t.replayStyles.1 := by
  rw [(finish_declared l).1] at sound
  exact ⟨l.skin, continues, by rw [finish, Loaded.andThen_of_none sound]⟩

theorem loadPath_replays (scope : Scope) (surface : Nat) (loading : List Path.Components)
    (path : Path) (s : Skin) : (loadPath scope surface loading path s).fault? = none →
    ∃ t, Continues s t ∧ (loadPath scope surface loading path s).skin = t.replayStyles.1 := by
  fun_cases loadPath scope surface loading path s with
  | case1 => exact nofun
  | case2 => exact nofun
  | case3 _ root =>
    intro sound
    refine finish_replays (holdsOfSteps_continues.loadRoot (fun path t => ?_) s _ root) sound
    exact holdsOfSteps_continues.loadPath scope surface _ path t

theorem outcome_of_fault?_eq_none {l : Loaded} (sound : l.fault? = none) :
    (outcome l).skin = l.skin := by
  simp only [outcome, sound]

theorem announce_skin (after : Outcome) (path : Path) :
    ∃ notices, (after.announce path).skin = after.skin.log notices :=
  ⟨_, rfl⟩

theorem load_endsWithReplay (s : Skin) (filename : String) (scope : Scope) (surface : Nat) :
    s.EndsWithReplay (s.load filename scope surface) := by
  unfold load
  dsimp only
  generalize s.assets.resolve scope filename none = path
  have noted : Continues s (s.log [.loading path]) := (Continues.refl s).log _
  have loads := noted.trans
    (holdsOfSteps_continues.loadPath scope surface [] path (s.log [.loading path]))
  refine ⟨(holdsOfSteps_continues.outcome loads).log _, fun isLoaded => ?_⟩
  rw [announce_isLoaded, outcome_isLoaded] at isLoaded
  obtain ⟨t, continues, replays⟩ := loadPath_replays scope surface [] path _ isLoaded
  obtain ⟨closing, announces⟩ := announce_skin
    (outcome (loadPath scope surface [] path (s.log [.loading path]))) path
  refine ⟨t, closing, noted.trans continues, ?_⟩
  rw [announces, outcome_of_fault?_eq_none isLoaded, replays]

theorem loadSource_endsWithReplay (s : Skin) (source : String) (path : Path) (scope : Scope)
    (surface : Nat) : s.EndsWithReplay (s.loadSource source path scope surface) := by
  unfold loadSource
  split
  · exact ⟨holdsOfSteps_continues.outcome (.refl s), fun isLoaded => nomatch isLoaded⟩
  next root _ =>
    have loads : Continues s (s.loadRoot (loadPath scope surface []) ⟨scope, surface, path.base⟩
        root).skin :=
      holdsOfSteps_continues.loadRoot
        (fun path t => holdsOfSteps_continues.loadPath scope surface [] path t) s _ root
    refine ⟨holdsOfSteps_continues.outcome (holdsOfSteps_continues.finish loads),
      fun isLoaded => ?_⟩
    have sound := (outcome_isLoaded _).mp isLoaded
    obtain ⟨t, continues, replays⟩ := finish_replays loads sound
    exact ⟨t, [], continues, (outcome_of_fault?_eq_none sound).trans replays⟩

theorem Loads.endsWithReplay {s : Skin} {blocks : List PlacedBlock} {after : Outcome}
    (loads : s.Loads blocks after) : s.EndsWithReplay after := by
  cases loads with
  | file => exact s.load_endsWithReplay _ _ _
  | source => exact s.loadSource_endsWithReplay _ _ _ _
  | foreign => exact s.loadSource_endsWithReplay _ _ _ _

theorem Loads.declared {s : Skin} {blocks : List PlacedBlock} {after : Outcome}
    (loads : s.Loads blocks after) : after.skin.declared = (blocks.foldl declare s).declared := by
  cases loads with
  | file _ declares => exact declares
  | source _ _ _ declares => exact declares
  | @foreign source path _ _ foreign =>
    unfold loadSource
    split
    · rfl
    next root read =>
      rw [outcome_declared, (finish_declared _).2, loadRoot, if_neg (foreign root read)]
      rfl

/-- What a skin that can be loaded from has recorded, once a load is added. -/
theorem Loads.remembers {s : Skin} {merged blocks : List PlacedBlock} {after : Outcome}
    (loads : s.Loads blocks after) (remembers : s.Remembers merged) {t : Skin}
    (continues : Continues s t) (same : t.declared = after.skin.declared) :
    t.Remembers (merged ++ s.mergedStyles blocks) := by
  refine (remembers.foldl_declare blocks).of_declared ?_ (same.trans loads.declared)
  exact (s.foldl_declare_continues blocks).assets.trans continues.assets.symm

/-- After a load that is complete the styles are those of the last blocks that were merged. -/
theorem Loads.showsStyles {s : Skin} {merged blocks : List PlacedBlock} {after : Outcome}
    (loads : s.Loads blocks after) (remembers : s.Remembers merged)
    (isLoaded : after.isLoaded) : after.skin.ShowsStyles (merged ++ s.mergedStyles blocks) := by
  obtain ⟨t, notices, continues, replays⟩ := loads.endsWithReplay.replays isLoaded
  have same : t.declared = after.skin.declared := by
    rw [replays]
    exact (declared_replayStyles t).symm
  rw [replays]
  exact (loads.remembers remembers continues same).showsStyles.log notices

/-- The window style blocks that a skin has merged since it was reset, in their order. -/
inductive HasMerged : Skin → List PlacedBlock → Prop
  | fresh (settings : Settings) (journal : Journal) (directories : Directories)
      (translate : String → String) :
      HasMerged (ofSettings settings journal directories translate) []
  | load {s : Skin} {merged blocks : List PlacedBlock} {after : Outcome} : HasMerged s merged →
      s.Loads blocks after → HasMerged after.skin (merged ++ s.mergedStyles blocks)
  | reset {s : Skin} {merged : List PlacedBlock} : HasMerged s merged → HasMerged s.cleared []
  /-- Something is noted, or a setting is changed. -/
  | settle {s t : Skin} {merged : List PlacedBlock} : HasMerged s merged → Continues s t →
      t.store = s.store → t.styles = s.styles → HasMerged t merged

theorem HasMerged.remembers {s : Skin} {merged : List PlacedBlock} (has : s.HasMerged merged) :
    s.Remembers merged := by
  induction has with
  | fresh => exact ⟨fun _ => rfl, by simp, by simp⟩
  | load _ loads ih => exact loads.remembers ih loads.endsWithReplay.continues rfl
  | reset => exact ⟨fun _ => rfl, by simp, by simp⟩
  | settle _ continues store styles ih =>
    exact ih.congr continues.assets.symm (store ▸ .refl _) styles

/-! Starts. -/

theorem HasMerged.log {s : Skin} {merged : List PlacedBlock} (has : s.HasMerged merged)
    (notices : Notices) : (s.log notices).HasMerged merged :=
  has.settle ((Continues.refl s).log notices) rfl rfl

/-- It is known what a skin has merged. -/
def IsReached (s : Skin) : Prop := ∃ merged, s.HasMerged merged

theorem IsReached.load {s : Skin} (reached : s.IsReached) (filename : String) (scope : Scope)
    (surface : Nat) : (s.load filename scope surface).skin.IsReached := by
  obtain ⟨merged, has⟩ := reached
  obtain ⟨blocks, loads⟩ := s.load_loads filename scope surface
  exact ⟨_, has.load loads⟩

theorem IsReached.loadSource {s : Skin} (reached : s.IsReached) (source : String) (path : Path)
    (scope : Scope) (surface : Nat) : (s.loadSource source path scope surface).skin.IsReached := by
  obtain ⟨merged, has⟩ := reached
  obtain ⟨blocks, loads⟩ := s.loadSource_loads source path scope surface
  exact ⟨_, has.load loads⟩

theorem IsReached.settle {s t : Skin} (reached : s.IsReached) (continues : Continues s t)
    (store : t.store = s.store) (styles : t.styles = s.styles) : t.IsReached := by
  obtain ⟨merged, has⟩ := reached
  exact ⟨merged, has.settle continues store styles⟩

namespace Progress

theorem isReached_load {p : Progress} (reached : p.skin.IsReached) (filename : String)
    (scope : Scope) (surface : Nat) : (p.load filename scope surface).2.skin.IsReached := by
  have same : (p.load filename scope surface).2.skin = (p.skin.load filename scope surface).skin := by
    unfold Progress.load
    rfl
  rw [same]
  exact reached.load filename scope surface

theorem isReached_note {p : Progress} (reached : p.skin.IsReached) (notice : Notice) :
    (p.note notice).skin.IsReached :=
  reached.settle ((Continues.refl p.skin).log [notice]) rfl rfl

theorem isReached_loadFirst (role : SkinRole) (load : Progress → String → Bool × Progress)
    (loads : ∀ p filename, p.skin.IsReached → (load p filename).2.skin.IsReached)
    (tried names : List String) {p : Progress} (reached : p.skin.IsReached) :
    (p.loadFirst role load tried names).2.skin.IsReached := by
  induction names generalizing tried p with
  | nil => exact reached
  | cons filename rest ih =>
    have loaded := loads p filename reached
    unfold loadFirst
    generalize load p filename = outcome at loaded ⊢
    obtain ⟨isLoaded, after⟩ := outcome
    split
    · exact ih tried reached
    · cases isLoaded with
      | true => exact loaded
      | false => exact ih _ (isReached_note loaded _)

theorem isReached_setDisplay {outcome : Option String × Progress}
    (reached : outcome.2.skin.IsReached) : (setDisplay outcome).skin.IsReached := by
  obtain ⟨loaded, p⟩ := outcome
  exact reached.settle ((Continues.refl p.skin).of_eq rfl rfl rfl) rfl rfl

theorem isReached_loadDisplay {p : Progress} (reached : p.skin.IsReached) :
    p.loadDisplay.skin.IsReached := by
  unfold loadDisplay
  exact isReached_setDisplay (isReached_loadFirst _ _
    (fun p filename before => isReached_load before filename .display displaySurface) _ _ reached)

theorem isReached_loadSource {p : Progress} (reached : p.skin.IsReached) (source : String) :
    (p.loadSource source).skin.IsReached := by
  unfold loadSource
  exact IsReached.loadSource reached source ⟨""⟩ .current guiSurface

theorem isReached_loadEmergency {p : Progress} (reached : p.skin.IsReached) :
    p.loadEmergency.skin.IsReached := by
  unfold loadEmergency
  exact isReached_loadSource (isReached_note reached .emergency) emergencyDocument

theorem isReached_settlePrimary {outcome : Option String × Progress}
    (reached : outcome.2.skin.IsReached) : (settlePrimary outcome).skin.IsReached := by
  obtain ⟨loaded, p⟩ := outcome
  have chosen : (p.setPrimary loaded).skin.IsReached :=
    reached.settle ((Continues.refl p.skin).of_eq rfl rfl rfl) rfl rfl
  unfold settlePrimary
  dsimp only
  split
  · exact chosen
  · exact isReached_loadEmergency chosen

theorem isReached_loadPrimary {p : Progress} (reached : p.skin.IsReached) :
    p.loadPrimary.skin.IsReached := by
  unfold loadPrimary
  exact isReached_settlePrimary (isReached_loadFirst _ _
    (fun p filename before => isReached_load before filename .current guiSurface) _ _ reached)

theorem isReached_loadUserSkin {p : Progress} (reached : p.skin.IsReached)
    (filename? : Option String) : (p.loadUserSkin filename?).skin.IsReached := by
  cases filename? with
  | some filename => exact isReached_load reached filename .current guiSurface
  | none => exact reached

theorem isReached_loadUser {p : Progress} (reached : p.skin.IsReached) :
    p.loadUser.skin.IsReached := by
  unfold loadUser
  exact isReached_loadUserSkin reached _

theorem isReached_loadAll {p : Progress} (reached : p.skin.IsReached) :
    p.loadAll.skin.IsReached := by
  have first := isReached_load reached emergencySkin .current guiSurface
  have second := isReached_load first subtitleSkin .current guiSurface
  unfold loadAll
  exact isReached_loadUser (isReached_loadPrimary (isReached_loadDisplay second))

theorem isReached_finish {p : Progress} (reached : p.skin.IsReached) :
    p.finish.skin.IsReached := by
  unfold finish
  split
  · exact reached
  · exact reached.settle ((Continues.refl p.skin).of_eq rfl rfl rfl) rfl rfl

end Progress

theorem IsReached.start {s : Skin} (reached : s.IsReached) : s.start.skin.IsReached := by
  have begins : (Progress.mk s []).skin.IsReached := reached
  unfold Skin.start
  exact Progress.isReached_finish (Progress.isReached_loadAll begins)

theorem IsReached.restart {s : Skin} (reached : s.IsReached) : s.restart.skin.IsReached := by
  obtain ⟨merged, has⟩ := reached
  have cleared : s.cleared.IsReached := ⟨[], has.reset⟩
  unfold Skin.restart
  exact cleared.start

/-- A skin that loads, starts and restarts have led to. -/
inductive Arises : Skin → Prop
  | fresh (settings : Settings) (journal : Journal) (directories : Directories)
      (translate : String → String) : Arises (ofSettings settings journal directories translate)
  | load {s : Skin} (filename : String) (scope : Scope) (surface : Nat) : Arises s →
      Arises (s.load filename scope surface).skin
  | loadSource {s : Skin} (source : String) (path : Path) (scope : Scope) (surface : Nat) :
      Arises s → Arises (s.loadSource source path scope surface).skin
  | start {s : Skin} : Arises s → Arises s.start.skin
  | restart {s : Skin} : Arises s → Arises s.restart.skin

theorem Arises.isReached {s : Skin} (arises : s.Arises) : s.IsReached := by
  induction arises with
  | fresh settings journal directories translate =>
    exact ⟨[], .fresh settings journal directories translate⟩
  | load filename scope surface _ ih => exact ih.load filename scope surface
  | loadSource source path scope surface _ ih => exact ih.loadSource source path scope surface
  | start _ ih => exact ih.start
  | restart _ ih => exact ih.restart

/-- Whatever was done with a skin, its window styles can be built again without a fault, which
changes nothing else and needs to be done only once; and after each load that is complete the
style of a surface is that of the last block that was merged for it. -/
theorem styles_replayed :
    (∀ s, Arises s → ∃ merged, s.HasMerged merged) ∧
    ∀ s merged, HasMerged s merged → s.ReplaysStyles ∧
      (∀ filename scope surface, ∃ blocks, s.Loads blocks (s.load filename scope surface)) ∧
      (∀ source path scope surface, ∃ blocks,
        s.Loads blocks (s.loadSource source path scope surface)) ∧
      ∀ blocks after, s.Loads blocks after → after.isLoaded →
        after.skin.ShowsStyles (merged ++ s.mergedStyles blocks) := by
  refine ⟨fun s arises => arises.isReached, fun s merged has => ?_⟩
  refine ⟨has.remembers.replaysStyles, s.load_loads, s.loadSource_loads, ?_⟩
  intro blocks after loads isLoaded
  exact loads.showsStyles has.remembers isLoaded

end Skin
end Skinning
