import Skinning.Proofs.MergedBlocks
import Skinning.Skin.Start

/-! Two loads of the same documents, beside each other. They may begin with other sizes of
surfaces; both then merge the same blocks. What is logged may differ, too, as long as no document
is the log. -/
namespace Skinning

/-- The skins that were chosen, and those that could be loaded. -/
structure Choices where
  primary : String
  display : String
  currentPrimary? : Option String
  currentDisplay? : Option String

/-- The store that a run began with, and the choices that it has made. -/
structure Course where
  store : Store
  choices : Choices

namespace Skin

def choices (s : Skin) : Choices := ⟨s.primary, s.display, s.currentPrimary?, s.currentDisplay?⟩

/-- Two skins that the same documents have led to in two runs, which began with the same values
but for the sizes of surfaces. -/
structure Beside (origin : Skin) (x y : Course) (s t : Skin) : Prop where
  begins : Store.SameOff Key.IsSurface x.store y.store
  store : Store.Paired origin.assets x.store y.store s.store t.store
  fragments : ∀ name, s.fragments.get? name = t.fragments.get? name
  styles : ∀ id, s.styles.get? id = t.styles.get? id
  first : Continues origin s
  second : Continues origin t
  firstChoices : s.choices = x.choices
  secondChoices : t.choices = y.choices

/-- Two loads that end alike, with skins beside each other. -/
structure LoadsBeside (origin : Skin) (x y : Course) (l r : Loaded) : Prop where
  ending : Ending.ofFault? l.fault? = .ofFault? r.fault?
  skins : Beside origin x y l.skin r.skin

variable {origin : Skin} {x y : Course} {s t : Skin}

/-- A merge is complete, or ends a document and none around it. -/
theorem ending_mergeBlock {site other : BlockSite} {block : Element}
    (faults : (s.store.mergeBlock site block).fault? = none ↔
      (t.store.mergeBlock other block).fault? = none) :
    Ending.ofFault? (s.mergeBlock site block).fault? =
      .ofFault? (t.mergeBlock other block).fault? := by
  have stopped {u : Skin} {place : BlockSite} {fault : RegistryFault}
      (faulty : (u.store.mergeBlock place block).fault? = some fault) :
      Ending.ofFault? (u.mergeBlock place block).fault? = .stopped := by
    rw [Skin.mergeBlock, faulty]
    refine ofFault?_of_other fun path cycle => ?_
    exact u.store.mergeBlock_local place block path
      (faulty.trans (congrArg some (SkinFault.registry.inj cycle)))
  cases first : (s.store.mergeBlock site block).fault? with
  | none => rw [Skin.mergeBlock, Skin.mergeBlock, first, faults.mp first]
  | some fault =>
    cases second : (t.store.mergeBlock other block).fault? with
    | none => cases (faults.mpr second).symm.trans first
    | some _ => rw [stopped first, stopped second]

namespace Beside

theorem log (beside : Beside origin x y s t) (notices more : Notices) :
    Beside origin x y (s.log notices) (t.log more) :=
  { beside with first := beside.first.log notices, second := beside.second.log more }

theorem alike (beside : Beside origin x y s t) : Assets.Alike s.assets t.assets :=
  beside.first.assets.trans beside.second.assets.symm

theorem isFile (beside : Beside origin x y s t) (path : Path) :
    s.files.isFile path = t.files.isFile path :=
  Files.isFile_congr beside.alike.shape path

theorem mergeBlock (beside : Beside origin x y s t) (scope : Scope) (base : Path) (surface : Nat)
    (block : Element) :
    LoadsBeside origin x y (s.mergeBlock (s.blockSite scope base surface) block)
      (t.mergeBlock (t.blockSite scope base surface) block) := by
  obtain ⟨stores, faults⟩ := beside.store.mergeBlock beside.begins beside.first.assets
    beside.second.assets scope base surface block
  have skins : Beside origin x y
      { s with store := (s.store.mergeBlock (s.blockSite scope base surface) block).store }
      { t with store := (t.store.mergeBlock (t.blockSite scope base surface) block).store } :=
    { beside with
      store := stores
      first := beside.first.of_eq rfl rfl rfl
      second := beside.second.of_eq rfl rfl rfl }
  exact ⟨ending_mergeBlock faults, skins.log _ _⟩

theorem recordStyle (beside : Beside origin x y s t) (site : DocumentSite) (block : Element) :
    Beside origin x y (s.recordStyle site block) (t.recordStyle site block) := by
  unfold Skin.recordStyle
  split
  · refine { beside with
      styles := fun id => ?_
      first := beside.first.of_eq rfl rfl rfl
      second := beside.second.of_eq rfl rfl rfl }
    simp only [Table.get?_insert, beside.styles]
  · exact beside

theorem addFragment (beside : Beside origin x y s t) (site : DocumentSite) (block : Element) :
    Beside origin x y (s.addFragment site block) (t.addFragment site block) := by
  unfold Skin.addFragment
  split
  · exact beside
  · split
    · refine { beside with
        fragments := fun name => ?_
        first := beside.first.of_eq rfl rfl rfl
        second := beside.second.of_eq rfl rfl rfl }
      simp only [Table.get?_insert, beside.fragments]
    · exact beside

end Beside

namespace LoadsBeside

theorem done (beside : Beside origin x y s t) : LoadsBeside origin x y (.done s) (.done t) :=
  ⟨rfl, beside⟩

theorem failed (beside : Beside origin x y s t) {fault other : SkinFault}
    (alike : Ending.ofFault? (some fault) = .ofFault? (some other)) :
    LoadsBeside origin x y (.failed s fault) (.failed t other) :=
  ⟨alike, beside⟩

variable {l r : Loaded}

theorem complete_iff (loads : LoadsBeside origin x y l r) : l.fault? = none ↔ r.fault? = none := by
  rw [← ofFault?_eq_complete, ← ofFault?_eq_complete, loads.ending]

theorem andThen (loads : LoadsBeside origin x y l r) {next after : Skin → Loaded}
    (goes : ∀ s t, Beside origin x y s t → LoadsBeside origin x y (next s) (after t)) :
    LoadsBeside origin x y (l.andThen next) (r.andThen after) := by
  cases faulty : l.fault? with
  | none =>
    rw [Loaded.andThen_of_none faulty, Loaded.andThen_of_none (loads.complete_iff.mp faulty)]
    obtain ⟨ending, skins⟩ := goes _ _ loads.skins
    exact ⟨ending, skins⟩
  | some fault =>
    cases other : r.fault? with
    | none => nomatch (loads.complete_iff.mpr other).symm.trans faulty
    | some _ =>
      rw [Loaded.andThen_of_fault faulty, Loaded.andThen_of_fault other]
      exact loads

theorem absorb (loads : LoadsBeside origin x y l r) :
    LoadsBeside origin x y l.absorb r.absorb := by
  by_cases cycle : Ending.ofFault? l.fault? = .cycle
  · obtain ⟨path, faulty⟩ := ofFault?_eq_cycle.mp cycle
    obtain ⟨other, faulty'⟩ := ofFault?_eq_cycle.mp (loads.ending.symm.trans cycle)
    rwa [absorb_of_cycle faulty, absorb_of_cycle faulty']
  · obtain ⟨sound, notices, logged⟩ := absorb_of_other cycle
    obtain ⟨sound', more, logged'⟩ := absorb_of_other (loads.ending ▸ cycle)
    refine ⟨by rw [sound, sound'], ?_⟩
    rw [logged, logged']
    exact loads.skins.log notices more

end LoadsBeside

theorem Beside.declareBlock (beside : Beside origin x y s t) (site : DocumentSite)
    (block : Element) :
    LoadsBeside origin x y (s.declareBlock site block) (t.declareBlock site block) := by
  unfold Skin.declareBlock
  split
  · exact .done (beside.addFragment site block)
  · exact (beside.mergeBlock site.scope site.base site.surface block).andThen fun s t beside =>
      .done (beside.recordStyle site block)

/-! Building window styles again. The order of the records is that of their surfaces. -/

theorem recordedStyles_congr (styles : ∀ id, s.styles.get? id = t.styles.get? id) :
    s.recordedStyles = t.recordedStyles := by
  have members (id : Nat) : id ∈ s.styles.keys ↔ id ∈ t.styles.keys := by
    rw [Table.mem_keys_iff, Table.mem_keys_iff, styles]
  have keys : s.styles.keys.Perm t.styles.keys :=
    (List.perm_ext_iff_of_nodup s.styles.keys_nodup t.styles.keys_nodup).mpr members
  have sorted : s.styles.keys.mergeSort (fun a b => a ≤ b) =
      t.styles.keys.mergeSort (fun a b => a ≤ b) := by
    have ordered (keys : List Nat) :
        (keys.mergeSort fun a b => a ≤ b).Pairwise fun a b => decide (a ≤ b) = true := by
      refine List.pairwise_mergeSort (fun a b c first second => ?_) (fun a b => ?_) keys
      · simp only [decide_eq_true_eq] at first second ⊢
        omega
      · simp only [Bool.or_eq_true, decide_eq_true_eq]
        omega
    refine List.Perm.eq_of_pairwise (fun a b _ _ first second => ?_) (ordered _) (ordered _)
      (((List.mergeSort_perm _ _).trans keys).trans (List.mergeSort_perm _ _).symm)
    exact Nat.le_antisymm (of_decide_eq_true first) (of_decide_eq_true second)
  rw [recordedStyles, recordedStyles, sorted, funext styles]

theorem Beside.replayStyle (beside : Beside origin x y s t) (style : RecordedStyle) :
    Beside origin x y (s.replayStyle style).1 (t.replayStyle style).1 :=
  (beside.mergeBlock style.scope style.base style.surface style.element).skins.log _ _

theorem Beside.replayStyles (beside : Beside origin x y s t) :
    Beside origin x y s.replayStyles.1 t.replayStyles.1 := by
  unfold Skin.replayStyles
  rw [recordedStyles_congr beside.styles]
  generalize t.recordedStyles = styles
  generalize ([] : Notices) = notices
  -- What is noted may differ from the second style on.
  let replay (pair : Skin × Notices) (style : RecordedStyle) : Skin × Notices :=
    ((pair.1.replayStyle style).1, pair.2 ++ (pair.1.replayStyle style).2)
  suffices ∀ more, Beside origin x y (styles.foldl replay (s, notices)).1
      (styles.foldl replay (t, more)).1 from this notices
  induction styles generalizing s t notices with
  | nil => exact fun _ => beside
  | cons style rest ih => exact fun _ => ih (beside.replayStyle style) _ _

theorem LoadsBeside.finish {l r : Loaded} (loads : LoadsBeside origin x y l r) :
    LoadsBeside origin x y (finish l) (finish r) :=
  loads.andThen fun _ _ beside => ⟨rfl, beside.replayStyles⟩

/-! Documents. -/

section

variable {load : Path → Skin → Loaded} (loads : ∀ path s t, Beside origin x y s t →
  LoadsBeside origin x y (load path s) (load path t))
include loads

theorem Beside.includeFile (beside : Beside origin x y s t) (site : DocumentSite)
    (block : Element) :
    LoadsBeside origin x y (s.includeFile load site block) (t.includeFile load site block) := by
  unfold Skin.includeFile
  cases block.filled? "filename" with
  | none => exact .done beside
  | some name =>
    have included : s.included site name = t.included site name :=
      beside.alike.resolve site.scope name (some site.base)
    simp only [included, beside.isFile]
    split
    · exact (loads _ s t beside).absorb
    · exact .failed beside rfl

theorem Beside.loadBlocks (site : DocumentSite) (blocks : List Element)
    (beside : Beside origin x y s t) :
    LoadsBeside origin x y (loadBlocks load site s blocks) (loadBlocks load site t blocks) := by
  induction blocks generalizing s t with
  | nil => exact .done beside
  | cons block rest ih =>
    have first : LoadsBeside origin x y (s.loadBlock load site block)
        (t.loadBlock load site block) := by
      unfold loadBlock
      split
      · exact Beside.includeFile loads beside site block
      · exact beside.declareBlock site block
    exact first.andThen fun _ _ => ih

theorem Beside.loadRoot (beside : Beside origin x y s t) (site : DocumentSite) (root : Element) :
    LoadsBeside origin x y (s.loadRoot load site root) (t.loadRoot load site root) := by
  unfold Skin.loadRoot
  split
  · exact Beside.loadBlocks loads site root.children beside
  · exact .failed beside rfl

end

/-- As long as no document is the log, both runs read the same documents. -/
theorem Beside.readFile_ok_iff (settled : origin.IsSettled) (beside : Beside origin x y s t)
    (path : Path) (root : Element) : s.readFile path = .ok root ↔ t.readFile path = .ok root := by
  obtain ⟨notices, logged⟩ := beside.first.readFile path
  obtain ⟨more, again⟩ := beside.second.readFile path
  rw [logged, again]
  exact ⟨settled path root notices more, settled path root more notices⟩

theorem Beside.loadPath (settled : origin.IsSettled) (scope : Scope) (surface : Nat)
    (loading : List Path.Components) (path : Path) (s t : Skin) (beside : Beside origin x y s t) :
    LoadsBeside origin x y (loadPath scope surface loading path s)
      (loadPath scope surface loading path t) := by
  have readable := beside.readFile_ok_iff settled path
  fun_induction Skin.loadPath scope surface loading path s generalizing t with
  | case1 loading path s around =>
    rw [Skin.loadPath, dif_pos around]
    exact .failed beside rfl
  | case2 loading path s new fault unread =>
    rw [Skin.loadPath, dif_neg new]
    split
    next other unread' =>
      refine .failed beside ?_
      rw [ofFault?_of_other (readFile_other unread), ofFault?_of_other (readFile_other unread')]
    next root read => cases unread.symm.trans ((readable root).mpr read)
  | case3 loading path s new root read ih =>
    rw [Skin.loadPath, dif_neg new]
    split
    next other unread' => cases unread'.symm.trans ((readable root).mp read)
    next root' read' =>
      obtain rfl := Except.ok.inj (((readable root).mp read).symm.trans read')
      exact (Beside.loadRoot (fun path s t beside => ih path s t beside
        (beside.readFile_ok_iff settled path)) beside _ root).finish

/-- Outcomes that are alike, with skins beside each other. -/
structure OutcomesBeside (origin : Skin) (x y : Course) (l r : Outcome) : Prop where
  isLoaded : l.isLoaded = r.isLoaded
  skins : Beside origin x y l.skin r.skin

theorem LoadsBeside.outcome {l r : Loaded} (loads : LoadsBeside origin x y l r) :
    OutcomesBeside origin x y (outcome l) (outcome r) := by
  unfold Skin.outcome
  cases faulty : l.fault? with
  | none =>
    rw [loads.complete_iff.mp faulty]
    exact ⟨rfl, loads.skins⟩
  | some fault =>
    cases other : r.fault? with
    | none => nomatch (loads.complete_iff.mpr other).symm.trans faulty
    | some _ => exact ⟨rfl, loads.skins.log _ _⟩

theorem OutcomesBeside.announce {l r : Outcome} (outcomes : OutcomesBeside origin x y l r)
    (path : Path) : OutcomesBeside origin x y (l.announce path) (r.announce path) := by
  obtain ⟨isLoaded, skins⟩ := outcomes
  unfold Outcome.announce
  exact ⟨isLoaded, skins.log _ _⟩

theorem Beside.load (settled : origin.IsSettled) (beside : Beside origin x y s t)
    (filename : String) (scope : Scope) (surface : Nat) :
    OutcomesBeside origin x y (s.load filename scope surface) (t.load filename scope surface) := by
  have path := beside.alike.resolve scope filename none
  unfold Skin.load
  simp only [path]
  generalize t.assets.resolve scope filename none = path
  have logged := beside.log [.loading path] [.loading path]
  exact ((Beside.loadPath settled scope surface [] path _ _ logged).outcome).announce path

theorem Beside.loadSource (settled : origin.IsSettled) (beside : Beside origin x y s t)
    (source : String) (path : Path) (scope : Scope) (surface : Nat) :
    OutcomesBeside origin x y (s.loadSource source path scope surface)
      (t.loadSource source path scope surface) := by
  unfold Skin.loadSource
  cases Markup.readDocument source path.text with
  | error error =>
    have failed : LoadsBeside origin x y (.failed s (.parse error)) (.failed t (.parse error)) :=
      .failed beside rfl
    exact failed.outcome
  | ok root =>
    have loaded := Beside.loadRoot (Beside.loadPath settled scope surface []) beside
      ⟨scope, surface, path.base⟩ root
    exact loaded.finish.outcome

end Skin
end Skinning
