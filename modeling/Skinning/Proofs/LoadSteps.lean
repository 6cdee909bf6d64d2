import Skinning.Skin.Load

/-! What each step of a load keeps, a whole load keeps: relations of the store, or of the skin,
before and after a step. -/
namespace Skinning

/-- A relation of stores that setting an entry is in. -/
structure Store.HoldsOfSets (R : Store → Store → Prop) : Prop where
  refl : ∀ s, R s s
  trans : ∀ {r s t}, R r s → R s t → R r t
  set : ∀ s entry, R s (s.set entry)

namespace Store.HoldsOfSets

variable {R : Store → Store → Prop} (holds : HoldsOfSets R)
include holds

theorem foldl_set (s : Store) (entries : List Entry) : R s (entries.foldl Store.set s) := by
  induction entries generalizing s with
  | nil => exact holds.refl s
  | cons entry rest ih => exact holds.trans (holds.set s entry) (ih _)

theorem mergeDeclarations (s : Store) (site : BlockSite) (declarations : List Declaration) :
    R s (s.mergeDeclarations site declarations).store := by
  induction declarations generalizing s with
  | nil => exact holds.refl s
  | cons declaration rest ih =>
    rw [Store.mergeDeclarations]
    split
    · exact holds.refl s
    · exact holds.trans (holds.foldl_set s _) (ih _)

theorem mergeBlock (s : Store) (site : BlockSite) (block : Element) :
    R s (s.mergeBlock site block).store := by
  unfold Store.mergeBlock
  split
  · exact holds.refl s
  · exact holds.mergeDeclarations s site _

end Store.HoldsOfSets

namespace Skin

/-- A relation of skins that every step of a load is in. -/
structure HoldsOfSteps (R : Skin → Skin → Prop) : Prop where
  refl : ∀ s, R s s
  trans : ∀ {r s t}, R r s → R s t → R r t
  log : ∀ s notices, R s (s.log notices)
  merge : ∀ (s : Skin) site block, R s { s with store := (s.store.mergeBlock site block).store }
  record : ∀ s site block, R s (s.recordStyle site block)
  fragment : ∀ s site block, R s (s.addFragment site block)

theorem store_recordStyle (s : Skin) (site : DocumentSite) (block : Element) :
    (s.recordStyle site block).store = s.store := by
  unfold recordStyle
  split <;> rfl

theorem store_addFragment (s : Skin) (site : DocumentSite) (block : Element) :
    (s.addFragment site block).store = s.store := by
  unfold addFragment
  split
  · rfl
  · split <;> rfl

/-- The store changes by setting entries only. -/
theorem holdsOfSteps_store {R : Store → Store → Prop} (holds : Store.HoldsOfSets R) :
    HoldsOfSteps fun s t => R s.store t.store where
  refl s := holds.refl s.store
  trans := holds.trans
  log s _ := holds.refl s.store
  merge s site block := holds.mergeBlock s.store site block
  record s site block := by
    rw [store_recordStyle]
    exact holds.refl s.store
  fragment s site block := by
    rw [store_addFragment]
    exact holds.refl s.store

namespace HoldsOfSteps

variable {R : Skin → Skin → Prop} (holds : HoldsOfSteps R) {r : Skin} {l : Loaded}
include holds

theorem absorb (loaded : R r l.skin) : R r l.absorb.skin := by
  unfold Loaded.absorb
  split
  · exact loaded
  · exact loaded
  · exact holds.trans loaded (holds.log _ _)

theorem andThen {next : Skin → Loaded} (first : R r l.skin) (second : ∀ t, R t (next t).skin) :
    R r (l.andThen next).skin := by
  cases faults : l.fault? with
  | some fault => rwa [Loaded.andThen_of_fault faults]
  | none =>
    rw [Loaded.andThen_of_none faults]
    exact holds.trans first (second l.skin)

theorem mergeBlock (s : Skin) (site : BlockSite) (block : Element) :
    R s (s.mergeBlock site block).skin :=
  holds.trans (holds.merge s site block) (holds.log _ _)

theorem declareBlock (s : Skin) (site : DocumentSite) (block : Element) :
    R s (s.declareBlock site block).skin := by
  unfold Skin.declareBlock
  split
  · exact holds.fragment s site block
  · exact holds.andThen (holds.mergeBlock s _ block) fun t => holds.record t site block

theorem replayStyle (s : Skin) (style : RecordedStyle) : R s (s.replayStyle style).1 :=
  holds.trans (holds.mergeBlock s _ style.element) (holds.log _ _)

theorem replayStyles (s : Skin) : R s s.replayStyles.1 := by
  unfold Skin.replayStyles
  generalize s.recordedStyles = styles
  generalize ([] : Notices) = notices
  induction styles generalizing s notices with
  | nil => exact holds.refl s
  | cons style rest ih => exact holds.trans (holds.replayStyle s style) (ih _ _)

theorem finish (loaded : R r l.skin) : R r (finish l).skin :=
  holds.andThen loaded holds.replayStyles

section

variable {load : Path → Skin → Loaded} (loads : ∀ path t, R t (load path t).skin)
include loads

theorem loadBlock (s : Skin) (site : DocumentSite) (block : Element) :
    R s (s.loadBlock load site block).skin := by
  unfold Skin.loadBlock
  split
  · unfold includeFile
    split
    · exact holds.refl s
    · dsimp only
      split
      · exact holds.absorb (loads _ s)
      · exact holds.refl s
  · exact holds.declareBlock s site block

theorem loadBlocks (site : DocumentSite) (blocks : List Element) (s : Skin) :
    R s (loadBlocks load site s blocks).skin := by
  induction blocks generalizing s with
  | nil => exact holds.refl s
  | cons block rest ih => exact holds.andThen (holds.loadBlock loads s site block) ih

theorem loadRoot (s : Skin) (site : DocumentSite) (root : Element) :
    R s (s.loadRoot load site root).skin := by
  unfold Skin.loadRoot
  split
  · exact holds.loadBlocks loads site root.children s
  · exact holds.refl s

end

theorem loadPath (scope : Scope) (surface : Nat) (loading : List Path.Components) (path : Path)
    (s : Skin) : R s (loadPath scope surface loading path s).skin := by
  fun_induction Skin.loadPath with
  | case1 => exact holds.refl _
  | case2 => exact holds.refl _
  | case3 loading path s _ root _ ih => exact holds.finish (holds.loadRoot ih s _ root)

theorem outcome (loaded : R r l.skin) : R r (outcome l).skin := by
  unfold Skin.outcome
  split
  · exact loaded
  · exact holds.trans loaded (holds.log _ _)

theorem load (s : Skin) (filename : String) (scope : Scope) (surface : Nat) :
    R s (s.load filename scope surface).skin := by
  have loads := holds.loadPath scope surface [] (s.assets.resolve scope filename none)
    (s.log [.loading (s.assets.resolve scope filename none)])
  exact holds.trans (holds.outcome (holds.trans (holds.log s _) loads)) (holds.log _ _)

theorem loadSource (s : Skin) (source : String) (path : Path) (scope : Scope) (surface : Nat) :
    R s (s.loadSource source path scope surface).skin := by
  unfold Skin.loadSource
  split
  · exact holds.outcome (holds.refl s)
  next root _ =>
    exact holds.outcome (holds.finish (holds.loadRoot
      (fun path t => holds.loadPath scope surface [] path t) s _ root))

end HoldsOfSteps

end Skin
end Skinning
