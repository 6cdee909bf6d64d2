import Skinning.Proofs.StoreEntries
import Skinning.Proofs.Surroundings

/-! What merging a block depends on: the block, the places of files, and the store without
the window styles. No declaration is read from a window style, so that styles can be built
again at any time. -/
namespace Skinning

namespace Store

/-- What a store was told, without the window styles that were built from it. -/
def withoutStyles (s : Store) : Store := { s with styles := ∅ }

end Store

namespace Declaration

theorem readStyle_withoutStyles (site : BlockSite) (s : Store) (block : Element) :
    readStyle site s.withoutStyles block = readStyle site s block :=
  readStyle_of_agree site block rfl rfl rfl rfl

theorem read_withoutStyles (site : BlockSite) (s : Store) (d : Declaration) :
    d.read site s.withoutStyles = d.read site s := by
  refine d.read_of_agree site (fun _ => rfl) fun key asks => ?_
  cases key with
  | style id => cases d <;> exact asks.elim
  | _ => rfl

section

variable {a b : Assets} (alike : Assets.Alike a b) (scope : Scope) (base : Path) (surface : Nat)
include alike

theorem loadPixmap_congr :
    loadPixmap ⟨a, scope, base, surface⟩ = loadPixmap ⟨b, scope, base, surface⟩ := by
  funext filename
  unfold loadPixmap
  dsimp only
  rw [alike.resolve, alike.loadPixmap]

theorem readSwitchPixmap_congr (e : Element) :
    readSwitchPixmap ⟨a, scope, base, surface⟩ e = readSwitchPixmap ⟨b, scope, base, surface⟩ e := by
  have isFile : a.files.isFile = b.files.isFile := funext (Files.isFile_congr alike.shape)
  unfold readSwitchPixmap
  rw [loadPixmap_congr alike]
  dsimp only
  simp only [alike.resolve, isFile]

theorem readFace_congr (e : Element) :
    readFace ⟨a, scope, base, surface⟩ e = readFace ⟨b, scope, base, surface⟩ e := by
  have isFile : a.files.isFile = b.files.isFile := funext (Files.isFile_congr alike.shape)
  unfold readFace
  dsimp only
  simp only [alike.resolve, isFile]

theorem fallbackEntries_congr :
    fallbackEntries ⟨a, scope, base, surface⟩ = fallbackEntries ⟨b, scope, base, surface⟩ := by
  unfold fallbackEntries
  dsimp only
  rw [alike.resolve, Files.isFile_congr alike.shape]

theorem readBorderSet_congr :
    readBorderSet ⟨a, scope, base, surface⟩ = readBorderSet ⟨b, scope, base, surface⟩ := by
  have borders : readBorder ⟨a, scope, base, surface⟩ = readBorder ⟨b, scope, base, surface⟩ := by
    funext set style e
    unfold readBorder
    rw [loadPixmap_congr alike]
  funext style e
  unfold readBorderSet
  rw [borders]

theorem readStyle_congr (s : Store) (block : Element) :
    readStyle ⟨a, scope, base, surface⟩ s block = readStyle ⟨b, scope, base, surface⟩ s block := by
  rw [readStyle, readStyle, readBorderSet_congr alike]

/-- A declaration says the same wherever the same files are in the same places. -/
theorem read_congr (s : Store) (d : Declaration) :
    d.read ⟨a, scope, base, surface⟩ s = d.read ⟨b, scope, base, surface⟩ s := by
  cases d with
  | switchPixmap e => rw [read, read, readSwitchPixmap_congr alike]
  | face e => exact readFace_congr alike scope base surface e
  | fallbackFace => rw [read, read, fallbackEntries_congr alike]
  | style id block => rw [read, read, readStyle_congr alike]
  | _ => rfl

end
end Declaration

namespace Store

section

/-! Two stores in a relation that setting an entry keeps. What reads the same from such stores
merges alike into them. -/

variable {R : Store → Store → Prop} {here there : BlockSite} {s t : Store}
  (sets : ∀ entry s t, R s t → R (s.set entry) (t.set entry))
  (reads : ∀ (d : Declaration) s t, R s t → d.read here s = d.read there t)
include sets

theorem foldl_set_related (entries : List Entry) (related : R s t) :
    R (entries.foldl set s) (entries.foldl set t) := by
  induction entries generalizing s t with
  | nil => exact related
  | cons entry rest ih => exact ih (sets entry s t related)

include reads

theorem mergeDeclarations_related (declarations : List Declaration) (related : R s t) :
    let left := s.mergeDeclarations here declarations
    let right := t.mergeDeclarations there declarations
    R left.store right.store ∧ left.fault? = right.fault? ∧ left.notices = right.notices := by
  induction declarations generalizing s t with
  | nil => exact ⟨related, rfl, rfl⟩
  | cons declaration rest ih =>
    simp only [mergeDeclarations, reads declaration s t related]
    rcases (declaration.read there t).run.run [] with ⟨fault | entries, notices⟩
    · exact ⟨related, rfl, rfl⟩
    · obtain ⟨stores, faults, more⟩ := ih (foldl_set_related sets entries related)
      exact ⟨stores, faults, congrArg (notices ++ ·) more⟩

theorem mergeBlock_related (block : Element) (related : R s t) :
    let left := s.mergeBlock here block
    let right := t.mergeBlock there block
    R left.store right.store ∧ left.fault? = right.fault? ∧ left.notices = right.notices := by
  simp only [mergeBlock]
  cases Declaration.ofBlock block with
  | error fault => exact ⟨related, rfl, rfl⟩
  | ok declarations => exact mergeDeclarations_related sets reads declarations related

end

theorem set_withoutStyles (s : Store) (entry : Entry) :
    (s.withoutStyles.set entry).withoutStyles = (s.set entry).withoutStyles := by
  cases entry <;> rfl

/-- The outcome of merging a block depends on the places of files and on the store without its
window styles. -/
theorem mergeBlock_congr {a b : Assets} (alike : Assets.Alike a b) (scope : Scope)
    (base : Path) (surface : Nat) {s t : Store} (same : s.withoutStyles = t.withoutStyles)
    (block : Element) :
    let left := s.mergeBlock ⟨a, scope, base, surface⟩ block
    let right := t.mergeBlock ⟨b, scope, base, surface⟩ block
    left.store.withoutStyles = right.store.withoutStyles ∧ left.fault? = right.fault? ∧
      left.notices = right.notices := by
  refine mergeBlock_related (R := fun s t => s.withoutStyles = t.withoutStyles)
    (fun entry s t same => ?_) (fun d s t same => ?_) block same
  · rw [← set_withoutStyles, same, set_withoutStyles]
  · rw [Declaration.read_congr alike, ← Declaration.read_withoutStyles, same,
      Declaration.read_withoutStyles]

/-- Merging a window style builds that style and leaves all else alone. -/
theorem mergeBlock_style (s : Store) (site : BlockSite) {block : Element}
    (isStyle : block.tag = "windowstyle") :
    (s.mergeBlock site block).store.withoutStyles = s.withoutStyles := by
  simp only [mergeBlock, Declaration.ofBlock, isStyle]
  cases Declaration.surfaceId block with
  | error fault => rfl
  | ok id =>
    have read : (Declaration.style id block).read site s =
        (fun style => [Entry.style id style]) <$> Declaration.readStyle site s block := rfl
    simp only [Except.map, mergeDeclarations, read, ExceptT.run_map, StateT.run_map]
    rcases (Declaration.readStyle site s block).run.run [] with ⟨fault | style, notices⟩ <;> rfl

end Store
end Skinning
