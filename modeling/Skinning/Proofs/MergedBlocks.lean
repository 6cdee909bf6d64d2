import Skinning.Proofs.DeclaredKeys
import Skinning.Proofs.DocumentOrder
import Skinning.Proofs.SteadyReading

/-! The same blocks, merged into two stores. If the stores differ in the sizes of surfaces only, the
same blocks are faulty, and what comes out differs in measured values and in sizes that no block
has declared. Which of the measured values it differs in is told by what each block reads: a value
depends on the sizes if the block that declares it would say otherwise for other values that depend
on them. -/
namespace Skinning

def Key.IsSurface : Key → Prop
  | .surface _ => True
  | _ => False

theorem Key.IsSurface.exists_id {key : Key} (size : key.IsSurface) : ∃ id, key = .surface id := by
  cases key with
  | surface id => exact ⟨id, rfl⟩
  | _ => exact size.elim

theorem Key.IsSurface.not_measured {key : Key} (size : key.IsSurface) : ¬ key.Measured := by
  obtain ⟨id, rfl⟩ := size.exists_id
  exact not_false

/-- A store after a block was merged, as far as it could be. -/
def PlacedBlock.merge (assets : Assets) (placed : PlacedBlock) (s : Store) : Store :=
  (s.mergeBlock ⟨assets, placed.site.scope, placed.site.base, placed.site.surface⟩
    placed.block).store

namespace Store

def mergeAll (assets : Assets) (s : Store) (blocks : List PlacedBlock) : Store :=
  blocks.foldl (fun s placed => placed.merge assets s) s

/-- The same values. -/
def Same (s t : Store) : Prop := ∀ key, s.held? key = t.held? key

/-- The same values of all keys but some. -/
def SameOff (keys : Key → Prop) (s t : Store) : Prop :=
  ∀ key, ¬ keys key → s.held? key = t.held? key

/-- The values that could be otherwise after a block if those of `keys` were otherwise before. -/
def Sways (assets : Assets) (s : Store) (placed : PlacedBlock) (keys : Key → Prop) (key : Key) :
    Prop :=
  ∃ t, SameOff keys s t ∧ (placed.merge assets s).held? key ≠ (placed.merge assets t).held? key

/-- The values after some blocks that depend on those of `keys` before them. -/
def Depends (assets : Assets) : Store → List PlacedBlock → (Key → Prop) → Key → Prop
  | _, [], keys => keys
  | s, placed :: rest, keys =>
    Depends assets (placed.merge assets s) rest (s.Sways assets placed keys)

variable {assets : Assets} {a b s t : Store}

theorem Same.refl (s : Store) : s.Same s := fun _ => rfl

theorem Same.trans {r s t : Store} (first : r.Same s) (second : s.Same t) : r.Same t :=
  fun key => (first key).trans (second key)

theorem Same.symm (same : s.Same t) : t.Same s := fun key => (same key).symm

/-- What does not depend on what is different before is the same after. -/
theorem mergeAll_sameOff (blocks : List PlacedBlock) {keys : Key → Prop} (same : SameOff keys s t) :
    SameOff (s.Depends assets blocks keys) (s.mergeAll assets blocks) (t.mergeAll assets blocks) := by
  induction blocks generalizing s t keys with
  | nil => exact same
  | cons placed rest ih =>
    refine ih fun key steady => ?_
    by_contra other
    exact steady ⟨t, same, other⟩

theorem mergeAll_append (s : Store) (blocks : List PlacedBlock) (placed : PlacedBlock) :
    s.mergeAll assets (blocks ++ [placed]) = placed.merge assets (s.mergeAll assets blocks) :=
  List.foldl_append

theorem mergeAll_related {R : Store → Store → Prop}
    (merges : ∀ (placed : PlacedBlock) s t, R s t → R (placed.merge assets s) (placed.merge assets t))
    (blocks : List PlacedBlock) (related : R s t) :
    R (s.mergeAll assets blocks) (t.mergeAll assets blocks) := by
  induction blocks generalizing s t with
  | nil => exact related
  | cons placed rest ih => exact ih (merges placed s t related)

/-- Merging is the same in stores with the same values, wherever the same files are in the same
places. -/
theorem Same.mergeBlock (same : s.Same t) {here there : Assets} (alike : Assets.Alike here there)
    (scope : Scope) (base : Path) (surface : Nat) (block : Element) :
    let left := s.mergeBlock ⟨here, scope, base, surface⟩ block
    let right := t.mergeBlock ⟨there, scope, base, surface⟩ block
    left.store.Same right.store ∧ left.fault? = right.fault? ∧ left.notices = right.notices := by
  refine mergeBlock_related (R := Same) (fun entry s t same key => ?_) (fun d s t same => ?_) block
    same
  · rw [held?_set, held?_set, same key]
  · refine (Declaration.read_congr alike scope base surface s d).trans ?_
    exact d.read_of_agree _ (fun _ => factor_congr (same _)) fun key _ => same key

theorem Same.mergeAll (same : s.Same t) (blocks : List PlacedBlock) :
    (s.mergeAll assets blocks).Same (t.mergeAll assets blocks) :=
  mergeAll_related (fun _ _ _ same => (same.mergeBlock (.refl assets) ..).1) blocks same

theorem mergeDeclarations_size (s : Store) (site : BlockSite) (declarations : List Declaration)
    {id : Nat} (other : id ≠ guiSurface) :
    (s.mergeDeclarations site declarations).store.held? (.surface id) = s.held? (.surface id) := by
  induction declarations generalizing s with
  | nil => rfl
  | cons declaration rest ih =>
    have keys := (declaration.read_keys site s).run []
    simp only [mergeDeclarations]
    generalize (declaration.read site s).run.run [] = read at keys ⊢
    obtain ⟨fault | entries, notices⟩ := read
    · rfl
    · have unnamed : Key.surface id ∉ entries.map Entry.key := by
        rw [keys entries rfl]
        cases declaration <;> simp [Declaration.keys, other]
      exact (ih _).trans (held?_foldl_of_notMem s unnamed)

/-- Blocks declare the size of the main surface alone. -/
theorem merge_size (s : Store) (placed : PlacedBlock) {id : Nat} (other : id ≠ guiSurface) :
    (placed.merge assets s).held? (.surface id) = s.held? (.surface id) := by
  unfold PlacedBlock.merge mergeBlock
  split
  · rfl
  · exact mergeDeclarations_size s _ _ other

theorem mergeAll_size (s : Store) (blocks : List PlacedBlock) {id : Nat} (other : id ≠ guiSurface) :
    (s.mergeAll assets blocks).held? (.surface id) = s.held? (.surface id) := by
  induction blocks generalizing s with
  | nil => rfl
  | cons placed rest ih => exact (ih _).trans (s.merge_size placed other)

/-- The same values but for the sizes of surfaces, and the same factor. -/
structure SameFactor (s t : Store) : Prop where
  values : SameOff Key.IsSurface s t
  factor : s.factor = t.factor

theorem factor_set_of_ne (s : Store) {entry : Entry} (other : entry.key ≠ .surface guiSurface) :
    (s.set entry).factor = s.factor :=
  factor_congr (by rw [held?_set, if_neg other.symm])

theorem SameFactor.set (same : SameFactor s t) (entry : Entry) :
    SameFactor (s.set entry) (t.set entry) := by
  refine ⟨fun key other => ?_, ?_⟩
  · rw [held?_set, held?_set, same.values key other]
  · by_cases main : entry.key = .surface guiSurface
    · exact factor_congr (by rw [held?_set, held?_set, if_pos main.symm, if_pos main.symm])
    · rw [factor_set_of_ne s main, factor_set_of_ne t main, same.factor]

theorem SameFactor.mergeAll (same : SameFactor s t) (blocks : List PlacedBlock) :
    SameFactor (s.mergeAll assets blocks) (t.mergeAll assets blocks) := by
  refine mergeAll_related (fun placed s t same => ?_) blocks same
  refine (mergeBlock_related (fun entry _ _ same => same.set entry) (fun d s t same => ?_)
    placed.block same).1
  refine d.read_of_agree _ (fun _ => same.factor) fun key asks => same.values key fun size => ?_
  obtain ⟨id, rfl⟩ := size.exists_id
  cases d <;> exact asks

/-- Two stores that the same blocks have led to, from `a` and from `b`: the same values unless they
are measured, and for each surface the same size or still that of the beginning. -/
structure Parallel (a b s t : Store) : Prop where
  values : SameOff (fun key => key.Measured ∨ key.IsSurface) s t
  sizes : ∀ id, s.held? (.surface id) = t.held? (.surface id) ∨
    s.held? (.surface id) = a.held? (.surface id) ∧ t.held? (.surface id) = b.held? (.surface id)

namespace Parallel

theorem ofSameOff (begins : SameOff Key.IsSurface a b) : Parallel a b a b :=
  ⟨fun key steady => begins key fun size => steady (.inr size), fun _ => .inr ⟨rfl, rfl⟩⟩

theorem set (parallel : Parallel a b s t) {entry other : Entry} (alike : entry.Alike other) :
    Parallel a b (s.set entry) (t.set other) := by
  refine ⟨fun key steady => ?_, fun id => ?_⟩
  · rw [held?_set, held?_set, ← alike.key, parallel.values key steady]
    by_cases same : key = entry.key
    · rw [if_pos same, if_pos same, alike.value fun measured => steady (.inl (same ▸ measured))]
    · rw [if_neg same, if_neg same]
  · rw [held?_set, held?_set, ← alike.key]
    by_cases same : Key.surface id = entry.key
    · rw [if_pos same, if_pos same, alike.value fun measured => by rwa [← same] at measured]
      exact .inl rfl
    · rw [if_neg same, if_neg same]
      exact parallel.sizes id

theorem foldl_set (parallel : Parallel a b s t) {entries others : List Entry}
    (alike : List.Forall₂ Entry.Alike entries others) :
    Parallel a b (entries.foldl Store.set s) (others.foldl Store.set t) := by
  induction alike generalizing s t with
  | nil => exact parallel
  | cons first _ ih => exact ih (parallel.set first)

theorem colors (parallel : Parallel a b s t) : s.colors.get? = t.colors.get? :=
  colors_congr fun name => parallel.values (.color name) (by simp [Key.Measured, Key.IsSurface])

theorem mergeDeclarations (parallel : Parallel a b s t) (site : BlockSite)
    (declarations : List Declaration) :
    let left := s.mergeDeclarations site declarations
    let right := t.mergeDeclarations site declarations
    Parallel a b left.store right.store ∧ (left.fault? = none ↔ right.fault? = none) := by
  induction declarations generalizing s t with
  | nil => exact ⟨parallel, .rfl⟩
  | cons declaration rest ih =>
    have results := (Declaration.read_alike parallel.colors site declaration).run [] []
    simp only [Store.mergeDeclarations]
    generalize (declaration.read site s).run.run [] = left at results ⊢
    generalize (declaration.read site t).run.run [] = right at results ⊢
    obtain ⟨result, notices⟩ := left
    obtain ⟨other, more⟩ := right
    cases results with
    | ok alike => exact ih (parallel.foldl_set alike)
    | error => exact ⟨parallel, by simp⟩

/-- No block is faulty in one of the stores only. -/
theorem mergeBlock (parallel : Parallel a b s t) (site : BlockSite) (block : Element) :
    let left := s.mergeBlock site block
    let right := t.mergeBlock site block
    Parallel a b left.store right.store ∧ (left.fault? = none ↔ right.fault? = none) := by
  simp only [Store.mergeBlock]
  cases Declaration.ofBlock block with
  | error fault => exact ⟨parallel, .rfl⟩
  | ok declarations => exact parallel.mergeDeclarations site declarations

theorem mergeAll (parallel : Parallel a b s t) (blocks : List PlacedBlock) :
    Parallel a b (s.mergeAll assets blocks) (t.mergeAll assets blocks) :=
  mergeAll_related (fun _ _ _ parallel => (parallel.mergeBlock _ _).1) blocks parallel

end Parallel

/-- Two stores that the same blocks have led to, from `a` and from `b`. -/
def Paired (assets : Assets) (a b s t : Store) : Prop :=
  ∃ blocks, s.Same (a.mergeAll assets blocks) ∧ t.Same (b.mergeAll assets blocks)

namespace Paired

theorem refl (a b : Store) : Paired assets a b a b := ⟨[], .refl a, .refl b⟩

theorem parallel (paired : Paired assets a b s t) (begins : SameOff Key.IsSurface a b) :
    Parallel a b s t := by
  obtain ⟨blocks, led, ledToo⟩ := paired
  have parallel : Parallel a b (a.mergeAll assets blocks) (b.mergeAll assets blocks) :=
    (Parallel.ofSameOff begins).mergeAll blocks
  refine ⟨fun key steady => ?_, fun id => ?_⟩
  · rw [led, ledToo, parallel.values key steady]
  · rw [led, ledToo]
    exact parallel.sizes id

theorem mergeBlock (paired : Paired assets a b s t) (begins : SameOff Key.IsSurface a b)
    {here there : Assets} (first : Assets.Alike here assets) (second : Assets.Alike there assets)
    (scope : Scope) (base : Path) (surface : Nat) (block : Element) :
    let left := s.mergeBlock ⟨here, scope, base, surface⟩ block
    let right := t.mergeBlock ⟨there, scope, base, surface⟩ block
    Paired assets a b left.store right.store ∧ (left.fault? = none ↔ right.fault? = none) := by
  obtain ⟨blocks, led, ledToo⟩ := paired
  obtain ⟨stores, faults, -⟩ := led.mergeBlock first scope base surface block
  obtain ⟨others, otherFaults, -⟩ := ledToo.mergeBlock second scope base surface block
  have parallel : Parallel a b (a.mergeAll assets blocks) (b.mergeAll assets blocks) :=
    (Parallel.ofSameOff begins).mergeAll blocks
  refine ⟨⟨blocks ++ [⟨⟨scope, surface, base⟩, block⟩], ?_, ?_⟩, ?_⟩
  · rwa [mergeAll_append]
  · rwa [mergeAll_append]
  · rw [faults, otherFaults]
    exact (parallel.mergeBlock _ block).2

end Paired
end Store
end Skinning
