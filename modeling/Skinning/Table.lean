/-! Finite maps. Every key stands in at most one entry. The order of the entries has no
meaning: all questions go through `get?`. -/
namespace Skinning

structure Table (κ α : Type) where
  entries : List (κ × α)
  keys_nodup : (entries.map Prod.fst).Nodup
  deriving Repr

namespace Table

variable {κ α : Type} [DecidableEq κ]

def empty : Table κ α := ⟨[], by simp⟩

instance : Inhabited (Table κ α) := ⟨empty⟩
instance : EmptyCollection (Table κ α) := ⟨empty⟩

def get? (t : Table κ α) (key : κ) : Option α := t.entries.lookup key

def contains (t : Table κ α) (key : κ) : Bool := (t.get? key).isSome

def keys (t : Table κ α) : List κ := t.entries.map Prod.fst

def size (t : Table κ α) : Nat := t.entries.length

def isEmpty (t : Table κ α) : Bool := t.entries.isEmpty

def erase (t : Table κ α) (key : κ) : Table κ α where
  entries := t.entries.filter fun entry => entry.1 ≠ key
  keys_nodup := t.keys_nodup.sublist (List.filter_sublist.map Prod.fst)

/-- The map with a key's value set, whether it had one or not. -/
def insert (t : Table κ α) (key : κ) (value : α) : Table κ α where
  entries := (key, value) :: (t.erase key).entries
  keys_nodup := by
    rw [List.map_cons, List.nodup_cons]
    refine ⟨?_, (t.erase key).keys_nodup⟩
    simp [erase]

theorem lookup_cons_ite (entry : κ × α) (rest : List (κ × α)) (key : κ) :
    (entry :: rest).lookup key = if key = entry.1 then some entry.2 else rest.lookup key := by
  obtain ⟨found, value⟩ := entry
  by_cases same : key = found
  · simp [same]
  · simp [List.lookup_cons, same, beq_false_of_ne same]

theorem lookup_of_fresh {entries : List (κ × α)} {key : κ} (fresh : key ∉ entries.map Prod.fst) :
    entries.lookup key = none := by
  refine List.lookup_eq_none_iff.mpr fun entry member => ?_
  have other : key ≠ entry.1 := fun same => fresh (List.mem_map.mpr ⟨entry, member, same.symm⟩)
  simpa using other

theorem lookup_filter_ne (entries : List (κ × α)) (key other : κ) :
    (entries.filter fun entry => entry.1 ≠ key).lookup other =
      if other = key then none else entries.lookup other := by
  induction entries with
  | nil => simp
  | cons entry rest ih =>
    by_cases dropped : entry.1 = key
    · rw [List.filter_cons_of_neg (by simpa using dropped), ih, lookup_cons_ite, dropped]
      by_cases same : other = key <;> simp [same]
    · rw [List.filter_cons_of_pos (by simpa using dropped), lookup_cons_ite, lookup_cons_ite, ih]
      by_cases same : other = entry.1
      · simp [same, dropped]
      · simp [same]

@[simp] theorem get?_erase (t : Table κ α) (key other : κ) :
    (t.erase key).get? other = if other = key then none else t.get? other :=
  lookup_filter_ne t.entries key other

@[simp] theorem get?_insert (t : Table κ α) (key other : κ) (value : α) :
    (t.insert key value).get? other = if other = key then some value else t.get? other := by
  have others := t.get?_erase key other
  simp only [insert, get?, lookup_cons_ite]
  by_cases same : other = key
  · simp [same]
  · simpa [same, get?] using others

theorem mem_keys_of_get? {t : Table κ α} {key : κ} {value : α}
    (found : t.get? key = some value) : key ∈ t.keys := by
  unfold get? at found
  unfold keys
  generalize t.entries = entries at found
  induction entries with
  | nil => cases found
  | cons entry rest ih =>
    rw [lookup_cons_ite] at found
    split at found
    next same => simp [same]
    · exact List.mem_cons_of_mem _ (ih found)

theorem mem_keys_iff {t : Table κ α} {key : κ} : key ∈ t.keys ↔ (t.get? key).isSome := by
  constructor
  · intro member
    obtain ⟨entry, there, rfl⟩ := List.mem_map.mp member
    cases found : t.get? entry.1 with
    | some _ => rfl
    | none =>
      have missing := List.lookup_eq_none_iff.mp found entry there
      simp at missing
  · intro present
    obtain ⟨value, found⟩ := Option.isSome_iff_exists.mp present
    exact mem_keys_of_get? found

/-- The map of a list of entries; of two values for one key the later one stays. -/
def ofList (entries : List (κ × α)) : Table κ α :=
  entries.foldl (fun t entry => t.insert entry.1 entry.2) empty

def agrees [BEq α] (a b : Table κ α) : Bool :=
  a.size == b.size && a.entries.all fun entry => b.get? entry.1 == some entry.2

end Table
end Skinning
