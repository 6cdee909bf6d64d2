import Skinning.Skin.State

/-! The sizes of surfaces, from the settings to a new skin. Where the settings have several entries
for a surface they report the size of the first one, while the store of the skin takes over that of
the last. -/
namespace Skinning

namespace Table

variable {κ α : Type} [DecidableEq κ]

theorem get?_foldl_insert (entries : List (κ × α)) (t : Table κ α) (key : κ) :
    (entries.foldl (fun t entry => t.insert entry.1 entry.2) t).get? key =
      ((entries.reverse.find? (·.1 = key)).map Prod.snd).or (t.get? key) := by
  induction entries generalizing t with
  | nil => rfl
  | cons entry rest ih =>
    rw [List.foldl_cons, ih, get?_insert, List.reverse_cons, List.find?_append]
    cases rest.reverse.find? (·.1 = key) with
    | some _ => rfl
    | none => by_cases same : key = entry.1 <;> simp [same, eq_comm]

/-- The last entry of a key decides. -/
theorem get?_ofList (entries : List (κ × α)) (key : κ) :
    (ofList entries).get? key = (entries.reverse.find? (·.1 = key)).map Prod.snd :=
  (get?_foldl_insert entries empty key).trans (Option.or_none)

end Table

namespace Settings

variable {settings : Settings}

/-- The size of a surface by the last entry of its id. -/
def lastSize? (s : Settings) (id : Nat) : Option Size :=
  (s.surfaces.reverse.find? fun surface => surface.id.toNat = id).map Surface.size

/-- An entry before which there is none for its surface. -/
def IsFirst (s : Settings) (entry : Surface) : Prop :=
  ∃ before after, s.surfaces = before ++ entry :: after ∧ ∀ other ∈ before, other.id ≠ entry.id

/-- An entry after which there is none for its surface. -/
def IsLast (s : Settings) (entry : Surface) : Prop :=
  ∃ before after, s.surfaces = before ++ entry :: after ∧ ∀ other ∈ after, other.id ≠ entry.id

/-- New skins have every surface in the size that the settings report, and all others without
extent. -/
def ReachesStore (s : Settings) : Prop :=
  ∀ journal directories translate id,
    (Skin.ofSettings s journal directories translate).store.surfaceSize id =
      (s.surfaceSize? id).getD .zero

theorem surfaceTable_get? (s : Settings) (id : Nat) : s.surfaceTable.get? id = s.lastSize? id := by
  rw [surfaceTable, Table.get?_ofList, ← List.map_reverse, List.find?_map, Option.map_map]
  rfl

/-- The surfaces with another size of one of them, or without it. -/
def surfacesWith (s : Settings) (id : UInt32) (size? : Option Size) : List Surface :=
  s.surfaces.filter (·.id ≠ id) ++ (size?.map fun size => ⟨id, size.width, size.height⟩).toList

theorem lastSize?_surfacesWith (s : Settings) (id : UInt32) (size? : Option Size) (other : Nat) :
    { s with surfaces := s.surfacesWith id size? }.lastSize? other =
      if other = id.toNat then size? else s.lastSize? other := by
  unfold lastSize? surfacesWith
  rw [List.reverse_append, List.find?_append, ← List.filter_reverse, List.find?_filter]
  by_cases same : other = id.toNat
  · have others : s.surfaces.reverse.find?
        (fun a => decide (decide (a.id ≠ id) = true ∧ decide (a.id.toNat = other) = true)) = none := by
      simp only [List.find?_eq_none, same, UInt32.toNat_inj]
      simp
    rw [others, if_pos same]
    cases size? with
    | none => rfl
    | some size => simp [same, Surface.size]
  · have apart : ((size?.map fun size => Surface.mk id size.width size.height).toList.reverse.find?
        fun surface => decide (surface.id.toNat = other)) = none := by
      cases size? <;> simp [Ne.symm same]
    rw [apart, if_neg same, Option.none_or]
    congr 2
    funext surface
    rw [decide_eq_decide]
    simp only [decide_eq_true_eq]
    exact ⟨And.right, fun found => ⟨fun taken => same (by rw [← found, taken]), found⟩⟩

theorem surfaceSize_ofSettings (s : Settings) (journal : Journal) (directories : Directories)
    (translate : String → String) (id : Nat) :
    (Skin.ofSettings s journal directories translate).store.surfaceSize id =
      (s.lastSize? id).getD .zero :=
  congrArg (Option.getD · Size.zero) (s.surfaceTable_get? id)

/-- What is looked for by its number is an entry with the numbers of others before it. -/
theorem find?_id_eq_some_iff {entries : List Surface} {id : Nat} {entry : Surface} :
    entries.find? (fun surface => surface.id.toNat = id) = some entry ↔
      entry.id.toNat = id ∧ ∃ before after, entries = before ++ entry :: after ∧
        ∀ other ∈ before, other.id ≠ entry.id := by
  rw [List.find?_eq_some_iff_append]
  simp only [decide_eq_true_eq, Bool.not_eq_true', decide_eq_false_iff_not]
  refine and_congr_right fun same => ?_
  simp only [← same, ne_eq, ← UInt32.toNat_inj]

theorem surfaceSize?_eq_some_iff {id : Nat} {size : Size} : settings.surfaceSize? id = some size ↔
    ∃ entry, settings.IsFirst entry ∧ entry.id.toNat = id ∧ entry.size = size := by
  simp only [surfaceSize?, Option.map_eq_some_iff, find?_id_eq_some_iff, IsFirst]
  exact exists_congr fun entry => by rw [and_assoc, and_left_comm]

theorem isLast_iff_reverse {entry : Surface} : settings.IsLast entry ↔
    ∃ before after, settings.surfaces.reverse = before ++ entry :: after ∧
      ∀ other ∈ before, other.id ≠ entry.id := by
  constructor
  · rintro ⟨before, after, split, others⟩
    exact ⟨after.reverse, before.reverse, by simp [split], by simpa using others⟩
  · rintro ⟨before, after, split, others⟩
    refine ⟨after.reverse, before.reverse, ?_, by simpa using others⟩
    rw [← List.reverse_reverse settings.surfaces, split]
    simp

theorem lastSize?_eq_some_iff {id : Nat} {size : Size} : settings.lastSize? id = some size ↔
    ∃ entry, settings.IsLast entry ∧ entry.id.toNat = id ∧ entry.size = size := by
  simp only [lastSize?, Option.map_eq_some_iff, find?_id_eq_some_iff, isLast_iff_reverse]
  exact exists_congr fun entry => by rw [and_assoc, and_left_comm]

/-- A surface has a first entry if it has a last one. -/
theorem isSome_surfaceSize? (s : Settings) (id : Nat) :
    (s.surfaceSize? id).isSome = (s.lastSize? id).isSome := by
  rw [surfaceSize?, lastSize?, Option.isSome_map, Option.isSome_map, Bool.eq_iff_iff,
    List.find?_isSome, List.find?_isSome]
  simp only [List.mem_reverse]

/-- A new skin has each surface in the size of its last entry. That is what the settings report
exactly if the first and the last entry of every surface give the same size. -/
theorem reachesStore_iff (settings : Settings) :
    (settings.ReachesStore ↔ ∀ first last, settings.IsFirst first → settings.IsLast last →
      first.id = last.id → first.size = last.size) ∧
    ∀ journal directories translate id,
      (Skin.ofSettings settings journal directories translate).store.surfaceSize id =
        (settings.lastSize? id).getD .zero := by
  refine ⟨⟨fun reaches first last isFirst isLast same => ?_,
    fun agree journal directories translate id => ?_⟩, settings.surfaceSize_ofSettings⟩
  · have sizes := reaches ⟨⟨∅⟩, none, ""⟩ ⟨⟨""⟩, ⟨""⟩, ⟨""⟩, ⟨""⟩⟩ id last.id.toNat
    have reported := surfaceSize?_eq_some_iff.mpr ⟨first, isFirst, congrArg UInt32.toNat same, rfl⟩
    have taken := lastSize?_eq_some_iff.mpr ⟨last, isLast, rfl, rfl⟩
    rw [surfaceSize_ofSettings, reported, taken] at sizes
    exact sizes.symm
  · rw [surfaceSize_ofSettings]
    have both := settings.isSome_surfaceSize? id
    cases reported : settings.surfaceSize? id with
    | none =>
      have missing : settings.lastSize? id = none := by
        rw [← Option.not_isSome_iff_eq_none, ← both, reported]
        exact Bool.false_ne_true
      rw [missing]
    | some size =>
      rw [reported] at both
      obtain ⟨other, taken⟩ := Option.isSome_iff_exists.mp both.symm
      obtain ⟨first, isFirst, firstId, rfl⟩ := surfaceSize?_eq_some_iff.mp reported
      obtain ⟨last, isLast, lastId, rfl⟩ := lastSize?_eq_some_iff.mp taken
      have same : first.id = last.id := UInt32.toNat_inj.mp (firstId.trans lastId.symm)
      rw [taken, agree first last isFirst isLast same]

/-- Two entries for the main surface. -/
def twofold : Settings := { bare with surfaces := [⟨0, 1280, 720⟩, ⟨0, 1920, 1080⟩] }

theorem twofold_not_reachesStore : ¬ twofold.ReachesStore := fun reaches =>
  absurd (reaches ⟨⟨∅⟩, none, ""⟩ ⟨⟨""⟩, ⟨""⟩, ⟨""⟩, ⟨""⟩⟩ id 0) (by decide)

end Settings
end Skinning
