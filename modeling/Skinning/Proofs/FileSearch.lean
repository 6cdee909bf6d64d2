import Skinning.Assets

/-! Where a relative name is found. The search settles on a directory first: the first in which
the name is present, or else the scope's own. -/
namespace Skinning

/-- What a relative name ends in is what the path that it is joined to ends in. -/
theorem Path.join_append {dir : Path} {name : String} {tail : String}
    (relative : ¬ (⟨name⟩ : Path).isAbsolute) (longer : ¬ (⟨name ++ tail⟩ : Path).isAbsolute) :
    dir.join ⟨name ++ tail⟩ = ⟨(dir.join ⟨name⟩).text ++ tail⟩ := by
  by_cases empty : dir.text.isEmpty
  · simp [join, empty]
  · by_cases asks : dir.asksDirectory <;>
      simp [join, empty, asks, relative, longer, String.append_assoc]

namespace Assets

section

variable (assets : Assets) (scope : Scope) (name : String) (base : Option Path)

/-- The directories that are searched, in their order. -/
def searched : List Path :=
  base.toList ++ (assets.directories.roots scope).1 :: (assets.directories.roots scope).2

/-- The directory that a relative name is taken from. -/
def directoryFor : Path :=
  ((assets.searched scope base).find? fun dir => assets.files.isPresent (dir.join ⟨name⟩)).getD
    (assets.directories.roots scope).1

end

variable {assets : Assets} {scope : Scope} {name : String} {base : Option Path}

theorem resolve_eq_join (relative : ¬ (⟨name⟩ : Path).isAbsolute) :
    assets.resolve scope name base = (assets.directoryFor scope name base).join ⟨name⟩ := by
  have candidates : assets.candidates scope ⟨name⟩ base =
      (assets.searched scope base).map (·.join ⟨name⟩) := rfl
  have notAbsolute : (⟨name⟩ : Path).isAbsolute = false := by simpa using relative
  simp only [resolve, notAbsolute, candidates, List.find?_map, directoryFor, Function.comp_def]
  cases (assets.searched scope base).find? fun dir => assets.files.isPresent (dir.join ⟨name⟩) <;>
    rfl

/-- Where a name is nowhere present, it is missing from the scope's own directory. -/
theorem directoryFor_of_absent
    (absent : ∀ dir ∈ assets.searched scope base, ¬ assets.files.isPresent (dir.join ⟨name⟩)) :
    assets.directoryFor scope name base = (assets.directories.roots scope).1 := by
  have none : ((assets.searched scope base).find? fun dir =>
      assets.files.isPresent (dir.join ⟨name⟩)) = none := List.find?_eq_none.mpr absent
  rw [directoryFor, none, Option.getD_none]

theorem resolve_of_base_present {dir : Path} (relative : ¬ (⟨name⟩ : Path).isAbsolute)
    (present : assets.files.isPresent (dir.join ⟨name⟩)) :
    assets.resolve scope name (some dir) = dir.join ⟨name⟩ := by
  rw [resolve_eq_join relative]
  simp [directoryFor, searched, present]

/-- A base in which a name is not present has no part in the search. -/
theorem resolve_of_base_absent {dir : Path} (relative : ¬ (⟨name⟩ : Path).isAbsolute)
    (absent : ¬ assets.files.isPresent (dir.join ⟨name⟩)) :
    assets.resolve scope name (some dir) = assets.resolve scope name none := by
  rw [resolve_eq_join relative, resolve_eq_join relative]
  simp [directoryFor, searched, absent]

/-- Two bases lead a name to one path exactly if each that has the name leads to the path that
the other leads to. -/
theorem resolve_eq_resolve_iff {dir other : Path} (relative : ¬ (⟨name⟩ : Path).isAbsolute) :
    assets.resolve scope name (some dir) = assets.resolve scope name (some other) ↔
      (assets.files.isPresent (dir.join ⟨name⟩) →
        dir.join ⟨name⟩ = assets.resolve scope name (some other)) ∧
      (assets.files.isPresent (other.join ⟨name⟩) →
        assets.resolve scope name (some dir) = other.join ⟨name⟩) := by
  constructor
  · intro same
    refine ⟨fun present => ?_, fun present => ?_⟩
    · rw [← same, resolve_of_base_present relative present]
    · rw [same, resolve_of_base_present relative present]
  · rintro ⟨first, second⟩
    by_cases here : assets.files.isPresent (dir.join ⟨name⟩)
    · rw [resolve_of_base_present relative here, first here]
    by_cases there : assets.files.isPresent (other.join ⟨name⟩)
    · rw [resolve_of_base_present relative there, second there]
    · rw [resolve_of_base_absent relative here, resolve_of_base_absent relative there]

end Assets
end Skinning
