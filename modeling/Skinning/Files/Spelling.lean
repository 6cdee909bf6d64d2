import Skinning.Files.Tree

/-! Only finitely many paths can be followed, as none has more bytes than `Path.limit`. A
search that opens each path at most once comes to an end, however paths are spelled. -/
namespace Skinning.Path

noncomputable def characters : List Char := (List.range 0x110000).map Char.ofNat

theorem mem_characters (c : Char) : c ∈ characters := by
  refine List.mem_map.mpr ⟨c.toNat, List.mem_range.mpr ?_, Char.ofNat_toNat c⟩
  have valid := c.valid
  simp only [UInt32.isValidChar, Nat.isValidChar] at valid
  simp only [Char.toNat]
  omega

noncomputable def texts : Nat → List String
  | 0 => [""]
  | n + 1 => "" :: characters.flatMap fun c => (texts n).map (String.singleton c ++ ·)

theorem ofList_mem_texts (cs : List Char) (n : Nat) (short : (String.ofList cs).utf8ByteSize ≤ n) :
    String.ofList cs ∈ texts n := by
  induction cs generalizing n with
  | nil => cases n <;> simp [texts]
  | cons c rest ih =>
    rw [String.ofList_cons, String.utf8ByteSize_append, String.utf8ByteSize_singleton] at short
    have := c.utf8Size_pos
    cases n with
    | zero => omega
    | succ n =>
      rw [String.ofList_cons]
      refine List.mem_cons_of_mem _ (List.mem_flatMap.mpr ⟨c, mem_characters c, ?_⟩)
      exact List.mem_map.mpr ⟨_, ih n (by omega), rfl⟩

/-- All paths that can be followed, and others. The list is not to be computed. -/
@[irreducible] noncomputable def spellings : List Path := (texts limit).map Path.mk

theorem mem_spellings {path : Path} {place : Location} (starts : path.start = .ok place) :
    path ∈ spellings := by
  obtain ⟨text⟩ := path
  simp only [start] at starts
  split at starts
  · contradiction
  split at starts
  · contradiction
  split at starts
  · contradiction
  next short =>
    have member := ofList_mem_texts text.toList limit (by rw [String.ofList_toList]; omega)
    rw [String.ofList_toList] at member
    rw [spellings]
    exact List.mem_map.mpr ⟨text, member, rfl⟩

noncomputable def unopened (opened : List Components) : Nat :=
  (spellings.filter fun path => !opened.contains path.components).length

theorem unopened_cons_lt {path : Path} {place : Location} {opened : List Components}
    (starts : path.start = .ok place) (new : ¬ opened.contains path.components) :
    unopened (path.components :: opened) < unopened opened := by
  have fewer : (spellings.filter fun p => !(path.components :: opened).contains p.components) =
      (spellings.filter fun p => !opened.contains p.components).filter
        fun p => p.components != path.components := by
    rw [List.filter_filter]
    congr 1
    funext p
    rw [List.contains_cons, Bool.not_or, bne]
  rw [unopened, fewer]
  refine List.length_filter_lt_length_iff_exists.mpr ⟨path, ?_, by simp⟩
  exact List.mem_filter.mpr ⟨mem_spellings starts, by simpa using new⟩

end Skinning.Path
