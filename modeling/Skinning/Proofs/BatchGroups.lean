import Skinning.Proofs.AttributeOrder

/-! The order of a batch once it is sorted: the scaling of images, then all else, then the images,
each as it was given. A scaling is put in front where images are on a screen that is rescaled and
the batch does not say how they are scaled. -/
namespace Skinning

/-- A list that is sorted by a rank is cut at each rank. -/
theorem filter_append_filter_of_sorted {rank : α → Nat} {l : List α}
    (sorted : l.Pairwise fun a b => rank a ≤ rank b) (n : Nat) :
    l.filter (rank · ≤ n) ++ l.filter (n < rank ·) = l := by
  induction l with
  | nil => rfl
  | cons a rest ih =>
    obtain ⟨least, sortedRest⟩ := List.pairwise_cons.mp sorted
    by_cases low : rank a ≤ n
    · rw [List.filter_cons_of_pos (by simpa using low),
        List.filter_cons_of_neg (by simpa using low), List.cons_append, ih sortedRest]
    · -- Behind the first element above the cut there are no others below it.
      have high : ∀ b ∈ a :: rest, n < rank b := by
        refine List.forall_mem_cons.mpr ⟨by omega, fun b member => ?_⟩
        have := least b member
        omega
      rw [List.filter_eq_nil_iff.mpr fun b member => by simpa using high b member,
        List.filter_eq_self.mpr fun b member => by simpa using high b member, List.nil_append]

namespace Batch

variable {batch : Batch} {scale : Scale}

/-- The attributes of a name, in the order in which they stand. -/
def named (batch : Batch) (name : String) : Batch := batch.filter (·.1 = name)

/-- The attributes that are neither the scaling of images nor an image. -/
def others (batch : Batch) : Batch := batch.filter fun a => a.1 ≠ "scale" ∧ a.1 ≠ "pixmap"

/-- The attributes of a rank, in the order in which they stand. -/
def ranked (batch : Batch) (n : Nat) : Batch := batch.filter (rank ·.1 = n)

/-- Sorting does not change the order within a rank. -/
theorem ranked_arrange (batch : Batch) (n : Nat) : batch.arrange.ranked n = batch.ranked n := by
  have alike : (batch.ranked n).Pairwise fun a b => decide (rank a.1 ≤ rank b.1) := by
    refine List.pairwise_of_forall_mem_list fun a first b second => ?_
    have left : rank a.1 = n := of_decide_eq_true (List.mem_filter.mp first).2
    have right : rank b.1 = n := of_decide_eq_true (List.mem_filter.mp second).2
    simp [left, right]
  have kept : (batch.ranked n).Sublist batch.arrange :=
    List.sublist_mergeSort (fun a b c first second => by simp only [decide_eq_true_eq] at *; omega)
      (fun a b => by simp only [Bool.or_eq_true, decide_eq_true_eq]; omega) alike
      List.filter_sublist
  have inside : (batch.ranked n).Sublist (batch.arrange.ranked n) := by
    have filtered := kept.filter (rank ·.1 = n)
    simpa only [ranked, List.filter_filter, Bool.and_self] using filtered
  exact (inside.eq_of_length (batch.arrange_perm.filter _).length_eq.symm).symm

theorem ranked_zero (batch : Batch) : batch.ranked 0 = batch.named "scale" :=
  List.filter_congr fun a _ => by simp only [rank_eq_zero_iff]

theorem ranked_two (batch : Batch) : batch.ranked 2 = batch.named "pixmap" :=
  List.filter_congr fun a _ => by simp only [rank_eq_two_iff]

theorem ranked_one (batch : Batch) : batch.ranked 1 = batch.others := by
  refine List.filter_congr fun a _ => ?_
  have bound := rank_le_two a.1
  have first := @rank_eq_zero_iff a.1
  have last := @rank_eq_two_iff a.1
  rw [decide_eq_decide, ne_eq, ne_eq, ← first, ← last]
  omega

theorem arrange_groups (batch : Batch) :
    batch.arrange = batch.named "scale" ++ batch.others ++ batch.named "pixmap" := by
  have low := filter_append_filter_of_sorted batch.arrange_sorted 1
  have lowest := filter_append_filter_of_sorted
    (batch.arrange_sorted.filter fun a => decide (rank a.1 ≤ 1)) 0
  have zero : (batch.arrange.filter fun a => decide (rank a.1 ≤ 1)).filter (rank ·.1 ≤ 0) =
      batch.arrange.ranked 0 := by
    rw [List.filter_filter]
    refine List.filter_congr fun a _ => ?_
    rw [← Bool.decide_and, decide_eq_decide]
    omega
  have one : (batch.arrange.filter fun a => decide (rank a.1 ≤ 1)).filter (0 < rank ·.1) =
      batch.arrange.ranked 1 := by
    rw [List.filter_filter]
    refine List.filter_congr fun a _ => ?_
    rw [← Bool.decide_and, decide_eq_decide]
    omega
  have two : batch.arrange.filter (1 < rank ·.1) = batch.arrange.ranked 2 := by
    refine List.filter_congr fun a _ => ?_
    have := rank_le_two a.1
    rw [decide_eq_decide]
    omega
  calc batch.arrange
      = batch.arrange.ranked 0 ++ batch.arrange.ranked 1 ++ batch.arrange.ranked 2 := by
        rw [← zero, ← one, ← two, lowest, low]
    _ = batch.named "scale" ++ batch.others ++ batch.named "pixmap" := by
        rw [ranked_arrange, ranked_arrange, ranked_arrange, ranked_zero, ranked_one, ranked_two]

/-- A batch has an image for a screen that is rescaled, and does not say how it is scaled. -/
def IsForced (batch : Batch) (scale : Scale) : Prop :=
  (∃ a ∈ batch, a.1 = "pixmap") ∧
    (scale.x.num ≠ scale.x.den ∨ scale.y.num ≠ scale.y.den) ∧ ∀ a ∈ batch, a.1 ≠ "scale"

instance (batch : Batch) (scale : Scale) : Decidable (batch.IsForced scale) :=
  inferInstanceAs (Decidable (_ ∧ _ ∧ _))

theorem forced_eq (batch : Batch) (scale : Scale) :
    batch.forced scale = if batch.IsForced scale then [("scale", .text "1")] else [] := by
  have condition : (batch.any (·.1 == "pixmap") && !scale.isIdentity &&
      !batch.any (·.1 == "scale")) = true ↔ batch.IsForced scale := by
    simp only [IsForced, Scale.isIdentity, Ratio.isIdentity, Bool.and_eq_true, Bool.not_eq_true',
      List.any_eq_true, List.any_eq_false, beq_iff_eq, Bool.and_eq_false_iff, beq_eq_false_iff_ne,
      ne_eq, and_assoc]
  simp only [forced, condition]

theorem arrange_of_sorted (sorted : batch.Pairwise fun a b => rank a.1 ≤ rank b.1) :
    batch.arrange = batch :=
  List.mergeSort_of_pairwise (by simpa using sorted)

theorem sort_sorted (batch : Batch) (scale : Scale) :
    (batch.sort scale).Pairwise fun a b => rank a.1 ≤ rank b.1 := by
  rw [sort_eq]
  refine List.pairwise_append.mpr ⟨?_, batch.arrange_sorted, fun a first b _ => ?_⟩
  · unfold forced
    split
    · exact List.pairwise_singleton _ _
    · exact .nil
  · obtain rfl := eq_scale_of_mem_forced first
    exact Nat.zero_le _

/-- Nothing is put in front of a batch twice. -/
theorem not_isForced_sort (batch : Batch) (scale : Scale) :
    ¬ (batch.sort scale).IsForced scale := by
  rw [sort_eq, forced_eq]
  have member {a : NamedValue} : a ∈ batch.arrange ↔ a ∈ batch := batch.arrange_perm.mem_iff
  split
  next => exact fun again => again.2.2 _ List.mem_cons_self rfl
  next unforced => simpa only [List.nil_append, IsForced, member] using unforced

/-- A sorted batch is its scalings of images, then all else, then its images, each group in the
order in which it was given, with a scaling in front exactly if one is missing for an image on a
screen that is rescaled. Sorting it once more does not change it. -/
theorem sort_groups (batch : Batch) (scale : Scale) :
    let groups := batch.named "scale" ++ batch.others ++ batch.named "pixmap"
    batch.sort scale =
        (if batch.IsForced scale then [("scale", .text "1")] else []) ++ groups ∧
      groups.Perm batch ∧
      (batch.sort scale).sort scale = batch.sort scale := by
  intro groups
  have arranged : batch.arrange = groups := batch.arrange_groups
  refine ⟨by rw [sort_eq, forced_eq, arranged], arranged ▸ batch.arrange_perm, ?_⟩
  rw [sort_eq (batch.sort scale), forced_eq, if_neg (batch.not_isForced_sort scale),
    arrange_of_sorted (batch.sort_sorted scale), List.nil_append]

end Batch
end Skinning
