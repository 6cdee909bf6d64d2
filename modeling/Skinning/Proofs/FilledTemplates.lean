import Mathlib.Data.List.Chain
import Skinning.Binding.Embedded
import Skinning.Proofs.FileSuffixes

/-! How a template is filled. Its places cut it into pieces, in one way only, and the filled text is
these pieces with a number in every place for which there is one. A number and the pieces around it
never make up a mark, so with enough numbers none is left. -/
namespace Skinning.EmbeddedSkin

/-- What marks a place. -/
def mark : List Char := ['%', 'd']

/-- The piece before the first place of a template, and those behind each place. -/
structure IsCut (template first : List Char) (rest : List (List Char)) : Prop where
  joined : mark.intercalate (first :: rest) = template
  unmarked : ∀ piece ∈ first :: rest, ¬ mark <:+: piece

/-- The text in a place: the number times the factor, or the mark where there is no number. -/
def slot (factor : Float) (value? : Option Int) : List Char :=
  value?.elim mark fun value => (toString (truncate (Float.ofInt value * factor))).toList

/-- The pieces with the texts of their places between them. -/
def weave (factor : Float) (values : List Int) (first : List Char) (rest : List (List Char)) :
    List Char :=
  first ++ (rest.mapIdx fun i piece => slot factor values[i]? ++ piece).flatten

variable {factor : Float} {values : List Int} {template first : List Char} {rest : List (List Char)}

/-! Marks. -/

/-- Characters one after the other that do not make up a mark. -/
def Apart (c d : Char) : Prop := c = '%' → d ≠ 'd'

theorem unmarked_iff_isChain {cs : List Char} : ¬ mark <:+: cs ↔ cs.IsChain Apart := by
  rw [List.isChain_iff_forall_rel_of_append_cons_cons]
  constructor
  · rintro unmarked c d before after rfl rfl rfl
    exact unmarked ⟨before, after, by simp [mark]⟩
  · rintro apart ⟨before, after, rfl⟩
    exact @apart '%' 'd' before after (by simp [mark]) rfl rfl

theorem unmarked_nil : ¬ mark <:+: [] := by decide

theorem unmarked_of_cons {c : Char} {cs : List Char} (unmarked : ¬ mark <:+: c :: cs) :
    ¬ mark <:+: cs :=
  fun inside => unmarked (List.infix_cons_iff.mpr (.inr inside))

/-! The cut. -/

/-- The pieces behind the first one, each with the mark before it. -/
def behind (rest : List (List Char)) : List Char := rest.flatMap (mark ++ ·)

@[simp]
theorem behind_nil : behind [] = [] := rfl

@[simp]
theorem behind_cons (piece : List Char) (rest : List (List Char)) :
    behind (piece :: rest) = mark ++ (piece ++ behind rest) := by
  simp [behind]

theorem intercalate_eq (first : List Char) (rest : List (List Char)) :
    mark.intercalate (first :: rest) = first ++ behind rest := by
  induction rest generalizing first with
  | nil => simp
  | cons piece rest ih => rw [List.intercalate_cons_cons, ih, behind_cons, List.append_assoc]

theorem isCut_iff : IsCut template first rest ↔
    first ++ behind rest = template ∧ ∀ piece ∈ first :: rest, ¬ mark <:+: piece := by
  rw [← intercalate_eq]
  exact ⟨fun cut => ⟨cut.joined, cut.unmarked⟩, fun cut => ⟨cut.1, cut.2⟩⟩

theorem exists_isCut (template : List Char) : ∃ first rest, IsCut template first rest := by
  simp only [isCut_iff, List.forall_mem_cons]
  induction template with
  | nil => exact ⟨[], [], rfl, unmarked_nil, by simp⟩
  | cons c cs ih =>
    obtain ⟨first, rest, rfl, firstUnmarked, unmarked⟩ := ih
    by_cases begins : mark <+: c :: first
    · obtain ⟨tail, same⟩ := begins
      obtain ⟨rfl, rfl⟩ := List.cons.inj same
      exact ⟨[], tail :: rest, by simp [mark], unmarked_nil,
        List.forall_mem_cons.mpr ⟨unmarked_of_cons firstUnmarked, unmarked⟩⟩
    · refine ⟨c :: first, rest, rfl, ?_, unmarked⟩
      rw [List.infix_cons_iff, not_or]
      exact ⟨begins, firstUnmarked⟩

/-- A piece does not go on into the mark behind it. -/
theorem eq_nil_of_behind {piece tail : List Char} {rest others : List (List Char)}
    (unmarked : ¬ mark <:+: piece ++ tail) (same : behind rest = tail ++ behind others) :
    tail = [] := by
  cases rest with
  | nil => exact (List.append_eq_nil_iff.mp same.symm).1
  | cons next rest =>
    match tail with
    | [] => rfl
    | [c] => cases others <;> simp [mark] at same
    | c :: d :: tail =>
      simp only [behind_cons, mark, List.cons_append, List.cons.injEq] at same
      obtain ⟨rfl, rfl, -⟩ := same
      exact absurd ⟨piece, tail, by simp [mark]⟩ unmarked

theorem first_unique {piece other : List Char} {rest others : List (List Char)}
    (unmarked : ¬ mark <:+: piece) (unmarked' : ¬ mark <:+: other)
    (same : piece ++ behind rest = other ++ behind others) :
    piece = other ∧ behind rest = behind others := by
  rcases List.append_eq_append_iff.mp same with ⟨tail, rfl, later⟩ | ⟨tail, rfl, later⟩
  · obtain rfl := eq_nil_of_behind unmarked' later
    exact ⟨by simp, later⟩
  · obtain rfl := eq_nil_of_behind unmarked later
    exact ⟨by simp, later.symm⟩

theorem behind_unique {rest others : List (List Char)}
    (unmarked : ∀ piece ∈ rest, ¬ mark <:+: piece)
    (unmarked' : ∀ piece ∈ others, ¬ mark <:+: piece) (same : behind rest = behind others) :
    rest = others := by
  induction rest generalizing others with
  | nil => cases others <;> simp [mark] at same ⊢
  | cons piece rest ih =>
    cases others with
    | nil => simp [mark] at same
    | cons other others =>
      obtain ⟨pieceUnmarked, unmarked⟩ := List.forall_mem_cons.mp unmarked
      obtain ⟨otherUnmarked, unmarked'⟩ := List.forall_mem_cons.mp unmarked'
      rw [behind_cons, behind_cons, List.append_cancel_left_eq] at same
      obtain ⟨samePiece, later⟩ := first_unique pieceUnmarked otherUnmarked same
      rw [samePiece, ih unmarked unmarked' later]

theorem IsCut.unique {other : List Char} {others : List (List Char)}
    (cut : IsCut template first rest) (also : IsCut template other others) :
    first = other ∧ rest = others := by
  rw [isCut_iff, List.forall_mem_cons] at cut also
  obtain ⟨joined, firstUnmarked, unmarked⟩ := cut
  obtain ⟨joined', otherUnmarked, unmarked'⟩ := also
  obtain ⟨same, later⟩ := first_unique firstUnmarked otherUnmarked (joined.trans joined'.symm)
  exact ⟨same, behind_unique unmarked unmarked' later⟩

/-! Filling. -/

theorem fillChars_cons {c : Char} {cs : List Char} (apart : ∀ d ∈ cs.head?, Apart c d) :
    fillChars factor values (c :: cs) = c :: fillChars factor values cs := by
  rw [fillChars]
  · rintro tail rfl rfl rfl
    exact apart _ rfl rfl rfl
  · rintro value later tail rfl rfl rfl
    exact apart _ rfl rfl rfl

theorem fillChars_mark (cs : List Char) : fillChars factor values (mark ++ cs) =
    slot factor values.head? ++ fillChars factor values.tail cs := by
  cases values <;> rfl

/-- A piece is copied as it is. -/
theorem fillChars_piece {piece : List Char} (unmarked : ¬ mark <:+: piece)
    (rest : List (List Char)) : fillChars factor values (piece ++ behind rest) =
      piece ++ fillChars factor values (behind rest) := by
  have last : ∀ d ∈ (behind rest).head?, d ≠ 'd' := by cases rest <;> simp [mark]
  rw [unmarked_iff_isChain] at unmarked
  induction piece with
  | nil => rfl
  | cons c piece ih =>
    obtain ⟨apart, unmarked⟩ := List.isChain_cons.mp unmarked
    rw [List.cons_append, fillChars_cons, ih unmarked, List.cons_append]
    cases piece with
    | nil => exact fun d member _ => last d member
    | cons => exact apart

theorem fillChars_behind (unmarked : ∀ piece ∈ rest, ¬ mark <:+: piece) :
    fillChars factor values (behind rest) =
      (rest.mapIdx fun i piece => slot factor values[i]? ++ piece).flatten := by
  induction rest generalizing values with
  | nil => cases values <;> rfl
  | cons piece rest ih =>
    obtain ⟨pieceUnmarked, unmarked⟩ := List.forall_mem_cons.mp unmarked
    rw [behind_cons, fillChars_mark, fillChars_piece pieceUnmarked, ih unmarked]
    simp [List.mapIdx_cons, List.head?_eq_getElem?]

theorem IsCut.fillChars_eq (cut : IsCut template first rest) :
    fillChars factor values template = weave factor values first rest := by
  obtain ⟨rfl, unmarked⟩ := isCut_iff.mp cut
  obtain ⟨firstUnmarked, unmarked⟩ := List.forall_mem_cons.mp unmarked
  rw [fillChars_piece firstUnmarked, fillChars_behind unmarked, weave]

/-! What is filled in. -/

theorem slot_some_ne_nil (value : Int) : slot factor (some value) ≠ [] := Text.int_ne_nil _

theorem slot_some_notMem {c : Char} (other : ¬ c.isDigit ∧ c ≠ '-') (value : Int) :
    c ∉ slot factor (some value) :=
  Text.uncut_int _ other

/-- What has neither character of a mark keeps the pieces around it apart. -/
theorem unmarked_append {before inside after : List Char} (nonempty : inside ≠ [])
    (percent : '%' ∉ inside) (letter : 'd' ∉ inside) (unmarked : ¬ mark <:+: before)
    (unmarked' : ¬ mark <:+: after) : ¬ mark <:+: before ++ (inside ++ after) := by
  rw [unmarked_iff_isChain] at unmarked unmarked' ⊢
  have own : inside.IsChain Apart := unmarked_iff_isChain.mp fun ⟨lead, tail, same⟩ =>
    percent (same ▸ by simp [mark])
  refine List.isChain_append.mpr ⟨unmarked, List.isChain_append.mpr ⟨own, unmarked', ?_⟩, ?_⟩
  · rintro c last d - rfl
    exact absurd (List.mem_of_getLast? last) percent
  · rintro c - d next - rfl
    rw [List.head?_append_of_ne_nil _ nonempty] at next
    exact letter (List.mem_of_head? next)

theorem weave_unmarked (filled : rest.length ≤ values.length)
    (unmarked : ∀ piece ∈ first :: rest, ¬ mark <:+: piece) :
    ¬ mark <:+: weave factor values first rest := by
  induction rest generalizing first values with
  | nil => simpa [weave] using unmarked
  | cons piece rest ih =>
    obtain ⟨firstUnmarked, unmarked⟩ := List.forall_mem_cons.mp unmarked
    obtain ⟨value, values, rfl⟩ := List.exists_cons_of_length_pos (Nat.zero_lt_of_lt filled)
    have step : weave factor (value :: values) first (piece :: rest) =
        first ++ (slot factor (some value) ++ weave factor values piece rest) := by
      simp [weave, List.mapIdx_cons]
    rw [step]
    exact unmarked_append (slot_some_ne_nil value) (slot_some_notMem (by decide) value)
      (slot_some_notMem (by decide) value) firstUnmarked
      (ih (Nat.le_of_succ_le_succ filled) unmarked)

/-- Numbers beyond the places make no difference. -/
theorem weave_take : weave factor (values.take rest.length) first rest =
    weave factor values first rest := by
  have same : (rest.mapIdx fun i piece => slot factor (values.take rest.length)[i]? ++ piece) =
      rest.mapIdx fun i piece => slot factor values[i]? ++ piece :=
    List.ext_getElem? fun i => by
      rcases Nat.lt_or_ge i rest.length with inside | outside
      · simp [List.getElem?_take_of_lt inside]
      · simp [List.getElem?_eq_none outside]
  rw [weave, same, weave]

/-- A template is cut into pieces at its places, in one way only, and filled with the numbers in
order. A place without a number keeps its mark, a number without a place is not used, and a text
with a number for every place has no mark. -/
theorem fill_weaves (template : String) (values : List Int) (factor : Float) :
    (∃! pieces : List Char × List (List Char), IsCut template.toList pieces.1 pieces.2) ∧
    ∀ first rest, IsCut template.toList first rest →
      (fill template values factor).toList = weave factor values first rest ∧
      fill template (values.take rest.length) factor = fill template values factor ∧
      (rest.length ≤ values.length → ¬ mark <:+: (fill template values factor).toList) := by
  refine ⟨?_, fun first rest cut => ?_⟩
  · obtain ⟨first, rest, cut⟩ := exists_isCut template.toList
    refine ⟨(first, rest), cut, fun pieces also => ?_⟩
    exact Prod.ext_iff.mpr (also.unique cut)
  · have filled (values : List Int) :
        (fill template values factor).toList = weave factor values first rest := by
      rw [fill, String.toList_ofList, cut.fillChars_eq]
    refine ⟨filled values, ?_, fun enough => ?_⟩
    · rw [← String.toList_inj, filled, filled, weave_take]
    · rw [filled]
      exact weave_unmarked enough cut.unmarked

theorem fill_weaves_signed :
    IsCut "%%d%d".toList ['%'] [[], []] ∧
    (fill "%%d%d" [-7, 3, 9] 1.5).toList = weave 1.5 [-7, 3, 9] ['%'] [[], []] ∧
    fill "%%d%d" [-7, 3] 1.5 = fill "%%d%d" [-7, 3, 9] 1.5 ∧
    ¬ mark <:+: (fill "%%d%d" [-7, 3, 9] 1.5).toList := by
  have cut : IsCut "%%d%d".toList ['%'] [[], []] := ⟨by decide, by decide⟩
  obtain ⟨filled, used, unmarked⟩ := (fill_weaves "%%d%d" [-7, 3, 9] 1.5).2 _ _ cut
  exact ⟨cut, filled, used, unmarked (by decide)⟩

example : fill "%%d%d" [-7, 3, 9] 1.5 = "%-104" := by decide +kernel

end Skinning.EmbeddedSkin
