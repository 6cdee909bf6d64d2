import Mathlib.Data.List.TakeWhile
import Skinning.Proofs.FileSuffixes
import Skinning.Proofs.Numerals
import Skinning.Widget.Flags

/-! The radius of corners and the list of words that says which corners it applies to. A radius
without a list applies to all corners. So is one with a blank list meant to, but that applies to
none. -/
namespace Skinning

namespace Text

/-- Blanks around a text. -/
def Padded (cs padded : List Char) : Prop :=
  ∃ before after, (∀ c ∈ before ++ after, isBlank c) ∧ padded = before ++ cs ++ after

theorem padded_trimChars (padded : List Char) : Padded (trimChars padded) padded := by
  have left : padded.takeWhile isBlank ++ trimLeft padded = padded := List.takeWhile_append_dropWhile
  have right : trimChars padded ++ ((trimLeft padded).reverse.takeWhile isBlank).reverse =
      trimLeft padded := by
    rw [trimChars, trimRight, ← List.reverse_append, List.takeWhile_append_dropWhile,
      List.reverse_reverse]
  refine ⟨_, _, fun c member => ?_, by rw [List.append_assoc, right, left]⟩
  rcases List.mem_append.mp member with before | after
  · exact List.mem_takeWhile_imp before
  · exact List.mem_takeWhile_imp (List.mem_reverse.mp after)

theorem trimChars_append {before after : List Char} (blank : ∀ c ∈ before ++ after, isBlank c)
    (cs : List Char) : trimChars (before ++ cs ++ after) = trimChars cs := by
  obtain ⟨blankBefore, blankAfter⟩ := List.forall_mem_append.mp blank
  have right (cs : List Char) : trimRight (cs ++ after) = trimRight cs := by
    rw [trimRight, List.reverse_append, List.dropWhile_append_of_pos, trimRight]
    exact fun c member => blankAfter c (List.mem_reverse.mp member)
  rw [trimChars, trimLeft, List.append_assoc, List.dropWhile_append_of_pos blankBefore,
    List.dropWhile_append, trimChars, trimLeft]
  split
  next nothing =>
    rw [List.isEmpty_iff.mp nothing, List.dropWhile_eq_nil_iff.mpr blankAfter]
  · exact right _

/-- A text without blanks is what is left exactly if there are only blanks around it. -/
theorem trimChars_eq_iff {cs padded : List Char} (unblank : ∀ c ∈ cs, isBlank c = false) :
    trimChars padded = cs ↔ Padded cs padded := by
  constructor
  · rintro rfl
    exact padded_trimChars padded
  · rintro ⟨before, after, blank, rfl⟩
    rw [trimChars_append blank, trimChars_of_unblank unblank]

theorem cut?_of_uncut {sep : Char} {text : String} (uncut : sep ∉ text.toList) :
    cut? sep text = none := by
  have whole (cs : List Char) (uncut : sep ∉ cs) : cutChars? sep cs = none := by
    induction cs with
    | nil => rfl
    | cons c rest ih =>
      rw [List.mem_cons, not_or] at uncut
      rw [cutChars?, if_neg (Ne.symm uncut.1), ih uncut.2, Option.map_none]
  rw [cut?, whole _ uncut, Option.map_none]

theorem cut?_append {sep : Char} {lead : String} (uncut : sep ∉ lead.toList) (tail : String) :
    cut? sep (lead ++ String.singleton sep ++ tail) = some (lead, tail) := by
  simp [cut?, cutChars?_append uncut]

/-- What is trimmed and read is an integer between blanks. -/
theorem readInt32_trim {s : String} {n : Int} : readInt32 (trim s) = .ok n ↔
    ∃ numeral, Padded numeral s.toList ∧ Signed 10 numeral n ∧ Bounds.int32.Holds n := by
  rw [readInt32_eq_ok_iff, trim, String.toList_ofList]
  constructor
  · rintro ⟨signed, holds⟩
    exact ⟨_, padded_trimChars _, signed, holds⟩
  · rintro ⟨numeral, padded, signed, holds⟩
    rw [(trimChars_eq_iff (signed.unblank isBase_ten)).mpr padded]
    exact ⟨signed, holds⟩

end Text

inductive Corner where
  | topLeft
  | topRight
  | bottomLeft
  | bottomRight
  deriving DecidableEq, Repr

/-- A corner goes by its own name and by those of the two edges that meet there. -/
def Corner.words : Corner → List String
  | topLeft => ["topLeft", "top", "left"]
  | topRight => ["topRight", "top", "right"]
  | bottomLeft => ["bottomLeft", "bottom", "left"]
  | bottomRight => ["bottomRight", "bottom", "right"]

namespace Corners

def has (corners : Corners) : Corner → Bool
  | .topLeft => corners.topLeft
  | .topRight => corners.topRight
  | .bottomLeft => corners.bottomLeft
  | .bottomRight => corners.bottomRight

theorem ext_has {a b : Corners} (same : ∀ corner, a.has corner = b.has corner) : a = b := by
  have topLeft : a.topLeft = b.topLeft := same .topLeft
  have topRight : a.topRight = b.topRight := same .topRight
  have bottomLeft : a.bottomLeft = b.bottomLeft := same .bottomLeft
  have bottomRight : a.bottomRight = b.bottomRight := same .bottomRight
  cases a
  cases b
  simp_all

@[simp]
theorem has_none (corner : Corner) : none.has corner = false := by cases corner <;> rfl

@[simp]
theorem has_all (corner : Corner) : all.has corner = true := by cases corner <;> rfl

@[simp]
theorem has_union (a b : Corners) (corner : Corner) :
    (a.union b).has corner = (a.has corner || b.has corner) := by
  cases corner <;> rfl

theorem has_foldl_union (corners : List Corners) (first : Corners) (corner : Corner) :
    (corners.foldl union first).has corner =
      (first.has corner || corners.any fun next => next.has corner) := by
  induction corners generalizing first with
  | nil => simp
  | cons next rest ih => simp [ih, Bool.or_assoc]

theorem ofWord?_has {word : String} {corner : Corner} :
    (∃ corners, ofWord? word = some corners ∧ corners.has corner) ↔ word ∈ corner.words := by
  unfold ofWord?
  split <;> cases corner <;> simp_all [has, Corner.words]

/-- The pieces of a list are between its commas, and one of them is a word for the corner with
nothing but blanks around it. -/
def Names (list : String) (corner : Corner) : Prop :=
  ∃ pieces : List (List Char), [','].intercalate pieces = list.toList ∧
    (∀ piece ∈ pieces, ',' ∉ piece) ∧
    ∃ word ∈ corner.words, ∃ piece ∈ pieces, Text.Padded word.toList piece

theorem trim_eq_word_iff {corner : Corner} {word : String} (named : word ∈ corner.words)
    (piece : List Char) :
    Text.trim (String.ofList piece) = word ↔ Text.Padded word.toList piece := by
  have unblank : corner.words.all fun word => word.toList.all fun c => !Text.isBlank c := by
    cases corner <;> decide
  simp only [List.all_eq_true, Bool.not_eq_true'] at unblank
  rw [← Text.trimChars_eq_iff (unblank word named), Text.trim, String.toList_ofList,
    ← String.toList_inj, String.toList_ofList]

theorem names_iff {list : String} {corner : Corner} : Names list corner ↔
    ∃ piece ∈ Text.split ',' list, Text.trim piece ∈ corner.words := by
  simp only [Text.split, Text.splitChars_eq_splitOn, List.mem_map, exists_exists_and_eq_and]
  constructor
  · rintro ⟨pieces, joined, uncut, word, named, piece, among, padded⟩
    have cut : list.toList.splitOn ',' = pieces := by
      rw [← joined, List.splitOn_intercalate ',' uncut (List.ne_nil_of_mem among)]
    exact ⟨piece, cut ▸ among, (trim_eq_word_iff named piece).mpr padded ▸ named⟩
  · rintro ⟨piece, among, named⟩
    refine ⟨_, List.intercalate_splitOn ',', fun piece member => ?_, _, named, piece, among,
      (trim_eq_word_iff named piece).mp rfl⟩
    rw [← Text.splitChars_eq_splitOn] at member
    exact Text.uncut_of_mem_splitChars member

/-- The corners of a list are those that it names, in whatever order and however often. -/
theorem ofList_has {list : String} {corner : Corner} :
    (ofList list).has corner ↔ Names list corner := by
  rw [ofList, has_foldl_union, has_none, Bool.false_or, names_iff]
  simp only [List.any_eq_true, List.mem_filterMap]
  constructor
  · rintro ⟨corners, ⟨piece, among, read⟩, has⟩
    exact ⟨piece, among, ofWord?_has.mp ⟨corners, read, has⟩⟩
  · rintro ⟨piece, among, named⟩
    obtain ⟨corners, read, has⟩ := ofWord?_has.mpr named
    exact ⟨corners, ⟨piece, among, read⟩, has⟩

theorem not_names_of_blank {list : String} (blank : ∀ c ∈ list.toList, Text.isBlank c)
    (corner : Corner) : ¬ Names list corner := by
  have uncut : ',' ∉ list.toList := fun member => absurd (blank ',' member) (by decide)
  rw [names_iff, Text.split_of_uncut uncut]
  simp only [List.mem_singleton, exists_eq_left, Text.trim, Text.trimChars_of_blank blank]
  cases corner <;> decide

end Corners

namespace CornerRadius

/-- The text of a radius and, behind the first `;`, a list. -/
inductive Parts : String → String → Option String → Prop where
  | alone {radius : String} : ';' ∉ radius.toList → Parts radius radius none
  | listed {text radius list : String} : text = radius ++ String.singleton ';' ++ list →
      ';' ∉ radius.toList → Parts text radius (some list)

/-- A number in 32 bits, between blanks. -/
def IsRadius (radius : String) (n : Int) : Prop :=
  ∃ numeral, Text.Padded numeral radius.toList ∧ Text.Signed 10 numeral n ∧
    Text.Bounds.int32.Holds n

def IsBlank (list : String) : Prop := ∀ c ∈ list.toList, Text.isBlank c

/-- Without a list all corners are meant, as they are by a blank list. -/
def Means (list : Option String) (corner : Corner) : Prop :=
  ∀ words, list = some words → IsBlank words ∨ Corners.Names words corner

/-- Without a list all corners are covered, with one those that it names. -/
def Covers (list : Option String) (corner : Corner) : Prop :=
  ∀ words, list = some words → Corners.Names words corner

/-- A radius is read exactly if there is one, and applies to the corners by the rule. -/
structure ReadsBy (rule : Option String → Corner → Prop) (text : String) : Prop where
  succeeds : ∀ radius list, Parts text radius list →
    ((ofString? text).isSome ↔ ∃ n, IsRadius radius n)
  reads : ∀ radius list cr, Parts text radius list → ofString? text = some cr →
    IsRadius radius cr.radius ∧ ∀ corner, cr.corners.has corner ↔ rule list corner

theorem exists_parts (text : String) : ∃ radius list, Parts text radius list := by
  by_cases cut : ';' ∈ text.toList
  · obtain ⟨radius, list, split, uncut⟩ := List.eq_append_cons_of_mem cut
    have joined : text = String.ofList radius ++ String.singleton ';' ++ String.ofList list := by
      rw [← String.toList_inj, split]
      simp
    exact ⟨_, _, .listed joined (by rwa [String.toList_ofList])⟩
  · exact ⟨text, none, .alone cut⟩

theorem ofString?_of_parts {text radius : String} {list : Option String}
    (parts : Parts text radius list) {cr : CornerRadius} : ofString? text = some cr ↔
      IsRadius radius cr.radius ∧ cr.corners = list.elim Corners.all Corners.ofList := by
  rw [IsRadius, ← Text.readInt32_trim]
  obtain ⟨n, corners⟩ := cr
  cases parts with
  | alone uncut =>
    simp only [ofString?, Text.cut?_of_uncut uncut, Option.elim_none]
    cases Text.readInt32 (Text.trim text) <;> simp [eq_comm]
  | listed joined uncut =>
    simp only [ofString?, joined, Text.cut?_append uncut, Option.elim_some]
    cases Text.readInt32 (Text.trim radius) <;> simp [eq_comm]

theorem elim_has (list : Option String) (corner : Corner) :
    (list.elim Corners.all Corners.ofList).has corner ↔ Covers list corner := by
  cases list with
  | none => simp [Covers]
  | some words => simp [Covers, Corners.ofList_has]

theorem readsBy_covers (text : String) : ReadsBy Covers text := by
  refine ⟨fun radius list parts => ?_, fun radius list cr parts read => ?_⟩
  · rw [Option.isSome_iff_exists]
    constructor
    · rintro ⟨cr, read⟩
      exact ⟨_, ((ofString?_of_parts parts).mp read).1⟩
    · rintro ⟨n, isRadius⟩
      exact ⟨⟨n, _⟩, (ofString?_of_parts parts).mpr ⟨isRadius, rfl⟩⟩
  · obtain ⟨isRadius, corners⟩ := (ofString?_of_parts parts).mp read
    exact ⟨isRadius, fun corner => by rw [corners, elim_has]⟩

/-- A radius with a blank list. -/
def IsUnlisted (text : String) : Prop :=
  ∃ radius words n, Parts text radius (some words) ∧ IsBlank words ∧ IsRadius radius n

theorem readsBy_means_iff {text : String} : ReadsBy Means text ↔ ¬ IsUnlisted text := by
  have covers := readsBy_covers text
  constructor
  · rintro means ⟨radius, words, n, parts, blank, isRadius⟩
    obtain ⟨cr, read⟩ := Option.isSome_iff_exists.mp ((covers.succeeds _ _ parts).mpr ⟨n, isRadius⟩)
    have meant : cr.corners.has .topLeft :=
      ((means.reads _ _ cr parts read).2 .topLeft).mpr fun _ same =>
        .inl (Option.some.inj same ▸ blank)
    have covered := ((covers.reads _ _ cr parts read).2 .topLeft).mp meant words rfl
    exact Corners.not_names_of_blank blank _ covered
  · refine fun listed => ⟨covers.succeeds, fun radius list cr parts read => ?_⟩
    obtain ⟨isRadius, corners⟩ := covers.reads radius list cr parts read
    refine ⟨isRadius, fun corner => (corners corner).trans ?_⟩
    refine forall_congr' fun words => forall_congr' fun some => ?_
    rw [or_iff_right fun blank => listed ⟨radius, words, _, some ▸ parts, blank, isRadius⟩]

/-- Two lists are the same to a radius if they name the same corners. -/
theorem ofString?_of_names {text other radius list list' : String}
    (parts : Parts text radius (some list)) (parts' : Parts other radius (some list'))
    (same : ∀ corner, Corners.Names list corner ↔ Corners.Names list' corner) :
    ofString? text = ofString? other := by
  have corners : Corners.ofList list = Corners.ofList list' :=
    Corners.ext_has fun corner => by
      rw [Bool.eq_iff_iff, Corners.ofList_has, Corners.ofList_has, same]
  refine Option.ext fun cr => ?_
  rw [ofString?_of_parts parts, ofString?_of_parts parts']
  simp only [Option.elim_some, corners]

/-- A radius applies to the corners that its list names, and to all corners without a list. All
corners are what a blank list is meant for, too, but there the radius applies to none. How a list
names its corners does not matter. -/
theorem readsBy_means_unless_unlisted (text : String) :
    (∃ radius list, Parts text radius list) ∧ (ReadsBy Means text ↔ ¬ IsUnlisted text) ∧
    ReadsBy Covers text ∧
    ∀ other radius list list', Parts text radius (some list) → Parts other radius (some list') →
      (∀ corner, Corners.Names list corner ↔ Corners.Names list' corner) →
      ofString? text = ofString? other :=
  ⟨exists_parts text, readsBy_means_iff, readsBy_covers text, fun _ _ _ _ => ofString?_of_names⟩

theorem readsBy_means_top_left :
    Parts " 5; top ,left" " 5" (some " top ,left") ∧
    Parts " 5;left,end,top,left" " 5" (some "left,end,top,left") ∧
    (∀ corner, Corners.Names " top ,left" corner ↔ Corners.Names "left,end,top,left" corner) ∧
    ofString? " 5; top ,left" = ofString? " 5;left,end,top,left" := by
  have uncut : ';' ∉ " 5".toList := by decide
  have parts : Parts " 5; top ,left" " 5" (some " top ,left") := .listed (by decide) uncut
  have parts' : Parts " 5;left,end,top,left" " 5" (some "left,end,top,left") :=
    .listed (by decide) uncut
  have same (corner : Corner) :
      Corners.Names " top ,left" corner ↔ Corners.Names "left,end,top,left" corner := by
    rw [← Corners.ofList_has, ← Corners.ofList_has]
    cases corner <;> decide +kernel
  obtain ⟨-, -, -, sameLists⟩ := readsBy_means_unless_unlisted _
  exact ⟨parts, parts', same, sameLists _ _ _ _ parts parts' same⟩

theorem five_not_readsBy_means : ¬ ReadsBy Means "5;" := by
  have parts : Parts "5;" "5" (some "") := .listed (by decide) (by decide)
  have digits : Text.Numeral 10 ['5'] 5 :=
    Text.numeral_of_all Text.isBase_ten (by decide) (by decide)
  refine fun means => readsBy_means_iff.mp means ⟨"5", "", 5, parts, by simp [IsBlank], ['5'], ?_⟩
  exact ⟨⟨[], [], by simp, by decide⟩, .inl ⟨5, rfl, .inl digits⟩, by decide⟩

end CornerRadius
end Skinning
