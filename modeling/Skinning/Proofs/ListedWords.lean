import Mathlib.Data.List.Basic
import Skinning.Proofs.ReadAttributes

/-! Attributes that take a word of a list. A word is read exactly if it is on the list that the fault
of any other word shows. A word that moves an image stands for a place, and the word that scales it
there stands for the same place, with the image scaled and its ratio kept. -/
namespace Skinning

namespace Text

theorem after?_eq_some_iff {lead text rest : String} :
    after? lead text = some rest ↔ text = lead ++ rest := by
  simp only [after?, Option.map_eq_some_iff, List.isPrefixOf?_eq_some_iff_append_eq]
  constructor
  · rintro ⟨cs, joined, rfl⟩
    rw [← String.toList_inj, String.toList_append, String.toList_ofList, joined]
  · rintro rfl
    exact ⟨rest.toList, String.toList_append.symm, String.ofList_toList⟩

theorem after?_append (lead rest : String) : after? lead (lead ++ rest) = some rest :=
  after?_eq_some_iff.mpr rfl

theorem after?_eq_none {lead text : String} (other : ∀ rest, text ≠ lead ++ rest) :
    after? lead text = none :=
  Option.eq_none_iff_forall_ne_some.mpr fun rest found => other rest (after?_eq_some_iff.mp found)

end Text

namespace BlitFlags

variable {word placement : String} {flags : BlitFlags}

/-- Where an image can be placed. -/
def placements : List String := [
  "LeftTop", "LeftCenter", "LeftBottom", "CenterTop", "Center", "CenterBottom",
  "RightTop", "RightCenter", "RightBottom"]

/-- The words for scaling that do not place the image. -/
def unplaced : List String := ["none", "scale", "scaleKeepAspect"]

theorem scaleWords_eq :
    scaleWords = unplaced ++ placements.map ("scale" ++ ·) ++ placements.map ("move" ++ ·) := by
  decide +kernel

theorem mem_scaleWords : word ∈ scaleWords ↔ word ∈ unplaced ∨
    ∃ placement ∈ placements, word = "scale" ++ placement ∨ word = "move" ++ placement := by
  simp only [scaleWords_eq, List.mem_append, List.mem_map, or_assoc, and_or_left, exists_or,
    @eq_comm _ word]

theorem move_ne_scale (placement other : String) : "move" ++ placement ≠ "scale" ++ other := by
  intro same
  have heads := congrArg (List.head? ∘ String.toList) same
  simp at heads

theorem move_notMem_unplaced (placement : String) : "move" ++ placement ∉ unplaced := by
  intro member
  have heads : ∀ word ∈ unplaced, word.toList.head? ≠ some 'm' := by decide
  exact heads _ member (by simp)

theorem scale_notMem_unplaced :
    ∀ placement ∈ placements, "scale" ++ placement ∉ unplaced := by
  decide +kernel

theorem ofPlacement?_isSome : (ofPlacement? word).isSome ↔ word ∈ placements := by
  unfold ofPlacement?
  split <;> simp_all [placements]

theorem ofAlphaWord?_isSome : (ofAlphaWord? word).isSome ↔ word ∈ alphaWords := by
  unfold ofAlphaWord?
  split <;> simp_all [alphaWords]

/-! The words for scaling: three by themselves, and two before every place. -/

theorem ofScaleWord?_unplaced (alone : word ∈ unplaced) : (ofScaleWord? word).isSome := by
  simp only [unplaced, List.mem_cons, List.not_mem_nil, or_false] at alone
  rcases alone with rfl | rfl | rfl <;> rfl

theorem ofScaleWord?_move (placement : String) :
    ofScaleWord? ("move" ++ placement) = ofPlacement? placement := by
  have unscaled := Text.after?_eq_none (move_ne_scale placement)
  have moved := Text.after?_append "move" placement
  have placed := move_notMem_unplaced placement
  unfold ofScaleWord?
  split <;> simp_all [unplaced]

theorem ofScaleWord?_scale (placed : "scale" ++ placement ∉ unplaced) :
    ofScaleWord? ("scale" ++ placement) = (ofPlacement? placement).map aspect.union := by
  have scaled := Text.after?_append "scale" placement
  unfold ofScaleWord?
  split <;> simp_all [unplaced]

theorem ofScaleWord?_eq_none (unscaled : ∀ placement, word ≠ "scale" ++ placement)
    (unmoved : ∀ placement, word ≠ "move" ++ placement) (placed : word ∉ unplaced) :
    ofScaleWord? word = Option.none := by
  have unscaled := Text.after?_eq_none unscaled
  have unmoved := Text.after?_eq_none unmoved
  unfold ofScaleWord?
  split <;> simp_all [unplaced]

theorem ofScaleWord?_isSome : (ofScaleWord? word).isSome ↔ word ∈ scaleWords := by
  rw [mem_scaleWords]
  by_cases alone : word ∈ unplaced
  · simp [alone, ofScaleWord?_unplaced alone]
  by_cases scaled : ∃ placement, word = "scale" ++ placement
  · obtain ⟨placement, rfl⟩ := scaled
    rw [ofScaleWord?_scale alone, Option.isSome_map, ofPlacement?_isSome]
    simp [alone, (move_ne_scale _ _).symm]
  by_cases moved : ∃ placement, word = "move" ++ placement
  · obtain ⟨placement, rfl⟩ := moved
    rw [ofScaleWord?_move, ofPlacement?_isSome]
    simp [alone, move_ne_scale]
  · rw [not_exists] at scaled moved
    simp [ofScaleWord?_eq_none scaled moved alone, alone, scaled, moved]

/-- Scaling an image to a place is moving it there, and keeping its ratio while it is scaled. -/
theorem ofScaleWord?_scale_of_move (moved : ofScaleWord? ("move" ++ placement) = some flags) :
    ofScaleWord? ("scale" ++ placement) =
      some { flags with scale := true, keepAspect := true } := by
  rw [ofScaleWord?_move] at moved
  have placed : placement ∈ placements := ofPlacement?_isSome.mp (by rw [moved]; rfl)
  rw [ofScaleWord?_scale (scale_notMem_unplaced placement placed), moved, Option.map_some]
  simp [union, aspect, none]

end BlitFlags

theorem Orientation.ofWord?_isSome {word : String} : (ofWord? word).isSome ↔ word ∈ words := by
  unfold ofWord?
  split <;> simp_all [words]

theorem VAlign.ofWord?_isSome {word : String} : (ofWord? word).isSome ↔ word ∈ words := by
  unfold ofWord?
  split <;> simp_all [words]

theorem HAlign.ofWord?_isSome {word : String} : (ofWord? word).isSome ↔ word ∈ words := by
  unfold ofWord?
  split <;> simp_all [words]

theorem ScrollbarMode.ofWord?_isSome {word : String} : (ofWord? word).isSome ↔ word ∈ words := by
  unfold ofWord?
  split <;> simp_all [words]

/-- The attributes that take a word of a list. -/
inductive WordAttribute where
  | alphaTest
  | scaleFlags
  | orientation
  | valign
  | halign
  | scrollbarMode
  deriving DecidableEq, Repr

namespace WordAttribute

def name : WordAttribute → String
  | alphaTest => "alphatest"
  | scaleFlags => "scaleFlags"
  | orientation => "orientation"
  | valign => "valign"
  | halign => "halign"
  | scrollbarMode => "scrollbarMode"

/-- What faults call the attribute, which is its name but for one. -/
def label : WordAttribute → String
  | scaleFlags => "scale"
  | k => k.name

def words : WordAttribute → List String
  | alphaTest => BlitFlags.alphaWords
  | scaleFlags => BlitFlags.scaleWords
  | orientation => Orientation.words
  | valign => VAlign.words
  | halign => HAlign.words
  | scrollbarMode => ScrollbarMode.words

/-- The attribute that a word stands for. -/
def ofWord? : WordAttribute → String → Option Attribute
  | alphaTest, word => (BlitFlags.ofAlphaWord? word).map .alphaTest
  | scaleFlags, word => (BlitFlags.ofScaleWord? word).map .scaleFlags
  | orientation, word => (Orientation.ofWord? word).map fun (axis, reversed) =>
    .orientation axis reversed
  | valign, word => (VAlign.ofWord? word).map .valign
  | halign, word => (HAlign.ofWord? word).map .halign
  | scrollbarMode, word => (ScrollbarMode.ofWord? word).map .scrollbarMode

theorem ofWord?_isSome {k : WordAttribute} {word : String} :
    (k.ofWord? word).isSome ↔ word ∈ k.words := by
  cases k <;> simp only [ofWord?, Option.isSome_map, words, BlitFlags.ofAlphaWord?_isSome,
    BlitFlags.ofScaleWord?_isSome, Orientation.ofWord?_isSome, VAlign.ofWord?_isSome,
    HAlign.ofWord?_isSome, ScrollbarMode.ofWord?_isSome]

end WordAttribute

namespace AttributeSite

variable {site : AttributeSite} {className : String} {w : Widget}

theorem run_keyword (make : α → Attribute) (name value : String) (found : Option α)
    (words : List String) :
    (do return some (make (← keyword name value found words)) :
        AttributeReading (Option Attribute)).run.run [] =
      match found.map make with
      | some read => (.ok (some read), [])
      | none => (.error (.unknownKeyword name value words), []) := by
  cases found <;> rfl

theorem outcome_word (k : WordAttribute) (value : AttributeValue) :
    site.outcome className w (k.name, value) =
      match k.ofWord? value.render with
      | some read => (.ok (some read), [])
      | none => (.error (.unknownKeyword k.label value.render k.words), []) := by
  cases k with
  | alphaTest => exact run_keyword .alphaTest "alphatest" value.render _ _
  | scaleFlags => exact run_keyword .scaleFlags "scale" value.render _ _
  | orientation =>
    exact run_keyword (fun (axis, reversed) => .orientation axis reversed) "orientation"
      value.render _ _
  | valign => exact run_keyword .valign "valign" value.render _ _
  | halign => exact run_keyword .halign "halign" value.render _ _
  | scrollbarMode => exact run_keyword .scrollbarMode "scrollbarMode" value.render _ _

/-- A word is taken exactly if it is on the list that is shown where one is refused. -/
structure IsListed (site : AttributeSite) (className : String) (w : Widget) (k : WordAttribute)
    (value : AttributeValue) : Prop where
  parsed : (k.ofWord? value.render).isSome ↔ value.render ∈ k.words
  taken : ∀ read, site.outcome className w (k.name, value) = (.ok (some read), []) ↔
    k.ofWord? value.render = some read
  refused : site.outcome className w (k.name, value) =
    (.error (.unknownKeyword k.label value.render k.words), []) ↔ value.render ∉ k.words

theorem isListed (k : WordAttribute) (value : AttributeValue) :
    IsListed site className w k value := by
  refine ⟨WordAttribute.ofWord?_isSome, fun read => ?_, ?_⟩
  · rw [outcome_word]
    cases k.ofWord? value.render <;> simp
  · rw [outcome_word, ← WordAttribute.ofWord?_isSome]
    cases k.ofWord? value.render <;> simp

/-- The words of an attribute are those that its faults list. Of those for scaling each that moves
an image has one beside it that scales the image in the same place. -/
theorem words_are_listed :
    (∀ (site : AttributeSite) (className : String) (w : Widget) (k : WordAttribute)
      (value : AttributeValue), IsListed site className w k value) ∧
    ∀ placement flags, BlitFlags.ofScaleWord? ("move" ++ placement) = some flags →
      BlitFlags.ofScaleWord? ("scale" ++ placement) =
        some { flags with scale := true, keepAspect := true } :=
  ⟨fun _ _ _ => isListed, fun _ _ => BlitFlags.ofScaleWord?_scale_of_move⟩

theorem words_are_listed_below :
    let flags := { BlitFlags.none with centerX := true, bottom := true }
    BlitFlags.ofScaleWord? ("move" ++ "CenterBottom") = some flags ∧
      BlitFlags.ofScaleWord? ("scale" ++ "CenterBottom") =
        some { flags with scale := true, keepAspect := true } := by
  intro flags
  have moved : BlitFlags.ofScaleWord? ("move" ++ "CenterBottom") = some flags := by decide +kernel
  exact ⟨moved, words_are_listed.2 _ _ moved⟩

end AttributeSite
end Skinning
