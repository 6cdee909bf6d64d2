import Skinning.Proofs.LoadSteps
import Skinning.Proofs.Merging
import Skinning.Proofs.Numerals

/-! Reading window styles again. A block from which a style was built can be read again as long as
no color that it names is taken away, and merging blocks only adds colors. The surface that a
block is recorded for is the one that its style is built for. -/
namespace Skinning

/-! The surface of a block, read as a signed number and as one without a sign. -/

namespace Text

/-- What can be read with a sign reads the same without one, negative numbers as none at all. -/
theorem readNat32?_of_readInt32 {text : String} {n : Int} (read : readInt32 text = .ok n) :
    (readNat32? text).getD 0 = n.toNat := by
  obtain ⟨signed, -, greatest⟩ := readInt32_eq_ok_iff.mp read
  simp only [Bounds.int32] at greatest
  rcases signed with ⟨m, rfl, unsigned⟩ | ⟨m, digits, rfl, minus, -⟩
  · have holds : Bounds.nat32.Holds m :=
      ⟨Int.natCast_nonneg m, by simp only [Bounds.nat32]; omega⟩
    have again := (readInteger_nat32 isBase_ten).mpr ⟨⟨m, rfl, unsigned⟩, holds⟩
    simp [readNat32?, again]
  · have nothing : readNat32? text = none := by
      cases again : readInteger .nat32 10 text with
      | error fault => simp [readNat32?, again]
      | ok k =>
        obtain ⟨⟨_, -, unsigned⟩, -⟩ := (readInteger_nat32 isBase_ten).mp again
        rw [minus] at unsigned
        exact absurd unsigned (not_unsigned_minus isBase_ten)
    simp [nothing]

theorem readNat32?_blank : readNat32? (trim "") = none := by decide

end Text

namespace Declaration

/-- A style that can be merged is recorded for the surface that it is built for. -/
theorem styleId_of_surfaceId {block : Element} {id : Nat} (read : surfaceId block = .ok id) :
    Skin.styleId block = id := by
  unfold surfaceId int int? Element.filled? at read
  unfold Skin.styleId
  cases given : block.attribute? "id" with
  | none =>
    simp only [given, Option.filter_none, Except.map] at read
    exact Except.ok.inj read
  | some value =>
    by_cases empty : value = ""
    · subst empty
      have unset : (some "").filter (fun value : String => !value.isEmpty) = none := by decide
      simp only [given, unset, Except.map] at read
      simp only [Option.bind_some, Text.readNat32?_blank, Option.getD_none]
      exact Except.ok.inj read
    · have filled : (some value).filter (fun value : String => !value.isEmpty) = some value := by
        simp [Option.filter, empty]
      simp only [given, filled] at read
      cases number : Text.readInt32 (Text.trim value) with
      | error fault => simp [number, Except.map] at read
      | ok n =>
        simp only [number, Except.map, Option.getD_some] at read
        rw [Option.bind_some]
        exact (Text.readNat32?_of_readInt32 number).trans (Except.ok.inj read)

end Declaration

/-! Success. -/

namespace Reading

/-- One reading comes to a result where another does, whatever either is told before. -/
structure Lasts (before after : Reading α) : Prop where
  run : ∀ notices more, (before.run.run notices).1.isOk → (after.run.run more).1.isOk

namespace Lasts

theorem pure (r : Reading α) (a : α) : Lasts r (Pure.pure a) := ⟨fun _ _ _ => rfl⟩

theorem throw (fault : RegistryFault) (r : Reading α) : Lasts (MonadExcept.throw fault) r :=
  ⟨fun _ _ isOk => absurd isOk Bool.false_ne_true⟩

theorem bind {r t : Reading α} {f g : α → Reading β} (first : Lasts r t)
    (rest : ∀ a b, Lasts (f a) (g b)) : Lasts (r >>= f) (t >>= g) := by
  refine ⟨fun notices more isOk => ?_⟩
  have goes := first.run notices more
  simp only [ExceptT.run_bind, StateT.run_bind] at isOk ⊢
  generalize r.run.run notices = before at goes isOk
  generalize t.run.run more = after at goes ⊢
  obtain ⟨fault | a, noted⟩ := before
  · exact absurd isOk Bool.false_ne_true
  · obtain ⟨fault | b, moreNoted⟩ := after
    · exact absurd (goes rfl) Bool.false_ne_true
    · exact (rest a b).run noted moreNoted isOk

/-- Both go on with what is the same for both. -/
theorem ofExcept_bind {r : Except RegistryFault α} {f g : α → Reading β}
    (rest : ∀ a, Lasts (f a) (g a)) :
    Lasts (Reading.ofExcept r >>= f) (Reading.ofExcept r >>= g) := by
  cases r with
  | error fault => exact ⟨fun _ _ isOk => absurd isOk Bool.false_ne_true⟩
  | ok a => exact ⟨(rest a).run⟩

theorem notice (first second : Notices) : Lasts (notice first) (notice second) :=
  ⟨fun _ _ _ => rfl⟩

theorem noted (first second : α × Notices) : Lasts (noted first) (noted second) :=
  .bind (.notice _ _) fun _ _ => .pure _ _

theorem ofExcept {r t : Except RegistryFault α} (goes : r.isOk → t.isOk) :
    Lasts (ofExcept r) (ofExcept t) := by
  cases r with
  | error fault => exact .throw fault _
  | ok a =>
    cases t with
    | error fault => exact absurd (goes rfl) Bool.false_ne_true
    | ok b => exact .pure _ b

theorem ofLiteral {r t : Except LiteralFault α} (goes : r.isOk → t.isOk) :
    Lasts (ofLiteral r) (ofLiteral t) := by
  cases r with
  | error fault => exact .throw _ _
  | ok a =>
    cases t with
    | error fault => exact absurd (goes rfl) Bool.false_ne_true
    | ok b => exact .pure _ b

theorem foldlM {f g : β → α → Reading β} (steps : ∀ b c a, Lasts (f b a) (g c a)) (b c : β)
    (as : List α) : Lasts (as.foldlM f b) (as.foldlM g c) := by
  induction as generalizing b c with
  | nil => exact .pure _ c
  | cons a rest ih => exact .bind (steps b c a) ih

end Lasts
end Reading

/-- A store has every color of another. -/
def Store.Covers (s t : Store) : Prop :=
  ∀ name, (s.colors.get? name).isSome → (t.colors.get? name).isSome

namespace Store.Covers

theorem refl (s : Store) : s.Covers s := fun _ given => given

theorem trans {r s t : Store} (first : r.Covers s) (second : s.Covers t) : r.Covers t :=
  fun name given => second name (first name given)

theorem set (s : Store) (entry : Entry) : s.Covers (s.set entry) := by
  intro name given
  cases entry with
  | color other color =>
    simp only [Store.set, Table.get?_insert]
    split
    · rfl
    · exact given
  | _ => exact given

/-- Merging a block takes no color away. -/
theorem holdsOfSets : HoldsOfSets Covers := ⟨refl, trans, set⟩

theorem color {s t : Store} (covers : s.Covers t) (value : String) :
    (s.color value).isOk → (t.color value).isOk := by
  intro isOk
  unfold Store.color at isOk ⊢
  by_cases isHex : value.toList.head? = some '#'
  · rwa [if_pos isHex] at isOk ⊢
  · rw [if_neg isHex] at isOk ⊢
    have given : (s.colors.get? value).isSome := by
      cases found : s.colors.get? value with
      | none => simp [found, Except.isOk, Except.toBool] at isOk
      | some color => rfl
    obtain ⟨color, found⟩ := Option.isSome_iff_exists.mp (covers value given)
    rw [found]
    rfl

end Store.Covers

namespace Store

theorem isOk_plainPair (s : Store) (text : String) :
    (s.plainPair text).isOk = (Pair.split text).isOk := by
  unfold plainPair
  cases Pair.split text <;> rfl

end Store

namespace Declaration

open Reading (Lasts)

theorem readTitle_lasts (s t : Store) (style other : WindowStyle) (e : Element) :
    Lasts (readTitle s style e) (readTitle t other e) := by
  unfold readTitle
  dsimp only
  cases e.attribute? "offset" with
  | some offset =>
    have pairs : (s.plainPair offset).isOk → (t.plainPair offset).isOk := by
      rw [s.isOk_plainPair, t.isOk_plainPair]
      exact id
    refine .bind (.ofLiteral pairs) fun pair second =>
      .bind (.noted pair second) fun point second => ?_
    cases e.attribute? "font" with
    | some font => exact .bind (.noted _ _) fun _ _ => .pure _ _
    | none => exact .pure _ _
  | none =>
    cases e.attribute? "font" with
    | some font => exact .bind (.noted _ _) fun _ _ => .pure _ _
    | none => exact .pure _ _

theorem readBorder_lasts (site : BlockSite) (set : Option BorderSet) (style other : WindowStyle)
    (e : Element) : Lasts (readBorder site set style e) (readBorder site set other e) := by
  unfold readBorder
  split
  · refine .bind (.ofExcept id) fun pixmap second => ?_
    split
    · exact .pure _ _
    · exact .pure _ _
  · exact .pure _ _

theorem readStyleColor_lasts {s t : Store} (covers : s.Covers t) (style other : WindowStyle)
    (e : Element) : Lasts (readStyleColor s style e) (readStyleColor t other e) := by
  refine .ofExcept_bind fun value => .bind (.ofExcept (covers.color value)) fun color second => ?_
  split
  · exact .pure _ _
  · exact .throw _ _

/-- A style can be built again when there are more colors. -/
theorem readStyle_lasts (site : BlockSite) {s t : Store} (covers : s.Covers t) (block : Element) :
    Lasts (readStyle site s block) (readStyle site t block) := by
  unfold readStyle
  refine .bind (.foldlM (readTitle_lasts s t) _ _ _) fun titled other => ?_
  refine .bind (.foldlM ?_ _ _ _) fun bordered other => ?_
  · intro style other e
    exact .foldlM (readBorder_lasts site _) _ _ _
  · exact .foldlM (readStyleColor_lasts covers) _ _ _

end Declaration
end Skinning
