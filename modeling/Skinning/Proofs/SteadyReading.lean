import Mathlib.Data.List.Forall2
import Skinning.Proofs.StoreEntries

/-! What of a declaration does not read the factor. Whether it is faulty, what keys it has entries
for, and all entries but those of measured values depend on the colors alone. -/
namespace Skinning

/-- The keys of values that coordinates or fonts may be part of. -/
def Key.Measured : Key → Prop
  | .fontAlias _ | .parameter _ | .subtitle _ | .style _ => True
  | _ => False

/-- The same entry, or measured values of one key. -/
structure Entry.Alike (a b : Entry) : Prop where
  key : a.key = b.key
  value : ¬ a.key.Measured → a = b

theorem Entry.Alike.refl (entry : Entry) : entry.Alike entry := ⟨rfl, fun _ => rfl⟩

theorem Entry.Alike.of_measured {a b : Entry} (key : a.key = b.key) (measured : a.key.Measured) :
    a.Alike b :=
  ⟨key, fun other => absurd measured other⟩

/-- Two results of which both or none are faulty. -/
inductive ResultsAlike (R : α → β → Prop) : Except ε α → Except ε β → Prop
  | ok : R a b → ResultsAlike R (.ok a) (.ok b)
  | error : ResultsAlike R (.error fault) (.error other)

/-- Both results are values that are related, or both are faults. -/
theorem ResultsAlike.cases {R : α → β → Prop} {x : Except ε α} {y : Except ε β}
    (alike : ResultsAlike R x y) :
    (∃ a b, x = .ok a ∧ y = .ok b ∧ R a b) ∨ ∃ fault other, x = .error fault ∧ y = .error other := by
  cases alike with
  | ok related => exact .inl ⟨_, _, rfl, rfl, related⟩
  | error => exact .inr ⟨_, _, rfl, rfl⟩

theorem ResultsAlike.map {R : α → β → Prop} {S : γ → δ → Prop} {x : Except ε α} {y : Except ε β}
    {f : α → γ} {g : β → δ} (alike : ResultsAlike R x y) (related : ∀ a b, R a b → S (f a) (g b)) :
    ResultsAlike S (x.map f) (y.map g) := by
  cases alike with
  | ok holds => exact .ok (related _ _ holds)
  | error => exact .error

namespace Reading

/-- Two readings with results that are alike, whatever was noted before. -/
structure Alike (R : α → β → Prop) (x : Reading α) (y : Reading β) : Prop where
  run : ∀ notices more, ResultsAlike R (x.run.run notices).1 (y.run.run more).1

namespace Alike

variable {R : α → β → Prop} {S : γ → δ → Prop} {x : Reading α} {y : Reading β}

theorem pure {a : α} {b : β} (related : R a b) :
    Alike R (Pure.pure a : Reading α) (Pure.pure b : Reading β) :=
  ⟨fun _ _ => .ok related⟩

theorem throw (fault other : RegistryFault) :
    Alike R (throw fault : Reading α) (throw other : Reading β) :=
  ⟨fun _ _ => .error⟩

theorem bind {f : α → Reading γ} {g : β → Reading δ} (first : Alike R x y)
    (rest : ∀ a b, R a b → Alike S (f a) (g b)) : Alike S (x >>= f) (y >>= g) := by
  refine ⟨fun notices more => ?_⟩
  have results := first.run notices more
  simp only [ExceptT.run_bind, StateT.run_bind]
  generalize x.run.run notices = left at results ⊢
  generalize y.run.run more = right at results ⊢
  obtain ⟨result, notices⟩ := left
  obtain ⟨other, more⟩ := right
  cases results with
  | ok related => exact (rest _ _ related).run notices more
  | error => exact .error

theorem notice (notices more : Notices) : Alike Eq (notice notices) (Reading.notice more) :=
  ⟨fun _ _ => .ok rfl⟩

/-- What is noted together with a value makes no difference. -/
theorem noted {result : α × Notices} {other : β × Notices} (related : R result.1 other.1) :
    Alike R (noted result) (Reading.noted other) :=
  .bind (.notice _ _) fun _ _ _ => .pure related

theorem ofExcept (r : Except RegistryFault α) : Alike Eq (ofExcept r) (Reading.ofExcept r) := by
  cases r with
  | ok a => exact .pure rfl
  | error fault => exact .throw fault fault

theorem foldlM {f : α → γ → Reading α} {g : β → γ → Reading β}
    (steps : ∀ a b c, R a b → Alike R (f a c) (g b c)) {a : α} {b : β} (related : R a b)
    (cs : List γ) : Alike R (cs.foldlM f a) (cs.foldlM g b) := by
  induction cs generalizing a b with
  | nil => exact .pure related
  | cons c rest ih => exact .bind (steps a b c related) fun _ _ => ih

/-- The same entries. -/
theorem same {x y : Reading (List Entry)} (equal : Alike Eq x y) :
    Alike (List.Forall₂ Entry.Alike) x y := by
  refine ⟨fun notices more => ?_⟩
  obtain ⟨entries, _, left, right, rfl⟩ | ⟨_, _, left, right⟩ := (equal.run notices more).cases
  · rw [left, right]
    exact .ok (List.forall₂_same.mpr fun entry _ => .refl entry)
  · rw [left, right]
    exact .error

end Alike
end Reading

namespace Parameter

variable {reader other : Reader} (colors : reader.color? = other.color?)
include colors

theorem Reader.scalar_alike (s : String) :
    ResultsAlike (fun _ _ => True) (reader.scalar s) (other.scalar s) := by
  unfold scalar
  simp only [colors]
  repeat' split
  all_goals first
    | exact .ok trivial
    | exact .error

theorem Reader.items_alike (items : List String) :
    ResultsAlike (fun _ _ => True) (reader.items items).1 (other.items items).1 := by
  induction items with
  | nil => exact .ok trivial
  | cons item rest ih =>
    obtain ⟨_, _, left, right, -⟩ | ⟨_, _, left, right⟩ :=
      (Reader.scalar_alike colors (Text.trim item)).cases
    · simp only [items, left, right]
      exact ih.map fun _ _ _ => trivial
    · simp only [items, left, right]
      exact .error

theorem Reader.read_alike (s : String) :
    ResultsAlike (fun _ _ => True) (reader.read s).value (other.read s).value := by
  unfold read
  split
  · exact (Reader.items_alike colors (Text.split ',' s)).map fun _ _ _ => trivial
  · obtain ⟨_, _, left, right, -⟩ | ⟨_, _, left, right⟩ := (Reader.scalar_alike colors s).cases
    · simp only [left, right]
      exact .ok trivial
    · simp only [left, right]
      exact .error

end Parameter

namespace Declaration

open Reading (Alike)

theorem readAlias_alike (s t : Store) (e : Element) :
    Alike (List.Forall₂ Entry.Alike) (readAlias s e) (readAlias t e) := by
  have scalar (text : String) : Alike (fun _ _ => True) (do
      Reading.notice (.ofCoordinates (Coordinate.scalarOrZero s.factor text).2)
      return (Coordinate.scalarOrZero s.factor text).1 : Reading Int) (do
      Reading.notice (.ofCoordinates (Coordinate.scalarOrZero t.factor text).2)
      return (Coordinate.scalarOrZero t.factor text).1 : Reading Int) :=
    .bind (.notice _ _) fun _ _ _ => .pure trivial
  have optional (text? : Option String) (default other : Int) : Alike (fun _ _ => True)
      ((text?.map fun text => do
        Reading.notice (.ofCoordinates (Coordinate.scalarOrZero s.factor text).2)
        return (Coordinate.scalarOrZero s.factor text).1 : Option (Reading Int)).getD (pure default))
      ((text?.map fun text => do
        Reading.notice (.ofCoordinates (Coordinate.scalarOrZero t.factor text).2)
        return (Coordinate.scalarOrZero t.factor text).1 : Option (Reading Int)).getD (pure other)) := by
    cases text? with
    | none => exact .pure trivial
    | some text => exact scalar text
  unfold readAlias
  dsimp only
  split
  · exact ⟨fun _ _ => .error⟩
  split
  · split
    · refine .bind (scalar _) fun size other _ => .bind (optional _ size other) fun height _ _ =>
        .bind (optional _ size other) fun width _ _ => .pure (.cons ?_ .nil)
      exact .of_measured rfl trivial
    · exact .throw _ _
  · exact .throw _ _

variable {s t : Store} (colors : s.colors.get? = t.colors.get?)
include colors

theorem readParameter_alike (e : Element) :
    Alike (List.Forall₂ Entry.Alike) (readParameter s e) (readParameter t e) := by
  refine .bind (.ofExcept _) fun name _ same => .bind (.ofExcept _) fun value _ again =>
    .bind (.notice _ _) fun _ _ _ => ?_
  subst same again
  have same : s.parameterReader.color? = t.parameterReader.color? := colors
  obtain ⟨_, _, left, right, -⟩ | ⟨_, _, left, right⟩ :=
    (Parameter.Reader.read_alike same value).cases
  · rw [left, right]
    exact .pure (.cons (.of_measured rfl trivial) .nil)
  · rw [left, right]
    exact .throw _ _

theorem color?_alike (e : Element) (key : String) :
    Alike (fun _ _ => True) (color? s e key) (color? t e key) := by
  unfold color?
  rw [Store.color_congr colors]
  split
  · exact .bind (.ofExcept _) fun _ _ _ => .pure trivial
  · exact .pure trivial

theorem readSubtitle_alike (e : Element) :
    Alike (List.Forall₂ Entry.Alike) (readSubtitle s e) (readSubtitle t e) := by
  refine .bind (.ofExcept _) fun name _ same => .bind (.ofExcept _) fun font _ again =>
    .bind (R := fun _ _ => True) (.noted trivial) fun _ _ _ =>
    .bind (color?_alike colors e _) fun _ _ _ => .bind (color?_alike colors e _) fun _ _ _ =>
    .bind (.ofExcept _) fun _ _ _ => .pure (.cons ?_ .nil)
  subst same
  exact .of_measured rfl trivial

omit colors in
theorem readTitle_alike (style other : WindowStyle) (e : Element) :
    Alike (fun _ _ => True) (readTitle s style e) (readTitle t other e) := by
  have point (text : String) : Alike (fun _ _ => True) (Reading.ofLiteral (s.plainPair text))
      (Reading.ofLiteral (t.plainPair text)) := by
    unfold Store.plainPair
    cases Pair.split text with
    | error fault => exact .throw _ _
    | ok pair => exact .pure trivial
  unfold readTitle
  dsimp only
  split
  · refine .bind (point _) fun _ _ _ => .bind (R := fun _ _ => True) (.noted trivial) fun _ _ _ => ?_
    split
    · exact .bind (R := fun _ _ => True) (.noted trivial) fun _ _ _ => .pure trivial
    · exact .pure trivial
  · split
    · exact .bind (R := fun _ _ => True) (.noted trivial) fun _ _ _ => .pure trivial
    · exact .pure trivial

omit colors in
theorem readBorder_alike (site : BlockSite) (set : Option BorderSet) (style other : WindowStyle)
    (e : Element) :
    Alike (fun _ _ => True) (readBorder site set style e) (readBorder site set other e) := by
  unfold readBorder
  split
  · refine .bind (.ofExcept _) fun pixmap _ _ => ?_
    split
    · exact .pure trivial
    · exact .pure trivial
  · exact .pure trivial

omit colors in
theorem readBorderSet_alike (site : BlockSite) (style other : WindowStyle) (e : Element) :
    Alike (fun _ _ => True) (readBorderSet site style e) (readBorderSet site other e) :=
  .foldlM (fun style other e _ => readBorder_alike site _ style other e) trivial _

theorem readStyleColor_alike (style other : WindowStyle) (e : Element) :
    Alike (fun _ _ => True) (readStyleColor s style e) (readStyleColor t other e) := by
  unfold readStyleColor
  rw [Store.color_congr colors]
  refine .bind (.ofExcept _) fun value _ same => ?_
  subst same
  refine .bind (.ofExcept _) fun color _ _ => ?_
  split
  · exact .pure trivial
  · exact .throw _ _

theorem readStyle_alike (site : BlockSite) (block : Element) :
    Alike (fun _ _ => True) (readStyle site s block) (readStyle site t block) :=
  .bind (.foldlM (fun style other e _ => readTitle_alike style other e) trivial _) fun _ _ _ =>
  .bind (.foldlM (fun style other e _ => readBorderSet_alike site style other e) trivial _)
    fun _ _ _ =>
  .foldlM (fun style other e _ => readStyleColor_alike colors style other e) trivial _

theorem read_alike (site : BlockSite) (d : Declaration) :
    Alike (List.Forall₂ Entry.Alike) (d.read site s) (d.read site t) := by
  cases d with
  | resolution e =>
    refine .bind (.ofExcept _) fun width _ same => .bind (.ofExcept _) fun height _ again =>
      .bind (.ofExcept _) fun _ _ _ => .bind (.notice _ _) fun _ _ _ => ?_
    subst same again
    exact .pure (.cons (.refl _) (.cons (.of_measured rfl trivial) .nil))
  | color e =>
    have same : readColor s e = readColor t e := by
      simp only [readColor, Store.color_congr colors]
    rw [read, read, same]
    exact .same (.ofExcept _)
  | face e =>
    refine .same (.bind (.ofExcept _) fun scale _ same => .bind (.ofExcept _) fun render _ again => ?_)
    subst same again
    dsimp only
    split
    · exact ⟨fun _ _ => .error⟩
    · exact .bind (.notice _ _) fun _ _ _ => .pure rfl
  | fallbackFace => exact .same (.pure rfl)
  | switchPixmap e | image kind e => exact .same (.ofExcept _)
  | margin id block =>
    exact .same (.bind (.ofExcept _) fun margins _ same => .pure (by rw [same]))
  | fontAlias e => exact readAlias_alike s t e
  | parameter e => exact readParameter_alike colors e
  | subtitle e => exact readSubtitle_alike colors e
  | style id block =>
    refine .bind (readStyle_alike colors site block) fun style other _ => ?_
    exact .pure (.cons (.of_measured rfl trivial) .nil)

end Declaration
end Skinning
