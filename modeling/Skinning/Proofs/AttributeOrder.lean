import Mathlib.Data.List.Pairwise
import Skinning.Proofs.ReadAttributes
import Skinning.Widget.Batch

/-! The order in which the attributes of a batch stand makes no difference. Attributes are applied
by their ranks, those of one rank that have no field in common can change places, and there is
one image at most, whose size and blending are decided by then. -/
namespace Skinning

open Widget (Field)

/-- A list that is sorted by a rank folds like every other arrangement that is, if elements of
one rank can change places. -/
theorem foldl_eq_of_sorted_perm {f : β → α → β} (rank : α → Nat) {l m : List α} (perm : l.Perm m)
    (sorted : l.Pairwise fun a b => rank a ≤ rank b) (sorted' : m.Pairwise fun a b => rank a ≤ rank b)
    (comm : ∀ a ∈ l, ∀ b ∈ l, rank a = rank b → ∀ z, f (f z a) b = f (f z b) a) (z : β) :
    l.foldl f z = m.foldl f z := by
  induction l generalizing m z with
  | nil => rw [perm.nil_eq]
  | cons a rest ih =>
    obtain ⟨front, back, rfl⟩ := List.append_of_mem (perm.mem_iff.mp List.mem_cons_self)
    have others : rest.Perm (front ++ back) := (perm.trans List.perm_middle).cons_inv
    obtain ⟨least, sortedRest⟩ := List.pairwise_cons.mp sorted
    -- In front of the first element of one arrangement the other one has elements of its rank only.
    have same : ∀ b ∈ front, rank b = rank a := fun b member =>
      Nat.le_antisymm ((List.pairwise_append.mp sorted').2.2 b member a List.mem_cons_self)
        (least b (others.mem_iff.mpr (List.mem_append_left back member)))
    have known : ∀ b ∈ front ++ [a], b ∈ a :: rest ∧ rank b = rank a := fun b member => by
      rcases List.mem_append.mp member with member | member
      · exact ⟨perm.mem_iff.mpr (List.mem_append_left _ member), same b member⟩
      · obtain rfl := List.mem_singleton.mp member
        exact ⟨List.mem_cons_self, rfl⟩
    have moved : (front ++ [a]).foldl f z = (a :: front).foldl f z :=
      List.Perm.foldl_eq' (List.perm_append_singleton a front)
        (fun b first c second _ => comm b (known b first).1 c (known c second).1
          ((known b first).2.trans (known c second).2.symm) _) z
    have sortedOthers : (front ++ back).Pairwise fun a b => rank a ≤ rank b :=
      sorted'.sublist (List.Sublist.append_left (List.sublist_cons_self a back) front)
    calc (a :: rest).foldl f z = (front ++ back).foldl f (f z a) :=
          ih others sortedRest sortedOthers (fun b first c second =>
            comm b (List.mem_cons_of_mem a first) c (List.mem_cons_of_mem a second)) (f z a)
      _ = back.foldl f ((a :: front).foldl f z) := by rw [List.foldl_append, List.foldl_cons]
      _ = (front ++ a :: back).foldl f z := by
          rw [← moved, ← List.foldl_append, List.append_assoc, List.singleton_append]

namespace Batch

variable {batch : Batch}

theorem arrange_perm (batch : Batch) : batch.arrange.Perm batch := List.mergeSort_perm _ _

theorem arrange_sorted (batch : Batch) : batch.arrange.Pairwise fun a b => rank a.1 ≤ rank b.1 := by
  have sorted := @List.pairwise_mergeSort _
    (fun a b : NamedValue => decide (rank a.1 ≤ rank b.1))
    (fun a b c first second => by simp only [decide_eq_true_eq] at *; omega)
    (fun a b => by simp only [Bool.or_eq_true, decide_eq_true_eq]; omega) batch
  simpa only [arrange, decide_eq_true_eq] using sorted

theorem rank_eq_two_iff {name : String} : rank name = 2 ↔ name = "pixmap" := by
  unfold rank
  split
  next scale => simp [scale]
  next => split <;> simp [*]

theorem rank_le_two (name : String) : rank name ≤ 2 := by
  unfold rank
  split
  · decide
  · split <;> decide

theorem rank_eq_zero_iff {name : String} : rank name = 0 ↔ name = "scale" := by
  unfold rank
  split
  next scale => simp [scale]
  next other => split <;> simp [other]

/-- What is put in front of a batch. -/
def forced (batch : Batch) (scale : Scale) : Batch :=
  if batch.any (·.1 == "pixmap") && !scale.isIdentity && !batch.any (·.1 == "scale") then
    [("scale", .text "1")]
  else []

theorem eq_scale_of_mem_forced {scale : Scale} {a : NamedValue} (member : a ∈ batch.forced scale) :
    a = ("scale", .text "1") := by
  unfold forced at member
  split at member
  · exact List.mem_singleton.mp member
  · cases member

theorem any_getLast? {l : Batch} (sorted : l.Pairwise fun a b => rank a.1 ≤ rank b.1) :
    l.getLast?.any (·.1 == "pixmap") = l.any (·.1 == "pixmap") := by
  rcases l.eq_nil_or_concat with rfl | ⟨init, last, rfl⟩
  · rfl
  · rw [List.concat_eq_append] at sorted ⊢
    have greatest : init.any (·.1 == "pixmap") → last.1 = "pixmap" := fun found => by
      obtain ⟨a, member, isPixmap⟩ := List.any_eq_true.mp found
      have above := (List.pairwise_append.mp sorted).2.2 a member last List.mem_cons_self
      rw [beq_iff_eq.mp isPixmap] at above
      exact rank_eq_two_iff.mp (Nat.le_antisymm (rank_le_two _) above)
    rw [List.getLast?_concat, List.any_append, Bool.eq_iff_iff]
    simpa using greatest

theorem any_head? {l : Batch} (sorted : l.Pairwise fun a b => rank a.1 ≤ rank b.1) :
    l.head?.any (·.1 == "scale") = l.any (·.1 == "scale") := by
  cases l with
  | nil => rfl
  | cons first rest =>
    have least : rest.any (·.1 == "scale") → first.1 = "scale" := fun found => by
      obtain ⟨a, member, isScale⟩ := List.any_eq_true.mp found
      have below := (List.pairwise_cons.mp sorted).1 a member
      rw [beq_iff_eq.mp isScale] at below
      exact rank_eq_zero_iff.mp (Nat.le_zero.mp below)
    rw [List.head?_cons, List.any_cons, Bool.eq_iff_iff]
    simpa using least

theorem sort_eq (batch : Batch) (scale : Scale) :
    batch.sort scale = batch.forced scale ++ batch.arrange := by
  have any (p : NamedValue → Bool) : batch.arrange.any p = batch.any p := by
    rw [Bool.eq_iff_iff]
    simp only [List.any_eq_true, batch.arrange_perm.mem_iff]
  simp only [sort, forced, any_getLast? batch.arrange_sorted, any_head? batch.arrange_sorted, any]
  split <;> rfl

end Batch

namespace AttributeSite

variable {site : AttributeSite} {className : String} {w : Widget} {a b : NamedValue}

/-- Whether two attributes set no field both, but for flags. -/
def Apart (site : AttributeSite) (className : String) (w : Widget) (a b : NamedValue) : Prop :=
  ∀ f, site.Sets className w a f → site.Sets className w b f → f = .flags

theorem Apart.symm (apart : site.Apart className w a b) : site.Apart className w b a :=
  fun f second first => apart f first second

instance : Std.Symm (site.Apart className w) := ⟨fun _ _ apart => apart.symm⟩

/-- Attributes are apart if their names are. -/
theorem apart_of_names (names : ∀ f ∈ Attribute.fieldsNamed a.1, f ∈ Attribute.fieldsNamed b.1 →
    f = .flags) : site.Apart className w a b := by
  rintro f ⟨first, foundA, ofFirst⟩ ⟨second, foundB, ofSecond⟩
  exact names f (fields_of_readAs foundA ▸ ofFirst) (fields_of_readAs foundB ▸ ofSecond)

theorem not_misses_of_isSome (other : a.1 ≠ "pixmap")
    (read : (site.outcome className w a).1.toOption.isSome) : ¬ site.Misses className a := by
  rintro ⟨v, fault, fails, -⟩
  rw [outcome_congr (v := v) other, fails] at read
  cases read

theorem not_misses_of_isFile {value : AttributeValue}
    (isFile : site.assets.files.isFile (Assets.withoutOption ⟨value.render⟩)) :
    ¬ site.Misses className ("pixmap", value) := by
  rintro ⟨v, fault, fails, -⟩
  rw [outcome_pixmap, Assets.loadPixmap, if_pos isFile] at fails
  cases fails

/-- Attributes of one rank can change places. -/
theorem effect_comm (apart : site.Apart className w a b) (presentA : ¬ site.Misses className a)
    (presentB : ¬ site.Misses className b) (ranks : Batch.rank a.1 = Batch.rank b.1) (v : Widget) :
    site.effect className (site.effect className v a) b =
      site.effect className (site.effect className v b) a := by
  by_cases isPixmap : a.1 = "pixmap"
  · -- A widget has one image only.
    have alsoPixmap : b.1 = "pixmap" :=
      Batch.rank_eq_two_iff.mp (ranks.symm.trans (Batch.rank_eq_two_iff.mpr isPixmap))
    exact absurd (apart .pixmap (sets_pixmap presentA isPixmap) (sets_pixmap presentB alsoPixmap))
      (by decide)
  · have other : b.1 ≠ "pixmap" := fun same =>
      isPixmap (Batch.rank_eq_two_iff.mp (ranks.trans (Batch.rank_eq_two_iff.mpr same)))
    rw [effect_of_ne isPixmap w, effect_of_ne isPixmap w, effect_of_ne other w,
      effect_of_ne other w]
    cases readA : site.readAs className w a with
    | none => rfl
    | some first =>
      cases readB : site.readAs className w b with
      | none => rfl
      | some second =>
        exact Attribute.apply_comm
          (fun f ofFirst ofSecond => apart f ⟨first, readA, ofFirst⟩ ⟨second, readB, ofSecond⟩) v

/-- Batches without a missing image are applied as a whole. -/
theorem applyList_eq {l : Batch} (present : ∀ a ∈ l, ¬ site.Misses className a) (w : Widget) :
    site.applyList className w l =
      ⟨l.foldl (site.effect className) w, none, l.flatMap (site.noted className)⟩ := by
  induction l generalizing w with
  | nil => rfl
  | cons a rest ih =>
    have first := applyOne_eq (present a List.mem_cons_self) w
    have others := ih (fun b member => present b (List.mem_cons_of_mem a member))
      (site.effect className w a)
    simp only [applyList, first, others, List.foldl_cons, List.flatMap_cons]

/-- A field that no attribute sets is left alone. -/
theorem get_foldl_effect {l : Batch} {f : Field} (present : ∀ a ∈ l, ¬ site.Misses className a)
    (unset : ∀ a ∈ l, ¬ site.Sets className w a f) (blends : f = .alphaTest → ∀ a ∈ l, ¬ IsDrawing a)
    (v : Widget) : (l.foldl (site.effect className) v).get f = v.get f := by
  induction l generalizing v with
  | nil => rfl
  | cons a rest ih =>
    have others := ih (fun b member => present b (List.mem_cons_of_mem a member))
      (fun b member => unset b (List.mem_cons_of_mem a member))
      (fun same b member => blends same b (List.mem_cons_of_mem a member))
      (site.effect className v a)
    rw [List.foldl_cons, others]
    refine get_effect (fun read found own => unset a List.mem_cons_self ?_)
      fun same => blends same a List.mem_cons_self
    exact (sets_congr (present a List.mem_cons_self)).mp ⟨read, found, own⟩

/-- The widget that a batch without conflicts makes of another. -/
structure Settles (site : AttributeSite) (className : String) (w : Widget) (batch : Batch)
    (result : Widget) : Prop where
  /-- An image is loaded at the size that the widget ends up with. -/
  pixmap : ∀ value, ("pixmap", value) ∈ batch →
    result.pixmap = site.assets.loadPixmap ⟨value.render⟩ (some result.size)
  drawing : ∀ a ∈ batch, IsDrawing a → result.alphaTest = .blend
  /-- Every attribute but the image has its way with its fields. -/
  set : ∀ a ∈ batch, a.1 ≠ "pixmap" → ∀ read ∈ site.readAs className w a, ∀ f ∈ read.fields,
    f ≠ .flags → (f = .alphaTest → ∀ b ∈ batch, ¬ IsDrawing b) → result.get f = (w.apply read).get f
  /-- What is not set is kept, apart from the scaling of images on a screen that is rescaled. -/
  unset : ∀ f, (∀ a ∈ batch, ¬ site.Sets className w a f) → f ≠ .scale →
    (f = .alphaTest → ∀ a ∈ batch, ¬ IsDrawing a) → result.get f = w.get f

theorem forced_present (batch : Batch) (scale : Scale) :
    ∀ a ∈ batch.forced scale, ¬ site.Misses className a := by
  rintro a member ⟨v, fault, fails, -⟩
  obtain rfl := Batch.eq_scale_of_mem_forced member
  cases fails

/-- What is put in front of a batch is the scaling of images. -/
theorem get_forced (batch : Batch) (scale : Scale) {f : Field} (other : f ≠ .scale) (v : Widget) :
    ((batch.forced scale).foldl (site.effect className) v).get f = v.get f := by
  refine get_foldl_effect (w := v) (forced_present batch scale) ?_ ?_ v
  · rintro a member ⟨read, found, own⟩
    obtain rfl := Batch.eq_scale_of_mem_forced member
    rw [fields_of_readAs found] at own
    exact other (List.mem_singleton.mp own)
  · intro _ a member drawing
    obtain rfl := Batch.eq_scale_of_mem_forced member
    exact absurd (isDrawing_name drawing) (by decide)

theorem applyAll_eq {batch : Batch} (present : ∀ a ∈ batch, ¬ site.Misses className a) (w : Widget) :
    site.applyAll className w batch =
      ⟨batch.arrange.foldl (site.effect className)
          ((batch.forced site.scale).foldl (site.effect className) w), none,
        (batch.forced site.scale).flatMap (site.noted className) ++
          batch.arrange.flatMap (site.noted className)⟩ := by
  have all : ∀ a ∈ batch.forced site.scale ++ batch.arrange, ¬ site.Misses className a :=
    List.forall_mem_append.mpr ⟨forced_present batch site.scale, fun a member =>
      present a (batch.arrange_perm.mem_iff.mp member)⟩
  rw [applyAll, Batch.sort_eq, applyList_eq all, List.foldl_append, List.flatMap_append]

section

variable {batch : Batch} (apart : batch.Pairwise (site.Apart className w))
include apart

/-- The attributes behind one are apart from it. -/
theorem exists_arranged (member : a ∈ batch) : ∃ front back, batch.arrange = front ++ a :: back ∧
    (∀ b ∈ back, site.Apart className w a b ∧ Batch.rank a.1 ≤ Batch.rank b.1 ∧ b ∈ batch) := by
  obtain ⟨front, back, split⟩ := List.append_of_mem (batch.arrange_perm.mem_iff.mpr member)
  have arranged : batch.arrange.Pairwise (site.Apart className w) :=
    batch.arrange_perm.symm.pairwise apart fun first => first.symm
  have sorted := batch.arrange_sorted
  rw [split] at arranged sorted
  refine ⟨front, back, split, fun b behind => ⟨?_, ?_, ?_⟩⟩
  · exact (List.pairwise_cons.mp (List.pairwise_append.mp arranged).2.1).1 b behind
  · exact (List.pairwise_cons.mp (List.pairwise_append.mp sorted).2.1).1 b behind
  · refine batch.arrange_perm.mem_iff.mp ?_
    rw [split]
    exact List.mem_append_right _ (List.mem_cons_of_mem _ behind)

variable (present : ∀ a ∈ batch, ¬ site.Misses className a)
include present

/-- The image is applied after all other attributes. -/
theorem exists_before_pixmap (member : a ∈ batch) (isPixmap : a.1 = "pixmap") :
    ∃ v, (site.applyAll className w batch).widget = site.effect className v a := by
  obtain ⟨front, back, split, behind⟩ := exists_arranged apart member
  have last : back = [] := by
    rw [List.eq_nil_iff_forall_not_mem]
    intro b inside
    obtain ⟨apartB, above, inBatch⟩ := behind b inside
    rw [Batch.rank_eq_two_iff.mpr isPixmap] at above
    have another := Batch.rank_eq_two_iff.mp (Nat.le_antisymm (Batch.rank_le_two _) above)
    exact absurd (apartB .pixmap (sets_pixmap (present a member) isPixmap)
      (sets_pixmap (present b inBatch) another)) (by decide)
  subst last
  rw [applyAll_eq present, split, List.foldl_append, List.foldl_cons, List.foldl_nil]
  exact ⟨_, rfl⟩

theorem applyAll_settles :
    site.Settles className w batch (site.applyAll className w batch).widget where
  pixmap value member := by
    obtain ⟨v, result⟩ := exists_before_pixmap apart present member rfl
    obtain ⟨p, loads, after⟩ := effect_pixmap (present _ member) v
    rw [result, after]
    have size : ((blendDrawing v "pixmap" value).apply (.pixmap p)).size = v.size :=
      size_blendDrawing (w := v) (a := ("pixmap", value))
    rw [size, loads]
    rfl
  drawing a member drawing := by
    obtain ⟨v, result⟩ := exists_before_pixmap apart present member (isDrawing_name drawing)
    obtain ⟨path, rfl, suffix⟩ := id drawing
    obtain ⟨p, -, after⟩ := effect_pixmap (present _ member) v
    rw [result, after]
    have blended := blendDrawing_of_isDrawing (w := v) drawing
    dsimp only at blended
    rw [blended]
    rfl
  set a member other read found f own replaced blends := by
    obtain ⟨front, back, split, behind⟩ := exists_arranged apart member
    rw [applyAll_eq present, split, List.foldl_append, List.foldl_cons,
      effect_of_ne other w, found]
    refine (get_foldl_effect (w := w) (fun b inside => present b (behind b inside).2.2)
      (fun b inside sets => replaced ((behind b inside).1 f ⟨read, found, own⟩ sets))
      (fun same b inside => blends same b (behind b inside).2.2) _).trans ?_
    exact Attribute.get_apply_of_mem own replaced _ _
  unset f unset other blends := by
    have inBatch {b : NamedValue} (inside : b ∈ batch.arrange) := batch.arrange_perm.mem_iff.mp inside
    rw [applyAll_eq present]
    refine (get_foldl_effect (w := w) (fun b inside => present b (inBatch inside))
      (fun b inside => unset b (inBatch inside))
      (fun same b inside => blends same b (inBatch inside)) _).trans ?_
    exact get_forced batch site.scale other w

end

/-- In whatever order a batch without conflicts and missing images is given, it is applied as a
whole, makes the same widget and notes the same. The image is loaded at the size of that widget, and
a drawing is blended. Each attribute by itself changes only the fields of its name. -/
theorem applyAll_perm {batch other : Batch} (perm : batch.Perm other)
    (apart : batch.Pairwise (site.Apart className w))
    (present : ∀ a ∈ batch, ¬ site.Misses className a) :
    let first := site.applyAll className w batch
    let second := site.applyAll className w other
    first.fatal? = none ∧ second.fatal? = none ∧ first.widget = second.widget ∧
      first.notices.Perm second.notices ∧ site.Settles className w batch first.widget ∧
      ∀ (v : Widget) (a : NamedValue) (f : Field), f ∉ Attribute.fieldsNamed a.1 →
        (f = .alphaTest → ¬ IsDrawing a) →
        (site.applyOne className v a.1 a.2).widget.get f = v.get f := by
  intro first second
  have arranged : batch.arrange.Perm other.arrange :=
    (batch.arrange_perm.trans perm).trans other.arrange_perm.symm
  have front : batch.forced site.scale = other.forced site.scale := by
    simp only [Batch.forced, perm.any_eq]
  have firstEq : first = _ := applyAll_eq present w
  have secondEq : second = _ :=
    applyAll_eq (fun a member => present a (perm.mem_iff.mpr member)) w
  have inBatch {a : NamedValue} (inside : a ∈ batch.arrange) := batch.arrange_perm.mem_iff.mp inside
  have same : first.widget = second.widget := by
    rw [firstEq, secondEq, ← front]
    refine foldl_eq_of_sorted_perm (fun a => Batch.rank a.1) arranged batch.arrange_sorted
      other.arrange_sorted (fun a insideA b insideB ranks v => ?_) _
    by_cases equal : a = b
    · rw [equal]
    · have distinct : site.Apart className w a b :=
        apart.forall (inBatch insideA) (inBatch insideB) equal
      exact effect_comm distinct (present a (inBatch insideA)) (present b (inBatch insideB)) ranks v
  refine ⟨by rw [firstEq], by rw [secondEq], same, ?_, applyAll_settles apart present, ?_⟩
  · rw [firstEq, secondEq, ← front]
    exact (arranged.flatMap_right _).append_left _
  · intro v a f other blends
    rw [applyOne_outcome]
    exact get_effect (fun read found own => other (fields_of_readAs found ▸ own)) blends

/-- A drawing on a screen that is rescaled, in front of the size that it is to have. -/
def sketchSite : AttributeSite where
  store := .initial
  assets := ⟨⟨.ofList [(⟨.above 0, ["a.svg"]⟩, .file (.text "a"))]⟩,
    ⟨⟨"skins"⟩, ⟨"display"⟩, ⟨"fonts"⟩, ⟨"user"⟩⟩, id⟩
  scale := ⟨⟨3, 2, by decide⟩, ⟨3, 2, by decide⟩⟩
  surface := guiSurface

def sketch : Batch := [
  ("pixmap", .text "a.svg"), ("flags", .text "wfNoBorder,?"), ("size", .size ⟨40, 30⟩),
  ("alphatest", .text "on"), ("flags", .text "wfNoBorder")]

theorem sketch_perm :
    let first := sketchSite.applyAll "Label" .initial sketch
    let second := sketchSite.applyAll "Label" .initial sketch.reverse
    sketch.Pairwise (sketchSite.Apart "Label" .initial) ∧
      (∀ a ∈ sketch, ¬ sketchSite.Misses "Label" a) ∧
      first.fatal? = none ∧ first.widget = second.widget ∧ first.notices.Perm second.notices ∧
      first.widget.pixmap = some ⟨⟨"a.svg"⟩, some ⟨40, 30⟩⟩ ∧ first.widget.alphaTest = .blend := by
  intro first second
  have names : sketch.Pairwise fun a b => ∀ f ∈ Attribute.fieldsNamed a.1,
      f ∈ Attribute.fieldsNamed b.1 → f = .flags := by decide +kernel
  have apart : sketch.Pairwise (sketchSite.Apart "Label" .initial) := names.imp apart_of_names
  have present : ∀ a ∈ sketch, ¬ sketchSite.Misses "Label" a := by
    simp only [sketch, List.forall_mem_cons, List.not_mem_nil, false_implies, implies_true, and_true]
    refine ⟨?_, ?_, ?_, ?_, ?_⟩
    · exact not_misses_of_isFile (by decide +kernel)
    all_goals exact not_misses_of_isSome (w := .initial) (by decide) (by decide +kernel)
  obtain ⟨fine, -, same, noted, settles, -⟩ := applyAll_perm sketch.reverse_perm.symm apart present
  have size : first.widget.size = ⟨40, 30⟩ :=
    settles.set ("size", .size ⟨40, 30⟩) (by decide) (by decide) (.size ⟨40, 30⟩) rfl .size (by decide)
      (by decide) nofun
  have drawing : IsDrawing ("pixmap", .text "a.svg") := ⟨"a.svg", rfl, by decide⟩
  refine ⟨apart, present, fine, same, noted, ?_, settles.drawing _ (by decide) drawing⟩
  refine (settles.pixmap (.text "a.svg") (by decide)).trans ?_
  rw [show (sketchSite.applyAll "Label" .initial sketch).widget.size = ⟨40, 30⟩ from size]
  decide +kernel

end AttributeSite

end Skinning
