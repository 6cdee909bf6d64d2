import Skinning.Proofs.ReadAttributes

/-! Attributes that fail. One is reported once, with what was noted while it was read, and does not
set anything. Only the image of a drawing that is missing leaves something behind: the widget is
blended before the image is looked for. -/
namespace Skinning

namespace AttributeSite

variable {site : AttributeSite} {className : String} {w : Widget} {a : NamedValue}

/-- Where an attribute fails, the widget stays as it was, and the fault is reported once. -/
def LeavesAlone (site : AttributeSite) (className : String) (w : Widget) (a : NamedValue) : Prop :=
  ∀ fault notices, site.outcome className w a = (.error fault, notices) →
    site.applyOne className w a.1 a.2 =
      if fault.isFatal then ⟨w, some fault, notices⟩
      else ⟨w, none, notices ++ [.fault (.ofAttribute fault)]⟩

theorem applyOne_of_error {fault : AttributeFault} {notices : Notices}
    (fails : site.outcome className w a = (.error fault, notices)) :
    site.applyOne className w a.1 a.2 =
      if fault.isFatal then ⟨blendDrawing w a.1 a.2, some fault, notices⟩
      else ⟨blendDrawing w a.1 a.2, none, notices ++ [.fault (.ofAttribute fault)]⟩ := by
  rw [applyOne_outcome, effect, readAs, fails]
  cases fatal : fault.isFatal <;> simp [fatalIn?, reported, fatal]

theorem blendDrawing_eq_self_iff :
    blendDrawing w a.1 a.2 = w ↔ ¬ (IsDrawing a ∧ w.alphaTest ≠ .blend) := by
  by_cases drawing : IsDrawing a
  · rw [blendDrawing_of_isDrawing drawing]
    simp only [drawing, true_and, ne_eq, Decidable.not_not]
    constructor
    · exact fun same => (congrArg Widget.alphaTest same).symm
    · intro blended
      rw [← blended]
      rfl
  · simp [blendDrawing_of_not drawing, drawing]

/-- A drawing fails only by a missing image. -/
theorem isFatal_of_isDrawing {fault : AttributeFault} {notices : Notices} (drawing : IsDrawing a)
    (fails : site.outcome className w a = (.error fault, notices)) : fault.isFatal := by
  obtain ⟨path, rfl, -⟩ := drawing
  rw [outcome_pixmap] at fails
  split at fails
  · cases fails
  · cases fails
    rfl

/-- Whether an image is missing does not depend on the widget. -/
theorem Misses.outcome (misses : site.Misses className a) (w : Widget) :
    ∃ fault notices, site.outcome className w a = (.error fault, notices) ∧ fault.isFatal := by
  obtain ⟨v, fault, fails, fatal⟩ := misses
  by_cases isPixmap : a.1 = "pixmap"
  · obtain ⟨value, rfl⟩ := NamedValue.exists_of_name isPixmap
    rw [outcome_pixmap] at fails ⊢
    simp only [Assets.loadPixmap] at fails ⊢
    by_cases isFile : site.assets.files.isFile (Assets.withoutOption ⟨value.render⟩)
    · rw [if_pos isFile] at fails
      cases fails
    · rw [if_neg isFile]
      exact ⟨_, _, rfl, rfl⟩
  · rw [outcome_congr (v := w) isPixmap] at fails
    exact ⟨fault, _, Prod.ext fails rfl, fatal⟩

theorem leavesAlone_iff_blended : site.LeavesAlone className w a ↔
    ¬ (IsDrawing a ∧ site.Misses className a ∧ w.alphaTest ≠ .blend) := by
  constructor
  · rintro alone ⟨drawing, misses, unblended⟩
    obtain ⟨fault, notices, fails, fatal⟩ := misses.outcome w
    have left := alone fault notices fails
    rw [applyOne_of_error fails, if_pos fatal, if_pos fatal] at left
    exact blendDrawing_eq_self_iff.mp (congrArg Applied.widget left) ⟨drawing, unblended⟩
  · intro blended fault notices fails
    have kept : blendDrawing w a.1 a.2 = w := by
      refine blendDrawing_eq_self_iff.mpr fun ⟨drawing, unblended⟩ => ?_
      have fatal := isFatal_of_isDrawing drawing fails
      exact blended ⟨drawing, ⟨w, fault, by rw [fails], fatal⟩, unblended⟩
    rw [applyOne_of_error fails, kept]

/-! Batches that a missing image ends. -/

theorem fatal_applyOne {fault : AttributeFault}
    (ends : (site.applyOne className w a.1 a.2).fatal? = some fault) :
    (site.outcome className w a).1 = .error fault ∧ fault.isFatal := by
  rw [applyOne_outcome] at ends
  cases read : (site.outcome className w a).1 with
  | ok read? =>
    rw [read] at ends
    cases ends
  | error found =>
    rw [read] at ends
    obtain ⟨fatal, same⟩ := Option.ite_none_right_eq_some.mp ends
    obtain rfl := Option.some.inj same
    exact ⟨rfl, fatal⟩

theorem applyList_cons (fine : (site.applyOne className w a.1 a.2).fatal? = none) (rest : Batch) :
    site.applyList className w (a :: rest) =
      { site.applyList className (site.applyOne className w a.1 a.2).widget rest with
        notices := (site.applyOne className w a.1 a.2).notices ++
          (site.applyList className (site.applyOne className w a.1 a.2).widget rest).notices } := by
  simp only [applyList, fine]

/-- Where the application of attributes breaks off: they were applied up to one that failed, and of
this one there is nothing but the blending of a drawing. -/
structure BreaksOff (site : AttributeSite) (className : String) (w : Widget) (l : Batch)
    (fault : AttributeFault) (before : Batch) (a : NamedValue) (after : Batch) : Prop where
  order : l = before ++ a :: after
  applied : (site.applyList className w before).fatal? = none
  stops : ∃ notices,
    site.outcome className (site.applyList className w before).widget a = (.error fault, notices) ∧
      site.applyList className w l =
        ⟨blendDrawing (site.applyList className w before).widget a.1 a.2, some fault,
          (site.applyList className w before).notices ++ notices⟩

theorem applyList_breaksOff {l : Batch} {fault : AttributeFault}
    (ends : (site.applyList className w l).fatal? = some fault) :
    ∃ before a after, site.BreaksOff className w l fault before a after := by
  induction l generalizing w with
  | nil => cases ends
  | cons a rest ih =>
    cases first : (site.applyOne className w a.1 a.2).fatal? with
    | some found =>
      have whole : site.applyList className w (a :: rest) = site.applyOne className w a.1 a.2 := by
        simp only [applyList, first]
      obtain rfl : found = fault := by
        rw [whole, first] at ends
        exact Option.some.inj ends
      obtain ⟨fails, fatal⟩ := fatal_applyOne first
      have read : site.outcome className w a = (.error found, _) := Prod.ext fails rfl
      refine ⟨[], a, rest, rfl, rfl, _, read, ?_⟩
      rw [whole, applyOne_of_error read, if_pos fatal]
      rfl
    | none =>
      have whole := applyList_cons first rest
      rw [whole] at ends
      obtain ⟨before, b, after, order, applied, notices, fails, stopped⟩ := ih ends
      have front := applyList_cons first before
      refine ⟨a :: before, b, after, by rw [order]; rfl, by rw [front]; exact applied, notices, ?_, ?_⟩
      · rw [front]
        exact fails
      · rw [whole, front, stopped]
        simp

/-- An attribute that fails leaves the widget alone, unless it is the image of a drawing, the image
is missing, and the widget is not blended already. Of that one there remains the blending, be it
applied by itself or as the attribute of a batch that ends its application. -/
theorem leavesAlone_iff :
    (site.LeavesAlone className w a ↔
      ¬ (IsDrawing a ∧ site.Misses className a ∧ w.alphaTest ≠ .blend)) ∧
    (∀ fault notices, site.outcome className w a = (.error fault, notices) →
      site.applyOne className w a.1 a.2 =
        if fault.isFatal then ⟨blendDrawing w a.1 a.2, some fault, notices⟩
        else ⟨w, none, notices ++ [.fault (.ofAttribute fault)]⟩) ∧
    ∀ batch fault, (site.applyAll className w batch).fatal? = some fault →
      ∃ before b after,
        site.BreaksOff className w (batch.sort site.scale) fault before b after ∧
        ((site.applyAll className w batch).widget = (site.applyList className w before).widget ↔
          ¬ (IsDrawing b ∧ (site.applyList className w before).widget.alphaTest ≠ .blend)) := by
  refine ⟨leavesAlone_iff_blended, fun fault notices fails => ?_, fun batch fault ends => ?_⟩
  · rw [applyOne_of_error fails]
    by_cases fatal : fault.isFatal
    · rw [if_pos fatal, if_pos fatal]
    · have other : ¬ IsDrawing a := fun drawing => fatal (isFatal_of_isDrawing drawing fails)
      rw [if_neg fatal, if_neg fatal, blendDrawing_of_not other]
  · obtain ⟨before, b, after, breaks⟩ := applyList_breaksOff ends
    obtain ⟨notices, -, stopped⟩ := breaks.stops
    refine ⟨before, b, after, breaks, ?_⟩
    rw [applyAll, stopped]
    exact blendDrawing_eq_self_iff

/-- A drawing that is nowhere to be found. -/
def blankSite : AttributeSite where
  store := .initial
  assets := ⟨⟨.ofList []⟩, ⟨⟨"skins"⟩, ⟨"display"⟩, ⟨"fonts"⟩, ⟨"user"⟩⟩, id⟩
  scale := .identity
  surface := guiSurface

def gone : NamedValue := ("pixmap", .text "gone.svg")

theorem gone_outcome (w : Widget) :
    blankSite.outcome "eLabel" w gone = (.error (.pixmapNotFound ⟨"gone.svg"⟩), []) := by
  have absent : ¬ blankSite.assets.files.isFile (Assets.withoutOption ⟨"gone.svg"⟩) := by
    decide +kernel
  refine (outcome_pixmap (.text "gone.svg")).trans ?_
  rw [AttributeValue.render, Assets.loadPixmap, if_neg absent]

theorem gone_isDrawing : IsDrawing gone := ⟨"gone.svg", rfl, by decide⟩

theorem gone_misses : blankSite.Misses "eLabel" gone :=
  ⟨.initial, _, congrArg Prod.fst (gone_outcome .initial), rfl⟩

theorem gone_not_leavesAlone : ¬ blankSite.LeavesAlone "eLabel" .initial gone := fun alone =>
  leavesAlone_iff_blended.mp alone ⟨gone_isDrawing, gone_misses, by decide⟩

theorem gone_leavesBlending :
    let applied := blankSite.applyAll "eLabel" .initial [gone]
    (blankSite.LeavesAlone "eLabel" .initial gone ↔ ¬ (IsDrawing gone ∧
      blankSite.Misses "eLabel" gone ∧ Widget.initial.alphaTest ≠ .blend)) ∧
    blankSite.applyOne "eLabel" .initial gone.1 gone.2 =
      ⟨Widget.initial.apply (.alphaTest .blend), some (.pixmapNotFound ⟨"gone.svg"⟩), []⟩ ∧
    applied.fatal? = some (.pixmapNotFound ⟨"gone.svg"⟩) ∧
    ∃ before b after,
      blankSite.BreaksOff "eLabel" .initial (Batch.sort [gone] blankSite.scale)
        (.pixmapNotFound ⟨"gone.svg"⟩) before b after := by
  intro applied
  obtain ⟨alone, one, all⟩ := @leavesAlone_iff blankSite "eLabel" .initial gone
  have single : Batch.sort [gone] blankSite.scale = [gone] := by
    rw [Batch.sort, Batch.arrange, List.mergeSort_singleton]
    rfl
  have first := one _ _ (gone_outcome .initial)
  have fatal : (AttributeFault.pixmapNotFound ⟨"gone.svg"⟩).isFatal := rfl
  rw [if_pos fatal, blendDrawing_of_isDrawing gone_isDrawing] at first
  have ends : applied.fatal? = some (.pixmapNotFound ⟨"gone.svg"⟩) := by
    have same : applied = blankSite.applyList "eLabel" .initial [gone] :=
      congrArg (blankSite.applyList "eLabel" .initial) single
    rw [same, applyList]
    simp only [first]
  obtain ⟨before, b, after, breaks, -⟩ := all [gone] _ ends
  exact ⟨alone, first, ends, before, b, after, breaks⟩

end AttributeSite

end Skinning
