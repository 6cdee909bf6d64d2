import Skinning.Proofs.FileSuffixes
import Skinning.Proofs.WidgetFields
import Skinning.Widget.Batch

/-! What attributes are read as, and what they do to a widget. The name of an attribute decides which
fields it sets, and the widget makes no difference but for its size, at which an image is loaded. -/
namespace Skinning

open Widget (Field)

namespace Attribute

/-- The fields that the attribute of a name sets. Names that are idle or unknown set none. -/
def fieldsNamed : String → List Field
  | "position" => [.position]
  | "size" => [.size]
  | "title" => [.title]
  | "text" => [.text]
  | "font" => [.font]
  | "secondfont" => [.secondFont]
  | "zPosition" => [.zPosition]
  | "transparent" => [.transparent]
  | "itemHeight" => [.itemHeight]
  | "itemWidth" => [.itemWidth]
  | "borderWidth" => [.borderWidth]
  | "widgetBorderWidth" => [.widgetBorderWidth]
  | "scrollbarWidth" => [.scrollbarWidth]
  | "scrollbarSliderBorderWidth" => [.scrollbarBorderWidth]
  | "itemCornerRadius" => [.itemCornerRadius]
  | "itemCornerRadiusSelected" => [.itemCornerRadiusSelected]
  | "cornerRadius" => [.cornerRadius]
  | "pixmap" => [.pixmap]
  | "backgroundPixmap" => [.backgroundPixmap]
  | "selectionPixmap" => [.selectionPixmap]
  | "selectionPixmapLarge" => [.selectionPixmapLarge]
  | "sliderPixmap" | "scrollbarSliderPicture" => [.sliderPixmap]
  | "scrollbarbackgroundPixmap" | "scrollbarBackgroundPicture" => [.scrollbarBackgroundPixmap]
  | "pointer" => [.pointer]
  | "seek_pointer" => [.seekPointer]
  | "alphatest" => [.alphaTest]
  | "scale" => [.scale]
  | "scaleFlags" => [.scaleFlags]
  | "orientation" => [.orientation, .reversed]
  | "valign" => [.valign]
  | "halign" => [.halign]
  | "scrollbarMode" => [.scrollbarMode]
  | "textOffset" => [.textOffset]
  | "shadowOffset" => [.shadowOffset]
  | "flags" => [.flags]
  | "backgroundColor" | "backgroundNotCrypted" | "backgroundCrypted" | "backgroundEncrypted" =>
    [.backgroundColor]
  | "foregroundColor" | "foregroundNotCrypted" | "foregroundCrypted" | "foregroundEncrypted" =>
    [.foregroundColor]
  | "backgroundColorSelected" => [.backgroundColorSelected]
  | "foregroundColorSelected" => [.foregroundColorSelected]
  | "shadowColor" => [.shadowColor]
  | "borderColor" => [.borderColor]
  | "widgetBorderColor" => [.widgetBorderColor]
  | "scrollbarSliderBorderColor" => [.sliderBorderColor]
  | "scrollbarSliderForegroundColor" => [.sliderForegroundColor]
  | "selectionDisabled" => [.selectionEnabled]
  | "enableWrapAround" => [.wrapAround]
  | "noWrap" => [.noWrap]
  | _ => []

end Attribute

theorem AttributeReading.ok_of_bind {r : AttributeReading α} {f : α → AttributeReading β}
    {notices : Notices} {b : β} (read : ((r >>= f).run.run notices).1 = .ok b) :
    ∃ a noted, ((f a).run.run noted).1 = .ok b := by
  simp only [ExceptT.run_bind, StateT.run_bind] at read
  generalize r.run.run notices = outcome at read
  obtain ⟨fault | a, noted⟩ := outcome
  · cases read
  · exact ⟨a, noted, read⟩

/-- The value of an attribute with its name. -/
abbrev NamedValue := String × AttributeValue

theorem NamedValue.exists_of_name {a : NamedValue} {name : String} (named : a.1 = name) :
    ∃ value, a = (name, value) :=
  ⟨a.2, Prod.ext named rfl⟩

namespace AttributeSite

variable {site : AttributeSite} {className : String} {w v : Widget} {a : NamedValue}

/-- What an attribute is read as for a widget, and what is noted. -/
def outcome (site : AttributeSite) (className : String) (w : Widget) (a : NamedValue) :
    Except AttributeFault (Option Attribute) × Notices :=
  (site.read w className a.1 a.2).run.run []

theorem fields_of_readText {name value : String} {notices : Notices} {a : Attribute}
    (read : ((site.readText w className name value).run.run notices).1 = .ok (some a)) :
    a.fields = Attribute.fieldsNamed name := by
  unfold readText at read
  split at read
  -- Most values are read before they make an attribute, some are one at once, and one branch is
  -- for the names without any.
  all_goals first
    | obtain ⟨value, noted, done⟩ := AttributeReading.ok_of_bind read
      cases done
      rfl
    | cases read
      rfl
    | split at read <;> cases read

/-- The name of an attribute decides which fields it sets. -/
theorem fields_of_outcome {a : NamedValue} {read : Attribute}
    (reads : (site.outcome className w a).1 = .ok (some read)) :
    read.fields = Attribute.fieldsNamed a.1 := by
  unfold outcome AttributeSite.read at reads
  split at reads
  next named _ =>
    cases reads
    rw [named]
    rfl
  next named _ =>
    cases reads
    rw [named]
    rfl
  next => exact fields_of_readText reads

theorem readText_congr {name value : String} (other : name ≠ "pixmap") :
    site.readText w className name value = site.readText v className name value := by
  unfold readText
  split
  -- By a name of its own an attribute is read in the same words, but for the one excluded.
  all_goals first
    | exact absurd rfl other
    | rfl

/-- The widget makes no difference to an attribute that is not its image. -/
theorem outcome_congr {a : NamedValue} (other : a.1 ≠ "pixmap") :
    site.outcome className w a = site.outcome className v a := by
  unfold outcome AttributeSite.read
  split
  · rfl
  · rfl
  · rw [readText_congr other]

/-- The image of a widget is loaded at the widget's size. -/
theorem outcome_pixmap (value : AttributeValue) :
    site.outcome className w ("pixmap", value) =
      match site.assets.loadPixmap ⟨value.render⟩ (some w.size) with
      | some p => (.ok (some (.pixmap p)), [])
      | none => (.error (.pixmapNotFound ⟨value.render⟩), []) :=
  run_pixmap .pixmap value.render (some w.size)

theorem outcome_of_size (same : w.size = v.size) (a : NamedValue) :
    site.outcome className w a = site.outcome className v a := by
  by_cases isPixmap : a.1 = "pixmap"
  · obtain ⟨value, rfl⟩ := NamedValue.exists_of_name isPixmap
    rw [outcome_pixmap, outcome_pixmap, same]
  · exact outcome_congr isPixmap

/-! What an attribute does. -/

/-- The attribute that a value is read as, if it is read as one. -/
def readAs (site : AttributeSite) (className : String) (w : Widget) (a : NamedValue) :
    Option Attribute :=
  match (site.outcome className w a).1 with
  | .ok read? => read?
  | .error _ => none

theorem fields_of_readAs {read : Attribute} (found : read ∈ site.readAs className w a) :
    read.fields = Attribute.fieldsNamed a.1 := by
  unfold readAs at found
  split at found
  next read? reads =>
    obtain rfl : read? = some read := found
    exact fields_of_outcome reads
  next => cases found

/-- Whether an attribute sets a field. -/
def Sets (site : AttributeSite) (className : String) (w : Widget) (a : NamedValue) (f : Field) :
    Prop :=
  ∃ read ∈ site.readAs className w a, f ∈ read.fields

/-- Whether an image is missing. -/
def Misses (site : AttributeSite) (className : String) (a : NamedValue) : Prop :=
  ∃ w fault, (site.outcome className w a).1 = .error fault ∧ fault.isFatal

/-- The image of a widget by the name of a drawing. -/
def IsDrawing (a : NamedValue) : Prop :=
  ∃ path, a = ("pixmap", .text path) ∧ (Text.before? ".svg" path).isSome

theorem blendDrawing_of_isDrawing (drawing : IsDrawing a) :
    blendDrawing w a.1 a.2 = w.apply (.alphaTest .blend) := by
  obtain ⟨path, rfl, suffix⟩ := drawing
  exact if_pos suffix

theorem blendDrawing_of_not (other : ¬ IsDrawing a) : blendDrawing w a.1 a.2 = w := by
  unfold blendDrawing
  split
  next path named text =>
    refine if_neg fun suffix => other ⟨path, ?_, suffix⟩
    rw [← named, ← text]
  next => rfl

theorem isDrawing_name (drawing : IsDrawing a) : a.1 = "pixmap" := by
  obtain ⟨path, rfl, -⟩ := drawing
  rfl

theorem size_blendDrawing : (blendDrawing w a.1 a.2).size = w.size := by
  by_cases drawing : IsDrawing a
  · rw [blendDrawing_of_isDrawing drawing]
    rfl
  · rw [blendDrawing_of_not drawing]

theorem outcome_blendDrawing (w : Widget) (a : NamedValue) :
    site.outcome className (blendDrawing w a.1 a.2) a = site.outcome className w a :=
  outcome_of_size size_blendDrawing a

/-- What is reported of a reading, besides what it notes itself. -/
def reported : Except AttributeFault (Option Attribute) → Notices
  | .ok _ => []
  | .error fault => if fault.isFatal then [] else [.fault (.ofAttribute fault)]

def fatalIn? : Except AttributeFault (Option Attribute) → Option AttributeFault
  | .ok _ => none
  | .error fault => if fault.isFatal then some fault else none

/-- A widget after an attribute. -/
def effect (site : AttributeSite) (className : String) (w : Widget) (a : NamedValue) : Widget :=
  (site.readAs className w a).elim (blendDrawing w a.1 a.2) (blendDrawing w a.1 a.2).apply

/-- An attribute is read for the widget as it was, and applied to it as it is to be drawn. -/
theorem applyOne_outcome (w : Widget) (a : NamedValue) :
    let outcome := site.outcome className w a
    site.applyOne className w a.1 a.2 =
      ⟨site.effect className w a, fatalIn? outcome.1, outcome.2 ++ reported outcome.1⟩ := by
  intro outcome
  have run : (site.read (blendDrawing w a.1 a.2) className a.1 a.2).run.run [] = outcome :=
    outcome_blendDrawing w a
  have same : site.outcome className w a = outcome := rfl
  simp only [effect, readAs, applyOne, run, same]
  clear_value outcome
  obtain ⟨fault | read?, notices⟩ := outcome
  · cases fatal : fault.isFatal <;> simp [fatalIn?, reported, fatal]
  · cases read? <;> simp [fatalIn?, reported]

/-- An attribute changes only its own fields, and the image of a drawing the blending. -/
theorem get_effect {f : Field} (other : ∀ read ∈ site.readAs className w a, f ∉ read.fields)
    (blends : f = .alphaTest → ¬ IsDrawing a) : (site.effect className w a).get f = w.get f := by
  have blended : (blendDrawing w a.1 a.2).get f = w.get f := by
    by_cases drawing : IsDrawing a
    · rw [blendDrawing_of_isDrawing drawing]
      exact Attribute.get_apply_of_notMem
        (fun own => blends (List.mem_singleton.mp own) drawing) w
    · rw [blendDrawing_of_not drawing]
  rw [effect]
  cases found : site.readAs className w a with
  | none => exact blended
  | some read => exact (Attribute.get_apply_of_notMem (other read found) _).trans blended

theorem readAs_congr (other : a.1 ≠ "pixmap") :
    site.readAs className w a = site.readAs className v a := by
  rw [readAs, readAs, outcome_congr other]

theorem effect_of_ne (other : a.1 ≠ "pixmap") (v : Widget) : site.effect className w a =
    (site.readAs className v a).elim w w.apply := by
  rw [effect, blendDrawing_of_not fun drawing => other (isDrawing_name drawing),
    readAs_congr other]

/-- An image that is not missing is loaded at the size of the widget. -/
theorem exists_pixmap {value : AttributeValue} (present : ¬ site.Misses className ("pixmap", value))
    (w : Widget) : ∃ p, site.assets.loadPixmap ⟨value.render⟩ (some w.size) = some p ∧
      site.outcome className w ("pixmap", value) = (.ok (some (.pixmap p)), []) := by
  have reads : site.outcome className w ("pixmap", value) = _ := outcome_pixmap value
  cases loads : site.assets.loadPixmap ⟨value.render⟩ (some w.size) with
  | none =>
    rw [loads] at reads
    exact absurd ⟨w, _, by rw [reads], rfl⟩ present
  | some p =>
    rw [loads] at reads
    exact ⟨p, rfl, reads⟩

theorem effect_pixmap {value : AttributeValue} (present : ¬ site.Misses className ("pixmap", value))
    (w : Widget) : ∃ p, site.assets.loadPixmap ⟨value.render⟩ (some w.size) = some p ∧
      site.effect className w ("pixmap", value) =
        (blendDrawing w "pixmap" value).apply (.pixmap p) := by
  obtain ⟨p, loads, reads⟩ := exists_pixmap present w
  exact ⟨p, loads, by rw [effect, readAs, reads]; rfl⟩

/-- Where no image is missing, it does not depend on the widget which fields are set. -/
theorem sets_congr (present : ¬ site.Misses className a) {f : Field} :
    site.Sets className w a f ↔ site.Sets className v a f := by
  by_cases isPixmap : a.1 = "pixmap"
  · obtain ⟨value, rfl⟩ := NamedValue.exists_of_name isPixmap
    obtain ⟨p, -, reads⟩ := exists_pixmap present w
    obtain ⟨q, -, again⟩ := exists_pixmap present v
    simp [Sets, readAs, reads, again, Attribute.fields]
  · rw [Sets, Sets, readAs_congr isPixmap]

theorem sets_pixmap (present : ¬ site.Misses className a) (isPixmap : a.1 = "pixmap") :
    site.Sets className w a .pixmap := by
  obtain ⟨value, rfl⟩ := NamedValue.exists_of_name isPixmap
  obtain ⟨p, -, reads⟩ := exists_pixmap present w
  exact ⟨.pixmap p, by rw [readAs, reads]; rfl, List.mem_cons_self⟩

/-- What is noted of an attribute without a missing image, whatever the widget. -/
def noted (site : AttributeSite) (className : String) (a : NamedValue) : Notices :=
  (site.applyOne className .initial a.1 a.2).notices

theorem applyOne_eq (present : ¬ site.Misses className a) (w : Widget) :
    site.applyOne className w a.1 a.2 =
      ⟨site.effect className w a, none, site.noted className a⟩ := by
  have fine (v : Widget) : fatalIn? (site.outcome className v a).1 = none := by
    cases read : (site.outcome className v a).1 with
    | ok => rfl
    | error fault => exact if_neg fun fatal => present ⟨v, fault, read, fatal⟩
  have same (v : Widget) : (site.applyOne className v a.1 a.2).notices = site.noted className a := by
    rw [noted, applyOne_outcome, applyOne_outcome]
    by_cases isPixmap : a.1 = "pixmap"
    · obtain ⟨value, rfl⟩ := NamedValue.exists_of_name isPixmap
      obtain ⟨p, -, reads⟩ := exists_pixmap present v
      obtain ⟨q, -, again⟩ := exists_pixmap present .initial
      simp only [reads, again]
      rfl
    · simp only [outcome_congr (w := v) (v := .initial) isPixmap]
  rw [← same w, applyOne_outcome, fine]

end AttributeSite
end Skinning
