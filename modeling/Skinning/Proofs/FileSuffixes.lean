import Skinning.Binding.Binder
import Skinning.Proofs.FileSearch
import Skinning.Proofs.PlainPaths

/-! Files with a suffix: the point that a pointer turns around, and the option of an image. The
suffix is cut off when the file is loaded, but the file is searched for with the suffix in
its name. -/
namespace Skinning

namespace Text

theorem cutChars?_append {sep : Char} {cs : List Char} (uncut : sep ∉ cs) (rest : List Char) :
    cutChars? sep (cs ++ sep :: rest) = some (cs, rest) := by
  induction cs with
  | nil => simp [cutChars?]
  | cons c cs ih =>
    have other : c ≠ sep := fun same => uncut (by simp [same])
    simp [cutChars?, other, ih (fun member => uncut (by simp [member]))]

theorem fst_cutChars? (sep : Char) (cs : List Char) :
    ((cutChars? sep cs).map Prod.fst).getD cs = cs.takeWhile (· ≠ sep) := by
  induction cs with
  | nil => rfl
  | cons c cs ih =>
    by_cases cut : c = sep
    · simp [cutChars?, cut]
    · rw [List.takeWhile_cons_of_pos (by simpa using cut), ← ih]
      cases later : cutChars? sep cs <;> simp [cutChars?, cut, later]

theorem cutLast?_append {sep : Char} (lead : String) {tail : String} (uncut : sep ∉ tail.toList) :
    cutLast? sep (lead ++ String.singleton sep ++ tail) = some (lead, tail) := by
  have reversed : sep ∉ tail.toList.reverse := by simpa using uncut
  simp [cutLast?, cutChars?_append reversed]

theorem toList_int (n : Int) : (toString n).toList =
    if 0 ≤ n then Nat.toDigits 10 n.toNat else '-' :: Nat.toDigits 10 (-n).toNat := by
  rw [Int.toString_eq_repr, Int.repr_eq_if]
  split
  · exact Nat.toList_repr
  · rw [String.toList_append, Nat.toList_repr]
    rfl

theorem int_ne_nil (n : Int) : (toString n).toList ≠ [] := by
  rw [toList_int]
  split
  · exact Nat.toDigits_ne_nil
  · exact List.cons_ne_nil _ _

theorem isDigit_of_mem_toDigits {n : Nat} {c : Char} (member : c ∈ Nat.toDigits 10 n) : c.isDigit :=
  Nat.isDigit_of_mem_toDigits (by decide) (by decide) member

/-- An integer is written with digits and a sign. -/
theorem isDigit_of_mem_int {n : Int} {c : Char} (member : c ∈ (toString n).toList) :
    c.isDigit ∨ c = '-' := by
  rw [toList_int] at member
  split at member
  · exact .inl (isDigit_of_mem_toDigits member)
  · rcases List.mem_cons.mp member with sign | digit
    · exact .inr sign
    · exact .inl (isDigit_of_mem_toDigits digit)

theorem uncut_int {sep : Char} (n : Int) (other : ¬ sep.isDigit ∧ sep ≠ '-') :
    sep ∉ (toString n).toList := by
  intro member
  rcases isDigit_of_mem_int member with digit | sign
  · exact other.1 digit
  · exact other.2 sign

end Text

namespace Assets

theorem withoutOption_eq (path : Path) :
    withoutOption path = ⟨String.ofList (path.text.toList.takeWhile (· ≠ '#'))⟩ := by
  rw [← Text.fst_cutChars? '#' path.text.toList, withoutOption, Text.cut?]
  cases Text.cutChars? '#' path.text.toList <;> simp

/-- An option takes nothing else away with it. -/
theorem withoutOption_append (text option : String) :
    withoutOption ⟨text ++ ("#" ++ option)⟩ = withoutOption ⟨text⟩ := by
  simp only [withoutOption_eq, String.toList_append, List.takeWhile_append]
  split
  next whole =>
    -- No option before: the cut is where the text ends.
    rw [(List.takeWhile_prefix _).eq_of_length whole]
    simp
  · rfl

end Assets

namespace Attribute

/-- The attributes with an image and a point that it turns around. -/
def pointers : List String := ["pointer", "seek_pointer"]

def pixmaps : List String := files.filter fun name => !pointers.contains name

end Attribute

/-- What a file name may be followed by in an attribute. -/
inductive FileSuffix where
  /-- The point that an image turns around. -/
  | center (x y : Int)
  | option (text : String)
  deriving DecidableEq, Repr

namespace FileSuffix

def text : FileSuffix → String
  | center x y => ":" ++ (toString x ++ "," ++ toString y)
  | option text => "#" ++ text

/-- The attributes whose values may end in such a suffix. -/
def attributes : FileSuffix → List String
  | center _ _ => Attribute.pointers
  | option _ => Attribute.pixmaps

theorem mem_files {suffix : FileSuffix} {name : String} (takes : name ∈ suffix.attributes) :
    name ∈ Attribute.files := by
  cases suffix with
  | center x y =>
    have inside : Attribute.pointers ⊆ Attribute.files := by decide
    exact inside takes
  | option text => exact (List.mem_filter.mp takes).1

end FileSuffix

/-- The image that an attribute has set. -/
def Widget.image? (w : Widget) : String → Option Pixmap
  | "pixmap" => w.pixmap
  | "backgroundPixmap" => w.backgroundPixmap
  | "selectionPixmap" => w.selectionPixmap
  | "selectionPixmapLarge" => w.selectionPixmapLarge
  | "sliderPixmap" | "scrollbarSliderPicture" => w.sliderPixmap
  | "scrollbarbackgroundPixmap" | "scrollbarBackgroundPicture" => w.scrollbarBackgroundPixmap
  | "pointer" => w.pointer.map Prod.fst
  | "seek_pointer" => w.seekPointer.map Prod.fst
  | _ => none

namespace AttributeSite

variable (site : AttributeSite)

/-- The attribute is applied without a missing image, and its image is that of a file. -/
def Finds (name : String) (value : AttributeValue) (file : Path) : Prop :=
  ∀ (className : String) (w : Widget),
    let applied := site.applyOne className w name value
    applied.fatal? = none ∧ (applied.widget.image? name).map Pixmap.path = some file

/-- An attribute is read as an image: the image is loaded, and a field is set to it. -/
def ReadsImage (name value file : String) : Prop :=
  ∀ (w : Widget) (className : String),
    ∃ (make : Pixmap → Attribute) (size : Option Size) (notices : Notices),
      (∀ (later : Widget) (p : Pixmap), (later.apply (make p)).image? name = some p) ∧
      (site.read w className name (.text value)).run.run [] =
        match site.assets.loadPixmap ⟨file⟩ size with
        | some p => (.ok (some (make p)), notices)
        | none => (.error (.pixmapNotFound ⟨file⟩), notices)

variable {site} {name : String}

theorem ReadsImage.finds_iff {value file : String} (reads : site.ReadsImage name value file)
    {path : Path} (isFile : site.assets.files.isFile path) :
    site.Finds name (.text value) path ↔ Assets.withoutOption ⟨file⟩ = path := by
  constructor
  · intro finds
    obtain ⟨fine, image⟩ := finds "" .initial
    obtain ⟨make, size, notices, sets, runs⟩ := reads (blendDrawing .initial name (.text value)) ""
    simp only [applyOne, runs, Assets.loadPixmap] at fine image
    by_cases loads : site.assets.files.isFile (Assets.withoutOption ⟨file⟩)
    · simpa [loads, sets] using image
    · simp [loads, AttributeFault.isFatal] at fine
  · rintro rfl className w
    obtain ⟨make, size, notices, sets, runs⟩ :=
      reads (blendDrawing w name (.text value)) className
    simp [applyOne, runs, Assets.loadPixmap, isFile, sets]

theorem run_pixmap (make : Pixmap → Attribute) (value : String) (size : Option Size) :
    ((return some (make (← site.pixmap value size)) : AttributeReading (Option Attribute))).run.run [] =
      match site.assets.loadPixmap ⟨value⟩ size with
      | some p => (.ok (some (make p)), [])
      | none => (.error (.pixmapNotFound ⟨value⟩), []) := by
  unfold pixmap
  cases site.assets.loadPixmap ⟨value⟩ size <;> rfl

theorem readsImage_pixmap (isPixmap : name ∈ Attribute.pixmaps) (value : String) :
    site.ReadsImage name value value := by
  have listed : Attribute.pixmaps = [
      "pixmap", "backgroundPixmap", "selectionPixmap", "selectionPixmapLarge", "sliderPixmap",
      "scrollbarSliderPicture", "scrollbarbackgroundPixmap", "scrollbarBackgroundPicture"] := by
    decide
  intro w className
  simp only [listed, List.mem_cons, List.not_mem_nil, or_false] at isPixmap
  rcases isPixmap with rfl | rfl | rfl | rfl | rfl | rfl | rfl | rfl
  · exact ⟨.pixmap, some w.size, [], fun _ _ => rfl, run_pixmap _ _ _⟩
  · exact ⟨.backgroundPixmap, none, [], fun _ _ => rfl, run_pixmap _ _ _⟩
  · exact ⟨.selectionPixmap, none, [], fun _ _ => rfl, run_pixmap _ _ _⟩
  · exact ⟨.selectionPixmapLarge, none, [], fun _ _ => rfl, run_pixmap _ _ _⟩
  · exact ⟨.sliderPixmap, none, [], fun _ _ => rfl, run_pixmap _ _ _⟩
  · exact ⟨.sliderPixmap, none, [], fun _ _ => rfl, run_pixmap _ _ _⟩
  · exact ⟨.scrollbarBackgroundPixmap, none, [], fun _ _ => rfl, run_pixmap _ _ _⟩
  · exact ⟨.scrollbarBackgroundPixmap, none, [], fun _ _ => rfl, run_pixmap _ _ _⟩

/-- Any two integers are a point. -/
theorem plainPair_ints (s : Store) (x y : Int) :
    ∃ point notices, s.plainPair (toString x ++ "," ++ toString y) = .ok (point, notices) := by
  have halves : Text.split ',' (toString x ++ "," ++ toString y) = [toString x, toString y] := by
    have cut := Text.split_append ',' (toString x) (toString y)
    rw [Text.split_of_uncut (Text.uncut_int x (by decide)),
      Text.split_of_uncut (Text.uncut_int y (by decide))] at cut
    exact cut
  simp only [Store.plainPair, Pair.split, halves]
  exact ⟨_, _, rfl⟩

theorem run_pointer (make : Pixmap → Point → Attribute) {value file center : String}
    {point : Point} {notices : Notices} (cut : Text.cutLast? ':' value = some (file, center))
    (pair : site.store.plainPair center = .ok (point, notices)) :
    (do
      let (pixmap, center) ← site.pointer name value
      return some (make pixmap center) : AttributeReading (Option Attribute)).run.run [] =
      match site.assets.loadPixmap ⟨file⟩ none with
      | some p => (.ok (some (make p (site.scalePoint point))), notices)
      | none => (.error (.pixmapNotFound ⟨file⟩), notices) := by
  unfold pointer scaledPair pixmap
  rw [cut]
  simp only [pair]
  cases site.assets.loadPixmap ⟨file⟩ none <;> rfl

theorem readsImage_pointer (isPointer : name ∈ Attribute.pointers) (lead : String) (x y : Int) :
    site.ReadsImage name (lead ++ (FileSuffix.center x y).text) lead := by
  have uncut : ':' ∉ (toString x ++ "," ++ toString y).toList := by
    intro member
    simp only [String.toList_append, List.mem_append] at member
    rcases member with (first | comma) | second
    · exact Text.uncut_int x (by decide) first
    · simp at comma
    · exact Text.uncut_int y (by decide) second
  have cut := Text.cutLast?_append lead uncut
  have spelled : lead ++ (FileSuffix.center x y).text =
      lead ++ String.singleton ':' ++ (toString x ++ "," ++ toString y) := by
    simp [FileSuffix.text, String.append_assoc]
  obtain ⟨point, notices, pair⟩ := plainPair_ints site.store x y
  intro w className
  rw [spelled]
  simp only [Attribute.pointers, List.mem_cons, List.not_mem_nil, or_false] at isPointer
  rcases isPointer with rfl | rfl
  · exact ⟨(.pointer · (site.scalePoint point)), none, notices, fun _ _ => rfl,
      run_pointer .pointer cut pair⟩
  · exact ⟨(.seekPointer · (site.scalePoint point)), none, notices, fun _ _ => rfl,
      run_pointer .seekPointer cut pair⟩

end AttributeSite

namespace BindingSite

/-- A relative name without a suffix that leads to a file. -/
structure PlainFile (site : BindingSite) where
  name : String
  relative : ¬ (⟨name⟩ : Path).isAbsolute
  plain : ':' ∉ name.toList ∧ '#' ∉ name.toList
  isFile : site.skin.assets.files.isFile (site.skin.assets.resolve .current name site.base?)

namespace PlainFile

variable {site : BindingSite} (file : site.PlainFile)

def path : Path := site.skin.assets.resolve .current file.name site.base?

/-- The file is found whatever follows its name. -/
def FoundSuffixed : Prop :=
  ∀ suffix : FileSuffix, ∀ name ∈ suffix.attributes,
    site.attributes.Finds name (site.resolveFile name (file.name ++ suffix.text)) file.path

/-- The directory that the file is taken from if something follows its name. -/
def directoryWith (suffix : FileSuffix) : Path :=
  site.skin.assets.directoryFor .current (file.name ++ suffix.text) site.base?

theorem relative_suffixed (suffix : FileSuffix) :
    ¬ (⟨file.name ++ suffix.text⟩ : Path).isAbsolute := by
  have relative := file.relative
  simp only [Path.isAbsolute, String.toList_append] at relative ⊢
  cases chars : file.name.toList with
  | nil => cases suffix <;> simp [FileSuffix.text]
  | cons c rest => simpa [chars] using relative

/-- The name is searched for with its suffix, and found or missing in one directory. -/
theorem resolveFile_suffixed {suffix : FileSuffix} {name : String}
    (takes : name ∈ suffix.attributes) :
    site.resolveFile name (file.name ++ suffix.text) =
      .text (((file.directoryWith suffix).join ⟨file.name⟩).text ++ suffix.text) := by
  have isFileName : Attribute.files.contains name := by simpa using FileSuffix.mem_files takes
  have longer := file.relative_suffixed suffix
  rw [resolveFile, if_pos isFileName, Assets.resolve_eq_join longer,
    Path.join_append file.relative longer]
  rfl

theorem finds_iff {suffix : FileSuffix} {name : String} (takes : name ∈ suffix.attributes) :
    site.attributes.Finds name (site.resolveFile name (file.name ++ suffix.text)) file.path ↔
      Assets.withoutOption ((file.directoryWith suffix).join ⟨file.name⟩) = file.path := by
  rw [file.resolveFile_suffixed takes]
  generalize (file.directoryWith suffix).join ⟨file.name⟩ = lead
  have isFile : site.attributes.assets.files.isFile file.path := file.isFile
  cases suffix with
  | center x y =>
    have reads := @AttributeSite.readsImage_pointer site.attributes name takes lead.text x y
    exact reads.finds_iff isFile
  | option text =>
    have reads := @AttributeSite.readsImage_pixmap site.attributes name takes
      (lead.text ++ (FileSuffix.option text).text)
    rw [reads.finds_iff isFile, FileSuffix.text, Assets.withoutOption_append]

/-- A file is found with any suffix exactly if the directory in which its name is searched for
together with that suffix is always the one that the file is in. -/
theorem foundSuffixed_iff :
    file.FoundSuffixed ↔ ∀ suffix : FileSuffix,
      Assets.withoutOption ((file.directoryWith suffix).join ⟨file.name⟩) = file.path := by
  constructor
  · intro found suffix
    have pointer : "pointer" ∈ Attribute.pointers := by decide
    have pixmap : "pixmap" ∈ Attribute.pixmaps := by decide
    obtain ⟨name, takes⟩ : ∃ name, name ∈ suffix.attributes := by
      cases suffix with
      | center x y => exact ⟨_, pointer⟩
      | option text => exact ⟨_, pixmap⟩
    exact (file.finds_iff takes).mp (found suffix name takes)
  · intro same suffix name takes
    exact (file.finds_iff takes).mpr (same suffix)

/-- Where no file has a suffix in its own name, only files of the user are found with one. -/
theorem finds_iff_of_absent {suffix : FileSuffix} {name : String}
    (takes : name ∈ suffix.attributes)
    (absent : ∀ dir ∈ site.skin.assets.searched .current site.base?,
      ¬ site.skin.assets.files.isPresent (dir.join ⟨file.name ++ suffix.text⟩)) :
    site.attributes.Finds name (site.resolveFile name (file.name ++ suffix.text)) file.path ↔
      Assets.withoutOption (site.skin.directories.user.join ⟨file.name⟩) = file.path := by
  rw [file.finds_iff takes, directoryWith, Assets.directoryFor_of_absent absent]
  rfl

end PlainFile

/-- A fragment from a directory with an image in it. -/
def beside : BindingSite where
  skin :=
    let files : Table Location FileKind := .ofList [
      (⟨.above 0, ["skins"]⟩, .directory),
      (⟨.above 0, ["skins", "A"]⟩, .directory),
      (⟨.above 0, ["skins", "A", "hand.png"]⟩, .file (.text "a"))]
    .ofSettings .initial ⟨⟨files⟩, none, ""⟩ ⟨⟨"skins"⟩, ⟨"display"⟩, ⟨"fonts"⟩, ⟨"user"⟩⟩ id
  components := .none
  fragment := "Main"
  base? := some ⟨"skins/A"⟩
  surface := 0
  scale := .identity

def hand : beside.PlainFile :=
  ⟨"hand.png", by decide +kernel, by decide +kernel, by decide +kernel⟩

/-- As a pointer the image is looked for in the user's directory, where it is not. -/
theorem hand_not_foundSuffixed : ¬ hand.FoundSuffixed := by
  intro found
  have takes : "pointer" ∈ (FileSuffix.center 1 2).attributes := by decide
  have same := (hand.finds_iff takes).mp (found _ _ takes)
  revert same
  decide +kernel

end BindingSite
end Skinning
