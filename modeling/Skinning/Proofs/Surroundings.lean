import Skinning.Proofs.LoadSteps

/-! What a load leaves as it is. A skin writes to the log only, which is a file already, so
all paths lead where they led before, and the directories and texts stay the same. -/
namespace Skinning

def FileKind.isDirectory : FileKind → Bool
  | .file _ => false
  | .directory => true

namespace Files

/-- What stands at a place, apart from what it holds. -/
def shape (files : Files) (place : Location) : Option Bool :=
  (files.kindAt? place).map FileKind.isDirectory

theorem shape_set {files : Files} {place : Location} {content : Content} (more : Content)
    (stands : files.kindAt? place = some (.file content)) :
    (files.set place (.file more)).shape = files.shape := by
  have below : place.names.isEmpty = false := by
    cases top : place.names.isEmpty with
    | false => rfl
    | true => simp [kindAt?, top] at stands
  funext other
  by_cases same : other = place
  · subst same
    simp only [shape, stands, Option.map_some, FileKind.isDirectory]
    simp [kindAt?, set, below, FileKind.isDirectory]
  · simp [shape, kindAt?, set, same]

def standing (files : Files) (path : Path) (place : Location) :
    Except FileFault (Location × FileKind) := do
  match files.kindAt? place with
  | none => throw .notFound
  | some kind =>
    if path.asksDirectory then files.requireDirectory place
    return (place, kind)

theorem locate_eq (files : Files) (path : Path) :
    files.locate path =
      path.start.bind fun start => (files.follow start path.steps).bind (files.standing path) :=
  rfl

section

variable {files others : Files} (same : files.shape = others.shape)
include same

theorem requireDirectory_congr (place : Location) :
    files.requireDirectory place = others.requireDirectory place := by
  have kinds := congrFun same place
  simp only [shape] at kinds
  simp only [requireDirectory]
  cases here : files.kindAt? place <;> cases there : others.kindAt? place <;>
    simp_all only [Option.map_none, Option.map_some, Option.some.injEq, reduceCtorEq]
  next kind other => cases kind <;> cases other <;> simp_all [FileKind.isDirectory]

theorem follow_congr (place : Location) (steps : List String) :
    files.follow place steps = others.follow place steps := by
  induction steps generalizing place with
  | nil => rfl
  | cons step rest ih => simp only [follow, requireDirectory_congr same, ih]

theorem standing_congr (path : Path) (place : Location) :
    (files.standing path place).map (Prod.map id FileKind.isDirectory) =
      (others.standing path place).map (Prod.map id FileKind.isDirectory) := by
  have kinds := congrFun same place
  simp only [shape] at kinds
  simp only [standing, requireDirectory_congr same]
  cases here : files.kindAt? place <;> cases there : others.kindAt? place <;>
    simp only [here, there, Option.map_none, Option.map_some, Option.some.injEq, reduceCtorEq]
      at kinds
  · rfl
  · cases path.asksDirectory with
    | false => simpa [Except.map, pure, Except.pure] using kinds
    | true =>
      cases others.requireDirectory place with
      | error fault => rfl
      | ok _ => simpa [Except.map, pure, Except.pure, bind, Except.bind] using kinds

/-- A path leads to the same place, and to a file or a directory alike. -/
theorem locate_congr (path : Path) :
    (files.locate path).map (Prod.map id FileKind.isDirectory) =
      (others.locate path).map (Prod.map id FileKind.isDirectory) := by
  rw [locate_eq, locate_eq]
  cases path.start with
  | error fault => rfl
  | ok start =>
    simp only [Except.bind, follow_congr same]
    cases others.follow start path.steps with
    | error fault => rfl
    | ok place => exact standing_congr same path place

theorem lookup_congr (path : Path) :
    (files.lookup path).map FileKind.isDirectory = (others.lookup path).map FileKind.isDirectory := by
  have leads := congrArg (Except.map Prod.snd) (locate_congr same path)
  simp only [lookup]
  cases here : files.locate path <;> cases there : others.locate path <;>
    simp_all [Except.map, Prod.map]

theorem isPresent_congr (path : Path) : files.isPresent path = others.isPresent path := by
  have found := congrArg Except.isOk (lookup_congr same path)
  simp only [isPresent]
  cases here : files.lookup path <;> cases there : others.lookup path <;>
    simp_all [Except.map, Except.isOk, Except.toBool]

theorem isFile_congr (path : Path) : files.isFile path = others.isFile path := by
  have found := lookup_congr same path
  simp only [isFile]
  cases here : files.lookup path <;> cases there : others.lookup path <;>
    simp_all only [Except.map, Except.ok.injEq, reduceCtorEq]
  next kind other => cases kind <;> cases other <;> simp_all [FileKind.isDirectory]

end
end Files

/-- What documents can reach is at the same places. -/
structure Assets.Alike (a b : Assets) : Prop where
  shape : a.files.shape = b.files.shape
  directories : a.directories = b.directories
  translate : a.translate = b.translate

namespace Assets.Alike

theorem refl (a : Assets) : Alike a a := ⟨rfl, rfl, rfl⟩

theorem symm (alike : Alike a b) : Alike b a :=
  ⟨alike.shape.symm, alike.directories.symm, alike.translate.symm⟩

theorem trans (first : Alike a b) (second : Alike b c) : Alike a c :=
  ⟨first.shape.trans second.shape, first.directories.trans second.directories,
    first.translate.trans second.translate⟩

theorem resolve (alike : Alike a b) (scope : Scope) (name : String) (base : Option Path) :
    a.resolve scope name base = b.resolve scope name base := by
  have present : a.files.isPresent = b.files.isPresent :=
    funext (Files.isPresent_congr alike.shape)
  simp only [Assets.resolve, Assets.candidates, alike.directories, present]

theorem loadPixmap (alike : Alike a b) (path : Path) (size : Option Size) :
    a.loadPixmap path size = b.loadPixmap path size := by
  simp only [Assets.loadPixmap, Files.isFile_congr alike.shape]

end Assets.Alike

namespace Journal

theorem shape_write (j : Journal) (piece : String) : (j.write piece).files.shape = j.files.shape := by
  unfold write
  split
  · rfl
  next file opened =>
    split
    next content stands => exact Files.shape_set _ stands
    · rfl

theorem shape_addAll (j : Journal) (texts : List String) :
    (j.addAll texts).files.shape = j.files.shape := by
  induction texts generalizing j with
  | nil => rfl
  | cons text rest ih => exact (ih (j.add text)).trans (j.shape_write _)

theorem addAll_append (j : Journal) (texts more : List String) :
    j.addAll (texts ++ more) = (j.addAll texts).addAll more :=
  List.foldl_append

theorem write_of_closed {j : Journal} (closed : j.open? = none) (piece : String) :
    j.write piece = j := by
  simp [write, closed]

theorem addAll_of_closed {j : Journal} (closed : j.open? = none) (texts : List String) :
    j.addAll texts = j := by
  induction texts with
  | nil => rfl
  | cons text rest ih => simpa [addAll, add, write_of_closed closed] using ih

end Journal

namespace Skin

theorem log_of_closed {s : Skin} (closed : s.journal.open? = none) (notices : Notices) :
    s.log notices = s := by
  rw [log, Journal.addAll_of_closed closed]

/-- One skin has the surroundings of another that came before it, but for the log. -/
structure Continues (before after : Skin) : Prop where
  logged : ∃ notices : Notices, after.journal = (before.log notices).journal
  directories : after.directories = before.directories
  translate : after.translate = before.translate

namespace Continues

theorem refl (s : Skin) : Continues s s := ⟨⟨[], rfl⟩, rfl, rfl⟩

theorem trans (first : Continues r s) (second : Continues s t) : Continues r t := by
  obtain ⟨⟨notices, logged⟩, directories, translate⟩ := first
  obtain ⟨⟨more, loggedMore⟩, directoriesMore, translateMore⟩ := second
  refine ⟨⟨notices ++ more, ?_⟩, directoriesMore.trans directories, translateMore.trans translate⟩
  simp only [log, Notices.lines] at logged loggedMore ⊢
  rw [loggedMore, logged, List.map_append, Journal.addAll_append]

theorem log (continues : Continues s t) (notices : Notices) : Continues s (t.log notices) :=
  continues.trans ⟨⟨notices, rfl⟩, rfl, rfl⟩

theorem of_eq (continues : Continues s t) (journal : u.journal = t.journal)
    (directories : u.directories = t.directories) (translate : u.translate = t.translate) :
    Continues s u :=
  continues.trans ⟨⟨[], journal⟩, directories, translate⟩

theorem shape (continues : Continues s t) : t.files.shape = s.files.shape := by
  obtain ⟨notices, logged⟩ := continues.logged
  simp only [files, logged]
  exact Journal.shape_addAll _ _

theorem assets (continues : Continues s t) : Assets.Alike t.assets s.assets :=
  ⟨continues.shape, continues.directories, continues.translate⟩

/-- Files are read as they are when all that was noted is in the log. -/
theorem readFile (continues : Continues s t) (path : Path) :
    ∃ notices, t.readFile path = (s.log notices).readFile path := by
  obtain ⟨notices, logged⟩ := continues.logged
  exact ⟨notices, by simp only [Skin.readFile, files, logged]⟩

end Continues

/-- A load leaves all but the log as it was. -/
theorem holdsOfSteps_continues : HoldsOfSteps Continues where
  refl := .refl
  trans := .trans
  log s notices := (Continues.refl s).log notices
  merge s _ _ := (Continues.refl s).of_eq rfl rfl rfl
  record s site block := by
    unfold recordStyle
    split
    · exact (Continues.refl s).of_eq rfl rfl rfl
    · exact .refl s
  fragment s site block := by
    unfold addFragment
    split
    · exact .refl s
    · split
      · exact (Continues.refl s).of_eq rfl rfl rfl
      · exact .refl s

end Skin
end Skinning
