import Skinning.Proofs.Surroundings

/-! Paths without `.` and `..`. Directories and names without them make such paths again, and
two that lead to one place are the same path, however many slashes they are written with. -/
namespace Skinning

namespace Text

theorem splitChars_eq_splitOn (sep : Char) (cs : List Char) : splitChars sep cs = cs.splitOn sep := by
  induction cs with
  | nil => rfl
  | cons c rest ih =>
    rw [splitChars, List.splitOn_cons_eq_if_modifyHead, ih]
    by_cases cut : c = sep
    · simp [cut]
    · have pieces := List.splitOn_ne_nil sep rest
      cases split : rest.splitOn sep with
      | nil => contradiction
      | cons piece others => simp [cut]

theorem split_append (sep : Char) (before after : String) :
    split sep (before ++ String.singleton sep ++ after) = split sep before ++ split sep after := by
  simp [split, splitChars_eq_splitOn, List.splitOn_append_cons_self]

theorem split_intercalate (sep : Char) {pieces : List String} (some : pieces ≠ [])
    (uncut : ∀ piece ∈ pieces, sep ∉ piece.toList) :
    split sep ((String.singleton sep).intercalate pieces) = pieces := by
  have cut : ([sep].intercalate (pieces.map String.toList)).splitOn sep =
      pieces.map String.toList :=
    List.splitOn_intercalate sep (by simpa using uncut) (by simpa using some)
  simp [split, splitChars_eq_splitOn, String.toList_intercalate, cut]

theorem split_of_uncut {sep : Char} {text : String} (uncut : sep ∉ text.toList) :
    split sep text = [text] := by
  have alone := @split_intercalate sep [text] (by simp) (by simpa using uncut)
  simpa using alone

theorem uncut_of_mem_splitChars {sep : Char} {cs piece : List Char}
    (member : piece ∈ splitChars sep cs) : sep ∉ piece := by
  induction cs generalizing piece with
  | nil => simp_all [splitChars]
  | cons c rest ih =>
    rw [splitChars] at member
    split at member
    · rcases List.mem_cons.mp member with rfl | later
      · exact List.not_mem_nil
      · exact ih later
    next kept =>
      split at member
      next none => simp_all [splitChars_eq_splitOn]
      next first others split =>
        rcases List.mem_cons.mp member with rfl | later
        · have unfirst : sep ∉ first := ih (by simp [split])
          simpa [Ne.symm kept] using unfirst
        · exact ih (by simp [split, later])

theorem uncut_of_mem_split {sep : Char} {text piece : String} (member : piece ∈ split sep text) :
    sep ∉ piece.toList := by
  obtain ⟨chars, found, rfl⟩ := List.mem_map.mp member
  rw [String.toList_ofList]
  exact uncut_of_mem_splitChars found

end Text

/-! What following a path tells of it. -/

namespace Files

theorem standing_ok {files : Files} {path : Path} {last place : Location} {kind : FileKind}
    (stands : files.standing path last = .ok (place, kind)) :
    last = place ∧ files.kindAt? place = some kind := by
  unfold standing at stands
  split at stands
  · cases stands
  next here found =>
    split at stands
    · simp only [bind, Except.bind] at stands
      split at stands
      · cases stands
      · cases stands
        exact ⟨rfl, found⟩
    · cases stands
      exact ⟨rfl, found⟩

theorem locate_ok {files : Files} {path : Path} {place : Location} {kind : FileKind}
    (leads : files.locate path = .ok (place, kind)) :
    ∃ start, path.start = .ok start ∧ files.follow start path.steps = .ok place ∧
      files.kindAt? place = some kind := by
  rw [locate_eq] at leads
  cases starts : path.start with
  | error fault => simp [starts, Except.bind] at leads
  | ok start =>
    cases follows : files.follow start path.steps with
    | error fault => simp [starts, follows, Except.bind] at leads
    | ok last =>
      simp only [starts, follows, Except.bind] at leads
      obtain ⟨rfl, stands⟩ := standing_ok leads
      exact ⟨start, rfl, follows, stands⟩

end Files

namespace Path

def IsPlain (path : Path) : Prop := ∀ segment ∈ path.segments, segment ≠ "." ∧ segment ≠ ".."

instance (path : Path) : Decidable path.IsPlain :=
  inferInstanceAs (Decidable (∀ segment ∈ path.segments, segment ≠ "." ∧ segment ≠ ".."))

theorem segments_slash (left right : String) :
    segments ⟨left ++ "/" ++ right⟩ = segments ⟨left⟩ ++ segments ⟨right⟩ :=
  Text.split_append '/' left right

theorem exists_of_asksDirectory {path : Path} (asks : path.asksDirectory) :
    ∃ directory, path.text = directory ++ "/" := by
  have last : path.text.toList.getLast? = some '/' := by simpa [asksDirectory] using asks
  obtain ⟨before, chars⟩ := List.getLast?_eq_some_iff.mp last
  refine ⟨String.ofList before, ?_⟩
  rw [← String.toList_inj, chars]
  simp

theorem IsPlain.join {left right : Path} (leftPlain : left.IsPlain) (rightPlain : right.IsPlain) :
    (left.join right).IsPlain := by
  unfold Path.join
  split
  · exact rightPlain
  · split
    next asks =>
      obtain ⟨directory, text⟩ := exists_of_asksDirectory asks
      have segments : left.segments = segments ⟨directory⟩ ++ segments ⟨""⟩ := by
        rw [← segments_slash, String.append_empty, ← text]
      intro segment member
      rw [text, segments_slash] at member
      rcases List.mem_append.mp member with inLeft | inRight
      · exact leftPlain segment (by rw [segments]; exact List.mem_append_left _ inLeft)
      · exact rightPlain segment inRight
    · intro segment member
      rw [segments_slash] at member
      rcases List.mem_append.mp member with inLeft | inRight
      · exact leftPlain segment inLeft
      · exact rightPlain segment inRight

theorem mem_of_mem_dropIdle {segments : List String} {segment : String}
    (member : segment ∈ dropIdle segments) : segment ∈ segments := by
  fun_induction dropIdle segments with
  | case1 => exact member
  | case2 => exact member
  | case3 => nomatch member
  | case4 => exact member
  | case5 last earlier _ _ ih => exact List.mem_cons_of_mem last (ih member)

theorem IsPlain.of_subset {path other : Path} (plain : path.IsPlain)
    (subset : ∀ segment ∈ other.segments, segment ∈ path.segments) : other.IsPlain :=
  fun segment member => plain segment (subset segment member)

theorem isPlain_empty : IsPlain ⟨""⟩ := by decide

theorem isPlain_root : IsPlain ⟨"/"⟩ := by decide

theorem IsPlain.base {path : Path} (plain : path.IsPlain) : path.base.IsPlain := by
  unfold Path.base parent?
  split
  · exact isPlain_empty
  next earlier steps =>
    dsimp only [Option.getD]
    split
    · exact isPlain_root
    · have kept (segment : String) (member : segment ∈ (dropIdle earlier).reverse) :
          segment ∈ path.segments := by
        have inEarlier := mem_of_mem_dropIdle (List.mem_reverse.mp member)
        have inSteps : segment ∈ dropIdle path.segments.reverse := by
          rw [steps]
          exact List.mem_cons_of_mem _ inEarlier
        exact List.mem_reverse.mp (mem_of_mem_dropIdle inSteps)
      by_cases none : (dropIdle earlier).reverse = []
      · rw [none]
        exact isPlain_empty
      · have split : segments ⟨"/".intercalate (dropIdle earlier).reverse⟩ =
            (dropIdle earlier).reverse :=
          Text.split_intercalate '/' none fun segment member =>
            Text.uncut_of_mem_split (kept segment member)
        exact plain.of_subset fun segment member => kept segment (by rwa [split] at member)

/-! A plain path leads straight down. -/

theorem enter_plain {place next : Location} {step : String} (plain : step ≠ "." ∧ step ≠ "..")
    (enters : place.enter step = .ok next) : next = place.child step := by
  unfold Location.enter at enters
  split at enters
  · exact absurd rfl plain.1
  · exact absurd rfl plain.2
  · split at enters
    · cases enters
    · exact (Except.ok.inj enters).symm

theorem follow_plain {files : Files} {place last : Location} {steps : List String}
    (plain : ∀ step ∈ steps, step ≠ "." ∧ step ≠ "..")
    (follows : files.follow place steps = .ok last) :
    last = ⟨place.origin, place.names ++ steps⟩ := by
  induction steps generalizing place with
  | nil =>
    cases follows
    simp
  | cons step rest ih =>
    obtain ⟨-, next, enters, further⟩ := Files.follow_cons_eq_ok.mp follows
    have down := enter_plain (plain step List.mem_cons_self) enters
    have below := ih (fun step member => plain step (List.mem_cons_of_mem _ member)) further
    simpa [down, Location.child] using below

theorem start_ok {path : Path} {place : Location} (starts : path.start = .ok place) :
    place = if path.isAbsolute then .root else .working := by
  unfold start at starts
  split at starts
  · cases starts
  split at starts
  · cases starts
  split at starts
  · cases starts
  · exact (Except.ok.inj starts).symm

theorem IsPlain.place_eq {files : Files} {path : Path} {place : Location} {kind : FileKind}
    (plain : path.IsPlain) (leads : files.locate path = .ok (place, kind)) :
    place = ⟨if path.isAbsolute then .root else .above 0, path.steps⟩ := by
  obtain ⟨start, starts, follows, -⟩ := Files.locate_ok leads
  have steps : ∀ step ∈ path.steps, step ≠ "." ∧ step ≠ ".." :=
    fun step member => plain step (List.mem_filter.mp member).1
  rw [follow_plain steps follows, start_ok starts]
  split <;> rfl

theorem IsPlain.components_eq {path : Path} (plain : path.IsPlain) :
    path.components = ⟨path.isAbsolute, path.steps.toArray⟩ := by
  have counts (first : Bool) (segment : String) (member : segment ∈ path.segments) :
      counts first segment = !segment.isEmpty := by
    simp [Path.counts, (plain segment member).1]
  unfold components steps
  cases segments : path.segments with
  | nil => rfl
  | cons first rest =>
    rw [segments] at counts
    have others : rest.filter (Path.counts false) = rest.filter fun segment => !segment.isEmpty :=
      List.filter_congr fun segment member => counts false segment (List.mem_cons_of_mem _ member)
    rw [componentsOf, counts true first List.mem_cons_self, others, List.filter_cons]
    split <;> rfl

/-- Plain paths that lead to one place are one path. -/
theorem IsPlain.components_eq_of_place {files : Files} {a b : Path} {place : Location}
    {kind other : FileKind} (plainA : a.IsPlain) (plainB : b.IsPlain)
    (leadsA : files.locate a = .ok (place, kind)) (leadsB : files.locate b = .ok (place, other)) :
    a.components = b.components := by
  have placeA := plainA.place_eq leadsA
  have placeB := plainB.place_eq leadsB
  rw [plainA.components_eq, plainB.components_eq]
  rw [placeA, Location.mk.injEq] at placeB
  obtain ⟨origins, steps⟩ := placeB
  rw [steps]
  cases absoluteA : a.isAbsolute <;> cases absoluteB : b.isAbsolute <;> simp_all

end Path

structure Directories.IsPlain (d : Directories) : Prop where
  skins : d.skins.IsPlain
  display : d.display.IsPlain
  fonts : d.fonts.IsPlain
  user : d.user.IsPlain

theorem Directories.IsPlain.roots {d : Directories} (plain : d.IsPlain) (scope : Scope) :
    ∀ root ∈ (d.roots scope).1 :: (d.roots scope).2, root.IsPlain := by
  have fonts : (d.skins.join ⟨"fonts"⟩).IsPlain := plain.skins.join (by decide)
  cases scope <;>
    simp [Directories.roots, plain.skins, plain.display, plain.fonts, plain.user, fonts]

/-- Plain names stand for plain paths. -/
theorem Assets.resolve_isPlain {assets : Assets} {scope : Scope} {name : String}
    {base : Option Path} (directories : assets.directories.IsPlain)
    (plain : Path.IsPlain ⟨name⟩) (basePlain : ∀ directory ∈ base, directory.IsPlain) :
    (assets.resolve scope name base).IsPlain := by
  have roots := directories.roots scope
  unfold resolve
  dsimp only
  split
  · exact plain
  · cases found : (assets.candidates scope ⟨name⟩ base).find? assets.files.isPresent with
    | none => exact (roots _ List.mem_cons_self).join plain
    | some path =>
      obtain ⟨directory, member, rfl⟩ := List.mem_map.mp (List.mem_of_find?_eq_some found)
      rcases List.mem_append.mp member with inBase | inRoots
      · exact (basePlain directory (Option.mem_toList.mp inBase)).join plain
      · exact (roots directory inRoots).join plain

end Skinning
