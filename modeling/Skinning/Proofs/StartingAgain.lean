import Skinning.Proofs.ConfiguredSurfaces
import Skinning.Proofs.LoadsBeside

/-! Starting a skin again. A restart begins with the choices that the start has made and with the
sizes of surfaces that it has left. What was declared by a skin that the start has given up does
not come back; apart from that, the restart merges the blocks that the start has merged, and gives
what the start gave but for values that other sizes lead to. -/
namespace Skinning

namespace Course

def withDisplay (c : Course) (loaded : Option String) : Course :=
  ⟨c.store, { c.choices with
    currentDisplay? := loaded, display := loaded.getD c.choices.display }⟩

def withPrimary (c : Course) (loaded : Option String) : Course :=
  ⟨c.store, { c.choices with
    currentPrimary? := loaded, primary := loaded.getD c.choices.primary }⟩

end Course

namespace Skin

/-- Two skins with the same values, screens and recorded styles. -/
structure Matches (s t : Skin) : Prop where
  values : ∀ key, s.store.held? key = t.store.held? key
  fragments : ∀ name, s.fragments.get? name = t.fragments.get? name
  styles : ∀ id, s.styles.get? id = t.styles.get? id

/-- Two skins that screens cannot tell apart: the same values, screens and loaded skins. -/
structure Reproduces (s t : Skin) : Prop where
  values : ∀ key, s.store.held? key = t.store.held? key
  fragments : ∀ name, s.fragments.get? name = t.fragments.get? name
  primary : s.currentPrimary? = t.currentPrimary?
  display : s.currentDisplay? = t.currentDisplay?

/-- The same screens and loaded skins, and the same values of all keys but some. -/
structure ReproducesOff (keys : Key → Prop) (s t : Skin) : Prop where
  values : s.store.SameOff keys t.store
  fragments : ∀ name, s.fragments.get? name = t.fragments.get? name
  primary : s.currentPrimary? = t.currentPrimary?
  display : s.currentDisplay? = t.currentDisplay?

theorem ReproducesOff.all {keys : Key → Prop} {s t : Skin} (same : ReproducesOff keys s t)
    (values : s.store.Same t.store) : s.Reproduces t :=
  ⟨values, same.fragments, same.primary, same.display⟩

def course (s : Skin) : Course := ⟨s.store, s.choices⟩

variable {origin : Skin} {x y : Course} {s t : Skin}

/-- The first of two runs, beside itself. -/
theorem Beside.left (beside : Beside origin x y s t) : Beside origin x x s s := by
  obtain ⟨blocks, led, -⟩ := beside.store
  exact ⟨fun _ _ => rfl, ⟨blocks, led, led⟩, fun _ => rfl, fun _ => rfl, beside.first,
    beside.first, beside.firstChoices, beside.firstChoices⟩

theorem Beside.of_matches {u : Skin} (beside : Beside origin x y s t) (same : Matches s u)
    (kept : Beside origin x x u u) : Beside origin x y u t := by
  obtain ⟨blocks, led, ledToo⟩ := beside.store
  refine ⟨beside.begins, ⟨blocks, fun key => ?_, ledToo⟩, fun name => ?_, fun id => ?_, kept.first,
    beside.second, kept.firstChoices, beside.secondChoices⟩
  · rw [← same.values, led key]
  · rw [← same.fragments, beside.fragments]
  · rw [← same.styles, beside.styles]

theorem Beside.started (beside : Beside origin x y s t) (first second : Bool) :
    Beside origin x y { s with hasStarted := first } { t with hasStarted := second } :=
  { beside with
    first := beside.first.of_eq rfl rfl rfl
    second := beside.second.of_eq rfl rfl rfl }

namespace Progress

variable {p q : Progress}

/-- Goes on after a document was loaded. -/
def take (p : Progress) (after : Outcome) : Bool × Progress :=
  (after.isLoaded, ⟨after.skin, p.notices ++ after.notices⟩)

theorem load_eq (p : Progress) (filename : String) (scope : Scope) (surface : Nat) :
    p.load filename scope surface = p.take (p.skin.load filename scope surface) := rfl

theorem loadSource_eq (p : Progress) (source : String) :
    p.loadSource source = (p.take (p.skin.loadSource source ⟨""⟩ .current guiSurface)).2 := rfl

/-- Results of two runs that are alike, with skins beside each other. -/
structure Together (origin : Skin) (x y : Course) (l r : α × Progress) : Prop where
  result : l.1 = r.1
  skins : Beside origin x y l.2.skin r.2.skin

theorem Together.ofOutcomes {l r : Outcome} (outcomes : OutcomesBeside origin x y l r) :
    Together origin x y (p.take l) (q.take r) :=
  ⟨outcomes.isLoaded, outcomes.skins⟩

theorem beside_note (beside : Beside origin x y p.skin q.skin) (notice : Notice) :
    Beside origin x y (p.note notice).skin (q.note notice).skin :=
  beside.log [notice] [notice]

/-! The first of some documents. -/

/-- A way to load documents that leads runs beside each other to the same. -/
def LoadsAlike (origin : Skin) (load : Progress → String → Bool × Progress) : Prop :=
  ∀ (x y : Course) (p q : Progress) (filename : String), Beside origin x y p.skin q.skin →
    Together origin x y (load p filename) (load q filename)

theorem loadsAlike (settled : origin.IsSettled) (scope : Scope) (surface : Nat) :
    LoadsAlike origin (·.load · scope surface) := by
  intro x y p q filename beside
  simp only [load_eq]
  exact .ofOutcomes (beside.load settled filename scope surface)

variable {load : Progress → String → Bool × Progress} (role : SkinRole)

/-- Unless the chosen document stays, it was given up for the one after it. -/
theorem loadFirst_settles (p : Progress) (chosen fallback : String) :
    let first := loadFirst role load [] [chosen, fallback] p
    let after := (load p chosen).2.note (.skinFailed role chosen)
    first.1.getD chosen = chosen ∨
      first = (some fallback, (load after fallback).2) ∧ (load after fallback).1 = true := by
  simp only [loadFirst, List.contains_nil, Bool.false_eq_true, if_false]
  rcases load p chosen with ⟨_ | _, after⟩
  · dsimp only
    split
    · exact .inl rfl
    · rcases load (after.note (.skinFailed role chosen)) fallback with ⟨_ | _, last⟩
      · exact .inl rfl
      · exact .inr ⟨rfl, rfl⟩
  · exact .inl rfl

theorem loadFirst_of_loaded {filename : String} (loaded : (load p filename).1 = true)
    (rest : List String) :
    loadFirst role load [] (filename :: rest) p = (some filename, (load p filename).2) := by
  have result : load p filename = (true, (load p filename).2) := Prod.ext loaded rfl
  rw [loadFirst, List.contains_nil, if_neg Bool.false_ne_true, result]

section

variable (alike : LoadsAlike origin load)
include alike

theorem LoadsAlike.loadFirst (tried filenames : List String)
    (beside : Beside origin x y p.skin q.skin) :
    Together origin x y (loadFirst role load tried filenames p)
      (Progress.loadFirst role load tried filenames q) := by
  induction filenames generalizing tried p q with
  | nil => exact ⟨rfl, beside⟩
  | cons filename rest ih =>
    unfold Progress.loadFirst
    split
    · exact ih tried beside
    · obtain ⟨isLoaded, skins⟩ := alike x y p q filename beside
      generalize load p filename = left at isLoaded skins
      generalize load q filename = right at isLoaded skins
      obtain ⟨_ | _, p⟩ := left <;> obtain ⟨_ | _, q⟩ := right
      · exact ih _ (beside_note skins (.skinFailed role filename))
      · cases isLoaded
      · cases isLoaded
      · exact ⟨rfl, skins⟩

/-- The second run may begin with the name that the first one has settled on, if what was given
up for it has left nothing. -/
theorem LoadsAlike.loadAgain {chosen fallback again : String}
    (beside : Beside origin x y p.skin q.skin)
    (resumed : again = chosen ∨
      again = (Progress.loadFirst role load [] [chosen, fallback] p).1.getD chosen ∧
        Matches p.skin (load p chosen).2.skin) :
    Together origin x y (Progress.loadFirst role load [] [chosen, fallback] p)
      (Progress.loadFirst role load [] [again, fallback] q) := by
  rcases resumed with rfl | ⟨resumed, clean⟩
  · exact alike.loadFirst role [] _ beside
  obtain stays | ⟨first, loaded⟩ := @loadFirst_settles load role p chosen fallback
  · obtain rfl := resumed.trans stays
    exact alike.loadFirst role [] _ beside
  · -- The second run does not try what the first one has given up.
    obtain rfl : again = fallback := by rw [resumed, first, Option.getD_some]
    have kept := beside_note (alike x x p p chosen beside.left).skins (.skinFailed role chosen)
    have given : Matches p.skin ((load p chosen).2.note (.skinFailed role chosen)).skin :=
      ⟨clean.values, clean.fragments, clean.styles⟩
    obtain ⟨isLoaded, skins⟩ := alike x y _ q again (beside.of_matches given kept)
    rw [first, loadFirst_of_loaded role (isLoaded ▸ loaded)]
    exact ⟨rfl, skins⟩

end

/-! The documents of a start. -/

/-- A load after which nothing is declared that was not declared before. -/
def LeavesNothing (p : Progress) (filename : String) (scope : Scope) (surface : Nat) : Prop :=
  Matches p.skin (p.load filename scope surface).2.skin

/-- The documents that belong to no choice. -/
def beforeDisplay (p : Progress) : Progress :=
  ((p.load emergencySkin .current guiSurface).2.load subtitleSkin .current guiSurface).2

def displayLoaded (p : Progress) : Option String × Progress :=
  p.loadFirst .display (·.load · .display displaySurface) []
    [p.skin.display, Settings.defaultDisplay]

def primaryLoaded (p : Progress) : Option String × Progress :=
  p.loadFirst .gui (·.load · .current guiSurface) [] [p.skin.primary, Settings.defaultPrimary]

theorem loadDisplay_eq (p : Progress) : p.loadDisplay = setDisplay p.displayLoaded := rfl

theorem loadPrimary_eq (p : Progress) : p.loadPrimary = settlePrimary p.primaryLoaded := rfl

theorem Together.setDisplay {l r : Option String × Progress} (together : Together origin x y l r) :
    Beside origin (x.withDisplay l.1) (y.withDisplay l.1) (setDisplay l).skin
      (setDisplay r).skin := by
  obtain ⟨loaded, p⟩ := l
  obtain ⟨_, q⟩ := r
  obtain ⟨rfl, skins⟩ := together
  exact ⟨skins.begins, skins.store, skins.fragments, skins.styles, skins.first.of_eq rfl rfl rfl,
    skins.second.of_eq rfl rfl rfl, by rw [Course.withDisplay, ← skins.firstChoices]; rfl,
    by rw [Course.withDisplay, ← skins.secondChoices]; rfl⟩

theorem setPrimary_beside (beside : Beside origin x y p.skin q.skin) (loaded : Option String) :
    Beside origin (x.withPrimary loaded) (y.withPrimary loaded) (p.setPrimary loaded).skin
      (q.setPrimary loaded).skin :=
  ⟨beside.begins, beside.store, beside.fragments, beside.styles, beside.first.of_eq rfl rfl rfl,
    beside.second.of_eq rfl rfl rfl, by rw [Course.withPrimary, ← beside.firstChoices]; rfl,
    by rw [Course.withPrimary, ← beside.secondChoices]; rfl⟩

section

variable (settled : origin.IsSettled)
include settled

theorem loadEmergency_beside (beside : Beside origin x y p.skin q.skin) :
    Beside origin x y p.loadEmergency.skin q.loadEmergency.skin := by
  have outcomes := (beside_note beside .emergency).loadSource settled emergencyDocument ⟨""⟩
    .current guiSurface
  simp only [loadEmergency, loadSource_eq]
  exact (Together.ofOutcomes outcomes).skins

theorem Together.settlePrimary {l r : Option String × Progress}
    (together : Together origin x y l r) :
    Beside origin (x.withPrimary l.1) (y.withPrimary l.1) (settlePrimary l).skin
      (settlePrimary r).skin := by
  obtain ⟨loaded, p⟩ := l
  obtain ⟨_, q⟩ := r
  obtain ⟨rfl, skins⟩ := together
  have chosen := setPrimary_beside skins loaded
  cases loaded with
  | none => exact loadEmergency_beside settled chosen
  | some _ => exact chosen

theorem beforeDisplay_beside (beside : Beside origin x y p.skin q.skin) :
    Beside origin x y p.beforeDisplay.skin q.beforeDisplay.skin := by
  have alike := loadsAlike settled .current guiSurface
  exact (alike x y _ _ _ (alike x y p q emergencySkin beside).skins).skins

theorem loadDisplay_beside {loaded : Option String} (result : p.displayLoaded.1 = loaded)
    (beside : Beside origin x y p.skin q.skin)
    (resumed : y.choices.display = x.choices.display ∨
      y.choices.display = loaded.getD x.choices.display ∧
        p.LeavesNothing x.choices.display .display displaySurface) :
    Beside origin (x.withDisplay loaded) (y.withDisplay loaded) p.loadDisplay.skin
      q.loadDisplay.skin := by
  have chosen : p.skin.display = x.choices.display := congrArg Choices.display beside.firstChoices
  have again : q.skin.display = y.choices.display := congrArg Choices.display beside.secondChoices
  subst result
  rw [← chosen, ← again] at resumed
  rw [loadDisplay_eq, loadDisplay_eq]
  exact ((loadsAlike settled .display displaySurface).loadAgain .display beside resumed).setDisplay

theorem loadPrimary_beside {loaded : Option String} (result : p.primaryLoaded.1 = loaded)
    (beside : Beside origin x y p.skin q.skin)
    (resumed : y.choices.primary = x.choices.primary ∨
      y.choices.primary = loaded.getD x.choices.primary ∧
        p.LeavesNothing x.choices.primary .current guiSurface) :
    Beside origin (x.withPrimary loaded) (y.withPrimary loaded) p.loadPrimary.skin
      q.loadPrimary.skin := by
  have chosen : p.skin.primary = x.choices.primary := congrArg Choices.primary beside.firstChoices
  have again : q.skin.primary = y.choices.primary := congrArg Choices.primary beside.secondChoices
  subst result
  rw [← chosen, ← again] at resumed
  rw [loadPrimary_eq, loadPrimary_eq]
  exact ((loadsAlike settled .current guiSurface).loadAgain .gui beside resumed).settlePrimary
    settled

theorem loadUserSkin_beside (beside : Beside origin x y p.skin q.skin) (found? : Option String) :
    Beside origin x y (p.loadUserSkin found?).skin (q.loadUserSkin found?).skin := by
  cases found? with
  | none => exact beside
  | some filename => exact (loadsAlike settled .current guiSurface x y p q filename beside).skins

theorem loadUser_beside (beside : Beside origin x y p.skin q.skin)
    (same : y.choices.primary = x.choices.primary) :
    Beside origin x y p.loadUser.skin q.loadUser.skin := by
  have primary : q.skin.primary = p.skin.primary :=
    (congrArg Choices.primary beside.secondChoices).trans
      (same.trans (congrArg Choices.primary beside.firstChoices).symm)
  have files : q.hasFile = p.hasFile := by
    funext filename
    have path := beside.alike.resolve .current filename none
    simp only [hasFile, path, beside.isFile]
  rw [loadUser, loadUser, primary, files]
  exact loadUserSkin_beside settled beside _

end

/-- Both runs, from the beginning to the end. -/
theorem loadAll_beside (settled : origin.IsSettled) {d m : Option String}
    (shown : p.beforeDisplay.displayLoaded.1 = d)
    (chosen : p.beforeDisplay.loadDisplay.primaryLoaded.1 = m)
    (beside : Beside origin x y p.skin q.skin)
    (display : y.choices.display = x.choices.display ∨
      y.choices.display = d.getD x.choices.display ∧
        p.beforeDisplay.LeavesNothing x.choices.display .display displaySurface)
    (primary : y.choices.primary = x.choices.primary ∨
      y.choices.primary = m.getD x.choices.primary ∧
        p.beforeDisplay.loadDisplay.LeavesNothing x.choices.primary .current guiSurface) :
    Beside origin ((x.withDisplay d).withPrimary m) ((y.withDisplay d).withPrimary m)
      p.loadAll.skin q.loadAll.skin := by
  have same : m.getD y.choices.primary = m.getD x.choices.primary := by
    rcases primary with same | ⟨again, _⟩
    · rw [same]
    · rw [again]
      cases m <;> rfl
  have before := beforeDisplay_beside settled beside
  have afterDisplay := loadDisplay_beside settled shown before display
  have afterPrimary := loadPrimary_beside settled chosen afterDisplay primary
  exact loadUser_beside settled afterPrimary same

theorem finish_skin (p : Progress) :
    ∃ hasStarted, p.finish.skin = { p.skin with hasStarted } := by
  unfold finish
  split
  · exact ⟨p.skin.hasStarted, rfl⟩
  · exact ⟨true, rfl⟩

end Progress

theorem start_skin (s : Skin) : ∃ loaded, (Progress.loadAll ⟨s, []⟩).skin = loaded ∧
    ∃ hasStarted, s.start.skin = { loaded with hasStarted } := by
  refine ⟨_, rfl, ?_⟩
  unfold start
  exact Progress.finish_skin _

/-- What a start has given up has left nothing behind. -/
structure GivesUpCleanly (s : Skin) : Prop where
  display : s.start.skin.display = s.display ∨
    (Progress.beforeDisplay ⟨s, []⟩).LeavesNothing s.display .display displaySurface
  primary : s.start.skin.primary = s.primary ∨
    (Progress.beforeDisplay ⟨s, []⟩).loadDisplay.LeavesNothing s.primary .current guiSurface

/-- A start, and another one that begins with the choices that the first has made, if what it has
given up has left nothing. -/
theorem start_beside (settled : origin.IsSettled)
    (beside : Beside origin s.course t.course s t)
    (display : t.display = s.display ∨ t.display = s.start.skin.display ∧
      (Progress.beforeDisplay ⟨s, []⟩).LeavesNothing s.display .display displaySurface)
    (primary : t.primary = s.primary ∨ t.primary = s.start.skin.primary ∧
      (Progress.beforeDisplay ⟨s, []⟩).loadDisplay.LeavesNothing s.primary .current guiSurface) :
    ∃ d m, Beside origin ((s.course.withDisplay d).withPrimary m)
      ((t.course.withDisplay d).withPrimary m) s.start.skin t.start.skin := by
  -- What the runs lead to is named, so that no step compares the runs themselves.
  obtain ⟨u, loaded, _, started⟩ := s.start_skin
  obtain ⟨v, loadedAgain, _, startedAgain⟩ := t.start_skin
  rw [started] at display primary
  rw [started, startedAgain]
  obtain ⟨d, shown⟩ : ∃ d, (Progress.beforeDisplay ⟨s, []⟩).displayLoaded.1 = d := ⟨_, rfl⟩
  obtain ⟨m, chosen⟩ : ∃ m, (Progress.beforeDisplay ⟨s, []⟩).loadDisplay.primaryLoaded.1 = m :=
    ⟨_, rfl⟩
  -- The first run beside itself shows what it has settled on.
  have alone := Progress.loadAll_beside (p := ⟨s, []⟩) (q := ⟨s, []⟩) settled shown chosen
    beside.left (.inl rfl) (.inl rfl)
  rw [loaded] at alone
  have settledDisplay : u.display = d.getD s.display :=
    congrArg Choices.display alone.firstChoices
  have settledPrimary : u.primary = m.getD s.primary :=
    congrArg Choices.primary alone.firstChoices
  have both := Progress.loadAll_beside (p := ⟨s, []⟩) (q := ⟨t, []⟩) settled shown chosen beside
    (display.imp_right fun ⟨again, clean⟩ => ⟨again.trans settledDisplay, clean⟩)
    (primary.imp_right fun ⟨again, clean⟩ => ⟨again.trans settledPrimary, clean⟩)
  rw [loaded, loadedAgain] at both
  exact ⟨d, m, both.started _ _⟩

theorem beside_self (s : Skin) : Beside s s.course s.course s s :=
  ⟨fun _ _ => rfl, .refl _ _, fun _ => rfl, fun _ => rfl, .refl s, .refl s, rfl, rfl⟩

theorem start_continues (settled : s.IsSettled) : Continues s s.start.skin := by
  obtain ⟨_, _, ran⟩ := start_beside settled s.beside_self (.inl rfl) (.inl rfl)
  exact ran.first

/-- What the sizes of surfaces do not tell apart. -/
theorem Beside.reproducesOff {d m : Option String}
    (beside : Beside origin ((x.withDisplay d).withPrimary m) ((y.withDisplay d).withPrimary m) s t) :
    ReproducesOff (fun key => key.Measured ∨ key.IsSurface) s t where
  values := (beside.store.parallel beside.begins).values
  fragments := beside.fragments
  primary := (congrArg Choices.currentPrimary? beside.firstChoices).trans
    (congrArg Choices.currentPrimary? beside.secondChoices).symm
  display := (congrArg Choices.currentDisplay? beside.firstChoices).trans
    (congrArg Choices.currentDisplay? beside.secondChoices).symm

/-- A size that no block has declared is still that of the beginning, which for the second run is
what the first has ended with. -/
theorem Beside.sizes (beside : Beside origin x y s t)
    (left : ∀ id, y.store.held? (.surface id) = s.store.held? (.surface id)) (id : Nat) :
    s.store.held? (.surface id) = t.store.held? (.surface id) := by
  rcases (beside.store.parallel beside.begins).sizes id with same | ⟨-, second⟩
  · exact same
  · exact (left id).symm.trans second.symm

/-- A new skin, beside one that was cleared. -/
theorem beside_cleared {settings : Settings} {journal : Journal} {directories : Directories}
    {translate : String → String}
    (first : Continues origin (ofSettings settings journal directories translate))
    (second : Continues origin t) :
    let fresh := ofSettings settings journal directories translate
    Beside origin fresh.course t.cleared.course fresh t.cleared := by
  refine ⟨fun key other => ?_, .refl _ _, fun _ => rfl, fun _ => rfl, first,
    second.of_eq rfl rfl rfl, rfl, rfl⟩
  cases key with
  | surface id => exact absurd trivial other
  | _ => rfl

/-- A restart gives what a new skin with the choices that were made and the sizes that were left
gives. -/
theorem takenUp_reproduces (settled : origin.IsSettled) {resumed first : Skin}
    (beside : Beside origin resumed.course first.cleared.course resumed first.cleared)
    (primary : first.primary = resumed.primary) (display : first.display = resumed.display)
    (sizes : ∀ id, first.store.held? (.surface id) = resumed.store.held? (.surface id)) :
    Reproduces resumed.start.skin first.restart.skin := by
  have same : resumed.store.Same first.cleared.store := by
    intro key
    by_cases size : key.IsSurface
    · obtain ⟨id, rfl⟩ := size.exists_id
      exact (sizes id).symm
    · exact beside.begins key size
  obtain ⟨d, m, ran⟩ := start_beside settled beside (.inl display) (.inl primary)
  obtain ⟨blocks, led, ledToo⟩ := ran.store
  exact ran.reproducesOff.all (led.trans ((same.mergeAll blocks).trans ledToo.symm))

section

variable {settings : Settings} {journal : Journal} {directories : Directories}
  {translate : String → String} {first : Skin}
  (settled : (ofSettings settings journal directories translate).IsSettled)
  (started : (ofSettings settings journal directories translate).start.skin = first)
include settled started

theorem continues_of_started : Continues (ofSettings settings journal directories translate) first := by
  rw [← started]
  exact start_continues settled

/-- The sizes that a start has left can be configured. -/
theorem exists_surfaces : ∃ surfaces, ∀ id, first.store.held? (.surface id) =
    (ofSettings { settings with surfaces } journal directories translate).store.held?
      (.surface id) := by
  obtain ⟨_, _, ran⟩ := start_beside settled (beside_self _) (.inl rfl) (.inl rfl)
  obtain ⟨blocks, led, -⟩ := ran.store
  rw [started] at led
  refine ⟨settings.surfacesWith 0 (first.store.surfaces.get? guiSurface), fun id => ?_⟩
  refine congrArg (Option.map (Entry.surface id)) ?_
  have others := settings.lastSize?_surfacesWith 0 (first.store.surfaces.get? guiSurface) id
  rw [← Settings.surfaceTable_get?, ← Settings.surfaceTable_get?] at others
  refine Eq.trans ?_ others.symm
  by_cases main : id = guiSurface
  · subst main
    rfl
  · rw [if_neg (show id ≠ (0 : UInt32).toNat from main)]
    have kept := (led (.surface id)).trans (Store.mergeAll_size _ blocks main)
    exact Option.map_injective (fun _ _ equal => (Entry.surface.inj equal).2) kept

/-- A new skin takes up the choices that were made and the sizes that were left. -/
theorem resumed_reproduces {surfaces : List Surface}
    (sizes : ∀ id, first.store.held? (.surface id) =
      (ofSettings { settings with surfaces } journal directories translate).store.held?
        (.surface id)) :
    Reproduces (ofSettings
      { settings with primary := first.primary, display := first.display, surfaces }
      journal directories translate).start.skin first.restart.skin := by
  let resumed := ofSettings
    { settings with primary := first.primary, display := first.display, surfaces }
    journal directories translate
  have beside : Beside (ofSettings settings journal directories translate) resumed.course
      first.cleared.course resumed first.cleared :=
    beside_cleared ((Continues.refl _).of_eq rfl rfl rfl) (continues_of_started settled started)
  exact takenUp_reproduces settled beside rfl rfl sizes

variable (clean : (ofSettings settings journal directories translate).GivesUpCleanly)
include clean

/-- What the restart gives, beside what the start has given. -/
theorem restart_beside :
    let fresh := ofSettings settings journal directories translate
    ∃ d m, Beside fresh ((fresh.course.withDisplay d).withPrimary m)
      ((first.cleared.course.withDisplay d).withPrimary m) first first.restart.skin := by
  intro fresh
  obtain ⟨display, primary⟩ := clean
  rw [started] at display primary
  have beside : Beside fresh fresh.course first.cleared.course fresh first.cleared :=
    beside_cleared (.refl fresh) (continues_of_started settled started)
  obtain ⟨d, m, ran⟩ := start_beside settled beside
    (display.imp id fun clean => ⟨by rw [started]; rfl, clean⟩)
    (primary.imp id fun clean => ⟨by rw [started]; rfl, clean⟩)
  rw [started, ← restart] at ran
  exact ⟨d, m, ran⟩

/-- The start and the restart merge the same blocks. -/
theorem exists_blocks :
    let fresh := ofSettings settings journal directories translate
    ∃ blocks, first.store.Same (fresh.store.mergeAll fresh.assets blocks) ∧
      first.restart.skin.store.Same (first.cleared.store.mergeAll fresh.assets blocks) := by
  intro fresh
  obtain ⟨d, m, ran⟩ := restart_beside settled started clean
  exact ran.store

/-- Whatever the sizes are, all comes back that is not measured. -/
theorem reproducesOff_measured : ReproducesOff Key.Measured first first.restart.skin := by
  obtain ⟨d, m, ran⟩ := restart_beside settled started clean
  have sizes := ran.sizes fun _ => rfl
  refine { ran.reproducesOff with values := fun key other => ?_ }
  by_cases size : key.IsSurface
  · obtain ⟨id, rfl⟩ := size.exists_id
    exact sizes id
  · exact ran.reproducesOff.values key (by simp [other, size])

/-- Measured values come back if what the blocks read of the sizes makes no difference. -/
theorem reproducesOff_depends {blocks : List PlacedBlock}
    (led : first.store.Same ((ofSettings settings journal directories translate).store.mergeAll
      (ofSettings settings journal directories translate).assets blocks))
    (ledToo : first.restart.skin.store.Same (first.cleared.store.mergeAll
      (ofSettings settings journal directories translate).assets blocks)) :
    let fresh := ofSettings settings journal directories translate
    ReproducesOff (fun key => key.Measured ∧
      fresh.store.Depends fresh.assets blocks Key.IsSurface key) first first.restart.skin := by
  intro fresh
  have steady := reproducesOff_measured settled started clean
  have begins : Store.SameOff Key.IsSurface fresh.store first.cleared.store :=
    (beside_cleared (.refl fresh) (continues_of_started settled started)).begins
  refine { steady with values := fun key other => ?_ }
  by_cases measured : key.Measured
  · have kept := Store.mergeAll_sameOff blocks begins key fun depends => other ⟨measured, depends⟩
    exact (led key).trans (kept.trans (ledToo key).symm)
  · exact steady.values key measured

/-- With the same factor the same blocks give the same values. -/
theorem reproduces_of_factor
    (factor : first.store.factor =
      (ofSettings settings journal directories translate).store.factor) :
    Reproduces first first.restart.skin := by
  have steady := reproducesOff_measured settled started clean
  obtain ⟨blocks, led, ledToo⟩ := exists_blocks settled started clean
  have begins : Store.SameFactor (ofSettings settings journal directories translate).store
      first.cleared.store :=
    ⟨(beside_cleared (.refl _) (continues_of_started settled started)).begins, factor.symm⟩
  refine steady.all fun key => ?_
  by_cases size : key.IsSurface
  · exact steady.values key size.not_measured
  · exact (led key).trans (((begins.mergeAll blocks).values key size).trans (ledToo key).symm)

end

/-! Two skins, of which one cannot be loaded to its end. -/

def rivalFiles : Table Location FileKind := .ofList [
  (⟨.above 0, ["skins"]⟩, .directory),
  (⟨.above 0, ["skins", "P.xml"]⟩,
    .file (.text "<skin><screen name=\"a\"/><colors><color/></colors></skin>")),
  (⟨.above 0, ["skins", "Default"]⟩, .directory),
  (⟨.above 0, ["skins", "Default", "skin.xml"]⟩,
    .file (.text "<skin><screen name=\"b\"/></skin>"))]

def rivals (settings : Settings) : Skin :=
  .ofSettings settings ⟨⟨rivalFiles⟩, none, ""⟩ ⟨⟨"skins"⟩, ⟨"display"⟩, ⟨"fonts"⟩, ⟨"user"⟩⟩ id

/-- The settings that ask for the skin that cannot be loaded. -/
def unfortunate : Settings := { Settings.initial with primary := "P.xml" }

theorem loadPath_nil (s : Skin) (scope : Scope) (surface : Nat) (path : Path) :
    loadPath scope surface [] path s = match s.readFile path with
      | .error fault => .failed s fault
      | .ok root => finish (s.loadRoot (loadPath scope surface [path.components])
        ⟨scope, surface, path.base⟩ root) := by
  rw [loadPath, dif_neg (by simp)]
  split <;> rename_i reads <;> simp only [reads]

theorem rivals_start (settings : Settings)
    (isOne : settings = .initial ∨ settings = unfortunate) :
    let first := (rivals settings).start.skin
    first.primary = Settings.defaultPrimary ∧ first.display = Settings.defaultDisplay ∧
      first.store.surfaces.entries = (rivals settings).store.surfaces.entries ∧
      (first.fragments.contains "a" ↔ settings = unfortunate) := by
  simp only [start, Progress.loadAll, Progress.loadDisplay, Progress.loadPrimary,
    Progress.loadUser, Progress.load, load, loadPath_nil]
  rcases isOne with rfl | rfl <;> decide +kernel

theorem rivals_sizes (settings : Settings)
    (isOne : settings = .initial ∨ settings = unfortunate) (id : Nat) :
    (rivals settings).start.skin.store.held? (.surface id) =
      (rivals settings).store.held? (.surface id) := by
  have sizes := (rivals_start settings isOne).2.2.1
  simp only [Store.held?, Table.get?, sizes]

/-- A restart gives what a new skin gives that is configured with the choices that the start has
made and the sizes that it has left. Unless the start has given up a skin that left something, both
merge the same blocks, and whatever blocks lead to what they give: the restart gives the same
screens, the same loaded skins, and the same values but for measured ones that depend on the sizes
that the runs began with. If the start has left the factor as it was, all values are the same. -/
theorem restart_reproduces (settings : Settings) (journal : Journal) (directories : Directories)
    (translate : String → String) :
    let fresh := ofSettings settings journal directories translate
    let first := fresh.start.skin
    let takesUp (surfaces : List Surface) := ∀ id, first.store.held? (.surface id) =
      (ofSettings { settings with surfaces } journal directories translate).store.held? (.surface id)
    let lead (blocks : List PlacedBlock) :=
      first.store.Same (fresh.store.mergeAll fresh.assets blocks) ∧
        first.restart.skin.store.Same (first.cleared.store.mergeAll fresh.assets blocks)
    fresh.IsSettled →
      (∃ surfaces, takesUp surfaces) ∧
      (∀ surfaces, takesUp surfaces → Reproduces (ofSettings
        { settings with primary := first.primary, display := first.display, surfaces }
        journal directories translate).start.skin first.restart.skin) ∧
      (fresh.GivesUpCleanly →
        (∃ blocks, lead blocks) ∧
        (∀ blocks, lead blocks → ReproducesOff (fun key => key.Measured ∧
          fresh.store.Depends fresh.assets blocks Key.IsSurface key) first first.restart.skin) ∧
        (first.store.factor = fresh.store.factor → Reproduces first first.restart.skin)) := by
  intro fresh first takesUp lead settled
  have started : fresh.start.skin = first := rfl
  refine ⟨exists_surfaces settled started, fun _ => resumed_reproduces settled started,
    fun clean => ⟨exists_blocks settled started clean, fun blocks ⟨led, ledToo⟩ => ?_,
      reproduces_of_factor settled started clean⟩⟩
  exact reproducesOff_depends settled started clean led ledToo

theorem rivals_restart :
    (rivals .initial).IsSettled ∧
      (∀ id, (rivals .initial).start.skin.store.held? (.surface id) =
        (rivals .initial).store.held? (.surface id)) ∧
      (rivals .initial).GivesUpCleanly ∧
      Reproduces (rivals { Settings.initial with
        primary := (rivals .initial).start.skin.primary
        display := (rivals .initial).start.skin.display }).start.skin
        (rivals .initial).start.skin.restart.skin ∧
      Reproduces (rivals .initial).start.skin (rivals .initial).start.skin.restart.skin := by
  have settled : (rivals .initial).IsSettled := isSettled_of_closed rfl
  have sizes := rivals_sizes .initial (.inl rfl)
  obtain ⟨primary, display, -⟩ := rivals_start .initial (.inl rfl)
  have clean : (rivals .initial).GivesUpCleanly := ⟨.inl display, .inl primary⟩
  obtain ⟨-, again, same⟩ := restart_reproduces _ _ _ _ settled
  refine ⟨settled, sizes, clean, ?_, ?_⟩
  · unfold rivals
    exact again Settings.initial.surfaces sizes
  · unfold rivals
    exact (same clean).2.2 (Store.factor_congr (sizes guiSurface))

/-- The screen of the skin that was given up does not come back. -/
theorem rivals_not_reproduces :
    let fresh := rivals unfortunate
    fresh.IsSettled ∧ ¬ Reproduces fresh.start.skin fresh.start.skin.restart.skin := by
  intro fresh
  have settled : fresh.IsSettled := isSettled_of_closed rfl
  refine ⟨settled, fun same => ?_⟩
  obtain ⟨primary, display, -, declared⟩ := rivals_start unfortunate (.inr rfl)
  obtain ⟨-, -, -, other⟩ := rivals_start .initial (.inl rfl)
  have resumed : Reproduces (rivals .initial).start.skin fresh.start.skin.restart.skin :=
    takenUp_reproduces settled
      (beside_cleared ((Continues.refl fresh).of_eq rfl rfl rfl) (start_continues settled))
      primary display (rivals_sizes unfortunate (.inr rfl))
  have fragments := (resumed.fragments "a").trans (same.fragments "a").symm
  have both : (rivals .initial).start.skin.fragments.contains "a" =
      fresh.start.skin.fragments.contains "a" := congrArg Option.isSome fragments
  rw [both, declared] at other
  exact absurd (other.mp rfl) (by decide)

/-! A skin that measures a font before it declares a taller surface. -/

def outgrownFiles : Table Location FileKind := .ofList [
  (⟨.above 0, ["skins"]⟩, .directory),
  (⟨.above 0, ["skins", "Default"]⟩, .directory),
  (⟨.above 0, ["skins", "Default", "skin.xml"]⟩,
    .file (.text ("<skin><fonts><alias name=\"a\" font=\"b\" size=\"f*20\"/></fonts>" ++
      "<output><resolution yres=\"1080\"/></output></skin>")))]

def outgrown : Skin :=
  .ofSettings .initial ⟨⟨outgrownFiles⟩, none, ""⟩ ⟨⟨"skins"⟩, ⟨"display"⟩, ⟨"fonts"⟩, ⟨"user"⟩⟩ id

theorem outgrown_start :
    let first := outgrown.start.skin
    first.primary = Settings.defaultPrimary ∧ first.display = Settings.defaultDisplay ∧
      (first.store.aliases.get? "a").map FontAlias.size = some 20 ∧
      (first.restart.skin.store.aliases.get? "a").map FontAlias.size = some 30 := by
  simp only [restart, start, Progress.loadAll, Progress.loadDisplay, Progress.loadPrimary,
    Progress.loadUser, Progress.load, load, loadPath_nil]
  decide +kernel

/-- The size of the font is measured by the factor, which is another one the second time. What is
not measured comes back. -/
theorem outgrown_not_reproduces :
    outgrown.IsSettled ∧ outgrown.GivesUpCleanly ∧
      ReproducesOff Key.Measured outgrown.start.skin outgrown.start.skin.restart.skin ∧
      ¬ Reproduces outgrown.start.skin outgrown.start.skin.restart.skin := by
  obtain ⟨primary, display, size, after⟩ := outgrown_start
  have settled : outgrown.IsSettled := isSettled_of_closed rfl
  have clean : outgrown.GivesUpCleanly := ⟨.inl display, .inl primary⟩
  have steady := reproducesOff_measured settled rfl clean
  refine ⟨settled, clean, steady, fun same => ?_⟩
  have aliases := Store.aliases_congr fun name => same.values (.fontAlias name)
  rw [aliases, after] at size
  exact absurd size (by decide)

end Skin
end Skinning
