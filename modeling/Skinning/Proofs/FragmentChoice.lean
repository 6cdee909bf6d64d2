import Skinning.Binding.Bind
import Skinning.Proofs.DeclaredNames

/-! How a fragment is chosen for a screen: it is the first one that declares, itself or through its
panels, what the screen cannot do without. Where there is none the screen's own document is
bound. -/
namespace Skinning

namespace Skin

/-- A fragment is offered to a screen if it declares, itself or through its panels, all that the
screen cannot do without. -/
structure Offers (s : Skin) (screen : Screen) (name : String) (fragment : Fragment) : Prop where
  found : s.fragment? name = some fragment
  mandatory : ∀ widget ∈ screen.mandatory?.getD [], s.Declares name widget

/-- The first of some names whose fragment is offered to a screen. -/
structure OffersFirst (s : Skin) (screen : Screen) (names : List String) (name : String)
    (fragment : Fragment) : Prop where
  offers : s.Offers screen name fragment
  first : ∃ before after, names = before ++ name :: after ∧
    ∀ other ∈ before, ∀ refused, ¬ s.Offers screen other refused

variable {s : Skin}

theorem suits_iff {screen : Screen} {name : String} :
    s.suits screen name ↔ ∀ widget ∈ screen.mandatory?.getD [], s.Declares name widget := by
  unfold suits
  split
  next none => simp [none]
  next empty => simp [empty]
  next mandatory _ given => simp [given, mem_declaredNames]

theorem choose_offersFirst {screen : Screen} {names : List String} {name : String}
    {fragment : Fragment} (offersFirst : s.OffersFirst screen names name fragment) :
    (s.choose screen names).1 = some (name, fragment) := by
  obtain ⟨offers, before, after, rfl, refused⟩ := offersFirst
  induction before with
  | nil =>
    have suitable : s.suits screen name := suits_iff.mpr offers.mandatory
    simp [choose, offers.found, suitable]
  | cons other before ih =>
    obtain ⟨otherRefused, refused⟩ := List.forall_mem_cons.mp refused
    rw [List.cons_append, choose]
    cases found : s.fragment? other with
    | none => exact ih refused
    | some unsuitable =>
      have unsuited : ¬ s.suits screen other := by
        intro suitable
        exact otherRefused unsuitable ⟨found, suits_iff.mp suitable⟩
      simp only [unsuited]
      exact ih refused

theorem choose_eq_none {screen : Screen} {names : List String}
    (refused : ∀ name ∈ names, ∀ fragment, ¬ s.Offers screen name fragment) :
    (s.choose screen names).1 = none := by
  induction names with
  | nil => rfl
  | cons name rest ih =>
    obtain ⟨nameRefused, refused⟩ := List.forall_mem_cons.mp refused
    rw [choose]
    cases found : s.fragment? name with
    | none => exact ih refused
    | some fragment =>
      have unsuited : ¬ s.suits screen name := by
        intro suitable
        exact nameRefused fragment ⟨found, suits_iff.mp suitable⟩
      simp only [unsuited]
      exact ih refused

end Skin

/-- A binding before which something else was noted. -/
def Bound.noting (b : Bound) (before : Notices) : Bound :=
  { b with notices := before ++ b.notices }

namespace Skin

/-- Binds the document that a screen brings along. If that is faulty nothing is bound. -/
def bindEmbedded (s : Skin) (components : Components) (screen : Screen) (surface : Nat) : Bound :=
  let name := "<embedded-in-" ++ screen.className ++ ">"
  let reading := screen.readEmbedded name s.store.factor surface
  let bound := match reading.root with
    | .ok root => s.bindRoot components reading.screen ⟨name, root, none⟩ surface
    | .error error => ⟨.error (.parse error), reading.screen, [], []⟩
  bound.noting reading.notices

theorem bind_of_choose {s : Skin} (components : Components) {screen : Screen} {names : List String}
    (surface : Nat) {name : String} {fragment : Fragment}
    (chosen : (s.choose screen names).1 = some (name, fragment)) :
    ∃ notices, s.bind components screen names surface =
      (s.bindRoot components screen ⟨name, fragment.element, some fragment.base⟩ surface).noting
        notices := by
  unfold bind
  generalize s.choose screen names = choice at chosen ⊢
  obtain ⟨chosen?, notices⟩ := choice
  obtain rfl : chosen? = some (name, fragment) := chosen
  exact ⟨notices, rfl⟩

theorem bind_of_choose_eq_none {s : Skin} (components : Components) {screen : Screen}
    {names : List String} (surface : Nat) (none : (s.choose screen names).1 = none) :
    ∃ notices, s.bind components screen names surface =
      (s.bindEmbedded components screen surface).noting notices := by
  unfold bind bindEmbedded
  generalize s.choose screen names = choice at none ⊢
  obtain ⟨chosen?, notices⟩ := choice
  obtain rfl : chosen? = Option.none := none
  refine ⟨notices, ?_⟩
  dsimp only
  generalize screen.readEmbedded _ _ _ = reading
  obtain ⟨root, read, more⟩ := reading
  cases root <;> simp [Bound.noting]

/-- A survey ends by itself, and finds what is declared in the fragments that panels lead to. A
binding takes the first fragment that is offered to the screen, and the document of the screen
where none is. -/
theorem surveys_and_chooses (s : Skin) (components : Components) (screen : Screen)
    (names : List String) (surface : Nat) :
    (∀ name, (∀ more, s.survey (s.fragments.size + more) name .empty =
        s.survey s.fragments.size name .empty) ∧
      (s.declaredNames name).Nodup ∧ ∀ x, x ∈ s.declaredNames name ↔ s.Declares name x) ∧
    (∀ name fragment, s.OffersFirst screen names name fragment → ∃ notices,
      s.bind components screen names surface =
        (s.bindRoot components screen ⟨name, fragment.element, some fragment.base⟩ surface).noting
          notices) ∧
    ((∀ name ∈ names, ∀ fragment, ¬ s.Offers screen name fragment) → ∃ notices,
      s.bind components screen names surface =
        (s.bindEmbedded components screen surface).noting notices) := by
  refine ⟨fun name => ⟨s.survey_add name, declaredNames_nodup name, fun x => mem_declaredNames⟩,
    fun name fragment offersFirst => ?_, fun refused => ?_⟩
  · exact bind_of_choose components surface (choose_offersFirst offersFirst)
  · exact bind_of_choose_eq_none components surface (choose_eq_none refused)

end Skin
end Skinning
