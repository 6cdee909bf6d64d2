import Skinning.Proofs.InlinedInPlace

/-! A panel that only stands for a fragment can have the nodes of the fragment in its place. It
makes no difference to any binding. -/
namespace Skinning

open Binder

namespace Skin

/-- A skin with another fragment of some name. -/
def withFragment (s : Skin) (name : String) (fragment : Fragment) : Skin :=
  { s with fragments := s.fragments.insert name fragment }

theorem fragment?_withFragment (s : Skin) (name : String) (fragment : Fragment) (other : String) :
    (s.withFragment name fragment).fragment? other =
      if other = name then some fragment else s.fragment? other :=
  s.fragments.get?_insert name other fragment

/-! What the fragments declare. -/

/-- What a survey has to do for a fragment. -/
def HasErrand (s : Skin) (name : String) (errand : Survey.Errand) : Prop :=
  ∃ fragment, s.fragment? name = some fragment ∧ errand ∈ Survey.errands fragment.element.children

theorem LeadsTo.errand {s : Skin} {first name next : String} (leads : s.LeadsTo first name)
    (enters : s.HasErrand name (.enter next)) : s.LeadsTo first next := by
  obtain ⟨fragment, found, member⟩ := enters
  obtain ⟨node, listed, isFor⟩ := Survey.isFor_of_mem_errands _ _ member
  cases isFor with
  | panel isPanel named => exact leads.panel found listed isPanel named

theorem declares_iff_hasErrand {s : Skin} {first x : String} : s.Declares first x ↔
    ∃ name names, s.LeadsTo first name ∧ s.HasErrand name (.note names) ∧ x ∈ names := by
  constructor
  · rintro ⟨name, fragment, node, leads, found, listed, isWidget, declares⟩
    have member := Survey.mem_errands_of_isFor listed (.widget isWidget)
    exact ⟨name, _, leads, ⟨fragment, found, member⟩, Element.mem_declared_iff.mpr declares⟩
  · rintro ⟨name, names, leads, ⟨fragment, found, member⟩, declared⟩
    obtain ⟨node, listed, isFor⟩ := Survey.isFor_of_mem_errands _ _ member
    cases isFor with
    | widget isWidget =>
      exact ⟨name, fragment, node, leads, found, listed, isWidget,
        Element.mem_declared_iff.mp declared⟩

/-- The errands of one fragment are done in another, instead of its being looked into there. -/
structure Unfolds (s t : Skin) (host name : String) : Prop where
  kept : ∀ other errand, s.HasErrand other errand → t.HasErrand other errand ∨
    (other = host ∧ errand = .enter name ∧ ∀ inner, s.HasErrand name inner → t.HasErrand host inner)
  found : ∀ other errand, t.HasErrand other errand → s.HasErrand other errand ∨
    (other = host ∧ s.HasErrand host (.enter name) ∧ s.HasErrand name errand)

namespace Unfolds

variable {s t : Skin} {host name first : String}

theorem leadsTo (unfolds : s.Unfolds t host name) {other : String} (leads : s.LeadsTo first other) :
    t.LeadsTo first other ∨ (other = name ∧ t.LeadsTo first host ∧
      ∀ inner, s.HasErrand name inner → t.HasErrand host inner) := by
  induction leads with
  | here => exact .inl .here
  | panel _ found listed isPanel named ih =>
    have enters : s.HasErrand _ _ :=
      ⟨_, found, Survey.mem_errands_of_isFor listed (.panel isPanel named)⟩
    rcases ih with leads | ⟨rfl, leads, unfolded⟩
    · rcases unfolds.kept _ _ enters with kept | ⟨rfl, isName, unfolded⟩
      · exact .inl (leads.errand kept)
      · exact .inr ⟨by simpa using isName, leads, unfolded⟩
    · exact .inl (leads.errand (unfolded _ enters))

theorem leadsTo_of (unfolds : s.Unfolds t host name) {other : String}
    (leads : t.LeadsTo first other) : s.LeadsTo first other := by
  induction leads with
  | here => exact .here
  | panel _ found listed isPanel named ih =>
    have enters : t.HasErrand _ _ :=
      ⟨_, found, Survey.mem_errands_of_isFor listed (.panel isPanel named)⟩
    rcases unfolds.found _ _ enters with found | ⟨rfl, entered, found⟩
    · exact ih.errand found
    · exact (ih.errand entered).errand found

theorem declares_iff (unfolds : s.Unfolds t host name) {x : String} :
    t.Declares first x ↔ s.Declares first x := by
  rw [declares_iff_hasErrand, declares_iff_hasErrand]
  constructor
  · rintro ⟨other, names, leads, notes, declared⟩
    have leads := unfolds.leadsTo_of leads
    rcases unfolds.found _ _ notes with found | ⟨rfl, entered, found⟩
    · exact ⟨other, names, leads, found, declared⟩
    · exact ⟨name, names, leads.errand entered, found, declared⟩
  · rintro ⟨other, names, leads, notes, declared⟩
    rcases unfolds.leadsTo leads with leads | ⟨rfl, leads, unfolded⟩
    · rcases unfolds.kept _ _ notes with kept | ⟨-, isEnter, -⟩
      · exact ⟨other, names, leads, kept, declared⟩
      · cases isEnter
    · exact ⟨host, names, leads, unfolded _ notes, declared⟩

end Unfolds

section

variable {s : Skin} {host : String} {root : Element} {base : Path} {gap : Gap} {panel : Element}
  {name : String} {fragment : Fragment}

theorem hasErrand_withFragment {other : String} {errand : Survey.Errand} {entered : Fragment} :
    (s.withFragment host entered).HasErrand other errand ↔
      if other = host then errand ∈ Survey.errands entered.element.children
      else s.HasErrand other errand := by
  unfold HasErrand
  simp only [fragment?_withFragment]
  split <;> simp

theorem hasErrand_iff_of_fragment? {entered : Fragment} (found : s.fragment? host = some entered)
    (errand : Survey.Errand) :
    s.HasErrand host errand ↔ errand ∈ Survey.errands entered.element.children := by
  simp [HasErrand, found]

/-- To look into the fragment that a panel names is all that there is to do for it. -/
theorem unfolds_withFragment (stands : panel.StandsFor name)
    (found : s.fragment? name = some fragment)
    (before : s.fragment? host = some ⟨root.withChildren (gap.fill [panel]), base⟩) :
    s.Unfolds (s.withFragment host ⟨root.withChildren (gap.fill fragment.element.children), base⟩)
      host name := by
  have enters : Survey.errands [panel] = [.enter name] := by
    simp [Survey.errands, Survey.errandsOf_eq, stands.isPanel, stands.named, stands.childless]
  have own := hasErrand_iff_of_fragment? before
  have inner := hasErrand_iff_of_fragment? found
  simp only [Element.children_withChildren] at own
  by_cases isOpen : gap.IsOpen
  · obtain ⟨first, last, fills⟩ := gap.errands_fill_of_isOpen isOpen
    simp only [fills, enters, List.mem_append, List.mem_singleton] at own
    have after {errand : Survey.Errand} : (s.withFragment host
          ⟨root.withChildren (gap.fill fragment.element.children), base⟩).HasErrand host errand ↔
        (errand ∈ first ∨ s.HasErrand name errand) ∨ errand ∈ last := by
      rw [hasErrand_withFragment, if_pos rfl, inner]
      simp only [Element.children_withChildren, fills, List.mem_append]
    refine ⟨fun other errand has => ?_, fun other errand has => ?_⟩
    · by_cases isHost : other = host
      · subst isHost
        rcases (own _).mp has with (isFirst | isEnter) | isLast
        · exact .inl (after.mpr (.inl (.inl isFirst)))
        · exact .inr ⟨rfl, isEnter, fun _ has => after.mpr (.inl (.inr has))⟩
        · exact .inl (after.mpr (.inr isLast))
      · exact .inl (hasErrand_withFragment.mpr (by rwa [if_neg isHost]))
    · by_cases isHost : other = host
      · subst isHost
        rcases after.mp has with (isFirst | has) | isLast
        · exact .inl ((own _).mpr (.inl (.inl isFirst)))
        · exact .inr ⟨rfl, (own _).mpr (.inl (.inr rfl)), has⟩
        · exact .inl ((own _).mpr (.inr isLast))
      · exact .inl (by rwa [hasErrand_withFragment, if_neg isHost] at has)
  · have same := gap.errands_fill_of_not_isOpen isOpen [panel] fragment.element.children
    refine ⟨fun other errand has => .inl ?_, fun other errand has => .inl ?_⟩
    · rw [hasErrand_withFragment]
      split
      next isHost => simpa [← same] using (own errand).mp (isHost ▸ has)
      · exact has
    · rw [hasErrand_withFragment] at has
      split at has
      next isHost => exact isHost ▸ (own errand).mpr (by simpa [← same] using has)
      · exact has

/-- The same fragment is chosen, with the same reports of those that are not. -/
theorem choose_withFragment {entered : Fragment} (known : (s.fragment? host).isSome)
    (declares : ∀ first x, (s.withFragment host entered).Declares first x ↔ s.Declares first x)
    (screen : Screen) (names : List String) :
    (s.withFragment host entered).choose screen names =
      ((s.choose screen names).1.map fun chosen =>
          if chosen.1 = host then (host, entered) else chosen,
        (s.choose screen names).2) := by
  induction names with
  | nil => rfl
  | cons first rest ih =>
    have suits : (s.withFragment host entered).suits screen first = s.suits screen first := by
      rw [Bool.eq_iff_iff, suits_iff, suits_iff]
      simp only [declares]
    rw [choose, choose, fragment?_withFragment, suits, ih]
    by_cases isHost : first = host
    · subst isHost
      obtain ⟨known, found⟩ := Option.isSome_iff_exists.mp known
      by_cases suited : s.suits screen first <;> simp [found, suited]
    · cases found : s.fragment? first with
      | none => simp [isHost]
      | some other => by_cases suited : s.suits screen first <;> simp [isHost, suited]

end

/-! How a binding ends. -/

/-- The binder that a root is bound with, when all is done. -/
def ending (s : Skin) (components : Components) (screen : Screen) (chosen : ChosenRoot)
    (surface : Nat) : Binder :=
  (s.beginning components screen chosen surface).bindRoot (s.siteFor components chosen surface)
    chosen.root

/-- The binder of a whole binding, where there is a root to bind. -/
def ending? (s : Skin) (components : Components) (screen : Screen) (names : List String)
    (surface : Nat) : Option Binder :=
  (s.rootFor? screen names surface).map fun (chosen, ready) =>
    s.ending components ready chosen surface

section

variable (s : Skin) (components : Components) (screen : Screen) (surface : Nat)

theorem bindRoot_connections (chosen : ChosenRoot) :
    (s.bindRoot components screen chosen surface).connections =
      (s.ending components screen chosen surface).connections := by
  unfold bindRoot
  dsimp only
  split <;> rfl

/-- All that a binding gives comes from the binder that it ends with. -/
theorem bindRoot_eq_of_ending {t : Skin} {chosen other : ChosenRoot}
    (same : t.ending components screen other surface = s.ending components screen chosen surface)
    (name : other.name = chosen.name) :
    t.bindRoot components screen other surface = s.bindRoot components screen chosen surface := by
  have ends (s : Skin) (chosen : ChosenRoot) : s.bindRoot components screen chosen surface =
      let b := s.ending components screen chosen surface
      let unused := unusedElements b
      ⟨if unused = [] then .ok chosen.name else .error (.unusedElements chosen.name unused),
        b.screen, b.notices, b.connections⟩ := by
    obtain ⟨screens, notices⟩ := s.bindRoot_eq components screen surface chosen
    have result := s.bindRoot_result components screen surface chosen
    have connections := s.bindRoot_connections components screen surface chosen
    change _ = Bound.mk _ _ _ _
    rw [Bound.mk.injEq]
    exact ⟨result, screens, notices, connections⟩
  rw [ends, ends, same, name]

theorem beginning_withChildren (name : String) (root : Element) (base? : Option Path)
    (nodes : List Element) :
    s.beginning components screen ⟨name, root.withChildren nodes, base?⟩ surface =
      s.beginning components screen ⟨name, root, base?⟩ surface := by
  have site : s.siteFor components ⟨name, root.withChildren nodes, base?⟩ surface =
    s.siteFor components ⟨name, root, base?⟩ surface := rfl
  have scale : rootScale (root.withChildren nodes) (s.desktop surface) =
    rootScale root (s.desktop surface) := rfl
  simp only [beginning, bindWindow, site, scale, BindingSite.gather_withChildren]

theorem beginning_withFragment (host : String) (fragment : Fragment) (chosen : ChosenRoot) :
    (s.withFragment host fragment).beginning components screen chosen surface =
      s.beginning components screen chosen surface := by
  have site : (s.withFragment host fragment).siteFor components chosen surface =
    (s.siteFor components chosen surface).withFragments (s.withFragment host fragment).fragments :=
    rfl
  have desktop : (s.withFragment host fragment).desktop surface = s.desktop surface := rfl
  simp only [beginning, bindWindow, site, desktop, BindingSite.gather_withFragments,
    BindingSite.attributes_withFragments]
  rfl

end

section

variable {s : Skin} {components : Components} {screen : Screen} {surface : Nat} {host : String}
  {root : Element} {base : Path} {gap : Gap} {panel : Element} {name : String} {fragment : Fragment}

theorem isReplaced_withFragment (stands : panel.StandsFor name)
    (found : s.fragment? name = some fragment) (apart : ¬ s.ReachesItself name)
    (takes : gap.Takes fragment.element.children)
    (before : s.fragment? host = some ⟨root.withChildren (gap.fill [panel]), base⟩)
    (site : BindingSite) (isSite : site.skin = s) :
    IsReplaced site (s.withFragment host
      ⟨root.withChildren (gap.fill fragment.element.children), base⟩).fragments host root base gap
      panel name fragment := by
  subst isSite
  refine ⟨stands, found, apart, takes, before, ?_, fun other distinct => ?_⟩
  · exact (fragment?_withFragment _ _ _ _).trans (if_pos rfl)
  · exact (fragment?_withFragment _ _ _ _).trans (if_neg distinct)

/-- A root other than that of the host is bound the same. -/
theorem ending_withFragment {chosen : ChosenRoot} {entered : Fragment}
    (replaced : IsReplaced (s.siteFor components chosen surface)
      (s.withFragment host entered).fragments host root base gap panel name fragment)
    (clear : ∀ v ∈ (s.beginning components screen chosen surface).visits
        (s.siteFor components chosen surface) chosen.root,
      FindsClear (s.siteFor components chosen surface) host gap panel name v) :
    (s.withFragment host entered).ending components screen chosen surface =
      s.ending components screen chosen surface := by
  unfold ending
  rw [beginning_withFragment]
  exact replaced.bindRoot clear

theorem ending_withFragment_host {entered : Fragment}
    (replaced : IsReplaced
      (s.siteFor components ⟨host, root.withChildren (gap.fill [panel]), some base⟩ surface)
      (s.withFragment host entered).fragments host root base gap panel name fragment) :
    let chosen : ChosenRoot := ⟨host, root.withChildren (gap.fill [panel]), some base⟩
    let b := s.beginning components screen chosen surface
    let site := s.siteFor components chosen surface
    gap.IsClear site panel name [] b →
    (∀ v ∈ b.visits site chosen.root, FindsClear site host gap panel name v) →
    (s.withFragment host entered).ending components screen
        ⟨host, root.withChildren (gap.fill fragment.element.children), some base⟩ surface =
      s.ending components screen chosen surface := by
  intro chosen b site opens clear
  unfold ending
  rw [beginning_withFragment, beginning_withChildren,
    ← s.beginning_withChildren components screen surface host root (some base) (gap.fill [panel])]
  exact replaced.bindRoot_host opens clear

end

/-- A binding comes to the nodes of a fragment, be it the one that is bound or one that a panel
names. -/
inductive Opens (s : Skin) (components : Components) (screen : Screen) (names : List String)
    (surface : Nat) (host : String) : BindingSite → List String → Binder → Prop
  | root {chosen : ChosenRoot} {ready : Screen} :
      s.rootFor? screen names surface = some (chosen, ready) → chosen.base?.isSome →
      chosen.name = host →
      Opens s components screen names surface host (s.siteFor components chosen surface) []
        (s.beginning components ready chosen surface)
  | panel {site : BindingSite} {visits : List Visit} {v : Visit} :
      s.tour? components screen surface names = some (site, visits) → v ∈ visits →
      v.Names host → host ∉ v.inlined →
      Opens s components screen names surface host site (host :: v.inlined) v.binder

/-- Nodes in the place of a panel make no difference to any binding that finds the panel clear,
neither in a fragment of the catalog nor in a document that is bound by itself. -/
structure InlinesInPlace (s : Skin) (gap : Gap) (panel : Element) (name : String)
    (nodes : List Element) : Prop where
  fragments : ∀ host (root : Element) base components screen names surface,
    s.fragment? host = some ⟨root.withChildren (gap.fill [panel]), base⟩ →
    (∀ site inlined b, s.Opens components screen names surface host site inlined b →
      gap.IsClear site panel name inlined b) →
    let t := s.withFragment host ⟨root.withChildren (gap.fill nodes), base⟩
    t.bind components screen names surface = s.bind components screen names surface ∧
      t.ending? components screen names surface = s.ending? components screen names surface
  documents : ∀ title (root : Element) base? components screen surface,
    let panelled : ChosenRoot := ⟨title, root.withChildren (gap.fill [panel]), base?⟩
    let unfolded : ChosenRoot := ⟨title, root.withChildren (gap.fill nodes), base?⟩
    gap.IsClear (s.siteFor components panelled surface) panel name []
      (s.beginning components screen panelled surface) →
    s.bindRoot components screen unfolded surface =
        s.bindRoot components screen panelled surface ∧
      s.ending components screen unfolded surface = s.ending components screen panelled surface

section

variable {s t : Skin} {components : Components} {screen : Screen} {names : List String}
  {surface : Nat}

theorem findsClear_of_opens {host : String} {gap : Gap} {panel : Element} {name : String}
    (clear : ∀ site inlined b, s.Opens components screen names surface host site inlined b →
      gap.IsClear site panel name inlined b) {chosen : ChosenRoot} {ready : Screen}
    (rooted : s.rootFor? screen names surface = some (chosen, ready)) :
    ∀ v ∈ (s.beginning components ready chosen surface).visits
        (s.siteFor components chosen surface) chosen.root,
      FindsClear (s.siteFor components chosen surface) host gap panel name v := by
  intro v member names new
  exact clear _ _ _ (.panel (by simp only [tour?, rooted, Option.map_some]) member names new)

/-- Two skins bind alike what they choose alike. -/
theorem bind_eq_of_choose (store : t.store = s.store)
    (reports : (t.choose screen names).2 = (s.choose screen names).2)
    (chosen : ∀ name fragment, (s.choose screen names).1 = some (name, fragment) →
      ∃ other, (t.choose screen names).1 = some (name, other) ∧
        t.ending components screen ⟨name, other.element, some other.base⟩ surface =
          s.ending components screen ⟨name, fragment.element, some fragment.base⟩ surface)
    (unchosen : (s.choose screen names).1 = none → (t.choose screen names).1 = none ∧
      ∀ title root ready, s.rootFor? screen names surface = some (⟨title, root, none⟩, ready) →
        t.ending components ready ⟨title, root, none⟩ surface =
          s.ending components ready ⟨title, root, none⟩ surface) :
    t.bind components screen names surface = s.bind components screen names surface ∧
      t.ending? components screen names surface = s.ending? components screen names surface := by
  unfold bind ending? rootFor? at *
  generalize s.choose screen names = first at *
  generalize t.choose screen names = later at *
  obtain ⟨chosen?, notices⟩ := first
  obtain ⟨again?, more⟩ := later
  obtain rfl : more = notices := reports
  cases chosen? with
  | some pair =>
    obtain ⟨other, again, same⟩ := chosen pair.1 pair.2 rfl
    obtain rfl : again? = some (pair.1, other) := again
    have bound := s.bindRoot_eq_of_ending components screen surface same rfl
    dsimp only [Option.map_some]
    rw [bound, same]
    exact ⟨rfl, rfl⟩
  | none =>
    obtain ⟨again, same⟩ := unchosen rfl
    obtain rfl : again? = none := again
    dsimp only at same ⊢
    rw [store]
    generalize screen.readEmbedded _ _ _ = reading at same ⊢
    obtain ⟨root, ready, read⟩ := reading
    cases root with
    | error error =>
      dsimp only [Except.toOption, Option.map_none]
      exact ⟨rfl, rfl⟩
    | ok root =>
      have same := same _ root ready rfl
      have bound := s.bindRoot_eq_of_ending components ready surface same rfl
      dsimp only [Except.toOption, Option.map_some]
      rw [bound, same]
      exact ⟨rfl, rfl⟩

end

theorem not_reachesItself_of_leaves {s : Skin} {name : String} {fragment : Fragment}
    (found : s.fragment? name = some fragment)
    (leaves : ∀ node ∈ fragment.element.children, node.tag ≠ "panel") : ¬ s.ReachesItself name := by
  have unlisted {panel : Element} (isPanel : panel.tag = "panel") :
      ¬ Element.Listed fragment.element.children panel := by
    intro listed
    cases listed with
    | here member => exact leaves panel member isPanel
    | inside member isOuter _ => exact leaves _ member isOuter
  have nowhere {other : String} (leads : s.LeadsTo name other) : other = name := by
    induction leads with
    | here => rfl
    | panel _ foundBefore listed isPanel _ ih =>
      subst ih
      obtain rfl := Option.some.inj (found.symm.trans foundBefore)
      exact absurd listed (unlisted isPanel)
  rintro ⟨panel, ⟨other, entered, leads, foundOther, listed⟩, isPanel, -⟩
  obtain rfl := nowhere leads
  obtain rfl := Option.some.inj (found.symm.trans foundOther)
  exact unlisted isPanel listed

/-- A panel that only stands for a fragment can have the nodes of the fragment in its place, where
the fragment does not lead back to itself and what is around the panel takes the nodes. -/
theorem inlinesInPlace {s : Skin} {gap : Gap} {panel : Element} {name : String}
    {fragment : Fragment} (stands : panel.StandsFor name)
    (found : s.fragment? name = some fragment) (apart : ¬ s.ReachesItself name)
    (takes : gap.Takes fragment.element.children) :
    s.InlinesInPlace gap panel name fragment.element.children := by
  refine ⟨?_, ?_⟩
  · intro host root base components screen names surface before clear t
    have replaced (chosen : ChosenRoot) :=
      isReplaced_withFragment stands found apart takes before
        (s.siteFor components chosen surface) rfl
    have unfolds := unfolds_withFragment stands found before
    have choice := choose_withFragment (by simp [before]) (fun _ _ => unfolds.declares_iff) screen
      names
    refine bind_eq_of_choose rfl (by rw [choice]) ?_ ?_
    · intro next chosen isChosen
      have rooted : s.rootFor? screen names surface =
          some (⟨next, chosen.element, some chosen.base⟩, screen) := by
        simp [rootFor?, isChosen]
      rw [choice, isChosen, Option.map_some]
      by_cases isHost : next = host
      · subst isHost
        obtain rfl : chosen = ⟨root.withChildren (gap.fill [panel]), base⟩ :=
          Option.some.inj ((s.fragment?_of_choose isChosen).symm.trans before)
        refine ⟨_, by rw [if_pos rfl], ?_⟩
        exact ending_withFragment_host (replaced _) (clear _ _ _ (.root rooted rfl rfl))
          (findsClear_of_opens clear rooted)
      · refine ⟨chosen, by rw [if_neg isHost], ?_⟩
        exact ending_withFragment (replaced _) (findsClear_of_opens clear rooted)
    · intro unchosen
      refine ⟨by rw [choice, unchosen, Option.map_none], fun title other ready rooted => ?_⟩
      exact ending_withFragment (replaced _) (findsClear_of_opens clear rooted)
  · intro title root base? components screen surface panelled unfolded clear
    have same : s.ending components screen unfolded surface =
        s.ending components screen panelled surface := by
      unfold ending
      rw [s.beginning_withChildren, ← s.beginning_withChildren components screen surface title root
        base? (gap.fill [panel])]
      exact bindRoot_inPlace stands found apart takes clear
    exact ⟨s.bindRoot_eq_of_ending components screen surface same rfl, same⟩

def partPanel : Element := (Element.ofTag "panel").withAttribute "name" "Part"

theorem partPanel_standsFor : partPanel.StandsFor "Part" := ⟨rfl, by decide, by decide, rfl⟩

/-- The place of the only node in an element. -/
def gapIn (outer : Element) : Gap := .inside [] outer (.here [] []) []

/-- A fragment with a panel in an element, and the fragment that the panel stands for. -/
def withPart (outer : Element) (nodes : List Element) : Skin :=
  let screen := Element.ofTag "screen"
  .ofCatalog [] [("Main", ⟨screen.withChildren ((gapIn outer).fill [partPanel]), ⟨"skins"⟩⟩),
    ("Part", ⟨screen.withChildren nodes, ⟨"skins"⟩⟩)]

/-- A label among the nodes of a panel comes to the same by itself as by way of its fragment. -/
theorem inlinesInPlace_withPart :
    let outer : Element :=
      { Element.ofTag "panel" with attributes := [("position", "0,0"), ("size", "100,50")] }
    let label : Element :=
      { Element.ofTag "eLabel" with attributes := [("position", "fill"), ("text", "part")] }
    let s := withPart outer [label]
    partPanel.StandsFor "Part" ∧ ¬ s.ReachesItself "Part" ∧ (gapIn outer).Takes [label] ∧
      (s.withFragment "Main"
          ⟨(Element.ofTag "screen").withChildren ((gapIn outer).fill [label]), ⟨"skins"⟩⟩).bind
            .none (Screen.ofClass "Main") ["Main"] 0 =
        s.bind .none (Screen.ofClass "Main") ["Main"] 0 := by
  intro outer label s
  have found : s.fragment? "Part" =
    some ⟨(Element.ofTag "screen").withChildren [label], ⟨"skins"⟩⟩ := rfl
  have apart : ¬ s.ReachesItself "Part" := not_reachesItself_of_leaves found (by decide)
  have takes : (gapIn outer).Takes [label] :=
    ⟨fun _ unplaced => absurd unplaced (by decide), fun shows => absurd shows (by decide)⟩
  refine ⟨partPanel_standsFor, apart, takes, ?_⟩
  refine ((inlinesInPlace partPanel_standsFor found apart takes).fragments "Main"
    (Element.ofTag "screen") ⟨"skins"⟩ .none (Screen.ofClass "Main") ["Main"] 0 rfl ?_).1
  intro site inlined b opens
  cases opens with
  | root => exact fun c _ => ⟨rfl, by simp⟩
  | @panel _ visits v toured member names _ =>
    have outline : (s.tour? .none (Screen.ofClass "Main") 0 ["Main"]).map
        (fun (_, visits) => visits.map fun v => v.node.filled? "name") =
        some [none, some "Part", none] := by
      decide +kernel
    rw [toured] at outline
    have named : v.node.filled? "name" ∈ visits.map fun v => v.node.filled? "name" :=
      List.mem_map_of_mem member
    simp [Option.some.inj outline, names.named] at named

/-- Wherever a panel stands for a fragment that does not lead back to itself, it can have the nodes
of the fragment in its place. -/
def InlinesAnywhere (s : Skin) : Prop :=
  ∀ gap panel name fragment, panel.StandsFor name → s.fragment? name = some fragment →
    ¬ s.ReachesItself name → s.InlinesInPlace gap panel name fragment.element.children

/-- Where the panel is in a node that no walk goes into, the fragments are bound alike with the
nodes in its place, if they could be anywhere. -/
theorem bind_withPart {outer : Element} {nodes : List Element}
    (anywhere : (withPart outer nodes).InlinesAnywhere)
    (shut : outer.tag = "panel" → outer.attribute? "position" = none)
    (leaves : ∀ node ∈ nodes, node.tag ≠ "panel") (components : Components) (screen : Screen) :
    ((withPart outer nodes).withFragment "Main"
        ⟨(Element.ofTag "screen").withChildren ((gapIn outer).fill nodes), ⟨"skins"⟩⟩).bind
          components screen ["Main"] 0 =
      (withPart outer nodes).bind components screen ["Main"] 0 := by
  have found : (withPart outer nodes).fragment? "Part" =
    some ⟨(Element.ofTag "screen").withChildren nodes, ⟨"skins"⟩⟩ := rfl
  have inPlace := anywhere (gapIn outer) partPanel "Part" _ partPanel_standsFor found
    (not_reachesItself_of_leaves found leaves)
  refine (inPlace.fragments "Main" (Element.ofTag "screen") ⟨"skins"⟩ components screen ["Main"] 0
    rfl fun _ _ _ _ => ?_).1
  exact Gap.isClear_of_shut shut

/-- A widget node that shows a source. -/
def shownClock : Element :=
  { Element.ofTag "widget" with attributes := [("source", "clock"), ("render", "Label")] }

def timeConvert : Element := (Element.ofTag "convert").withAttribute "type" "Time"

def clockComponents : Components :=
  { Components.none with
    converter? := fun _ => some id
    renderer? := fun _ => some ⟨"Label", .initial, true⟩ }

/-- A panel without a space is not reported when it is left without nodes, and a source is shown
through the converters among the nodes that a widget node is given. -/
theorem withPart_not_inlinesAnywhere :
    ¬ (withPart (Element.ofTag "panel") []).InlinesAnywhere ∧
      ¬ (withPart shownClock [timeConvert]).InlinesAnywhere := by
  refine ⟨fun anywhere => ?_, fun anywhere => ?_⟩
  · have same := bind_withPart anywhere (fun _ => by decide) (by simp) .none (Screen.ofClass "Main")
    have reports := congrArg (fun bound => bound.notices.length) same
    revert reports
    decide +kernel
  · have same := bind_withPart anywhere (fun isPanel => absurd isPanel (by decide)) (by decide)
      clockComponents ((Screen.ofClass "Main").addSource "clock" "Clock")
    have stages := congrArg (fun bound => bound.screen.pipelines.map Stage.converters) same
    revert stages
    decide +kernel

end Skin
end Skinning
