import Mathlib.Data.List.Perm.Subperm
import Skinning.Proofs.NodeOutcome

/-! How fragments nest. The fragments that are being inlined are pairwise different, and a panel
that names one of them is refused. The fragment that a binding begins with is not one of them: a
panel that leads back to it opens it once more. -/
namespace Skinning

open Binder

/-- There are no more different fragments than stand in the catalog. -/
theorem Skin.length_le_of_nodup (s : Skin) {names : List String} (apart : names.Nodup)
    (known : ∀ name ∈ names, (s.fragment? name).isSome) : names.length ≤ s.fragments.size := by
  have inside : names ⊆ s.fragments.keys := by
    intro name member
    obtain ⟨fragment, found⟩ := Option.isSome_iff_exists.mp (known name member)
    exact Table.mem_keys_of_get? found
  have shorter := (apart.subperm inside).length_le
  simpa [Table.keys, Table.size] using shorter

namespace Binder

variable {site : BindingSite}

/-- Two inliners do the same for every fragment that may be opened next. -/
def Alike (site : BindingSite) (inlined : List String) (inliner other : Inliner) : Prop :=
  ∀ name fragment b, name ∉ inlined → site.skin.fragment? name = some fragment →
    inliner (name :: inlined) fragment.element b = other (name :: inlined) fragment.element b

theorem Alike.inlinePanel {inlined : List String} {inliner other : Inliner}
    (alike : Alike site inlined inliner other) (node : Element) (b : Binder) :
    b.inlinePanel site inliner inlined node = b.inlinePanel site other inlined node := by
  unfold Binder.inlinePanel
  split
  · rfl
  next name named =>
    by_cases isInlined : name ∈ inlined
    · simp [isInlined]
    · cases found : site.skin.fragment? name with
      | none => rfl
      | some fragment => simp [isInlined, alike name fragment b isInlined found]

mutual

theorem Alike.bindNode {inlined : List String} {inliner other : Inliner}
    (alike : Alike site inlined inliner other) : (node : Element) → (b : Binder) →
    Binder.bindNode site inliner inlined node b = Binder.bindNode site other inlined node b
  | ⟨tag, attributes, text?, line, children⟩, b => by
    simp only [Binder.bindNode, alike.inlinePanel, alike.bindNodes children]

theorem Alike.bindNodes {inlined : List String} {inliner other : Inliner}
    (alike : Alike site inlined inliner other) : (nodes : List Element) → (b : Binder) →
    Binder.bindNodes site inliner inlined nodes b = Binder.bindNodes site other inlined nodes b
  | [], _ => rfl
  | node :: rest, b => by
    simp only [Binder.bindNodes, alike.bindNode node, alike.bindNodes rest]

end

/-- As many fragments as there are can be opened inside each other; a greater depth adds none. -/
theorem inlineTo_succ (depth : Nat) {inlined : List String} (apart : inlined.Nodup)
    (known : ∀ name ∈ inlined, (site.skin.fragment? name).isSome)
    (deep : site.skin.fragments.size < depth + inlined.length) (root : Element) (b : Binder) :
    inlineTo site (depth + 1) inlined root b = inlineTo site depth inlined root b := by
  induction depth generalizing inlined root b with
  | zero =>
    -- At depth zero there would be more open fragments than the catalog has.
    have few := site.skin.length_le_of_nodup apart known
    omega
  | succ depth ih =>
    refine Alike.bindNodes (fun name fragment b new found => ?_) root.children b
    refine ih (List.nodup_cons.mpr ⟨new, apart⟩) ?_ ?_ fragment.element b
    · exact List.forall_mem_cons.mpr ⟨by simp [found], known⟩
    · rw [List.length_cons]
      omega

/-- The depth that a binding goes down to cuts nothing off. -/
theorem bindRoot_eq_bindNodes (b : Binder) (site : BindingSite) (root : Element) (more : Nat) :
    bindNodes site (inlineTo site (site.skin.fragments.size + more)) [] root.children b =
      b.bindRoot site root := by
  induction more with
  | zero => rfl
  | succ more ih =>
    rw [← ih]
    refine Alike.bindNodes (fun name fragment b new found => ?_) root.children b
    have deep : site.skin.fragments.size < site.skin.fragments.size + more + [name].length := by
      rw [List.length_singleton]
      omega
    exact inlineTo_succ _ (by simp) (by simp [found]) deep fragment.element b

end Binder

def cycleNotice (name : String) : Notice := .fault (.binding (.panelCycle name))

namespace Visit

/-- The fragments whose nodes are being bound where a node is visited, the innermost first. -/
def opened (site : BindingSite) (v : Visit) : List String := v.inlined ++ [site.fragment]

theorem nodup_opened {site : BindingSite} {v : Visit} :
    (v.opened site).Nodup ↔ v.inlined.Nodup ∧ site.fragment ∉ v.inlined := by
  rw [opened, List.nodup_append]
  constructor
  · rintro ⟨apart, -, others⟩
    exact ⟨apart, fun member => others _ member _ (by simp) rfl⟩
  · rintro ⟨apart, outside⟩
    refine ⟨apart, by simp, ?_⟩
    rintro name member _ isBound rfl
    exact outside (List.mem_singleton.mp isBound ▸ member)

/-- A panel is reported for what it names, and nothing is inlined in its place. -/
def IsRefused (site : BindingSite) (v : Visit) (name : String) : Prop :=
  ∀ inliner inside,
    v.binder.inlinePanel site inliner v.inlined v.node = v.binder.report (.panelCycle name) ∧
      v.binder.visitPanel site inside v.inlined v.node = []

theorem Names.unique {v : Visit} {name other : String} (names : v.Names name)
    (again : v.Names other) : name = other :=
  Option.some.inj (names.named.symm.trans again.named)

theorem Names.isRefused {v : Visit} {name : String} (names : v.Names name)
    (isInlined : name ∈ v.inlined) (site : BindingSite) : v.IsRefused site name := by
  intro inliner inside
  simp [inlinePanel, visitPanel, names.named, isInlined]

/-- A panel that names any other fragment is not refused. -/
theorem Names.not_isRefused {v : Visit} {name : String} {site : BindingSite} {fragment : Fragment}
    (names : v.Names name) (new : name ∉ v.inlined)
    (found : site.skin.fragment? name = some fragment) : ¬ v.IsRefused site name := by
  intro refused
  have same := (refused (fun _ _ b => b) fun _ _ _ => []).1
  have notices := congrArg (List.length ∘ Binder.notices) same
  simp [inlinePanel, names.named, new, found, report, note] at notices

end Visit

/-- Of the fragments that are open at a visit none is open twice, and a panel that names one of
them is refused and reported. -/
structure KeepsApart (site : BindingSite) (visits : List Visit) (notices : Notices)
    (opened : Visit → List String) : Prop where
  apart : ∀ v ∈ visits, (opened v).Nodup
  refused : ∀ v ∈ visits, ∀ name ∈ opened v, v.Names name → v.IsRefused site name
  reported : ∀ v ∈ visits, ∀ name ∈ opened v, v.Names name → cycleNotice name ∈ notices

/-- The fragments that are being inlined, after some visits. -/
structure Stacked (site : BindingSite) (past : List Visit) (inlined : List String) : Prop where
  apart : inlined.Nodup
  known : ∀ name ∈ inlined, (site.skin.fragment? name).isSome
  named : ∀ name ∈ inlined, ∃ w ∈ past, w.Names name

namespace Stacked

variable {site : BindingSite} {past : List Visit} {inlined : List String}

theorem append (stacked : Stacked site past inlined) (more : List Visit) :
    Stacked site (past ++ more) inlined := by
  refine ⟨stacked.apart, stacked.known, fun name member => ?_⟩
  obtain ⟨w, before, names⟩ := stacked.named name member
  exact ⟨w, List.mem_append_left _ before, names⟩

theorem cons {v : Visit} {name : String} {fragment : Fragment} (names : v.Names name)
    (stacked : Stacked site past v.inlined) (new : name ∉ v.inlined)
    (found : site.skin.fragment? name = some fragment) :
    Stacked site (past ++ [v]) (name :: v.inlined) := by
  obtain ⟨apart, known, named⟩ := stacked.append [v]
  refine ⟨List.nodup_cons.mpr ⟨new, apart⟩, ?_, ?_⟩
  · exact List.forall_mem_cons.mpr ⟨by simp [found], known⟩
  · exact List.forall_mem_cons.mpr ⟨⟨v, by simp, names⟩, named⟩

end Stacked

/-- What is known of the visits so far. -/
structure Nesting (site : BindingSite) (past : List Visit) (b : Binder) : Prop where
  stacked : ∀ v ∈ past, Stacked site past v.inlined
  reported : ∀ v ∈ past, ∀ name ∈ v.inlined, v.Names name → cycleNotice name ∈ b.notices

namespace Nesting

variable {site : BindingSite} {past : List Visit}

theorem mono {b after : Binder} (nests : Nesting site past b) (noted : b.notices <+: after.notices) :
    Nesting site past after :=
  ⟨nests.stacked, fun v member name isInlined names =>
    noted.subset (nests.reported v member name isInlined names)⟩

/-- One more visit, with a report if it is to a panel that names what is being inlined. -/
theorem snoc {v : Visit} {after : Binder} (nests : Nesting site past v.binder)
    (stacked : Stacked site past v.inlined) (noted : v.binder.notices <+: after.notices)
    (reports : ∀ name ∈ v.inlined, v.Names name → cycleNotice name ∈ after.notices) :
    Nesting site (past ++ [v]) after := by
  refine ⟨fun w member => ?_, fun w member name isInlined names => ?_⟩
  · rcases List.mem_append.mp member with before | now
    · exact (nests.stacked w before).append [v]
    · rw [List.mem_singleton.mp now]
      exact stacked.append [v]
  · rcases List.mem_append.mp member with before | now
    · exact noted.subset (nests.reported w before name isInlined names)
    · rw [List.mem_singleton] at now
      subst now
      exact reports name isInlined names

end Nesting

theorem tracks_nests (site : BindingSite) : Tracks site (Stacked site) (Nesting site) where
  lasts _ more _ stacked := stacked.append more
  inlines _ _ _ _ stacked names new found := stacked.cons names new found
  quiet _ _ _ nests quiet := nests.mono quiet.notices
  passed _ v nests stacked passed :=
    nests.snoc stacked List.prefix_rfl fun _ _ names => absurd names.admitted passed
  panel _ v nests stacked _ _ := by
    refine nests.snoc stacked (quiet_announce v.binder site v.inlined v.node).notices ?_
    intro name isInlined names
    have refused := (names.isRefused isInlined site (fun _ _ b => b) fun _ _ _ => []).1
    rw [announce, refused]
    exact List.mem_append_right _ (by simp [cycleNotice])
  leaf _ v nests stacked _ isLeaf :=
    nests.snoc stacked (notices_attempt site v.node v.binder) fun _ _ names =>
      absurd names.isPanel isLeaf

namespace Skin

section

variable (s : Skin) (components : Components) (screen : Screen) (surface : Nat)
  (names : List String)

/-- No fragment of the catalog is opened inside itself when it is bound. -/
def StaysApart : Prop :=
  ∀ site visits, s.tour? components screen surface names = some (site, visits) →
    site.base?.isSome →
    KeepsApart site visits (s.bind components screen names surface).notices (·.opened site)

theorem tour?_nests {site : BindingSite} {visits : List Visit}
    (toured : s.tour? components screen surface names = some (site, visits)) :
    (∀ v ∈ visits, Stacked site visits v.inlined) ∧
      KeepsApart site visits (s.bind components screen names surface).notices Visit.inlined := by
  obtain ⟨⟨chosen, ready⟩, root, same⟩ := Option.map_eq_some_iff.mp toured
  obtain ⟨rfl, rfl⟩ := Prod.mk.inj same
  obtain ⟨before, -, notices⟩ := s.bind_of_rootFor? components screen surface root
  have begins : Nesting (s.siteFor components chosen surface) []
      (s.beginning components ready chosen surface) := ⟨by simp, by simp⟩
  have empty : Stacked (s.siteFor components chosen surface) [] [] :=
    ⟨List.nodup_nil, by simp, by simp⟩
  have nests := (tracks_nests _).visits empty _ chosen.root begins
  refine ⟨nests.stacked, fun v member => (nests.stacked v member).apart, ?_, ?_⟩
  · intro v member name isInlined names
    exact names.isRefused isInlined _
  · intro v member name isInlined names
    rw [notices]
    exact List.mem_append_right _ (nests.reported v member name isInlined names)

theorem fragment?_of_tour? {site : BindingSite} {visits : List Visit}
    (toured : s.tour? components screen surface names = some (site, visits))
    (placed : site.base?.isSome) : (site.skin.fragment? site.fragment).isSome := by
  obtain ⟨⟨chosen, ready⟩, root, same⟩ := Option.map_eq_some_iff.mp toured
  obtain ⟨rfl, rfl⟩ := Prod.mk.inj same
  obtain ⟨base, isBase⟩ := Option.isSome_iff_exists.mp placed
  have found := s.fragment?_of_rootFor? root isBase
  exact Option.isSome_iff_exists.mpr ⟨_, found⟩

/-- Fragments that are inlined are never opened inside themselves, and panels that would do so
are refused and reported. The same holds of the fragment that is bound exactly if no panel that
is for the screen names it. -/
theorem staysApart_iff :
    (∀ site visits, s.tour? components screen surface names = some (site, visits) →
      KeepsApart site visits (s.bind components screen names surface).notices Visit.inlined) ∧
    (s.StaysApart components screen surface names ↔
      ∀ site visits, s.tour? components screen surface names = some (site, visits) →
        site.base?.isSome → ∀ v ∈ visits, ¬ v.Names site.fragment) := by
  refine ⟨fun site visits toured => (s.tour?_nests components screen surface names toured).2, ?_, ?_⟩
  · intro stays site visits toured placed v member itself
    obtain ⟨apart, refused, -⟩ := stays site visits toured placed
    obtain ⟨fragment, found⟩ := Option.isSome_iff_exists.mp
      (s.fragment?_of_tour? components screen surface names toured placed)
    -- Nothing that is being inlined is the bound fragment, so the panel opens it.
    have new := (Visit.nodup_opened.mp (apart v member)).2
    have opens := itself.not_isRefused new found
    exact opens (refused v member site.fragment (by simp [Visit.opened]) itself)
  · intro unnamed site visits toured placed
    obtain ⟨stacked, apart, refused, reported⟩ :=
      s.tour?_nests components screen surface names toured
    have unnamed := unnamed site visits toured placed
    have others {v : Visit} (member : v ∈ visits) {name : String} (isOpen : name ∈ v.opened site)
        (names : v.Names name) : name ∈ v.inlined := by
      rcases List.mem_append.mp isOpen with isInlined | isBound
      · exact isInlined
      · rw [List.mem_singleton.mp isBound] at names
        exact absurd names (unnamed v member)
    refine ⟨fun v member => ?_, fun v member name isOpen names => ?_,
      fun v member name isOpen names => ?_⟩
    -- Whatever is being inlined was named by a panel, and none names the bound fragment.
    · have outside : site.fragment ∉ v.inlined := by
        intro isInlined
        obtain ⟨w, visited, names⟩ := (stacked v member).named _ isInlined
        exact unnamed w visited names
      exact Visit.nodup_opened.mpr ⟨apart v member, outside⟩
    · exact refused v member name (others member isOpen names) names
    · exact reported v member name (others member isOpen names) names

end

/-- A skin with a fragment that has a panel for itself. -/
def mirroring : Skin :=
  let root : Element := { Element.ofTag "screen" with
    children := [(Element.ofTag "eLabel").withAttribute "text" "once",
      (Element.ofTag "panel").withAttribute "name" "Main"] }
  .ofCatalog [] [("Main", ⟨root, ⟨"skins"⟩⟩)]

/-- The nodes of the fragment are bound twice before its panel is refused. -/
theorem mirroring_not_staysApart :
    ¬ mirroring.StaysApart .none (Screen.ofClass "Main") 0 ["Main"] := by
  intro stays
  have outline : (mirroring.tour? .none (Screen.ofClass "Main") 0 ["Main"]).map
      (fun (site, visits) => (site.base?.isSome, visits.map (·.opened site))) =
      some (true, [["Main"], ["Main"], ["Main", "Main"], ["Main", "Main"]]) := by
    decide +kernel
  obtain ⟨⟨site, visits⟩, toured, same⟩ := Option.map_eq_some_iff.mp outline
  obtain ⟨placed, opened⟩ := Prod.mk.inj same
  obtain ⟨v, member, twice⟩ : ∃ v ∈ visits, v.opened site = ["Main", "Main"] := by
    have listed : ["Main", "Main"] ∈ visits.map (·.opened site) := by simp [opened]
    exact List.mem_map.mp listed
  have apart := (stays site visits toured placed).apart v member
  simp [twice] at apart

end Skin
end Skinning
