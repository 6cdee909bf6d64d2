import Skinning.Proofs.FileSearch
import Skinning.Proofs.Visits

/-! The files of a fragment. Every visited node stands in a fragment of the catalog with a directory
of its own, but the files that the nodes name are looked for in the directory of the fragment
that is bound. -/
namespace Skinning

/-- A node stands somewhere below an element. -/
inductive Element.HasNode : Element → Element → Prop
  | child {e node : Element} : node ∈ e.children → e.HasNode node
  | deeper {e child node : Element} : child ∈ e.children → child.HasNode node → e.HasNode node

namespace Visit

/-- The visit is to a node of the fragment that is being inlined. -/
def IsInlined (site : BindingSite) (v : Visit) : Prop :=
  ∃ name others fragment, v.inlined = name :: others ∧ site.skin.fragment? name = some fragment ∧
    fragment.element.HasNode v.node

/-- The visit is to one of some nodes or below it, and no other fragment is being inlined. -/
def IsAmong (inlined : List String) (nodes : List Element) (v : Visit) : Prop :=
  v.inlined = inlined ∧ ∃ node ∈ nodes, v.node = node ∨ node.HasNode v.node

theorem IsAmong.mono {inlined : List String} {nodes others : List Element} {v : Visit}
    (among : v.IsAmong inlined nodes) (inside : nodes ⊆ others) : v.IsAmong inlined others := by
  obtain ⟨same, node, member, stands⟩ := among
  exact ⟨same, node, inside member, stands⟩

theorem IsAmong.hasNode {inlined : List String} {root : Element} {v : Visit}
    (among : v.IsAmong inlined root.children) : root.HasNode v.node := by
  obtain ⟨-, node, member, here | below⟩ := among
  · exact .child (here ▸ member)
  · exact .deeper member below

end Visit

namespace Binder

variable {site : BindingSite} {inliner : Inliner} {inside : Tracer}

/-- Whatever fragment a tracer is given, it comes to nodes of fragments only. -/
def Homely (site : BindingSite) (inside : Tracer) : Prop :=
  ∀ name inlined fragment b, site.skin.fragment? name = some fragment →
    ∀ v ∈ inside (name :: inlined) fragment.element b, v.IsInlined site

theorem visitPanel_origin (homely : Homely site inside) (inlined : List String) (node : Element)
    (b : Binder) : ∀ v ∈ b.visitPanel site inside inlined node, v.IsInlined site := by
  rcases inlinePanel_cases b site (fun _ _ b => b) inside inlined node with
    ⟨-, none⟩ | ⟨name, fragment, -, -, found, -, -, visits⟩
  · simp [none]
  · rw [visits]
    exact homely name inlined fragment b found

mutual

theorem visitNode_origin (homely : Homely site inside) (inlined : List String) :
    (node : Element) → (b : Binder) → ∀ v ∈ visitNode site inliner inside inlined node b,
      v.IsInlined site ∨ v.IsAmong inlined [node]
  | ⟨tag, attributes, text?, line, children⟩, b => by
    generalize same : (⟨tag, attributes, text?, line, children⟩ : Element) = node
    have inner : node.children = children := by rw [← same]
    have itself : (⟨inlined, node, b⟩ : Visit).IsAmong inlined [node] := ⟨rfl, node, by simp, .inl rfl⟩
    by_cases admitted : b.screen.admits node
    · by_cases isPanel : node.tag = "panel"
      · cases place : node.attribute? "position" with
        | some position =>
          rw [(bindNode_of_placed site inliner inside inlined admitted isPanel place).2]
          intro v member
          rcases List.mem_cons.mp member with rfl | member
          · exact .inr itself
          rcases List.mem_append.mp member with panel | own
          · exact .inl (visitPanel_origin homely inlined node b v panel)
          · rw [inner] at own
            rcases visitNodes_origin homely inlined children _ v own with other | among
            · exact .inl other
            · exact .inr ⟨among.1, node, by simp, .inr (Visit.IsAmong.hasNode (inner ▸ among))⟩
        | none =>
          rw [(bindNode_of_bare site inliner inside inlined admitted isPanel place).2]
          intro v member
          rcases List.mem_cons.mp member with rfl | panel
          · exact .inr itself
          · exact .inl (visitPanel_origin homely inlined node b v panel)
      · rw [(bindNode_of_leaf site inliner inside inlined admitted isPanel).2]
        simpa using Or.inr itself
    · rw [(bindNode_of_passed site inliner inside inlined admitted).2]
      simpa using Or.inr itself

theorem visitNodes_origin (homely : Homely site inside) (inlined : List String) :
    (nodes : List Element) → (b : Binder) → ∀ v ∈ visitNodes site inliner inside inlined nodes b,
      v.IsInlined site ∨ v.IsAmong inlined nodes
  | [], b => by simp [visitNodes]
  | node :: rest, b => by
    intro v member
    rw [visitNodes] at member
    rcases List.mem_append.mp member with first | later
    · exact (visitNode_origin homely inlined node b v first).imp_right (·.mono (by simp))
    · exact (visitNodes_origin homely inlined rest _ v later).imp_right (·.mono (by simp))

end

theorem homely_visitTo (depth : Nat) : Homely site (visitTo site depth) := by
  induction depth with
  | zero => intro name inlined fragment b _ v member; simp [visitTo] at member
  | succ depth ih =>
    intro name inlined fragment b found v member
    rcases visitNodes_origin ih (name :: inlined) fragment.element.children b v member with
      other | among
    · exact other
    · exact ⟨name, inlined, fragment, among.1, found, among.hasNode⟩

/-- The nodes that a binding comes to are those of the root and of inlined fragments. -/
theorem visits_origin (b : Binder) (site : BindingSite) (root : Element) :
    ∀ v ∈ b.visits site root, v.IsInlined site ∨ (v.inlined = [] ∧ root.HasNode v.node) := by
  intro v member
  rcases visitNodes_origin (homely_visitTo _) [] root.children b v member with inlined | among
  · exact .inl inlined
  · exact .inr ⟨among.1, among.hasNode⟩

end Binder

/-- The fragment that a visited node is of. -/
def Visit.home (site : BindingSite) (v : Visit) : String := v.inlined.headD site.fragment

/-- An attribute of a node is the name of a file, relative and without a suffix. -/
structure Element.NamesFile (node : Element) (name file : String) : Prop where
  given : (name, file) ∈ node.attributes
  isFile : name ∈ Attribute.files
  relative : ¬ (⟨file⟩ : Path).isAbsolute
  plain : ':' ∉ file.toList ∧ '#' ∉ file.toList

theorem Element.NamesFile.resolveFile_eq {node : Element} {name file : String}
    (names : node.NamesFile name file) (site : BindingSite) :
    site.resolveFile name file = .text (site.skin.assets.resolve .current file site.base?).text := by
  have isFileName : Attribute.files.contains name := by simpa using names.isFile
  rw [BindingSite.resolveFile, if_pos isFileName]

namespace Skin

section

variable (s : Skin) (components : Components) (screen : Screen) (surface : Nat)
  (names : List String)

/-- A file that a node of a fragment names, where a fragment of the catalog is bound. -/
structure FileUse where
  site : BindingSite
  visits : List Visit
  toured : s.tour? components screen surface names = some (site, visits)
  placed : site.base?.isSome
  visit : Visit
  visited : visit ∈ visits
  admitted : visit.binder.screen.admits visit.node
  isLeaf : visit.node.tag ≠ "panel"
  fragment : Fragment
  home : site.skin.fragment? (visit.home site) = some fragment
  name : String
  file : String
  named : visit.node.NamesFile name file

/-- Files are looked for in the directory of the fragment whose nodes name them. -/
def FilesFollow : Prop :=
  ∀ use : s.FileUse components screen surface names,
    use.site.resolveFile use.name use.file =
      .text (use.site.skin.assets.resolve .current use.file (some use.fragment.base)).text

/-- The root of a binding with a directory is a fragment of the catalog, in that directory. -/
theorem base_of_tour? {site : BindingSite} {visits : List Visit} {base : Path}
    (toured : s.tour? components screen surface names = some (site, visits))
    (placed : site.base? = some base) :
    ∃ root, site.skin.fragment? site.fragment = some ⟨root, base⟩ ∧
      ∀ v ∈ visits, v.IsInlined site ∨ (v.inlined = [] ∧ root.HasNode v.node) := by
  obtain ⟨⟨chosen, ready⟩, root, same⟩ := Option.map_eq_some_iff.mp toured
  obtain ⟨rfl, rfl⟩ := Prod.mk.inj same
  exact ⟨chosen.root, s.fragment?_of_rootFor? root placed, Binder.visits_origin _ _ chosen.root⟩

/-- Every visited node stands in the fragment that it is of. -/
theorem home_of_tour? {site : BindingSite} {visits : List Visit}
    (toured : s.tour? components screen surface names = some (site, visits))
    (placed : site.base?.isSome) :
    ∀ v ∈ visits, ∃ fragment, site.skin.fragment? (v.home site) = some fragment ∧
      fragment.element.HasNode v.node ∧ (v.inlined = [] → site.base? = some fragment.base) := by
  obtain ⟨base, isBase⟩ := Option.isSome_iff_exists.mp placed
  obtain ⟨root, bound, origins⟩ := s.base_of_tour? components screen surface names toured isBase
  intro v member
  rcases origins v member with ⟨name, others, fragment, stack, found, stands⟩ | ⟨stack, stands⟩
  · exact ⟨fragment, by simpa [Visit.home, stack] using found, stands, by simp [stack]⟩
  · exact ⟨⟨root, base⟩, by simpa [Visit.home, stack] using bound, stands, fun _ => isBase⟩

/-- Files follow their fragment exactly if, for every fragment that is inlined, a file that stands
in the directory of the bound fragment is also the one found from the fragment's own, and a file
that stands in its own directory is also found from that of the bound fragment. -/
theorem filesFollow_iff :
    s.FilesFollow components screen surface names ↔
      ∀ use : s.FileUse components screen surface names, use.visit.inlined ≠ [] →
        ∀ base, use.site.base? = some base →
        let assets := use.site.skin.assets
        let there := base.join ⟨use.file⟩
        let own := use.fragment.base.join ⟨use.file⟩
        (assets.files.isPresent there →
          there = assets.resolve .current use.file (some use.fragment.base)) ∧
        (assets.files.isPresent own → assets.resolve .current use.file (some base) = own) := by
  constructor
  · intro follow use _ base isBase
    have looked := follow use
    rw [use.named.resolveFile_eq, isBase] at looked
    refine (Assets.resolve_eq_resolve_iff use.named.relative).mp ?_
    exact congrArg Path.mk (AttributeValue.text.inj looked)
  · intro alike use
    rw [use.named.resolveFile_eq]
    -- The bound fragment's own directory is the one that is searched.
    by_cases bound : use.visit.inlined = []
    · obtain ⟨own, found, -, base⟩ :=
        s.home_of_tour? components screen surface names use.toured use.placed use.visit use.visited
      obtain rfl : own = use.fragment := Option.some.inj (found.symm.trans use.home)
      rw [base bound]
    · obtain ⟨base, isBase⟩ := Option.isSome_iff_exists.mp use.placed
      have same := (Assets.resolve_eq_resolve_iff use.named.relative).mpr (alike use bound base isBase)
      rw [isBase, same]

/-- Fragments from one directory find their files in it wherever they are inlined. -/
theorem filesFollow_of_one_directory {dir : Path}
    (together : ∀ name fragment, s.fragment? name = some fragment → fragment.base = dir) :
    s.FilesFollow components screen surface names := by
  intro use
  obtain ⟨base, isBase⟩ := Option.isSome_iff_exists.mp use.placed
  obtain ⟨root, bound, -⟩ := s.base_of_tour? components screen surface names use.toured isBase
  have same : use.site.skin = s := by
    obtain ⟨⟨chosen, ready⟩, -, built⟩ := Option.map_eq_some_iff.mp use.toured
    obtain ⟨isSite, -⟩ := Prod.mk.inj built
    rw [← isSite]
    rfl
  have own := together _ _ (same ▸ use.home)
  have base : base = dir := together _ _ (same ▸ bound)
  rw [use.named.resolveFile_eq, isBase, own, base]

end

/-- Two fragments from two directories, each with an image of one name; one inlines the other. -/
def borrowing : Skin :=
  let icon := (Element.ofTag "ePixmap").withAttribute "pixmap" "icon.png"
  let panel := (Element.ofTag "panel").withAttribute "name" "F"
  .ofCatalog [
      (⟨.above 0, ["skins"]⟩, .directory),
      (⟨.above 0, ["skins", "A"]⟩, .directory),
      (⟨.above 0, ["skins", "A", "icon.png"]⟩, .file (.text "a")),
      (⟨.above 0, ["skins", "B"]⟩, .directory),
      (⟨.above 0, ["skins", "B", "icon.png"]⟩, .file (.text "b"))] [
    ("F", ⟨(Element.ofTag "screen").withChild icon, ⟨"skins/A"⟩⟩),
    ("Main", ⟨(Element.ofTag "screen").withChild panel, ⟨"skins/B"⟩⟩)]

/-- The inlined fragment is given the image of the one that inlines it. -/
theorem borrowing_not_filesFollow :
    ¬ borrowing.FilesFollow .none (Screen.ofClass "Main") 0 ["Main"] := by
  intro follow
  have icon : (borrowing.tour? .none (Screen.ofClass "Main") 0 ["Main"]).map
      (fun (_, visits) => visits.any fun v => v.inlined == ["F"] && v.node.tag == "ePixmap" &&
        v.node.attributes == [("pixmap", "icon.png")] && v.binder.screen.admits v.node) =
      some true := by
    decide +kernel
  have files : (borrowing.tour? .none (Screen.ofClass "Main") 0 ["Main"]).map
      (fun (site, _) => (site.base?.isSome, (site.skin.fragment? "F").map Fragment.base,
        site.resolveFile "pixmap" "icon.png",
        (site.skin.assets.resolve .current "icon.png" (some ⟨"skins/A"⟩)).text)) =
      some (true, some ⟨"skins/A"⟩, .text "skins/B/icon.png", "skins/A/icon.png") := by
    decide +kernel
  obtain ⟨⟨site, visits⟩, toured, among⟩ := Option.map_eq_some_iff.mp icon
  simp only [toured, Option.map_some, Option.some.injEq, Prod.mk.injEq] at files
  obtain ⟨placed, base, given, wanted⟩ := files
  obtain ⟨v, visited, shape⟩ := List.any_eq_true.mp among
  simp only [Bool.and_eq_true, beq_iff_eq] at shape
  obtain ⟨⟨⟨inlined, tag⟩, attributes⟩, admitted⟩ := shape
  obtain ⟨fragment, found, own⟩ := Option.map_eq_some_iff.mp base
  have looked := follow {
    site, visits, toured, placed, visit := v, visited, admitted, isLeaf := by simp [tag], fragment
    home := by simpa [Visit.home, inlined] using found
    name := "pixmap", file := "icon.png"
    named := ⟨by simp [attributes], by decide, by decide, by decide⟩ }
  simp [given, own, wanted] at looked

end Skin
end Skinning
