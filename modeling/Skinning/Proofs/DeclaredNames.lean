import Mathlib.Data.List.Basic
import Skinning.Skin.Survey

/-! The names that fragments declare. A survey finds what the widget nodes of all fragments declare
that panels lead to, however the panels refer to each other, and it ends by itself. -/
namespace Skinning

namespace Element

/-- A node stands among some nodes, or inside of a panel that does. -/
inductive Listed : List Element → Element → Prop
  | here {nodes : List Element} {node : Element} : node ∈ nodes → Listed nodes node
  | inside {nodes : List Element} {panel node : Element} : panel ∈ nodes → panel.tag = "panel" →
      Listed panel.children node → Listed nodes node

/-- A widget node declares its name, its source, and each thing that it is connected to. -/
inductive Declares (node : Element) : String → Prop
  | name {x : String} : node.attribute? "name" = some x → Declares node x
  | source {x : String} : node.attribute? "source" = some x → Declares node x
  | connection {list part : String} : node.attribute? "connection" = some list →
      part ∈ Text.split ',' list → Declares node (Text.trim part)

theorem mem_declared_iff {node : Element} {x : String} :
    x ∈ Survey.declared node ↔ node.Declares x := by
  constructor
  · intro member
    simp only [Survey.declared, List.mem_append, Option.mem_toList] at member
    rcases member with (name | source) | connection
    · exact .name name
    · exact .source source
    · split at connection
      next list given =>
        obtain ⟨part, inside, rfl⟩ := List.mem_map.mp connection
        exact .connection given inside
      · simp at connection
  · intro declares
    cases declares with
    | name given => simp [Survey.declared, given]
    | source given => simp [Survey.declared, given]
    | @connection list part given inside =>
      have listed : Text.trim part ∈ (Text.split ',' list).map Text.trim :=
        List.mem_map_of_mem inside
      simp [Survey.declared, given, listed]

theorem Listed.mono {nodes others : List Element} {node : Element} (listed : Listed nodes node)
    (inside : nodes ⊆ others) : Listed others node := by
  cases listed with
  | here member => exact .here (inside member)
  | inside member isPanel below => exact .inside (inside member) isPanel below

theorem Listed.singleton {e node : Element} (listed : Listed [e] node) :
    node = e ∨ (e.tag = "panel" ∧ Listed e.children node) := by
  cases listed with
  | here member => exact .inl (List.mem_singleton.mp member)
  | inside member isPanel below =>
    rw [List.mem_singleton] at member
    subst member
    exact .inr ⟨isPanel, below⟩

end Element

open Element

namespace Skin

/-- The fragments that the panels of a fragment lead to, it being the first of them. -/
inductive LeadsTo (s : Skin) (first : String) : String → Prop
  | here : LeadsTo s first first
  | panel {name next : String} {fragment : Fragment} {node : Element} : LeadsTo s first name →
      s.fragment? name = some fragment → Listed fragment.element.children node →
      node.tag = "panel" → node.filled? "name" = some next → LeadsTo s first next

/-- A name is declared by a widget node of a fragment that panels lead to. -/
def Declares (s : Skin) (first x : String) : Prop :=
  ∃ name fragment node, s.LeadsTo first name ∧ s.fragment? name = some fragment ∧
    Listed fragment.element.children node ∧ node.tag = "widget" ∧ node.Declares x

end Skin

/-! A survey as a list of errands. -/

namespace Survey

inductive Errand where
  /-- To take down names. -/
  | note (names : List String)
  /-- To look into a fragment. -/
  | enter (fragment : String)

def Errand.run (follow : String → Survey → Survey) : Survey → Errand → Survey
  | v, .note names => v.add names
  | v, .enter fragment => follow fragment v

mutual

/-- What is to be done for a node, in order. -/
def errandsOf : Element → List Errand
  | ⟨tag, attributes, text?, line, children⟩ =>
    let node : Element := ⟨tag, attributes, text?, line, children⟩
    if tag = "widget" then [.note (declared node)]
    else if tag = "panel" then (node.filled? "name").toList.map .enter ++ errands children
    else []

def errands : List Element → List Errand
  | [] => []
  | node :: rest => errandsOf node ++ errands rest

end

theorem errandsOf_eq (node : Element) : errandsOf node =
    if node.tag = "widget" then [.note (declared node)]
    else if node.tag = "panel" then
      (node.filled? "name").toList.map .enter ++ errands node.children
    else [] := by
  obtain ⟨tag, attributes, text?, line, children⟩ := node
  rw [errandsOf]

mutual

theorem scanNode_eq_foldl (follow : String → Survey → Survey) : (node : Element) → (v : Survey) →
    scanNode follow node v = (errandsOf node).foldl (Errand.run follow) v
  | ⟨tag, attributes, text?, line, children⟩, v => by
    by_cases isWidget : tag = "widget"
    · subst isWidget
      simp [scanNode, errandsOf, Errand.run]
    · by_cases isPanel : tag = "panel"
      · subst isPanel
        simp only [scanNode, errandsOf, isWidget, if_false, if_true, List.foldl_append,
          scanNodes_eq_foldl follow children]
        cases Element.filled? _ "name" <;> rfl
      · simp [scanNode, errandsOf, isWidget, isPanel]

theorem scanNodes_eq_foldl (follow : String → Survey → Survey) : (nodes : List Element) →
    (v : Survey) → scanNodes follow nodes v = (errands nodes).foldl (Errand.run follow) v
  | [], _ => rfl
  | node :: rest, v => by
    rw [scanNodes, errands, List.foldl_append, scanNode_eq_foldl follow node,
      scanNodes_eq_foldl follow rest]

end

/-- An errand is for a node. -/
inductive Errand.IsFor (node : Element) : Errand → Prop
  | widget : node.tag = "widget" → IsFor node (.note (declared node))
  | panel {name : String} : node.tag = "panel" → node.filled? "name" = some name →
      IsFor node (.enter name)

mutual

theorem isFor_of_mem_errandsOf : (e : Element) → (errand : Errand) → errand ∈ errandsOf e →
    ∃ node, Listed [e] node ∧ errand.IsFor node
  | ⟨tag, attributes, text?, line, children⟩, errand, member => by
    generalize same : (⟨tag, attributes, text?, line, children⟩ : Element) = e at member ⊢
    have inner : e.children = children := by rw [← same]
    rw [errandsOf_eq] at member
    split at member
    next isWidget =>
      rw [List.mem_singleton.mp member]
      exact ⟨e, .here (by simp), .widget isWidget⟩
    · split at member
      next isPanel =>
        rcases List.mem_append.mp member with own | below
        · obtain ⟨name, named, rfl⟩ := List.mem_map.mp own
          exact ⟨e, .here (by simp), .panel isPanel (Option.mem_toList.mp named)⟩
        · rw [inner] at below
          obtain ⟨node, listed, isFor⟩ := isFor_of_mem_errands children errand below
          exact ⟨node, .inside (List.mem_singleton_self e) isPanel (inner ▸ listed), isFor⟩
      · simp at member

theorem isFor_of_mem_errands : (nodes : List Element) → (errand : Errand) →
    errand ∈ errands nodes → ∃ node, Listed nodes node ∧ errand.IsFor node
  | [], _, member => by simp [errands] at member
  | e :: rest, errand, member => by
    rw [errands] at member
    rcases List.mem_append.mp member with first | later
    · obtain ⟨node, listed, isFor⟩ := isFor_of_mem_errandsOf e errand first
      exact ⟨node, listed.mono (by simp), isFor⟩
    · obtain ⟨node, listed, isFor⟩ := isFor_of_mem_errands rest errand later
      exact ⟨node, listed.mono (by simp), isFor⟩

end

theorem mem_errands_of_isFor {nodes : List Element} {node : Element} {errand : Errand}
    (listed : Listed nodes node) (isFor : errand.IsFor node) : errand ∈ errands nodes := by
  have inside {nodes : List Element} {e : Element} (member : e ∈ nodes) :
      errandsOf e ⊆ errands nodes := by
    induction nodes with
    | nil => simp at member
    | cons first rest ih =>
      rw [errands]
      rcases List.mem_cons.mp member with rfl | later
      · exact List.subset_append_left _ _
      · exact List.Subset.trans (ih later) (List.subset_append_right _ _)
  induction listed with
  | here member =>
    apply inside member
    rw [errandsOf_eq]
    cases isFor with
    | widget isWidget => simp [isWidget]
    | panel isPanel named => simp [isPanel, named]
  | inside member isPanel _ ih =>
    apply inside member
    rw [errandsOf_eq]
    simp [isPanel, ih isFor]

/-- A survey that has come further than another. -/
structure Extends (before after : Survey) : Prop where
  visited : before.visited ⊆ after.visited
  found : before.found ⊆ after.found

theorem Extends.refl (v : Survey) : v.Extends v := ⟨List.Subset.refl _, List.Subset.refl _⟩

theorem Extends.trans {u v w : Survey} (first : u.Extends v) (second : v.Extends w) :
    u.Extends w :=
  ⟨List.Subset.trans first.visited second.visited, List.Subset.trans first.found second.found⟩

theorem extends_add (v : Survey) (names : List String) : v.Extends (v.add names) :=
  ⟨List.Subset.refl _, List.subset_append_left _ _⟩

theorem extends_visit (v : Survey) (name : String) : v.Extends (v.visit name) :=
  ⟨List.subset_cons_self _ _, List.Subset.refl _⟩

/-- What following keeps is kept by a run of errands. -/
theorem foldl_keeps {follow : String → Survey → Survey} {kept : Survey → Prop}
    (tasks : List Errand) (notes : ∀ names, .note names ∈ tasks → ∀ v, kept v → kept (v.add names))
    (enters : ∀ name, .enter name ∈ tasks → ∀ v, kept v → kept (follow name v)) (v : Survey)
    (holds : kept v) : kept (tasks.foldl (Errand.run follow) v) := by
  induction tasks generalizing v with
  | nil => exact holds
  | cons errand rest ih =>
    refine ih (fun names member => notes names (by simp [member]))
      (fun name member => enters name (by simp [member])) _ ?_
    cases errand with
    | note names => exact notes names (by simp) v holds
    | enter name => exact enters name (by simp) v holds

theorem extends_foldl {follow : String → Survey → Survey}
    (follows : ∀ name (v : Survey), v.Extends (follow name v)) (tasks : List Errand) (v : Survey) :
    v.Extends (tasks.foldl (Errand.run follow) v) :=
  foldl_keeps tasks (fun names _ w before => before.trans (w.extends_add names))
    (fun name _ w before => before.trans (follows name w)) v (.refl v)

/-- An errand is done when its names are taken down, or its fragment is looked into. -/
def Errand.IsDone (v : Survey) : Errand → Prop
  | .note names => names ⊆ v.found
  | .enter fragment => fragment ∈ v.visited

theorem Errand.IsDone.mono {v w : Survey} {errand : Errand} (done : errand.IsDone v)
    (further : v.Extends w) : errand.IsDone w := by
  cases errand with
  | note names => exact List.Subset.trans done further.found
  | enter fragment => exact further.visited done

end Survey

open Survey

namespace Skin

variable (s : Skin)

/-- A survey passes over what was looked into before; it looks into a fragment if it may still go
down, and else only marks the name. -/
theorem survey_cases (depth : Nat) (name : String) (v : Survey) :
    (name ∈ v.visited ∧ s.survey depth name v = v) ∨
    (name ∉ v.visited ∧ (s.fragment? name = none ∨ depth = 0) ∧
      s.survey depth name v = v.visit name) ∨
    ∃ fragment less, name ∉ v.visited ∧ s.fragment? name = some fragment ∧ depth = less + 1 ∧
      s.survey depth name v =
        (errands fragment.element.children).foldl (Errand.run (s.survey less)) (v.visit name) := by
  by_cases visited : name ∈ v.visited
  · refine .inl ⟨visited, ?_⟩
    unfold survey
    simp [visited]
  · refine .inr ?_
    cases found : s.fragment? name with
    | none =>
      refine .inl ⟨visited, .inl rfl, ?_⟩
      unfold survey
      simp [visited, found]
    | some fragment =>
      cases depth with
      | zero => exact .inl ⟨visited, .inr rfl, by simp [survey, visited]⟩
      | succ depth =>
        refine .inr ⟨fragment, depth, visited, rfl, rfl, ?_⟩
        rw [← scanNodes_eq_foldl]
        simp [survey, visited, found]

theorem extends_survey (depth : Nat) (name : String) (v : Survey) :
    v.Extends (s.survey depth name v) := by
  induction depth using Nat.strongRecOn generalizing name v with
  | _ depth ih =>
    rcases s.survey_cases depth name v with
      ⟨-, same⟩ | ⟨-, -, marks⟩ | ⟨fragment, less, -, -, rfl, looks⟩
    · rw [same]
      exact .refl v
    · rw [marks]
      exact v.extends_visit name
    · rw [looks]
      exact (v.extends_visit name).trans (extends_foldl (ih less (Nat.lt_succ_self less)) _ _)

/-- The number of fragments that a survey has not looked into. -/
def unseen (v : Survey) : Nat := (s.fragments.keys.filter (· ∉ v.visited)).length

theorem unseen_le_size (v : Survey) : s.unseen v ≤ s.fragments.size := by
  have shorter := List.length_filter_le (fun name => decide (name ∉ v.visited)) s.fragments.keys
  simpa [unseen, Table.keys, Table.size] using shorter

theorem unseen_le_of_extends {v w : Survey} (further : v.Extends w) : s.unseen w ≤ s.unseen v := by
  have fewer : ∀ name, decide (name ∉ w.visited) → decide (name ∉ v.visited) := by
    intro name new
    rw [decide_eq_true_iff] at new ⊢
    exact fun before => new (further.visited before)
  exact (List.monotone_filter_right s.fragments.keys fewer).length_le

theorem unseen_visit_lt {name : String} {fragment : Fragment} {v : Survey} (new : name ∉ v.visited)
    (found : s.fragment? name = some fragment) : s.unseen (v.visit name) < s.unseen v := by
  have member : name ∈ s.fragments.keys := Table.mem_keys_of_get? found
  have fewer : s.fragments.keys.filter (· ∉ (v.visit name).visited) =
      (s.fragments.keys.filter (· ∉ v.visited)).filter (· ≠ name) := by
    rw [List.filter_filter]
    refine List.filter_congr fun other _ => ?_
    simp [Survey.visit, not_or]
  rw [unseen, unseen, fewer, List.length_filter_lt_length_iff_exists]
  exact ⟨name, by simp [member, new], by simp⟩

/-- Where a survey may go down as often as there are fragments left, it looks into each that it
has not seen. -/
theorem fragment?_eq_none_of_marked {depth : Nat} {name : String} {v : Survey}
    (deep : s.unseen v ≤ depth) (new : name ∉ v.visited)
    (marked : s.fragment? name = none ∨ depth = 0) : s.fragment? name = none := by
  cases found : s.fragment? name with
  | none => rfl
  | some fragment =>
    have fewer := s.unseen_visit_lt new found
    have bottom : depth = 0 := by simpa [found] using marked
    omega

/-- A survey goes no deeper than there are fragments that it has not looked into: to allow for
more depth changes nothing. -/
theorem survey_succ {depth : Nat} {name : String} {v : Survey} (deep : s.unseen v ≤ depth) :
    s.survey (depth + 1) name v = s.survey depth name v := by
  induction depth using Nat.strongRecOn generalizing name v with
  | _ depth ih =>
    rcases s.survey_cases (depth + 1) name v with
      ⟨visited, same⟩ | ⟨new, marked, marks⟩ | ⟨fragment, more, new, found, rest, looks⟩
    all_goals rcases s.survey_cases depth name v with
      ⟨again, sameAgain⟩ | ⟨newAgain, markedAgain, marksAgain⟩ |
      ⟨other, less, newAgain, foundAgain, isSucc, looksAgain⟩
    all_goals try contradiction
    · rw [same, sameAgain]
    · rw [marks, marksAgain]
    · have missing : s.fragment? name = none := by simpa using marked
      simp [missing] at foundAgain
    · have missing := s.fragment?_eq_none_of_marked deep newAgain markedAgain
      simp [missing] at found
    · obtain rfl : depth = more := by omega
      obtain rfl : fragment = other := Option.some.inj (found.symm.trans foundAgain)
      have fewer := s.unseen_visit_lt new found
      have shallow : s.unseen (v.visit name) ≤ less := by omega
      have below : less < depth := by omega
      rw [looks, looksAgain, isSucc]
      -- Both runs of the errands go through the same surveys, which have ever less to see.
      generalize v.visit name = w at shallow
      induction errands fragment.element.children generalizing w with
      | nil => rfl
      | cons errand rest onwards =>
        rw [List.foldl_cons, List.foldl_cons]
        cases errand with
        | note names =>
          have stays := s.unseen_le_of_extends (w.extends_add names)
          exact onwards (w.add names) (Nat.le_trans stays shallow)
        | enter next =>
          have stays := s.unseen_le_of_extends (s.extends_survey less next w)
          simp only [Errand.run, ih less below shallow]
          exact onwards _ (Nat.le_trans stays shallow)

theorem survey_add (name : String) (more : Nat) :
    s.survey (s.fragments.size + more) name .empty = s.survey s.fragments.size name .empty := by
  induction more with
  | zero => rfl
  | succ more ih =>
    rw [← ih, ← Nat.add_assoc]
    refine s.survey_succ ?_
    have bound := s.unseen_le_size .empty
    omega

/-! What a survey finds. -/

/-- All that is to be done for a fragment is done. -/
def IsSearched (v : Survey) (name : String) : Prop :=
  ∀ fragment, s.fragment? name = some fragment →
    ∀ errand ∈ errands fragment.element.children, errand.IsDone v

/-- A survey that has come further, and has searched each fragment that it looked into since. -/
structure Searches (before after : Survey) : Prop extends before.Extends after where
  searched : ∀ name ∈ after.visited, name ∉ before.visited → s.IsSearched after name

variable {s}

theorem IsSearched.mono {v w : Survey} {name : String} (searched : s.IsSearched v name)
    (further : v.Extends w) : s.IsSearched w name :=
  fun fragment found errand member => (searched fragment found errand member).mono further

theorem Searches.trans {u v w : Survey} (first : s.Searches u v) (second : s.Searches v w) :
    s.Searches u w := by
  refine ⟨first.toExtends.trans second.toExtends, fun name visited new => ?_⟩
  by_cases early : name ∈ v.visited
  · exact (first.searched name early new).mono second.toExtends
  · exact second.searched name visited early

theorem Searches.add (v : Survey) (names : List String) : s.Searches v (v.add names) :=
  ⟨v.extends_add names, fun _ visited new => absurd visited new⟩

/-- A run of errands does all of them, and searches what they lead to. -/
theorem foldl_searches {follow : String → Survey → Survey} (fits : Survey → Prop)
    (stays : ∀ v w, v.Extends w → fits v → fits w)
    (follows : ∀ name v, fits v → s.Searches v (follow name v) ∧ name ∈ (follow name v).visited)
    (tasks : List Errand) (v : Survey) (begins : fits v) :
    s.Searches v (tasks.foldl (Errand.run follow) v) ∧
      ∀ errand ∈ tasks, errand.IsDone (tasks.foldl (Errand.run follow) v) := by
  induction tasks generalizing v with
  | nil => exact ⟨⟨.refl v, fun _ visited new => absurd visited new⟩, by simp⟩
  | cons errand rest ih =>
    have first : s.Searches v (errand.run follow v) ∧ errand.IsDone (errand.run follow v) := by
      cases errand with
      | note names => exact ⟨.add v names, List.subset_append_right _ _⟩
      | enter name => exact follows name v begins
    obtain ⟨searches, done⟩ := first
    obtain ⟨others, rest⟩ := ih _ (stays _ _ searches.toExtends begins)
    refine ⟨searches.trans others, List.forall_mem_cons.mpr ⟨?_, rest⟩⟩
    exact done.mono others.toExtends

theorem survey_searches (s : Skin) (name : String) {depth : Nat} {v : Survey}
    (deep : s.unseen v ≤ depth) :
    s.Searches v (s.survey depth name v) ∧ name ∈ (s.survey depth name v).visited := by
  induction depth using Nat.strongRecOn generalizing name v with
  | _ depth ih =>
    rcases s.survey_cases depth name v with
      ⟨visited, same⟩ | ⟨new, marked, marks⟩ | ⟨fragment, less, new, found, rfl, looks⟩
    · rw [same]
      exact ⟨⟨.refl v, fun _ again early => absurd again early⟩, visited⟩
    · have missing := s.fragment?_eq_none_of_marked deep new marked
      rw [marks]
      refine ⟨⟨v.extends_visit name, fun other visited early fragment found => ?_⟩, by simp [visit]⟩
      obtain rfl : other = name := by simpa [visit, early] using visited
      simp [missing] at found
    · have fewer := s.unseen_visit_lt new found
      have shallow : s.unseen (v.visit name) ≤ less := by omega
      have inside : name ∈ (v.visit name).visited := by simp [visit]
      rw [looks]
      obtain ⟨searches, done⟩ := foldl_searches (fun w => s.unseen w ≤ less)
        (fun v w further fits => Nat.le_trans (s.unseen_le_of_extends further) fits)
        (fun next w fits => ih less (Nat.lt_succ_self less) next fits)
        (errands fragment.element.children) (v.visit name) shallow
      refine ⟨⟨(v.extends_visit name).trans searches.toExtends, ?_⟩, searches.visited inside⟩
      intro other later early
      by_cases itself : other = name
      · subst itself
        intro again foundAgain errand member
        obtain rfl : fragment = again := Option.some.inj (found.symm.trans foundAgain)
        exact done errand member
      · exact searches.searched other later (by simpa [visit, itself] using early)

/-- Whatever a survey has noted is declared, and whatever it has looked into can be reached. -/
structure IsSound (s : Skin) (first : String) (v : Survey) : Prop where
  visited : ∀ name ∈ v.visited, s.LeadsTo first name
  found : ∀ x ∈ v.found, s.Declares first x

theorem IsSound.survey {first name : String} {v : Survey} (sound : s.IsSound first v)
    (leads : s.LeadsTo first name) (depth : Nat) : s.IsSound first (s.survey depth name v) := by
  induction depth using Nat.strongRecOn generalizing name v with
  | _ depth ih =>
    have entered : s.IsSound first (v.visit name) :=
      ⟨List.forall_mem_cons.mpr ⟨leads, sound.visited⟩, sound.found⟩
    rcases s.survey_cases depth name v with
      ⟨-, same⟩ | ⟨-, -, marks⟩ | ⟨fragment, less, -, found, rfl, looks⟩
    · rwa [same]
    · rwa [marks]
    · rw [looks]
      refine foldl_keeps _ ?_ ?_ _ entered
      · intro names member w sound
        obtain ⟨node, listed, isFor⟩ := isFor_of_mem_errands _ _ member
        cases isFor with
        | widget isWidget =>
          refine ⟨sound.visited, fun x added => ?_⟩
          rcases List.mem_append.mp added with before | declared
          · exact sound.found x before
          · have declares := mem_declared_iff.mp declared
            exact ⟨name, fragment, node, leads, found, listed, isWidget, declares⟩
      · intro next member w sound
        obtain ⟨node, listed, isFor⟩ := isFor_of_mem_errands _ _ member
        cases isFor with
        | panel isPanel named =>
          exact ih less (Nat.lt_succ_self less) sound (.panel leads found listed isPanel named)

theorem mem_declaredNames {first x : String} : x ∈ s.declaredNames first ↔ s.Declares first x := by
  have noted : x ∈ s.declaredNames first ↔ x ∈ (s.survey s.fragments.size first .empty).found := by
    simp [declaredNames]
  rw [noted]
  constructor
  · have begins : s.IsSound first .empty := ⟨by simp [Survey.empty], by simp [Survey.empty]⟩
    exact (begins.survey .here _).found x
  · rintro ⟨name, fragment, node, leads, found, listed, isWidget, declares⟩
    obtain ⟨searches, entered⟩ := s.survey_searches first (s.unseen_le_size .empty)
    have searched {other : String}
        (visited : other ∈ (s.survey s.fragments.size first .empty).visited) :=
      searches.searched other visited (by simp [Survey.empty])
    -- The fragments that were looked into are closed under what their panels name.
    have visited : name ∈ (s.survey s.fragments.size first .empty).visited := by
      clear found listed
      induction leads with
      | here => exact entered
      | panel _ foundBefore listedBefore isPanel named ih =>
        exact searched ih _ foundBefore _
          (mem_errands_of_isFor listedBefore (.panel isPanel named))
    have done := searched visited fragment found _ (mem_errands_of_isFor listed (.widget isWidget))
    exact done (mem_declared_iff.mpr declares)

theorem nodup_eraseDups (names : List String) : names.eraseDups.Nodup := by
  induction size : names.length using Nat.strongRecOn generalizing names with
  | _ n ih =>
    cases names with
    | nil => exact List.nodup_nil
    | cons name rest =>
      rw [List.eraseDups_cons, List.nodup_cons]
      have shorter : (rest.filter fun other => !other == name).length < n := by
        have bound := List.length_filter_le (fun other => !other == name) rest
        rw [List.length_cons] at size
        omega
      exact ⟨by simp, ih _ shorter _ rfl⟩

theorem declaredNames_nodup (first : String) : (s.declaredNames first).Nodup := by
  rw [declaredNames, (List.mergeSort_perm _ _).nodup_iff]
  exact nodup_eraseDups _

end Skin
end Skinning
