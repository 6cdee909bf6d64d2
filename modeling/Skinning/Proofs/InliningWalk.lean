import Mathlib.Logic.Relation
import Skinning.Proofs.PanelNesting

/-! Binding as a walk of single steps, with the names of the fragments that are being inlined on
a stack: a name is pushed where a fragment is entered and popped where it is left. No depth limits
the walk. It is finite because the names on the stack are different names of the catalog, and it
ends with what binding gives. -/
namespace Skinning

open Binder

/-- What is still to be done, for each node and each panel that the walk is in. -/
inductive Task where
  | node (node : Element)
  /-- A panel whose fragment, if any, has been inlined. -/
  | panel (node : Element)
  | leaveFragment
  /-- The space around a panel whose own nodes are done. -/
  | leavePanel (outer : Space)

structure Walk where
  tasks : List Task
  inlining : List String
  binder : Binder

namespace Walk

/-- A panel that names a fragment, before its own nodes. -/
def enterPanel (site : BindingSite) (node : Element) (rest : List Task) (inlining : List String)
    (b : Binder) : Walk :=
  match node.filled? "name" with
  | none => ⟨.panel node :: rest, inlining, b⟩
  | some name =>
    if inlining.contains name then ⟨.panel node :: rest, inlining, b.report (.panelCycle name)⟩
    else match site.skin.fragment? name with
      | some fragment =>
        ⟨fragment.element.children.map .node ++ .leaveFragment :: .panel node :: rest,
          name :: inlining, b⟩
      | none => ⟨.panel node :: rest, inlining, b.report (.unknownFragment name)⟩

def next? (site : BindingSite) : Walk → Option Walk
  | ⟨[], _, _⟩ => none
  | ⟨.node node :: rest, inlining, b⟩ =>
    if !b.screen.admits node then some ⟨rest, inlining, b⟩
    else if node.tag = "panel" then some (enterPanel site node rest inlining b)
    else some ⟨rest, inlining, b.attempt site node.tag (BindingStep.bindLeaf site node)⟩
  | ⟨.panel node :: rest, inlining, b⟩ =>
    match node.attribute? "position" with
    | some position =>
      some ⟨node.children.map .node ++
        .leavePanel (b.derivePanel site node position).1.space :: rest, inlining,
        b.openPanel site node position⟩
    | none =>
      if node.children.isEmpty then some ⟨rest, inlining, b⟩
      else some ⟨rest, inlining,
        b.attempt site node.tag (throw (.panelSpace none (node.attribute? "size")))⟩
  | ⟨.leaveFragment :: rest, inlining, b⟩ => some ⟨rest, inlining.tail, b⟩
  | ⟨.leavePanel outer :: rest, inlining, b⟩ => some ⟨rest, inlining, { b with space := outer }⟩

section

variable (site : BindingSite) {node : Element} (rest : List Task) (inlining : List String)
  {b : Binder}

theorem next?_of_passed (passed : ¬ b.screen.admits node) :
    next? site ⟨.node node :: rest, inlining, b⟩ = some ⟨rest, inlining, b⟩ := by
  simp [next?, passed]

theorem next?_of_leaf (admitted : b.screen.admits node) (isLeaf : node.tag ≠ "panel") :
    next? site ⟨.node node :: rest, inlining, b⟩ =
      some ⟨rest, inlining, b.attempt site node.tag (BindingStep.bindLeaf site node)⟩ := by
  simp [next?, admitted, isLeaf]

theorem next?_of_panel (admitted : b.screen.admits node) (isPanel : node.tag = "panel") :
    next? site ⟨.node node :: rest, inlining, b⟩ = some (enterPanel site node rest inlining b) := by
  simp [next?, admitted, isPanel]

theorem next?_of_bare (bare : node.attribute? "position" = none) :
    next? site ⟨.panel node :: rest, inlining, b⟩ =
      some ⟨rest, inlining, if node.children.isEmpty then b
        else b.attempt site node.tag (throw (.panelSpace none (node.attribute? "size")))⟩ := by
  by_cases childless : node.children.isEmpty <;> simp [next?, bare, childless]

theorem next?_of_placed {position : String} (placed : node.attribute? "position" = some position) :
    next? site ⟨.panel node :: rest, inlining, b⟩ =
      some ⟨node.children.map .node ++
        .leavePanel (b.derivePanel site node position).1.space :: rest, inlining,
        b.openPanel site node position⟩ := by
  simp [next?, placed]

end

/-- The walk over the nodes of a root. -/
def ofRoot (root : Element) (b : Binder) : Walk := ⟨root.children.map .node, [], b⟩

def Reaches (site : BindingSite) : Walk → Walk → Prop :=
  Relation.ReflTransGen fun w v => w.next? site = some v

/-- The names on the stack are of the catalog, and none stands there twice. -/
structure IsStack (site : BindingSite) (inlining : List String) : Prop where
  apart : inlining.Nodup
  known : ∀ name ∈ inlining, (site.skin.fragment? name).isSome

/-- More than `rest` is to be done, and nothing has been popped that was on the stack. -/
structure IsAbove (site : BindingSite) (rest : List Task) (inlining : List String) (w : Walk) :
    Prop where
  tasks : ∃ task more, w.tasks = task :: more ++ rest
  stack : inlining <:+ w.inlining
  isStack : IsStack site w.inlining

/-- A run that stays above `rest` until its last state. -/
inductive Passes (site : BindingSite) (rest : List Task) (inlining : List String) :
    Walk → Walk → Prop where
  | refl (w : Walk) : Passes site rest inlining w w
  | head {w v last : Walk} : w.IsAbove site rest inlining → w.next? site = some v →
      Passes site rest inlining v last → Passes site rest inlining w last

namespace Passes

variable {site : BindingSite} {rest : List Task} {inlining : List String}

theorem trans {w v last : Walk} (first : Passes site rest inlining w v)
    (second : Passes site rest inlining v last) : Passes site rest inlining w last := by
  induction first with
  | refl w => exact second
  | head above step _ ih => exact .head above step (ih second)

theorem mono {w last : Walk} (more : List Task) {deeper : List String}
    (passes : Passes site (more ++ rest) deeper w last) (suffix : inlining <:+ deeper) :
    Passes site rest inlining w last := by
  induction passes with
  | refl w => exact .refl w
  | head above step _ ih =>
    obtain ⟨⟨task, others, tasks⟩, stack, isStack⟩ := above
    exact .head ⟨⟨task, others ++ more, by simp [tasks]⟩, suffix.trans stack, isStack⟩ step ih

theorem reaches {w last : Walk} (passes : Passes site rest inlining w last) :
    w.Reaches site last := by
  induction passes with
  | refl w => exact .refl
  | head _ step _ ih => exact .head step ih

/-- There is one next state at most, so every run is a part of this one or goes beyond it. -/
theorem cases_reaches {w last v : Walk} (passes : Passes site rest inlining w last)
    (reached : w.Reaches site v) : v.IsAbove site rest inlining ∨ last.Reaches site v := by
  induction passes with
  | refl w => exact .inr reached
  | head above step _ ih =>
    rcases reached.cases_head with rfl | ⟨u, first, others⟩
    · exact .inl above
    · rw [step] at first
      cases first
      exact ih others

theorem acc {w last : Walk} (passes : Passes site rest inlining w last)
    (ends : last.next? site = none) : Acc (fun later earlier => earlier.next? site = some later) w := by
  induction passes with
  | refl w => exact .intro w fun v step => by simp [ends] at step
  | head _ step _ ih =>
    refine .intro _ fun v next => ?_
    rw [step] at next
    cases next
    exact ih ends

end Passes

section

variable {site : BindingSite} {inliner : Inliner} {inlining : List String}

theorem isAbove_cons (isStack : IsStack site inlining) (task : Task) (more rest : List Task)
    (b : Binder) : (⟨task :: more ++ rest, inlining, b⟩ : Walk).IsAbove site rest inlining :=
  ⟨⟨task, more, rfl⟩, List.suffix_rfl, isStack⟩

/-- An inliner gives what the walk over a fragment gives, for each that may be opened next. -/
def Follows (site : BindingSite) (inliner : Inliner) (inlining : List String) : Prop :=
  ∀ name fragment rest b, name ∉ inlining → site.skin.fragment? name = some fragment →
    Passes site rest (name :: inlining)
      ⟨fragment.element.children.map .node ++ rest, name :: inlining, b⟩
      ⟨rest, name :: inlining, inliner (name :: inlining) fragment.element b⟩

theorem IsStack.push {name : String} {fragment : Fragment} (isStack : IsStack site inlining)
    (new : name ∉ inlining) (found : site.skin.fragment? name = some fragment) :
    IsStack site (name :: inlining) :=
  ⟨List.nodup_cons.mpr ⟨new, isStack.apart⟩,
    List.forall_mem_cons.mpr ⟨by simp [found], isStack.known⟩⟩

/-- What a panel names is inlined, and its name is off the stack before the panel's own nodes. -/
theorem enterPanel_passes (isStack : IsStack site inlining)
    (follows : Follows site inliner inlining) (node : Element) (rest : List Task) (b : Binder) :
    Passes site rest inlining (enterPanel site node rest inlining b)
      ⟨.panel node :: rest, inlining, b.inlinePanel site inliner inlining node⟩ := by
  unfold enterPanel inlinePanel
  cases node.filled? "name" with
  | none => exact .refl _
  | some name =>
    by_cases isInlined : name ∈ inlining
    · simp only [List.contains_iff_mem.mpr isInlined, if_true]
      exact .refl _
    simp only [List.contains_iff_mem, isInlined, if_false]
    cases found : site.skin.fragment? name with
    | none => exact .refl _
    | some fragment =>
      have inside := follows name fragment (.leaveFragment :: .panel node :: rest) b isInlined found
      have leaves := isAbove_cons (isStack.push isInlined found) .leaveFragment [.panel node] rest
        (inliner (name :: inlining) fragment.element b)
      refine (inside.mono [.leaveFragment, .panel node] (List.suffix_cons ..)).trans ?_
      exact .head ⟨leaves.tasks, List.suffix_cons .., leaves.isStack⟩ rfl (.refl _)

/-- A panel's own nodes are walked over in its space, and the space around it is back after them. -/
theorem panel_passes (isStack : IsStack site inlining) {node : Element} {position : String}
    (placed : node.attribute? "position" = some position)
    (children : ∀ rest b, Passes site rest inlining ⟨node.children.map .node ++ rest, inlining, b⟩
      ⟨rest, inlining, bindNodes site inliner inlining node.children b⟩)
    (rest : List Task) (b : Binder) :
    Passes site rest inlining ⟨.panel node :: rest, inlining, b⟩
      ⟨rest, inlining,
        { bindNodes site inliner inlining node.children (b.openPanel site node position) with
          space := (b.derivePanel site node position).1.space }⟩ := by
  let outer := (b.derivePanel site node position).1.space
  have inside := children (.leavePanel outer :: rest) (b.openPanel site node position)
  have closes := isAbove_cons isStack (.leavePanel outer) [] rest
    (bindNodes site inliner inlining node.children (b.openPanel site node position))
  refine .head (isAbove_cons isStack _ [] rest b) (next?_of_placed site rest inlining placed) ?_
  exact (inside.mono [.leavePanel outer] List.suffix_rfl).trans (.head closes rfl (.refl _))

theorem node_passes_of_children (isStack : IsStack site inlining)
    (follows : Follows site inliner inlining) (node : Element)
    (children : ∀ rest b, Passes site rest inlining ⟨node.children.map .node ++ rest, inlining, b⟩
      ⟨rest, inlining, bindNodes site inliner inlining node.children b⟩)
    (rest : List Task) (b : Binder) :
    Passes site rest inlining ⟨.node node :: rest, inlining, b⟩
      ⟨rest, inlining, bindNode site inliner inlining node b⟩ := by
  have above := isAbove_cons isStack (.node node) [] rest b
  by_cases admitted : b.screen.admits node
  case neg =>
    rw [(bindNode_of_passed site inliner (fun _ _ _ => []) inlining admitted).1]
    exact .head above (next?_of_passed site rest inlining admitted) (.refl _)
  by_cases isPanel : node.tag = "panel"
  case neg =>
    rw [(bindNode_of_leaf site inliner (fun _ _ _ => []) inlining admitted isPanel).1]
    exact .head above (next?_of_leaf site rest inlining admitted isPanel) (.refl _)
  have inlines := enterPanel_passes isStack follows node rest b
  refine .head above (next?_of_panel site rest inlining admitted isPanel) (inlines.trans ?_)
  cases placed : node.attribute? "position" with
  | none =>
    rw [(bindNode_of_bare site inliner (fun _ _ _ => []) inlining admitted isPanel placed).1]
    exact .head (isAbove_cons isStack _ [] rest _) (next?_of_bare site rest inlining placed)
      (.refl _)
  | some position =>
    rw [(bindNode_of_placed site inliner (fun _ _ _ => []) inlining admitted isPanel placed).1]
    exact panel_passes isStack placed children rest _

mutual

/-- Binding a node is what the walk does until only the rest is left. -/
theorem node_passes (isStack : IsStack site inlining) (follows : Follows site inliner inlining) :
    (node : Element) → (rest : List Task) → (b : Binder) →
    Passes site rest inlining ⟨.node node :: rest, inlining, b⟩
      ⟨rest, inlining, bindNode site inliner inlining node b⟩
  | ⟨tag, attributes, text?, line, children⟩ =>
    node_passes_of_children isStack follows ⟨tag, attributes, text?, line, children⟩
      (nodes_passes isStack follows children)

theorem nodes_passes (isStack : IsStack site inlining) (follows : Follows site inliner inlining) :
    (nodes : List Element) → (rest : List Task) → (b : Binder) →
    Passes site rest inlining ⟨nodes.map .node ++ rest, inlining, b⟩
      ⟨rest, inlining, bindNodes site inliner inlining nodes b⟩
  | [], _, _ => .refl _
  | node :: others, rest, b =>
    have first := node_passes isStack follows node (others.map .node ++ rest) b
    (first.mono (others.map .node) List.suffix_rfl).trans
      (nodes_passes isStack follows others rest (bindNode site inliner inlining node b))

end

end

/-- A depth as great as the number of names that are not on the stack is enough. -/
theorem inlineTo_follows {site : BindingSite} (depth : Nat) {inlining : List String}
    (isStack : IsStack site inlining)
    (deep : site.skin.fragments.size ≤ depth + inlining.length) :
    Follows site (inlineTo site depth) inlining := by
  induction depth generalizing inlining with
  | zero =>
    -- One name more would be more names than the catalog has.
    intro name fragment rest b new found
    have pushed := isStack.push new found
    have few := site.skin.length_le_of_nodup pushed.apart pushed.known
    rw [List.length_cons] at few
    omega
  | succ depth ih =>
    intro name fragment rest b new found
    have pushed := isStack.push new found
    have enough : site.skin.fragments.size ≤ depth + (name :: inlining).length := by
      rw [List.length_cons]
      omega
    exact nodes_passes pushed (ih pushed enough) fragment.element.children rest b

/-- From a state on, the walk goes on until only `rest` is to be done, without going below the
stack, and is then in the state `after` with the stack as it was. -/
structure Returns (site : BindingSite) (w : Walk) (rest : List Task) (after : Walk) : Prop where
  reached : w.Reaches site after
  tasks : after.tasks = rest
  inlining : after.inlining = w.inlining
  passed : ∀ v, w.Reaches site v → v.IsAbove site rest w.inlining ∨ after.Reaches site v

/-- Binding is a finite walk. Its stack holds no name twice and no more names than the catalog, and
after each node, whatever comes of it, the stack is what it was before. -/
theorem bindRoot_walks (site : BindingSite) (root : Element) (b : Binder) :
    let first := Walk.ofRoot root b
    let last : Walk := ⟨[], [], b.bindRoot site root⟩
    Acc (fun later earlier => earlier.next? site = some later) first ∧
      first.Reaches site last ∧ last.next? site = none ∧
      ∀ w, first.Reaches site w →
        w.inlining.Nodup ∧ w.inlining.length ≤ site.skin.fragments.size ∧
        ∀ node rest, w.tasks = .node node :: rest →
          w.Returns site rest ⟨rest, w.inlining,
            bindNode site (inlineTo site site.skin.fragments.size) w.inlining node w.binder⟩ := by
  intro first last
  have empty : IsStack site [] := ⟨List.nodup_nil, by simp⟩
  have follows {inlining : List String} (isStack : IsStack site inlining) :=
    inlineTo_follows site.skin.fragments.size isStack (by omega)
  have passes : Passes site [] [] first last := by
    have run := nodes_passes empty (follows empty) root.children [] b
    rwa [List.append_nil] at run
  refine ⟨passes.acc rfl, passes.reaches, rfl, fun w reached => ?_⟩
  have isStack : IsStack site w.inlining := by
    rcases passes.cases_reaches reached with above | beyond
    · exact above.isStack
    · rcases beyond.cases_head with rfl | ⟨v, step, -⟩
      · exact empty
      · cases step
  refine ⟨isStack.apart, site.skin.length_le_of_nodup isStack.apart isStack.known,
    fun node rest tasks => ?_⟩
  obtain ⟨tasks', inlining, binder⟩ := w
  cases tasks
  have run := node_passes isStack (follows isStack) node rest binder
  exact ⟨run.reaches, rfl, rfl, fun v => run.cases_reaches⟩

end Walk
end Skinning
