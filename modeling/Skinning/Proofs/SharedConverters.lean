import Mathlib.Data.List.Dedup
import Skinning.Proofs.ConverterTrie
import Skinning.Proofs.NodeOutcome

/-! Shared converters. Over all bindings of a screen, the stages below a source are the prefixes
of the chains that nodes asked for there, each once, and every renderer reads from the end of
the chain that its own node asked for. -/
namespace Skinning

open Binder

/-- The converters report the arguments that they were made with. -/
def Components.IsFaithful (components : Components) : Prop :=
  ∀ kind reported, components.converter? kind = some reported →
    ∀ arguments, reported arguments = arguments

/-- The converters that a node asks for, in the order of the document. -/
def Element.converterChain (node : Element) : List StageKind :=
  (node.childrenNamed "convert").map fun convert =>
    .converter ((convert.filled? "type").getD "") (BindingStep.converterArguments convert)

theorem BindingStep.asked_of_asks {site : BindingSite} {nodes : List Element}
    {requests : List ConverterRequest} (asks : List.Forall₂ (BindingStep.Asks site) nodes requests) :
    requests.map ConverterRequest.asked = nodes.map fun convert =>
      .converter ((convert.filled? "type").getD "") (BindingStep.converterArguments convert) := by
  induction asks with
  | nil => rfl
  | @cons node request _ _ first _ ih =>
    obtain ⟨typed, arguments, -⟩ := first
    rw [List.map_cons, List.map_cons, ih, ConverterRequest.asked, typed, arguments, Option.getD_some]

theorem BindingStep.faithful_of_asks {site : BindingSite} (faithful : site.components.IsFaithful)
    {nodes : List Element} {requests : List ConverterRequest}
    (asks : List.Forall₂ (BindingStep.Asks site) nodes requests) :
    ∀ request ∈ requests, request.IsFaithful := by
  induction asks with
  | nil => simp
  | cons first _ ih =>
    obtain ⟨-, -, reported, known, reports⟩ := first
    have isFaithful := reports.trans (faithful _ reported known _)
    exact List.forall_mem_cons.mpr ⟨isFaithful, ih⟩

/-- A node that got a renderer, and the source that it shows. -/
structure Attachment where
  node : Element
  source : ResolvedSource

namespace Attachment

def chain (a : Attachment) : List StageKind := a.node.converterChain

/-- The prefixes of the chains that were asked for at a source, without the empty one. -/
def prefixesAt (attached : List Attachment) (pipeline : Nat) : List (List StageKind) :=
  (attached.filter (·.source.pipeline = pipeline)).flatMap fun a => a.chain.inits.filter (· ≠ [])

theorem mem_prefixesAt {attached : List Attachment} {pipeline : Nat} {chain : List StageKind} :
    chain ∈ prefixesAt attached pipeline ↔
      chain ≠ [] ∧ ∃ a ∈ attached, a.source.pipeline = pipeline ∧ chain <+: a.chain := by
  simp only [prefixesAt, List.mem_flatMap, List.mem_filter, List.mem_inits, decide_eq_true_eq]
  constructor
  · rintro ⟨a, ⟨member, source⟩, begins, filled⟩
    exact ⟨filled, a, member, source, begins⟩
  · rintro ⟨filled, a, member, source, begins⟩
    exact ⟨a, ⟨member, source⟩, begins, filled⟩

end Attachment

/-- What comes of a visited node that shows a source, if its renderer could be built. -/
def Visit.attachment? (site : BindingSite) (v : Visit) : Option Attachment := do
  let path ← v.node.shows?
  guard (v.binder.screen.admits v.node)
  let _ ← ((BindingStep.bindLeaf site v.node).run.run v.binder).1.toOption
  let source ← (v.binder.screen.peer.resolve site.fragment path).1.toOption
  guard (source.pipeline < v.binder.screen.pipelines.length)
  return ⟨v.node, source⟩

namespace Screen

/-- A renderer reads from the source that a node shows, through the converters that the node
asks for. -/
structure Reads (s : Screen) (r : Renderer) (a : Attachment) : Prop where
  render : a.node.filled? "render" = some r.kind
  source : r.pipeline = a.source.pipeline
  label : r.label = a.source.path
  input : ∃ stage, s.pipelines[r.pipeline]? = some stage ∧ (stage.at? r.input).isSome ∧
    stage.trail r.input = stage.kind :: a.chain

/-- The pipelines of a screen hold the prefixes of what was asked for, and nothing else. -/
structure Linked (start : Screen) (attached : List Attachment) (s : Screen) : Prop where
  sources : s.pipelines.map Stage.kind = start.pipelines.map Stage.kind
  tries : ∀ stage ∈ s.pipelines, stage.IsTrie
  holds : ∀ pipeline stage chain, s.pipelines[pipeline]? = some stage →
    (stage.Holds chain ↔
      chain = [] ∨ ∃ a ∈ attached, a.source.pipeline = pipeline ∧ chain <+: a.chain)

/-- What a screen shows in the course of a binding, where some was attached before. -/
def Shows (start : Screen) (before shown : List Attachment) (s : Screen) : Prop :=
  start.Linked (before ++ shown) s ∧ List.Forall₂ s.Reads s.renderers shown

theorem linked_of_bare {start : Screen} (bare : ∀ stage ∈ start.pipelines, stage.downstream = []) :
    start.Linked [] start where
  sources := rfl
  tries stage member := Stage.isTrie_of_bare (bare stage member)
  holds pipeline stage chain found := by
    have bare := bare stage (List.mem_of_getElem? found)
    cases chain <;> simp [Stage.holds_cons, bare]

theorem Linked.congr {start s t : Screen} {attached : List Attachment}
    (linked : start.Linked attached s) (same : t.pipelines = s.pipelines) :
    start.Linked attached t := by
  obtain ⟨sources, tries, holds⟩ := linked
  exact ⟨same ▸ sources, same ▸ tries, same ▸ holds⟩

theorem Reads.congr {s t : Screen} {r : Renderer} {a : Attachment} (reads : s.Reads r a)
    (same : t.pipelines = s.pipelines) : t.Reads r a :=
  ⟨reads.render, reads.source, reads.label, same ▸ reads.input⟩

theorem Shows.congr {start s t : Screen} {before shown : List Attachment}
    (shows : start.Shows before shown s) (pipelines : t.pipelines = s.pipelines)
    (renderers : t.renderers = s.renderers) : start.Shows before shown t := by
  obtain ⟨linked, reads⟩ := shows
  refine ⟨linked.congr pipelines, ?_⟩
  rw [renderers]
  exact reads.imp fun r a reads => reads.congr pipelines

/-- What attaching a renderer does to the pipelines: that of its source grows by its chain. -/
theorem attach_eq (kind : String) (component : Component) (requests : List ConverterRequest)
    {s : Screen} {stage : Stage} {source : ResolvedSource}
    (found : s.pipelines[source.pipeline]? = some stage) :
    (s.attach kind component source requests).pipelines =
        s.pipelines.set source.pipeline (stage.connectAll requests).1 ∧
      (s.attach kind component source requests).renderers =
        s.renderers ++ [⟨kind, component, source.pipeline, (stage.connectAll requests).2,
          source.path⟩] := by
  simp [attach, found]

theorem attach_of_missing (s : Screen) (kind : String) (component : Component)
    {source : ResolvedSource} (requests : List ConverterRequest)
    (missing : ¬ source.pipeline < s.pipelines.length) :
    s.attach kind component source requests = s := by
  have none : s.pipelines[source.pipeline]? = none := by simpa using missing
  simp [attach, none]

/-- A source stays what it is, whatever is attached to it. -/
theorem attach_sources (s : Screen) (kind : String) (component : Component)
    (source : ResolvedSource) (requests : List ConverterRequest) :
    (s.attach kind component source requests).pipelines.map Stage.kind =
      s.pipelines.map Stage.kind := by
  cases found : s.pipelines[source.pipeline]? with
  | none => simp [attach, found]
  | some stage =>
    obtain ⟨inside, rfl⟩ := List.getElem?_eq_some_iff.mp found
    rw [(attach_eq kind component requests found).1, List.map_set, Stage.connectAll_kind,
      ← List.getElem_map Stage.kind, List.set_getElem_self]
    simpa using inside

section

variable {s : Screen} {stage : Stage} {kind : String} (component : Component) {a : Attachment}
  {requests : List ConverterRequest} (found : s.pipelines[a.source.pipeline]? = some stage)
  (faithful : ∀ request ∈ requests, request.IsFaithful)
  (asked : requests.map ConverterRequest.asked = a.chain)

include found faithful

theorem Reads.attach {r : Renderer} {other : Attachment} (reads : s.Reads r other) :
    (s.attach kind component a.source requests).Reads r other := by
  obtain ⟨render, source, label, upstream, here, present, trail⟩ := reads
  obtain ⟨pipelines, -⟩ := attach_eq kind component requests found
  refine ⟨render, source, label, ?_⟩
  rw [pipelines]
  -- In the pipeline that grows, the place stays where it was; the others are untouched.
  by_cases same : a.source.pipeline = r.pipeline
  · obtain rfl : stage = upstream := by simpa [same, here, eq_comm] using found
    obtain ⟨grows, -⟩ := stage.connectAll_grows faithful
    have inside : r.pipeline < s.pipelines.length := (List.getElem?_eq_some_iff.mp here).1
    have reaches := grows.stays _ _ (Stage.reaches_iff.mpr ⟨present, trail⟩)
    refine ⟨_, by rw [same, List.getElem?_set_self inside], ?_⟩
    exact Stage.reaches_iff.mp reaches
  · exact ⟨upstream, by rw [List.getElem?_set_ne same, here], present, trail⟩

include asked

theorem reads_attached (renders : a.node.filled? "render" = some kind) :
    (s.attach kind component a.source requests).Reads
      ⟨kind, component, a.source.pipeline, (stage.connectAll requests).2, a.source.path⟩ a := by
  obtain ⟨pipelines, -⟩ := attach_eq kind component requests found
  obtain ⟨-, reaches⟩ := stage.connectAll_grows faithful
  have inside : a.source.pipeline < s.pipelines.length := (List.getElem?_eq_some_iff.mp found).1
  refine ⟨renders, rfl, rfl, _, by rw [pipelines, List.getElem?_set_self inside], ?_⟩
  exact Stage.reaches_iff.mp (asked ▸ reaches)

theorem Linked.attach {start : Screen} {attached : List Attachment}
    (linked : start.Linked attached s) :
    start.Linked (attached ++ [a]) (s.attach kind component a.source requests) := by
  obtain ⟨pipelines, -⟩ := attach_eq kind component requests found
  obtain ⟨grows, -⟩ := stage.connectAll_grows faithful
  have inside : a.source.pipeline < s.pipelines.length := (List.getElem?_eq_some_iff.mp found).1
  refine ⟨?_, fun other member => ?_, fun pipeline other chain here => ?_⟩
  · rw [attach_sources]
    exact linked.sources
  · rw [pipelines] at member
    rcases List.mem_or_eq_of_mem_set member with old | rfl
    · exact linked.tries other old
    · exact grows.trie (linked.tries stage (List.mem_of_getElem? found))
  · rw [pipelines] at here
    by_cases same : a.source.pipeline = pipeline
    · subst same
      obtain rfl : _ = other := Option.some.inj ((List.getElem?_set_self inside).symm.trans here)
      rw [grows.holds, linked.holds _ _ _ found, asked]
      simp [or_and_right, exists_or, or_assoc]
    · rw [List.getElem?_set_ne same] at here
      rw [linked.holds _ _ _ here]
      simp [or_and_right, exists_or, same]

theorem Shows.attach {start : Screen} {before shown : List Attachment}
    (shows : start.Shows before shown s) (renders : a.node.filled? "render" = some kind) :
    start.Shows before (shown ++ [a]) (s.attach kind component a.source requests) := by
  obtain ⟨linked, reads⟩ := shows
  obtain ⟨-, renderers⟩ := attach_eq kind component requests found
  refine ⟨?_, ?_⟩
  · rw [← List.append_assoc]
    exact linked.attach component found faithful asked
  · rw [renderers]
    have added := reads_attached component found faithful asked renders
    refine List.rel_append (reads.imp fun r other reads => ?_) (.cons added .nil)
    exact reads.attach component found faithful

end

/-- Readers of one source are at one place if they asked for one chain. -/
theorem Reads.same_input_iff {s : Screen} {r other : Renderer} {a b : Attachment}
    (tries : ∀ stage ∈ s.pipelines, stage.IsTrie) (reads : s.Reads r a)
    (otherReads : s.Reads other b) :
    (r.pipeline = other.pipeline ∧ r.input = other.input) ↔
      a.source.pipeline = b.source.pipeline ∧ a.chain = b.chain := by
  obtain ⟨stage, here, reaches⟩ := reads.input
  obtain ⟨otherStage, there, otherReaches⟩ := otherReads.input
  rw [← reads.source, ← otherReads.source]
  refine and_congr_right fun same => ?_
  obtain rfl : stage = otherStage := by simpa [same, there, eq_comm] using here
  have first := Stage.reaches_iff.mpr reaches
  have second := Stage.reaches_iff.mpr otherReaches
  constructor
  · intro inputs
    rw [inputs] at first
    exact first.chain_unique second
  · intro chains
    rw [chains] at first
    exact first.path_unique (tries stage (List.mem_of_getElem? here)) second

/-- As many stages hang below a source as prefixes were asked for there. -/
theorem Linked.count {start s : Screen} {attached : List Attachment} {pipeline : Nat}
    {stage : Stage} (linked : start.Linked attached s)
    (found : s.pipelines[pipeline]? = some stage) :
    stage.converters = (Attachment.prefixesAt attached pipeline).dedup.length := by
  have trie := linked.tries stage (List.mem_of_getElem? found)
  have same : stage.chains.Perm (Attachment.prefixesAt attached pipeline).dedup := by
    refine (List.perm_ext_iff_of_nodup (stage.chains_nodup trie) (List.nodup_dedup _)).mpr ?_
    intro chain
    rw [List.mem_dedup, Attachment.mem_prefixesAt, stage.mem_chains_iff,
      linked.holds pipeline stage chain found]
    by_cases empty : chain = [] <;> simp [empty]
  rw [← stage.length_chains, same.length_eq]

end Screen

namespace Visit

variable (site : BindingSite) {v : Visit}

theorem attachment?_of_passed (passed : ¬ v.binder.screen.admits v.node) :
    v.attachment? site = none := by
  have closed : v.binder.screen.admits v.node = false := by simpa using passed
  unfold attachment?
  rw [closed]
  cases v.node.shows? <;> rfl

theorem attachment?_of_panel (isPanel : v.node.tag = "panel") : v.attachment? site = none := by
  have hidden : v.node.shows? = none := Element.shows?_of_tag_ne (by simp [isPanel])
  unfold attachment?
  rw [hidden]
  rfl

/-- A node that holds no others gets a renderer, or it leaves pipelines and renderers alone. -/
theorem attempt_cases (admitted : v.binder.screen.admits v.node) :
    let after := v.binder.attempt site v.node.tag (BindingStep.bindLeaf site v.node)
    (v.attachment? site = none ∧ v.binder.Unlinked after) ∨
    ∃ source kind component requests, v.attachment? site = some ⟨v.node, source⟩ ∧
      v.node.filled? "render" = some kind ∧
      List.Forall₂ (BindingStep.Asks site) (v.node.childrenNamed "convert") requests ∧
      source.pipeline < v.binder.screen.pipelines.length ∧
      after.screen = v.binder.screen.attach kind component source requests := by
  have yields := BindingStep.bindLeaf_yields site v.node v.binder
  unfold BindingStep.Yields at yields
  unfold attachment? attempt
  dsimp only [guard]
  generalize (BindingStep.bindLeaf site v.node).run.run v.binder = outcome at yields ⊢
  obtain ⟨fault | ⟨⟩, after⟩ := outcome
  · have reported := (quiet_note after [.faultyNode site.fragment v.node.tag]).trans
      (quiet_note _ [.fault (.binding fault)])
    refine .inl ⟨?_, Unlinked.trans yields reported.unlinked⟩
    cases v.node.shows? <;> simp [Except.toOption]
  · cases shows : v.node.shows? with
    | none =>
      rw [shows] at yields
      exact .inl ⟨rfl, yields⟩
    | some path =>
      rw [shows] at yields
      obtain ⟨⟨source, kind, component, requests, resolves, renders, asks, screen⟩, notices⟩ := yields
      by_cases present : source.pipeline < v.binder.screen.pipelines.length
      · refine .inr ⟨source, kind, component, requests, ?_, renders, asks, present, screen⟩
        simp [admitted, resolves, present, Except.toOption]
      -- Without such a pipeline there is nothing to attach to, and no renderer.
      · rw [Screen.attach_of_missing _ kind component requests present] at screen
        refine .inl ⟨?_, by rw [screen], by rw [screen], by rw [screen], notices⟩
        simp [admitted, resolves, present, Except.toOption]

end Visit

/-- Each visit keeps what the screen shows in line with the visits so far. -/
theorem tracks_shows (start : Screen) (before : List Attachment) {site : BindingSite}
    (faithful : site.components.IsFaithful) :
    Tracks site (fun _ _ => True) fun past b =>
      start.Shows before (past.filterMap (·.attachment? site)) b.screen where
  lasts _ _ _ _ := trivial
  inlines _ _ _ _ _ _ _ _ := trivial
  quiet past b after shows quiet := quiet.screen ▸ shows
  passed past v shows _ passed := by
    have silent := Visit.attachment?_of_passed site passed
    simpa [silent] using shows
  panel past v shows _ _ isPanel := by
    have silent := Visit.attachment?_of_panel site isPanel
    have quiet := quiet_announce v.binder site v.inlined v.node
    simpa [silent, quiet.screen] using shows
  leaf past v shows _ admitted _ := by
    rcases Visit.attempt_cases site admitted with
      ⟨silent, unlinked⟩ | ⟨source, kind, component, requests, attached, renders, asks, present, screen⟩
    · simpa [silent] using shows.congr unlinked.pipelines unlinked.renderers
    · have found := List.getElem?_eq_getElem present
      have asked := BindingStep.asked_of_asks asks
      have reports := BindingStep.faithful_of_asks faithful asks
      rw [screen]
      simpa [attached] using
        Screen.Shows.attach (a := ⟨v.node, source⟩) component found reports asked shows renders

/-! Bindings one after the other. -/

structure BindCall where
  skin : Skin
  components : Components
  names : List String
  surface : Nat

/-- A screen, what was attached to it by the binding that it shows, and by all bindings. -/
structure History where
  screen : Screen
  shown? : Option (List Attachment)
  attached : List Attachment

namespace History

def start (screen : Screen) : History := ⟨screen, none, []⟩

/-- A screen whose own document is faulty still shows what it has shown before. -/
def next (h : History) (call : BindCall) : History :=
  let screen := (call.skin.bind call.components h.screen call.names call.surface).screen
  match call.skin.tour? call.components h.screen call.surface call.names with
  | some (site, visits) =>
    let attached := visits.filterMap (·.attachment? site)
    ⟨screen, some attached, h.attached ++ attached⟩
  | none => { h with screen }

def after (screen : Screen) (calls : List BindCall) : History := calls.foldl next (start screen)

/-- Converters are shared wherever they can be, and only there. -/
structure IsShared (screen : Screen) (h : History) : Prop where
  sources : h.screen.pipelines.map Stage.kind = screen.pipelines.map Stage.kind
  tries : ∀ stage ∈ h.screen.pipelines, stage.IsTrie
  reads : ∀ shown, h.shown? = some shown → List.Forall₂ h.screen.Reads h.screen.renderers shown
  inputs : ∀ shown, h.shown? = some shown → ∀ one ∈ h.screen.renderers.zip shown,
    ∀ other ∈ h.screen.renderers.zip shown,
      ((one.1.pipeline = other.1.pipeline ∧ one.1.input = other.1.input) ↔
        one.2.source.pipeline = other.2.source.pipeline ∧ one.2.chain = other.2.chain)
  counts : ∀ pipeline stage, h.screen.pipelines[pipeline]? = some stage →
    stage.converters = (Attachment.prefixesAt h.attached pipeline).dedup.length
  /-- A binding that asks only for chains that were asked for before adds no stage. -/
  repeats : ∀ call : BindCall, call.components.IsFaithful →
    (∀ a ∈ (h.next call).attached, ∃ b ∈ h.attached,
      b.source.pipeline = a.source.pipeline ∧ b.chain = a.chain) →
    (h.next call).screen.pipelines.map Stage.converters =
      h.screen.pipelines.map Stage.converters

theorem attached_subset_next (h : History) (call : BindCall) :
    h.attached ⊆ (h.next call).attached := by
  unfold next
  dsimp only
  split
  · exact List.subset_append_left _ _
  · exact List.Subset.refl _

/-- What every binding keeps. -/
structure Kept (screen : Screen) (h : History) : Prop where
  linked : screen.Linked h.attached h.screen
  reads : ∀ shown, h.shown? = some shown → List.Forall₂ h.screen.Reads h.screen.renderers shown

theorem Kept.next {screen : Screen} {h : History} (kept : h.Kept screen) {call : BindCall}
    (faithful : call.components.IsFaithful) : (h.next call).Kept screen := by
  cases root : call.skin.rootFor? h.screen call.names call.surface with
  | none =>
    have same := call.skin.bind_of_rootFor?_eq_none call.components h.screen call.surface root
    simpa [History.next, Skin.tour?, root, same] using kept
  | some found =>
    obtain ⟨chosen, ready⟩ := found
    let site := call.skin.siteFor call.components chosen call.surface
    let b := call.skin.beginning call.components ready chosen call.surface
    obtain ⟨notices, bound, -⟩ := call.skin.bind_of_rootFor? call.components h.screen call.surface root
    obtain ⟨pipelines, renderers⟩ := call.skin.beginning_bare call.components root
    have begins : screen.Shows h.attached [] b.screen := by
      refine ⟨?_, by rw [renderers]; exact .nil⟩
      rw [List.append_nil]
      exact kept.linked.congr pipelines
    have tracks := @tracks_shows screen h.attached site faithful
    obtain ⟨linked, reads⟩ := tracks.visits trivial b chosen.root begins
    let attached := (b.visits site chosen.root).filterMap (·.attachment? site)
    have advances : h.next call =
        ⟨(b.bindRoot site chosen.root).screen, some attached, h.attached ++ attached⟩ := by
      simp only [History.next, Skin.tour?, root, Option.map_some, bound]
      rfl
    rw [advances]
    refine ⟨linked, fun shown isShown => ?_⟩
    obtain rfl : attached = shown := Option.some.inj isShown
    exact reads

theorem kept_after {screen : Screen} {calls : List BindCall}
    (bare : ∀ stage ∈ screen.pipelines, stage.downstream = [])
    (faithful : ∀ call ∈ calls, call.components.IsFaithful) : (after screen calls).Kept screen := by
  have begins : (start screen).Kept screen :=
    ⟨Screen.linked_of_bare bare, fun shown isShown => by cases isShown⟩
  unfold after
  generalize start screen = h at begins
  induction calls generalizing h with
  | nil => exact begins
  | cons call rest ih =>
    have first := faithful call List.mem_cons_self
    exact ih (fun other member => faithful other (List.mem_cons_of_mem _ member)) _
      (begins.next first)

theorem Kept.repeats {screen : Screen} {h : History} (kept : h.Kept screen) {call : BindCall}
    (faithful : call.components.IsFaithful)
    (known : ∀ a ∈ (h.next call).attached, ∃ b ∈ h.attached,
      b.source.pipeline = a.source.pipeline ∧ b.chain = a.chain) :
    (h.next call).screen.pipelines.map Stage.converters =
      h.screen.pipelines.map Stage.converters := by
  have later := kept.next faithful
  have sources := later.linked.sources.trans kept.linked.sources.symm
  have lengths : (h.next call).screen.pipelines.length = h.screen.pipelines.length := by
    simpa using congrArg List.length sources
  have asked (pipeline : Nat) : ∀ chain,
      chain ∈ Attachment.prefixesAt (h.next call).attached pipeline ↔
        chain ∈ Attachment.prefixesAt h.attached pipeline := by
    intro chain
    rw [Attachment.mem_prefixesAt, Attachment.mem_prefixesAt]
    refine and_congr_right fun _ => ⟨?_, ?_⟩
    · rintro ⟨a, member, source, begins⟩
      obtain ⟨b, before, same, chains⟩ := known a member
      exact ⟨b, before, same.trans source, chains ▸ begins⟩
    · rintro ⟨a, member, source, begins⟩
      exact ⟨a, h.attached_subset_next call member, source, begins⟩
  refine List.ext_getElem (by simpa using lengths) fun pipeline inside before => ?_
  simp only [List.length_map] at inside before
  rw [List.getElem_map, List.getElem_map,
    later.linked.count (List.getElem?_eq_getElem inside),
    kept.linked.count (List.getElem?_eq_getElem before)]
  refine List.Perm.length_eq ?_
  refine (List.perm_ext_iff_of_nodup (List.nodup_dedup _) (List.nodup_dedup _)).mpr fun chain => ?_
  rw [List.mem_dedup, List.mem_dedup]
  exact asked pipeline chain

/-- A screen with a clock, and a fragment with three labels that read from it. -/
def clockScreen : Screen := (Screen.ofClass "Main").addSource "clock" "Clock"

def clockCall : BindCall where
  skin :=
    let convert (arguments : String) : Element :=
      { Element.ofTag "convert" with attributes := [("type", "Time")], text? := some arguments }
    let label (converts : List Element) : Element :=
      { Element.ofTag "widget" with
        attributes := [("source", "clock"), ("render", "Label")], children := converts }
    let root : Element := { Element.ofTag "screen" with
      children := [label [convert "Format", convert " Short "], label [convert "Format"],
        label [convert "Format", convert "Short"]] }
    .ofCatalog [] [("Main", ⟨root, ⟨"skins"⟩⟩)]
  components :=
    { Components.none with
      converter? := fun _ => some id
      renderer? := fun _ => some ⟨"Label", .initial, true⟩ }
  names := ["Main"]
  surface := 0

end History
end Skinning
