import Skinning.Proofs.BoundNames

/-! Two bindings side by side. What a binding attaches depends on the names and classes of the
elements that it finds, on the sources and on nothing else that the screen has: two bindings of
one root to screens that agree in this stay in step, node by node. -/
namespace Skinning

open Binder BindingStep

namespace Screen

/-- Screens that show the same to a fragment: elements of the same names and kinds, and the same
sources, though not the same state of them. -/
structure Resembles (s t : Screen) : Prop where
  peer : s.peer = t.peer
  kinds : ∀ name, s.kindOf? name = t.kindOf? name
  sources : s.pipelines.map Stage.kind = t.pipelines.map Stage.kind

namespace Resembles

variable {s t : Screen} (same : s.Resembles t)
include same

/-- An element is on both screens or on none, and it is of one kind. -/
theorem element_cases (name : String) :
    (s.elements.get? name = none ∧ t.elements.get? name = none) ∨
    ∃ component other, s.elements.get? name = some component ∧
      t.elements.get? name = some other ∧ component.className = other.className ∧
      component.isGui = other.isGui := by
  have kinds := same.kinds name
  unfold kindOf? at kinds
  cases here : s.elements.get? name <;> cases there : t.elements.get? name <;>
    simp_all

theorem contains (name : String) : s.contains name = t.contains name := by
  rw [Screen.contains, Screen.contains, same.peer]
  rcases same.element_cases name with ⟨here, there⟩ | ⟨component, other, here, there, -⟩ <;>
    simp [Table.contains, here, there]

/-- A source is on both screens or on none, and it is of one kind. -/
theorem source_cases (pipeline : Nat) :
    (s.pipelines[pipeline]? = none ∧ t.pipelines[pipeline]? = none) ∨
    ∃ stage other, s.pipelines[pipeline]? = some stage ∧ t.pipelines[pipeline]? = some other ∧
      stage.kind = other.kind := by
  have kinds := congrArg (·[pipeline]?) same.sources
  simp only [List.getElem?_map] at kinds
  cases here : s.pipelines[pipeline]? <;> cases there : t.pipelines[pipeline]? <;>
    simp_all

theorem classOf? (name : String) : s.classOf? name = t.classOf? name := by
  unfold Screen.classOf? Screen.source?
  rcases same.element_cases name with ⟨here, there⟩ | ⟨component, other, here, there, className, -⟩
  · rw [here, there, same.peer]
    cases t.peer.sources.get? name with
    | none => rfl
    | some source =>
      cases source with
      | obsolete => rfl
      | live pipeline =>
        rcases same.source_cases pipeline with ⟨here, there⟩ | ⟨stage, other, here, there, kind⟩
        · simp [here, there]
        · simp [here, there, kind]
  · simp [here, there, className]

theorem admits (node : Element) : s.admits node = t.admits node := by
  have condition : s.meetsCondition node = t.meetsCondition node := by
    unfold meetsCondition
    simp only [same.contains]
  have types : s.meetsTypes node = t.meetsTypes node := by
    unfold meetsTypes
    simp only [same.classOf?]
  rw [Screen.admits, Screen.admits, condition, types]

theorem addElement (name : String) {component other : Component}
    (className : component.className = other.className) (isGui : component.isGui = other.isGui) :
    (s.addElement name component).Resembles (t.addElement name other) := by
  refine ⟨same.peer, fun name => ?_, same.sources⟩
  rw [kindOf?_addElement, kindOf?_addElement, className, isGui, same.kinds]

theorem attach (kind : String) (component : Component) (source : ResolvedSource)
    (requests : List ConverterRequest) :
    (s.attach kind component source requests).Resembles
      (t.attach kind component source requests) := by
  have apart (u : Screen) : (u.attach kind component source requests).peer = u.peer ∧
      (u.attach kind component source requests).elements = u.elements := by
    unfold Screen.attach
    split <;> exact ⟨rfl, rfl⟩
  refine ⟨?_, fun name => ?_, ?_⟩
  · rw [(apart s).1, (apart t).1, same.peer]
  · have kinds := same.kinds name
    unfold kindOf? at kinds ⊢
    rwa [(apart s).2, (apart t).2]
  · rw [attach_sources, attach_sources, same.sources]

end Resembles

/-- Screens with the same bound to them: renderers that show the same sources through the same
converters, and the same decorations and hooks. -/
structure ShowsLike (s t : Screen) : Prop where
  renderers : ∃ attached, List.Forall₂ s.Reads s.renderers attached ∧
    List.Forall₂ t.Reads t.renderers attached
  decorations : s.decorations = t.decorations
  finishHooks : s.finishHooks = t.finishHooks
  contentHooks : s.contentHooks = t.contentHooks

namespace ShowsLike

variable {s t u v : Screen}

/-- What is bound to screens changes in the same way if no renderer is added. -/
theorem congr (shows : s.ShowsLike t)
    (first : u.pipelines = s.pipelines ∧ u.renderers = s.renderers)
    (second : v.pipelines = t.pipelines ∧ v.renderers = t.renderers)
    (decorations : u.decorations = v.decorations) (finishHooks : u.finishHooks = v.finishHooks)
    (contentHooks : u.contentHooks = v.contentHooks) : u.ShowsLike v := by
  obtain ⟨attached, reads, readsOther⟩ := shows.renderers
  refine ⟨⟨attached, ?_, ?_⟩, decorations, finishHooks, contentHooks⟩
  · rw [first.2]
    exact reads.imp fun r a reads => reads.congr first.1
  · rw [second.2]
    exact readsOther.imp fun r a reads => reads.congr second.1

/-- One renderer behind the same converters of each screen. -/
theorem attach (shows : s.ShowsLike t) (same : s.Resembles t) {node : Element} {kind : String}
    (component : Component) (source : ResolvedSource) {requests : List ConverterRequest}
    (faithful : ∀ request ∈ requests, request.IsFaithful)
    (asked : requests.map ConverterRequest.asked = node.converterChain)
    (renders : node.filled? "render" = some kind) :
    (s.attach kind component source requests).ShowsLike
      (t.attach kind component source requests) := by
  rcases same.source_cases source.pipeline with ⟨here, there⟩ | ⟨stage, other, here, there, -⟩
  · rwa [Screen.attach, Screen.attach, here, there]
  · obtain ⟨attached, reads, readsOther⟩ := shows.renderers
    let a : Attachment := ⟨node, source⟩
    have grows {u : Screen} {stage : Stage} (found : u.pipelines[a.source.pipeline]? = some stage)
        (reads : List.Forall₂ u.Reads u.renderers attached) :
        List.Forall₂ (u.attach kind component source requests).Reads
          (u.attach kind component source requests).renderers (attached ++ [a]) := by
      rw [(attach_eq kind component requests found).2]
      refine List.rel_append (reads.imp fun r other reads => ?_) (.cons ?_ .nil)
      · exact reads.attach component found faithful
      · exact reads_attached component found faithful asked renders
    refine ⟨⟨attached ++ [a], grows here reads, grows there readsOther⟩, ?_, ?_, ?_⟩
    · simpa [Screen.attach, here, there] using shows.decorations
    · simpa [Screen.attach, here, there] using shows.finishHooks
    · simpa [Screen.attach, here, there] using shows.contentHooks

/-- The stages behind each renderer are the same. -/
theorem trails (shows : s.ShowsLike t) (same : s.Resembles t) :
    s.renderers.map (fun r => (r.kind, r.label, s.trail r)) =
      t.renderers.map fun r => (r.kind, r.label, t.trail r) := by
  obtain ⟨attached, reads, readsOther⟩ := shows.renderers
  generalize s.renderers = renderers at reads
  generalize t.renderers = others at readsOther
  induction reads generalizing others with
  | nil =>
    cases readsOther
    rfl
  | @cons r a _ _ first _ ih =>
    cases readsOther with
    | @cons q _ _ _ second rest =>
      have kind : r.kind = q.kind := Option.some.inj (first.render.symm.trans second.render)
      have pipeline := first.source.trans second.source.symm
      obtain ⟨stage, here, -, trail⟩ := first.input
      obtain ⟨other, there, -, trailOther⟩ := second.input
      have stages : stage.kind = other.kind := by
        rw [pipeline] at here
        rcases same.source_cases q.pipeline with ⟨none, -⟩ | ⟨_, _, found, foundOther, kinds⟩
        · simp [none] at here
        · obtain rfl : _ = stage := Option.some.inj (found.symm.trans here)
          obtain rfl : _ = other := Option.some.inj (foundOther.symm.trans there)
          exact kinds
      have trails : s.trail r = t.trail q := by
        rw [Screen.trail, Screen.trail, here, there]
        simp [trail, trailOther, stages]
      rw [List.map_cons, List.map_cons, ih _ rest, kind, trails, first.label, second.label]

end ShowsLike
end Screen

namespace BindingStep

/-- A step from two binders comes to results in both runs, or to faults in both. -/
def Pairs (step other : BindingStep α) (b c : Binder) (done : α → α → Binder → Binder → Prop)
    (failed : Binder → Binder → Prop) : Prop :=
  match step.run.run b, other.run.run c with
  | (.ok a, later), (.ok d, laterOther) => done a d later laterOther
  | (.error _, later), (.error _, laterOther) => failed later laterOther
  | _, _ => False

/-- What holds of the two binders in the end, whatever the outcomes. -/
def Ends (step other : BindingStep α) (b c : Binder) (kept : Binder → Binder → Prop) : Prop :=
  kept (step.run.run b).2 (other.run.run c).2

namespace Pairs

variable {b c : Binder} {Q : α → α → Binder → Binder → Prop} {E : Binder → Binder → Prop}

theorem pure {a d : α} (holds : Q a d b c) :
    Pairs (Pure.pure a : BindingStep α) (Pure.pure d) b c Q E := holds

theorem throw {fault other : BindingFault} (holds : E b c) :
    Pairs (MonadExcept.throw fault : BindingStep α) (MonadExcept.throw other) b c Q E := holds

theorem bind {β : Type} {step other : BindingStep β} {next nextOther : β → BindingStep α}
    {R : β → β → Binder → Binder → Prop} (first : Pairs step other b c R E)
    (rest : ∀ a d later laterOther, R a d later laterOther →
      Pairs (next a) (nextOther d) later laterOther Q E) :
    Pairs (step >>= next) (other >>= nextOther) b c Q E := by
  unfold Pairs at first ⊢
  simp only [ExceptT.run_bind, StateT.run_bind]
  generalize step.run.run b = outcome at first ⊢
  generalize other.run.run c = outcomeOther at first ⊢
  obtain ⟨fault | a, later⟩ := outcome <;> obtain ⟨faultOther | d, laterOther⟩ := outcomeOther
  · exact first
  · exact first.elim
  · exact first.elim
  · exact rest a d later laterOther first

/-- Steps that cannot fail. -/
theorem step {β : Type} {first firstOther : BindingStep β} {next nextOther : β → BindingStep α}
    {a d : β} {p q : Binder} (runs : first.run.run b = (.ok a, p))
    (runsOther : firstOther.run.run c = (.ok d, q))
    (rest : Pairs (next a) (nextOther d) p q Q E) :
    Pairs (first >>= next) (firstOther >>= nextOther) b c Q E := by
  refine .bind (R := fun x y later laterOther => x = a ∧ y = d ∧ later = p ∧ laterOther = q) ?_ ?_
  · simp [Pairs, runs, runsOther]
  · rintro _ _ _ _ ⟨rfl, rfl, rfl, rfl⟩
    exact rest

theorem changeScreen {change other : Screen → Screen} {Q : Unit → Unit → Binder → Binder → Prop}
    (holds : Q () () { b with screen := change b.screen }
      { c with screen := other c.screen }) :
    Pairs (BindingStep.changeScreen change) (BindingStep.changeScreen other) b c Q E := holds

theorem require {value? : Option α} {fault : BindingFault}
    (present : ∀ a, value? = some a → Q a a b c) (missing : E b c) :
    Pairs (BindingStep.require value? fault) (BindingStep.require value? fault) b c Q E := by
  cases value? with
  | some a => exact pure (present a rfl)
  | none => exact throw missing

theorem ofExcept {result : Except BindingFault α} (good : ∀ a, result = .ok a → Q a a b c)
    (bad : E b c) :
    Pairs (BindingStep.ofExcept result) (BindingStep.ofExcept result) b c Q E := by
  cases result with
  | ok a => exact pure (good a rfl)
  | error fault => exact throw bad

theorem check {fatal? : Option AttributeFault} {Q : Unit → Unit → Binder → Binder → Prop}
    (fine : Q () () b c) (missing : E b c) :
    Pairs (BindingStep.check fatal?) (BindingStep.check fatal?) b c Q E := by
  cases fatal? with
  | none => exact pure fine
  | some fault => exact throw missing

end Pairs

namespace Ends

variable {b c : Binder} {kept : Binder → Binder → Prop}

theorem of_pairs {step other : BindingStep α}
    (pairs : Pairs step other b c (fun _ _ => kept) kept) : Ends step other b c kept := by
  unfold Pairs at pairs
  unfold Ends
  generalize step.run.run b = outcome at pairs ⊢
  generalize other.run.run c = outcomeOther at pairs ⊢
  obtain ⟨fault | a, later⟩ := outcome <;> obtain ⟨faultOther | d, laterOther⟩ := outcomeOther
  · exact pairs
  · exact pairs.elim
  · exact pairs.elim
  · exact pairs

theorem bind {β : Type} {step other : BindingStep β} {next nextOther : β → BindingStep α}
    {R : β → β → Binder → Binder → Prop} (first : Pairs step other b c R kept)
    (rest : ∀ a d later laterOther, R a d later laterOther →
      Ends (next a) (nextOther d) later laterOther kept) :
    Ends (step >>= next) (other >>= nextOther) b c kept := by
  unfold Pairs at first
  unfold Ends
  simp only [ExceptT.run_bind, StateT.run_bind]
  generalize step.run.run b = outcome at first ⊢
  generalize other.run.run c = outcomeOther at first ⊢
  obtain ⟨fault | a, later⟩ := outcome <;> obtain ⟨faultOther | d, laterOther⟩ := outcomeOther
  · exact first
  · exact first.elim
  · exact first.elim
  · exact rest a d later laterOther first

theorem step {β : Type} {first firstOther : BindingStep β} {next nextOther : β → BindingStep α}
    {a d : β} {p q : Binder} (runs : first.run.run b = (.ok a, p))
    (runsOther : firstOther.run.run c = (.ok d, q))
    (rest : Ends (next a) (nextOther d) p q kept) :
    Ends (first >>= next) (firstOther >>= nextOther) b c kept := by
  refine .bind (R := fun x y later laterOther => x = a ∧ y = d ∧ later = p ∧ laterOther = q) ?_ ?_
  · simp [Pairs, runs, runsOther]
  · rintro _ _ _ _ ⟨rfl, rfl, rfl, rfl⟩
    exact rest

/-- A check at the end changes nothing, though one run may fail in it and the other not. -/
theorem check {fatal? other? : Option AttributeFault} (holds : kept b c) :
    Ends (BindingStep.check fatal?) (BindingStep.check other?) b c kept := by
  cases fatal? <;> cases other? <;> exact holds

end Ends
end BindingStep

namespace Binder

/-- An attempt adds no more to a step than its report. -/
theorem attempt_quiet (b : Binder) (site : BindingSite) (tag : String) (step : BindingStep Unit) :
    (step.run.run b).2.Quiet (b.attempt site tag step) ∧
      (b.attempt site tag step).space = (step.run.run b).2.space := by
  unfold attempt
  generalize step.run.run b = outcome
  obtain ⟨fault | ⟨⟩, after⟩ := outcome
  · exact ⟨(quiet_note after _).trans (quiet_note _ _), rfl⟩
  · exact ⟨.refl after, rfl⟩

/-- Binders of two bindings that are in step. -/
structure Twins (b c : Binder) : Prop where
  space : b.space = c.space
  used : b.used = c.used
  screen : b.screen.Resembles c.screen
  shows : b.screen.ShowsLike c.screen

namespace Twins

section

variable {b c : Binder} (twins : b.Twins c)
include twins

theorem quiet {later laterOther : Binder} (quiet : b.Quiet later) (quietOther : c.Quiet laterOther)
    (space : later.space = laterOther.space) : later.Twins laterOther := by
  refine ⟨space, ?_, ?_, ?_⟩
  · rw [quiet.used, quietOther.used, twins.used]
  · rw [quiet.screen, quietOther.screen]
    exact twins.screen
  · rw [quiet.screen, quietOther.screen]
    exact twins.shows

theorem note (notices more : Notices) : (b.note notices).Twins (c.note more) :=
  twins.quiet (b.quiet_note notices) (c.quiet_note more) twins.space

theorem withSpace (space : Space) : Twins { b with space } { c with space } :=
  twins.quiet (b.quiet_space space) (c.quiet_space space) rfl

theorem use (name : String) :
    Twins { b with used := name :: b.used } { c with used := name :: c.used } :=
  ⟨twins.space, congrArg (name :: ·) twins.used, twins.screen, twins.shows⟩

/-- The screens change, but not so that they could be told from each other. -/
theorem withScreens {s t : Screen} (screen : s.Resembles t) (shows : s.ShowsLike t) :
    Twins { b with screen := s } { c with screen := t } :=
  ⟨twins.space, twins.used, screen, shows⟩

theorem addElement (name : String) {component other : Component}
    (className : component.className = other.className) (isGui : component.isGui = other.isGui) :
    Twins { b with screen := b.screen.addElement name component }
      { c with screen := c.screen.addElement name other } := by
  refine twins.withScreens (twins.screen.addElement name className isGui) ?_
  obtain ⟨-, decorations, finishHooks, contentHooks⟩ := twins.shows
  exact twins.shows.congr ⟨rfl, rfl⟩ ⟨rfl, rfl⟩ decorations finishHooks contentHooks

theorem addDecoration (decoration : Decoration) :
    Twins { b with screen := b.screen.addDecoration decoration }
      { c with screen := c.screen.addDecoration decoration } := by
  refine twins.withScreens ⟨twins.screen.peer, twins.screen.kinds, twins.screen.sources⟩ ?_
  obtain ⟨-, decorations, finishHooks, contentHooks⟩ := twins.shows
  have extended := congrArg (· ++ [decoration]) decorations
  exact twins.shows.congr ⟨rfl, rfl⟩ ⟨rfl, rfl⟩ extended finishHooks contentHooks

theorem addFinishHook (hook : String) :
    Twins { b with screen := b.screen.addFinishHook hook }
      { c with screen := c.screen.addFinishHook hook } := by
  refine twins.withScreens ⟨twins.screen.peer, twins.screen.kinds, twins.screen.sources⟩ ?_
  obtain ⟨-, decorations, finishHooks, contentHooks⟩ := twins.shows
  have extended := congrArg (· ++ [hook]) finishHooks
  exact twins.shows.congr ⟨rfl, rfl⟩ ⟨rfl, rfl⟩ decorations extended contentHooks

theorem addContentHook (hook : String) :
    Twins { b with screen := b.screen.addContentHook hook }
      { c with screen := c.screen.addContentHook hook } := by
  refine twins.withScreens ⟨twins.screen.peer, twins.screen.kinds, twins.screen.sources⟩ ?_
  obtain ⟨-, decorations, finishHooks, contentHooks⟩ := twins.shows
  have extended := congrArg (· ++ [hook]) contentHooks
  exact twins.shows.congr ⟨rfl, rfl⟩ ⟨rfl, rfl⟩ decorations finishHooks extended

/-- A node is dressed alike in both runs, and in the same way if the widgets are the same. -/
theorem dress {site : BindingSite} {ignored : List String} {node : Element} {className : String}
    {w v : Widget} {failed : Binder → Binder → Prop} :
    Pairs (BindingStep.dress site ignored node className w)
      (BindingStep.dress site ignored node className v) b c
      (fun result other later laterOther => (w = v → result = other) ∧ later.Twins laterOther)
      failed := by
  have gathers := congrArg (site.gather · ignored node) twins.space
  refine ⟨?_, twins.quiet ⟨rfl, rfl, rfl, ?_⟩ ⟨rfl, rfl, rfl, ?_⟩ ?_⟩
  · rintro rfl
    exact congrArg (fun gathered =>
      let applied := site.attributes.applyAll className w gathered.batch
      (applied.widget, applied.fatal?)) gathers
  · exact (List.prefix_append _ _).trans (List.prefix_append _ _)
  · exact (List.prefix_append _ _).trans (List.prefix_append _ _)
  · exact congrArg Gathered.space gathers

theorem attach {kind : String} (component : Component) (source : ResolvedSource)
    {requests : List ConverterRequest} {node : Element}
    (faithful : ∀ request ∈ requests, request.IsFaithful)
    (asked : requests.map ConverterRequest.asked = node.converterChain)
    (renders : node.filled? "render" = some kind) :
    Twins { b with screen := b.screen.attach kind component source requests }
      { c with screen := c.screen.attach kind component source requests } :=
  twins.withScreens (twins.screen.attach kind component source requests)
    (twins.shows.attach twins.screen component source faithful asked renders)

end

/-- Both runs of a node end alike, with a report or without one. -/
theorem attempt {b c : Binder} {site : BindingSite} {tag : String} {step other : BindingStep Unit}
    (ends : Ends step other b c Twins) :
    (b.attempt site tag step).Twins (c.attempt site tag other) := by
  obtain ⟨quiet, space⟩ := attempt_quiet b site tag step
  obtain ⟨quietOther, spaceOther⟩ := attempt_quiet c site tag other
  refine Twins.quiet ends quiet quietOther ?_
  rw [space, spaceOther]
  exact Twins.space ends

end Twins
end Binder

namespace BindingStep

section

variable {b c : Binder} (twins : b.Twins c)
include twins

theorem converter_twins (site : BindingSite) (node : Element) :
    Pairs (converter site node) (converter site node) b c
      (fun request other later laterOther => request = other ∧ Asks site node request ∧
        later.Twins laterOther) Twins := by
  refine .bind (.require (Q := fun kind other later laterOther => kind = other ∧
    node.filled? "type" = some kind ∧ later.Twins laterOther)
    (fun kind typed => ⟨rfl, typed, twins⟩) twins) ?_
  rintro kind _ b c ⟨rfl, typed, twins⟩
  refine .bind (.require (Q := fun reported other later laterOther => reported = other ∧
    site.components.converter? kind = some reported ∧ later.Twins laterOther)
    (fun reported known => ⟨rfl, known, twins⟩) twins) ?_
  rintro reported _ b c ⟨rfl, known, twins⟩
  exact .pure ⟨rfl, ⟨typed, rfl, reported, known, rfl⟩, twins⟩

theorem converters_twins (site : BindingSite) (nodes : List Element) :
    Pairs (nodes.mapM (converter site)) (nodes.mapM (converter site)) b c
      (fun requests others later laterOther => requests = others ∧
        List.Forall₂ (Asks site) nodes requests ∧ later.Twins laterOther) Twins := by
  induction nodes generalizing b c with
  | nil => exact .pure ⟨rfl, .nil, twins⟩
  | cons node rest ih =>
    rw [List.mapM_cons]
    refine .bind (converter_twins twins site node) ?_
    rintro request _ b c ⟨rfl, asks, twins⟩
    refine .bind (ih twins) ?_
    rintro requests _ b c ⟨rfl, others, twins⟩
    exact .pure ⟨rfl, .cons asks others, twins⟩

theorem bindElement_twins (site : BindingSite) (node : Element) (name : String) :
    Ends (bindElement site node name) (bindElement site node name) b c Twins := by
  unfold bindElement
  refine .step rfl rfl (.step rfl rfl ?_)
  refine .bind (R := fun component other later laterOther =>
    component.className = other.className ∧ component.isGui = other.isGui ∧
      later.Twins laterOther) ?_ ?_
  · dsimp only
    rcases twins.screen.element_cases name with
      ⟨here, there⟩ | ⟨component, other, here, there, className, isGui⟩
    · rw [here, there]
      exact .throw (twins.use name)
    · rw [here, there]
      exact .pure ⟨className, isGui, twins.use name⟩
  -- The widgets that are dressed may be different already, and so is what is missing then.
  rintro component other b c ⟨className, isGui, twins⟩
  rw [className]
  refine .bind twins.dress ?_
  rintro ⟨widget, fatal?⟩ ⟨widgetOther, fatalOther?⟩ b c ⟨-, twins⟩
  refine .bind (R := fun _ _ => Twins) (.changeScreen (twins.addElement name rfl isGui)) ?_
  exact fun _ _ b c twins => .check twins

theorem bindSource_twins {site : BindingSite} (faithful : site.components.IsFaithful)
    (node : Element) (path : String) :
    Pairs (bindSource site node path) (bindSource site node path) b c (fun _ _ => Twins) Twins := by
  unfold bindSource
  refine .step (p := b) (q := c) rfl rfl ?_
  rw [← twins.screen.peer]
  generalize b.screen.peer.resolve site.fragment path = resolved
  obtain ⟨source, notices⟩ := resolved
  refine .step rfl rfl ?_
  have noted := twins.note notices notices
  refine .bind (.ofExcept (Q := fun source other later laterOther => source = other ∧
    later.Twins laterOther) (fun source _ => ⟨rfl, noted⟩) noted) ?_
  rintro source _ b c ⟨rfl, twins⟩
  refine .bind (.require (Q := fun kind other later laterOther => kind = other ∧
    node.filled? "render" = some kind ∧ later.Twins laterOther)
    (fun kind renders => ⟨rfl, renders, twins⟩) twins) ?_
  rintro kind _ b c ⟨rfl, renders, twins⟩
  refine .bind (converters_twins twins site _) ?_
  rintro requests _ b c ⟨rfl, asks, twins⟩
  refine .bind (.require (Q := fun component other later laterOther => component = other ∧
    later.Twins laterOther) (fun component _ => ⟨rfl, twins⟩) twins) ?_
  rintro component _ b c ⟨rfl, twins⟩
  refine .bind twins.dress ?_
  rintro ⟨widget, fatal?⟩ dressed b c ⟨same, twins⟩
  obtain rfl := same rfl
  refine .bind (.check (Q := fun _ _ => Twins) twins twins) ?_
  intro _ _ b c twins
  exact .changeScreen (twins.attach _ source (faithful_of_asks faithful asks)
    (asked_of_asks asks) renders)

theorem bindAddon_twins (site : BindingSite) (node : Element) (kind : String) :
    Ends (bindAddon site node kind) (bindAddon site node kind) b c Twins := by
  unfold bindAddon
  refine .bind (.require (Q := fun component other later laterOther => component = other ∧
    later.Twins laterOther) (fun component _ => ⟨rfl, twins⟩) twins) ?_
  rintro component _ b c ⟨rfl, twins⟩
  refine .bind (.require (Q := fun target other later laterOther => target = other ∧
    later.Twins laterOther) (fun target _ => ⟨rfl, twins⟩) twins) ?_
  rintro target _ b c ⟨rfl, twins⟩
  refine .step rfl rfl ?_
  dsimp only
  rw [← twins.used]
  generalize unusedName _ b.used = name
  refine .step rfl rfl (.step rfl rfl ?_)
  have named := twins.use name
  have connected (connections others : List Connection) :
      Twins { b with used := name :: b.used, connections }
        { c with used := name :: c.used, connections := others } :=
    ⟨named.space, named.used, named.screen, named.shows⟩
  refine .bind (connected _ _).dress ?_
  rintro ⟨widget, fatal?⟩ dressed b c ⟨same, twins⟩
  obtain rfl := same rfl
  refine .bind (R := fun _ _ => Twins) (.changeScreen (twins.addElement name rfl rfl)) ?_
  exact fun _ _ b c twins => .check twins

theorem bindApplet_twins (site : BindingSite) (node : Element) :
    Pairs (bindApplet site node) (bindApplet site node) b c (fun _ _ => Twins) Twins := by
  unfold bindApplet
  split
  · exact .throw twins
  next hook _ _ => exact .changeScreen (twins.addFinishHook hook)
  next hook _ _ => exact .changeScreen (twins.addContentHook hook)
  · exact .throw twins

theorem bindDecoration_twins (site : BindingSite) (node : Element) (kind : DecorationKind) :
    Pairs (bindDecoration site node kind) (bindDecoration site node kind) b c
      (fun _ _ => Twins) Twins := by
  unfold bindDecoration
  refine .bind twins.dress ?_
  rintro ⟨widget, fatal?⟩ dressed b c ⟨same, twins⟩
  obtain rfl := same rfl
  refine .bind (.check (Q := fun _ _ => Twins) twins twins) ?_
  intro _ _ b c twins
  exact .changeScreen (twins.addDecoration ⟨kind, widget⟩)

theorem bindWidget_twins {site : BindingSite} (faithful : site.components.IsFaithful)
    (node : Element) : Ends (bindWidget site node) (bindWidget site node) b c Twins := by
  unfold bindWidget
  cases node.filled? "name" with
  | some name => exact bindElement_twins twins site node name
  | none =>
    cases node.filled? "source" with
    | some path => exact .of_pairs (bindSource_twins twins faithful node path)
    | none =>
      cases node.filled? "addon" with
      | some kind => exact bindAddon_twins twins site node kind
      | none => exact .of_pairs (.throw twins)

/-- A node that holds no others keeps two bindings in step. -/
theorem bindLeaf_twins {site : BindingSite} (faithful : site.components.IsFaithful)
    (node : Element) : Ends (bindLeaf site node) (bindLeaf site node) b c Twins := by
  unfold bindLeaf
  split
  · exact bindWidget_twins twins faithful node
  · exact .of_pairs (bindApplet_twins twins site node)
  · exact .of_pairs (bindDecoration_twins twins site node .label)
  · exact .of_pairs (bindDecoration_twins twins site node .pixmap)
  · exact .of_pairs (.pure twins)

end
end BindingStep

namespace Binder.Twins

/-- Two bindings stay in step, node by node. -/
theorem inStep {site : BindingSite} (faithful : site.components.IsFaithful) :
    InStep site (fun _ => True) Twins where
  space _ _ twins := twins.space
  admits _ _ node twins := twins.screen.admits node
  note _ _ notices twins := twins.note notices notices
  withSpace _ _ space twins := twins.withSpace space
  leaf v _ twins _ _ := attempt (bindLeaf_twins twins faithful v.node)

theorem bindRoot {site : BindingSite} {b c : Binder} (faithful : site.components.IsFaithful)
    (twins : b.Twins c) (root : Element) :
    (b.bindRoot site root).Twins (c.bindRoot site root) :=
  (inStep faithful).bindRoot twins root fun _ _ => trivial

end Binder.Twins
end Skinning
