import Mathlib.Data.List.Forall2
import Skinning.Proofs.Visits

/-! What becomes of a single node. Of all nodes only those that show a source change a pipeline,
and only when they are bound without a fault. -/
namespace Skinning

namespace BindingStep

/-- From a binder a step comes to a result with one property or to a fault with another, each
together with the binder after it. -/
def Yields (step : BindingStep α) (b : Binder) (done : α → Binder → Prop)
    (failed : BindingFault → Binder → Prop) : Prop :=
  match step.run.run b with
  | (.ok a, after) => done a after
  | (.error fault, after) => failed fault after

namespace Yields

variable {b : Binder} {Q : α → Binder → Prop} {E : BindingFault → Binder → Prop}

theorem pure {a : α} (holds : Q a b) : (Pure.pure a : BindingStep α).Yields b Q E := holds

theorem throw {fault : BindingFault} (holds : E fault b) :
    (MonadExcept.throw fault : BindingStep α).Yields b Q E := holds

theorem bind {β : Type} {step : BindingStep β} {next : β → BindingStep α}
    {R : β → Binder → Prop} (first : step.Yields b R E)
    (rest : ∀ a after, R a after → (next a).Yields after Q E) :
    (step >>= next).Yields b Q E := by
  unfold Yields at first ⊢
  simp only [ExceptT.run_bind, StateT.run_bind]
  generalize step.run.run b = outcome at first ⊢
  obtain ⟨fault | a, after⟩ := outcome
  · exact first
  · exact rest a after first

theorem mono {R : α → Binder → Prop} {F : BindingFault → Binder → Prop}
    {step : BindingStep α} (yields : step.Yields b Q E)
    (results : ∀ a after, Q a after → R a after)
    (failures : ∀ fault after, E fault after → F fault after) :
    step.Yields b R F := by
  unfold Yields at yields ⊢
  split
  next same => exact results _ _ (by rwa [same] at yields)
  next same => exact failures _ _ (by rwa [same] at yields)

/-- A step that cannot fail. -/
theorem step {β : Type} {first : BindingStep β} {next : β → BindingStep α} {a : β}
    {c : Binder} (runs : first.run.run b = (.ok a, c))
    (rest : (next a).Yields c Q E) : (first >>= next).Yields b Q E :=
  .bind (R := fun found later => found = a ∧ later = c) (by simp [Yields, runs])
    (by rintro _ _ ⟨rfl, rfl⟩; exact rest)

theorem changeScreen {change : Screen → Screen} {Q : Unit → Binder → Prop}
    (holds : Q () { b with screen := change b.screen }) :
    (BindingStep.changeScreen change).Yields b Q E :=
  holds

theorem require {value? : Option α} {fault : BindingFault}
    (present : ∀ a, value? = some a → Q a b) (missing : E fault b) :
    (BindingStep.require value? fault).Yields b Q E := by
  cases value? with
  | some a => exact pure (present a rfl)
  | none => exact throw missing

theorem ofExcept {result : Except BindingFault α} (good : ∀ a, result = .ok a → Q a b)
    (bad : ∀ fault, E fault b) : (BindingStep.ofExcept result).Yields b Q E := by
  cases result with
  | ok a => exact pure (good a rfl)
  | error fault => exact throw (bad fault)

theorem check {fatal? : Option AttributeFault} {Q : Unit → Binder → Prop}
    (fine : Q () b) (missing : ∀ fault, E fault b) :
    (BindingStep.check fatal?).Yields b Q E := by
  cases fatal? with
  | none => exact pure fine
  | some fault => exact throw (missing _)

theorem dress {site : BindingSite} {ignored : List String} {node : Element} {className : String}
    {w : Widget} {Q : Widget × Option AttributeFault → Binder → Prop}
    (holds : ∀ result after, b.Quiet after → Q result after) :
    (BindingStep.dress site ignored node className w).Yields b Q E := by
  refine holds _ _ ⟨rfl, rfl, rfl, ?_⟩
  exact (List.prefix_append _ _).trans (List.prefix_append _ _)

end Yields

/-- What a `convert` node asks for. -/
def Asks (site : BindingSite) (node : Element) (request : ConverterRequest) : Prop :=
  node.filled? "type" = some request.kind ∧ request.arguments = converterArguments node ∧
    ∃ reported, site.components.converter? request.kind = some reported ∧
      request.reported = reported request.arguments

theorem converter_yields (site : BindingSite) (node : Element) (b : Binder) :
    (converter site node).Yields b (fun request after => after = b ∧ Asks site node request)
      fun _ after => after = b := by
  refine .bind (.require (Q := fun kind after => after = b ∧ node.filled? "type" = some kind)
    (fun kind typed => ⟨rfl, typed⟩) rfl) ?_
  rintro kind b ⟨rfl, typed⟩
  refine .bind (.require (Q := fun reported after => after = b ∧
    site.components.converter? kind = some reported) (fun reported known => ⟨rfl, known⟩) rfl) ?_
  rintro reported b ⟨rfl, known⟩
  exact .pure ⟨rfl, typed, rfl, reported, known, rfl⟩

theorem converters_yield (site : BindingSite) (nodes : List Element) (b : Binder) :
    (nodes.mapM (converter site)).Yields b
      (fun requests after => after = b ∧ List.Forall₂ (Asks site) nodes requests)
      fun _ after => after = b := by
  induction nodes with
  | nil => exact .pure ⟨rfl, .nil⟩
  | cons node rest ih =>
    rw [List.mapM_cons]
    refine .bind (converter_yields site node b) ?_
    rintro request _ ⟨rfl, asks⟩
    refine .bind ih ?_
    rintro requests _ ⟨rfl, others⟩
    exact .pure ⟨rfl, .cons asks others⟩

end BindingStep

open BindingStep Binder

namespace Binder

/-- A binder after one, with the same pipelines and renderers. -/
structure Unlinked (before after : Binder) : Prop where
  peer : after.screen.peer = before.screen.peer
  pipelines : after.screen.pipelines = before.screen.pipelines
  renderers : after.screen.renderers = before.screen.renderers
  notices : before.notices <+: after.notices

theorem Quiet.unlinked {before after : Binder} (quiet : before.Quiet after) :
    before.Unlinked after :=
  ⟨by rw [quiet.screen], by rw [quiet.screen], by rw [quiet.screen], quiet.notices⟩

theorem Quiet.trans {first second third : Binder} (before : first.Quiet second)
    (after : second.Quiet third) : first.Quiet third :=
  ⟨after.screen.trans before.screen, after.used.trans before.used,
    after.connections.trans before.connections, before.notices.trans after.notices⟩

theorem Quiet.refl (b : Binder) : b.Quiet b := ⟨rfl, rfl, rfl, List.prefix_rfl⟩

theorem Unlinked.refl (b : Binder) : b.Unlinked b := (Quiet.refl b).unlinked

theorem Unlinked.trans {first second third : Binder} (before : first.Unlinked second)
    (after : second.Unlinked third) : first.Unlinked third :=
  ⟨after.peer.trans before.peer, after.pipelines.trans before.pipelines,
    after.renderers.trans before.renderers, before.notices.trans after.notices⟩

/-- A binder after one in which a node that shows a source got its renderer. -/
structure Links (site : BindingSite) (node : Element) (path : String) (before after : Binder) :
    Prop where
  attaches : ∃ source kind component requests,
    (before.screen.peer.resolve site.fragment path).1 = .ok source ∧
      node.filled? "render" = some kind ∧
      List.Forall₂ (Asks site) (node.childrenNamed "convert") requests ∧
      after.screen = before.screen.attach kind component source requests
  notices : before.notices <+: after.notices

end Binder

namespace BindingStep

theorem bindSource_yields (site : BindingSite) (node : Element) (path : String) (b : Binder) :
    (bindSource site node path).Yields b (fun _ after => b.Links site node path after)
      fun _ after => b.Quiet after := by
  unfold bindSource
  refine .step (a := b) (c := b) rfl ?_
  generalize resolves : b.screen.peer.resolve site.fragment path = resolved
  obtain ⟨source, notices⟩ := resolved
  refine .step (c := b.note notices) rfl ?_
  refine .bind (.ofExcept (Q := fun found after => source = .ok found ∧ after = b.note notices)
    (fun found isSource => ⟨isSource, rfl⟩) fun _ => b.quiet_note notices) ?_
  rintro source _ ⟨rfl, rfl⟩
  refine .bind (.require (Q := fun kind after => node.filled? "render" = some kind ∧
    after = b.note notices) (fun kind named => ⟨named, rfl⟩) (b.quiet_note notices)) ?_
  rintro kind _ ⟨renders, rfl⟩
  refine .bind ((converters_yield site _ _).mono (fun _ _ => id)
    fun _ _ same => same ▸ b.quiet_note notices) ?_
  rintro requests _ ⟨rfl, asks⟩
  refine .bind (.require (Q := fun _ after => after = b.note notices) (fun _ _ => rfl)
    (b.quiet_note notices)) ?_
  rintro component _ rfl
  refine .bind (.dress (Q := fun _ after => b.Quiet after)
    fun _ _ quiet => (b.quiet_note notices).trans quiet) ?_
  rintro ⟨widget, fatal?⟩ after quiet
  refine .bind (.check (Q := fun _ later => later = after) rfl fun _ => quiet) ?_
  rintro _ _ rfl
  refine .changeScreen ⟨⟨source, kind, { component with widget }, requests, ?_, renders, asks, ?_⟩,
    quiet.notices⟩
  · rw [resolves]
  · rw [quiet.screen]

theorem dress_unlinked {site : BindingSite} {ignored : List String} {node : Element}
    {className : String} {w : Widget} {failed : BindingFault → Binder → Prop} {before b : Binder}
    (unlinked : before.Unlinked b) :
    (dress site ignored node className w).Yields b (fun _ after => before.Unlinked after) failed :=
  .dress fun _ _ quiet => unlinked.trans quiet.unlinked

/-- What nodes of other kinds change on a screen has nothing to do with pipelines. -/
theorem changeScreen_unlinked {change : Screen → Screen} {failed : BindingFault → Binder → Prop}
    {before b : Binder} (unlinked : before.Unlinked b)
    (apart : ∀ s, (change s).peer = s.peer ∧ (change s).pipelines = s.pipelines ∧
      (change s).renderers = s.renderers) :
    (changeScreen change).Yields b (fun _ after => before.Unlinked after) failed := by
  obtain ⟨peer, pipelines, renderers⟩ := apart b.screen
  exact .changeScreen ⟨peer.trans unlinked.peer, pipelines.trans unlinked.pipelines,
    renderers.trans unlinked.renderers, unlinked.notices⟩

theorem require_unlinked {value? : Option α} {fault : BindingFault} {before b : Binder}
    (unlinked : before.Unlinked b) :
    (require value? fault).Yields b (fun _ after => before.Unlinked after)
      fun _ after => before.Unlinked after :=
  .require (fun _ _ => unlinked) unlinked

theorem bindElement_yields (site : BindingSite) (node : Element) (name : String) (b : Binder) :
    (bindElement site node name).Yields b (fun _ after => b.Unlinked after)
      fun _ after => b.Unlinked after := by
  have used : b.Unlinked { b with used := name :: b.used } := ⟨rfl, rfl, rfl, List.prefix_rfl⟩
  unfold bindElement
  refine .step (c := { b with used := name :: b.used }) rfl (.step rfl ?_)
  refine .bind (require_unlinked used) fun component after unlinked => ?_
  refine .bind (dress_unlinked unlinked) fun dressed after unlinked => ?_
  refine .bind (changeScreen_unlinked unlinked fun _ => ⟨rfl, rfl, rfl⟩) fun _ after unlinked => ?_
  exact .check unlinked fun _ => unlinked

theorem bindAddon_yields (site : BindingSite) (node : Element) (kind : String) (b : Binder) :
    (bindAddon site node kind).Yields b (fun _ after => b.Unlinked after)
      fun _ after => b.Unlinked after := by
  unfold bindAddon
  refine .bind (require_unlinked (.refl b)) fun component after unlinked => ?_
  refine .bind (require_unlinked unlinked) fun target after unlinked => ?_
  refine .step (a := after) (c := after) rfl ?_
  dsimp only
  refine .step (c := { after with used := _ :: after.used }) rfl ?_
  refine .step (c := { after with used := _ :: after.used, connections := _ }) rfl ?_
  have named (name : String) (connections : List Connection) :
      b.Unlinked { after with used := name :: after.used, connections } :=
    ⟨unlinked.peer, unlinked.pipelines, unlinked.renderers, unlinked.notices⟩
  refine .bind (dress_unlinked (named _ _)) fun dressed after unlinked => ?_
  refine .bind (changeScreen_unlinked unlinked fun _ => ⟨rfl, rfl, rfl⟩) fun _ after unlinked => ?_
  exact .check unlinked fun _ => unlinked

theorem bindApplet_yields (site : BindingSite) (node : Element) (b : Binder) :
    (bindApplet site node).Yields b (fun _ after => b.Unlinked after)
      fun _ after => b.Unlinked after := by
  unfold bindApplet
  split
  · exact .throw (.refl b)
  · exact changeScreen_unlinked (.refl b) fun _ => ⟨rfl, rfl, rfl⟩
  · exact changeScreen_unlinked (.refl b) fun _ => ⟨rfl, rfl, rfl⟩
  · exact .throw (.refl b)

theorem bindDecoration_yields (site : BindingSite) (node : Element) (kind : DecorationKind)
    (b : Binder) :
    (bindDecoration site node kind).Yields b (fun _ after => b.Unlinked after)
      fun _ after => b.Unlinked after := by
  unfold bindDecoration
  refine .bind (dress_unlinked (.refl b)) fun dressed after unlinked => ?_
  refine .bind (.check (Q := fun _ later => b.Unlinked later) unlinked fun _ => unlinked) ?_
  intro _ after unlinked
  exact changeScreen_unlinked unlinked fun _ => ⟨rfl, rfl, rfl⟩

end BindingStep

namespace Element

/-- The path of the source that a widget node shows. -/
def shows? (node : Element) : Option String :=
  if node.tag = "widget" ∧ node.filled? "name" = none then node.filled? "source" else none

theorem shows?_of_tag_ne {node : Element} (other : node.tag ≠ "widget") : node.shows? = none := by
  simp [shows?, other]

end Element

namespace BindingStep

theorem bindWidget_yields {site : BindingSite} {node : Element} (isWidget : node.tag = "widget")
    (b : Binder) :
    (bindWidget site node).Yields b
      (fun _ after => match node.shows? with
        | some path => b.Links site node path after
        | none => b.Unlinked after)
      fun _ after => b.Unlinked after := by
  unfold bindWidget Element.shows?
  cases named : node.filled? "name" with
  | some name => simpa using bindElement_yields site node name b
  | none =>
    simp only [isWidget, and_self, if_true]
    cases source : node.filled? "source" with
    | some path =>
      exact (bindSource_yields site node path b).mono (fun _ _ => id) fun _ _ => Quiet.unlinked
    | none =>
      cases addon : node.filled? "addon" with
      | some kind => exact bindAddon_yields site node kind b
      | none => exact .throw (.refl b)

/-- A node that shows a source links it or changes nothing; no other node changes a pipeline. -/
theorem bindLeaf_yields (site : BindingSite) (node : Element) (b : Binder) :
    (bindLeaf site node).Yields b
      (fun _ after => match node.shows? with
        | some path => b.Links site node path after
        | none => b.Unlinked after)
      fun _ after => b.Unlinked after := by
  by_cases isWidget : node.tag = "widget"
  · simpa [bindLeaf, isWidget] using bindWidget_yields isWidget b
  · rw [Element.shows?_of_tag_ne isWidget]
    unfold bindLeaf
    split
    · contradiction
    · exact bindApplet_yields site node b
    · exact bindDecoration_yields site node .label b
    · exact bindDecoration_yields site node .pixmap b
    · exact .pure (.refl b)

end BindingStep

/-- What has been noted stays noted, whatever comes of a node. -/
theorem Binder.notices_attempt (site : BindingSite) (node : Element) (b : Binder) :
    b.notices <+: (b.attempt site node.tag (bindLeaf site node)).notices := by
  have yields := bindLeaf_yields site node b
  unfold Yields at yields
  unfold attempt
  generalize (bindLeaf site node).run.run b = outcome at yields ⊢
  obtain ⟨fault | ⟨⟩, after⟩ := outcome
  · have reported := (quiet_note after [.faultyNode site.fragment node.tag]).trans
      (quiet_note _ [.fault (.binding fault)])
    exact yields.notices.trans reported.notices
  · cases shows : node.shows? with
    | none =>
      rw [shows] at yields
      exact yields.notices
    | some path =>
      rw [shows] at yields
      exact yields.notices

end Skinning
