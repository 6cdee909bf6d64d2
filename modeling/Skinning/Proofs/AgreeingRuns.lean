import Skinning.Proofs.AddonNames

/-! Two runs of the same steps. They come to one outcome each time if the binders that they begin
with differ in nothing that a step looks at, and what a relation of such binders says is kept. -/
namespace Skinning

open Binder BindingStep

namespace BindingStep

/-- Two runs of steps come to one outcome, and to binders that are related. -/
def Agree (step other : BindingStep α) (b c : Binder) (kept : Binder → Binder → Prop) : Prop :=
  (step.run.run b).1 = (other.run.run c).1 ∧ kept (step.run.run b).2 (other.run.run c).2

namespace Agree

variable {b c : Binder} {kept : Binder → Binder → Prop}

theorem pure {a : α} (holds : kept b c) :
    Agree (Pure.pure a : BindingStep α) (Pure.pure a) b c kept := ⟨rfl, holds⟩

theorem throw {fault : BindingFault} (holds : kept b c) :
    Agree (MonadExcept.throw fault : BindingStep α) (MonadExcept.throw fault) b c kept :=
  ⟨rfl, holds⟩

theorem bind {β : Type} {step other : BindingStep β} {next nextOther : β → BindingStep α}
    (first : Agree step other b c kept)
    (rest : ∀ a later laterOther, kept later laterOther →
      Agree (next a) (nextOther a) later laterOther kept) :
    Agree (step >>= next) (other >>= nextOther) b c kept := by
  obtain ⟨same, holds⟩ := first
  unfold Agree
  simp only [ExceptT.run_bind, StateT.run_bind]
  generalize step.run.run b = outcome at same holds ⊢
  generalize other.run.run c = outcomeOther at same holds ⊢
  obtain ⟨result, later⟩ := outcome
  obtain ⟨resultOther, laterOther⟩ := outcomeOther
  obtain rfl : result = resultOther := same
  cases result with
  | error fault => exact ⟨rfl, holds⟩
  | ok a => exact rest a later laterOther holds

/-- Steps that cannot fail. -/
theorem step {β : Type} {first other : BindingStep β} {next nextOther : β → BindingStep α}
    {a d : β} {later laterOther : Binder} (runs : first.run.run b = (.ok a, later))
    (runsOther : other.run.run c = (.ok d, laterOther))
    (rest : Agree (next a) (nextOther d) later laterOther kept) :
    Agree (first >>= next) (other >>= nextOther) b c kept := by
  unfold Agree
  simp only [ExceptT.run_bind, StateT.run_bind, runs, runsOther]
  exact rest

theorem require {value? : Option α} {fault : BindingFault} (holds : kept b c) :
    Agree (BindingStep.require value? fault) (BindingStep.require value? fault) b c kept := by
  cases value? with
  | some a => exact .pure holds
  | none => exact .throw holds

theorem ofExcept {result : Except BindingFault α} (holds : kept b c) :
    Agree (BindingStep.ofExcept result) (BindingStep.ofExcept result) b c kept := by
  cases result with
  | ok a => exact .pure holds
  | error fault => exact .throw holds

theorem check {fatal? : Option AttributeFault} (holds : kept b c) :
    Agree (BindingStep.check fatal?) (BindingStep.check fatal?) b c kept := by
  cases fatal? with
  | none => exact .pure holds
  | some fault => exact .throw holds

/-- The same steps one after the other, for each item of a list. -/
theorem mapM {β : Type} {step : α → BindingStep β}
    (each : ∀ a b c, kept b c → Agree (step a) (step a) b c kept) (items : List α)
    (holds : kept b c) : Agree (items.mapM step) (items.mapM step) b c kept := by
  induction items generalizing b c with
  | nil => exact .pure holds
  | cons item rest ih =>
    rw [List.mapM_cons]
    refine .bind (each item b c holds) fun a b c holds => ?_
    exact .bind (ih holds) fun _ _ _ holds => .pure holds

end Agree
end BindingStep

/-- A screen in the frame of another one: with its window, and with the document that it brings
along. -/
def Screen.inFrame (s frame : Screen) : Screen :=
  { s with
    window := frame.window
    embedded? := frame.embedded?
    embeddedRoot? := frame.embeddedRoot? }

/-- A change to what is inside of the frame. -/
def Screen.IsInside (change : Screen → Screen) : Prop :=
  ∀ s frame, change (s.inFrame frame) = (change s).inFrame frame

theorem Screen.isInside_addElement (name : String) (component : Component) :
    IsInside (·.addElement name component) := fun _ _ => rfl

theorem Screen.isInside_attach (kind : String) (component : Component) (source : ResolvedSource)
    (requests : List ConverterRequest) : IsInside (·.attach kind component source requests) := by
  intro s frame
  have pipelines : (s.inFrame frame).pipelines = s.pipelines := rfl
  simp only [Screen.attach, pipelines]
  cases s.pipelines[source.pipeline]? <;> rfl

/-- A relation of two binders that have the same space and, but for its frame, the same screen. It
is kept if the same is done to both. -/
structure StepsKeep (kept : Binder → Binder → Prop) : Prop where
  space : ∀ {b c}, kept b c → c.space = b.space
  screen : ∀ {b c}, kept b c → ∃ frame, c.screen = b.screen.inFrame frame
  note : ∀ {b c}, kept b c → ∀ notices, kept (b.note notices) (c.note notices)
  withSpace : ∀ {b c}, kept b c → ∀ space, kept { b with space } { c with space }
  withScreen : ∀ {b c}, kept b c → ∀ {change}, Screen.IsInside change →
    kept { b with screen := change b.screen } { c with screen := change c.screen }
  use : ∀ {b c}, kept b c → ∀ name,
    kept { b with used := name :: b.used } { c with used := name :: c.used }
  connect : ∀ {b c}, kept b c → ∀ connection,
    kept { b with connections := b.connections ++ [connection] }
      { c with connections := c.connections ++ [connection] }

namespace StepsKeep

section

variable {kept : Binder → Binder → Prop} (keeps : StepsKeep kept) {b c : Binder} (holds : kept b c)
include keeps holds

theorem changeScreen {change : Screen → Screen} (isInside : Screen.IsInside change) :
    Agree (BindingStep.changeScreen change) (BindingStep.changeScreen change) b c kept :=
  ⟨rfl, keeps.withScreen holds isInside⟩

theorem admits (node : Element) : c.screen.admits node = b.screen.admits node := by
  obtain ⟨frame, screen⟩ := keeps.screen holds
  rw [screen]
  rfl

theorem dress (site : BindingSite) (ignored : List String) (node : Element) (className : String)
    (w : Widget) : Agree (BindingStep.dress site ignored node className w)
      (BindingStep.dress site ignored node className w) b c kept := by
  unfold BindingStep.dress
  refine .step rfl rfl ?_
  rw [keeps.space holds]
  have placed := keeps.withSpace holds (site.gather b.space ignored node).space
  refine .step rfl rfl (.step rfl rfl (.step rfl rfl (.pure ?_)))
  exact keeps.note (keeps.note placed _) _

theorem bindElement (site : BindingSite) (node : Element) (name : String) :
    Agree (BindingStep.bindElement site node name) (BindingStep.bindElement site node name) b c
      kept := by
  unfold BindingStep.bindElement
  refine .step rfl rfl (.step rfl rfl ?_)
  obtain ⟨frame, screen⟩ := keeps.screen (keeps.use holds name)
  dsimp only at screen
  rw [screen]
  refine .bind (.require (keeps.use holds name)) fun component b c holds => ?_
  refine .bind (keeps.dress holds _ _ _ _ _) fun dressed b c holds => ?_
  refine .bind (keeps.changeScreen holds (Screen.isInside_addElement _ _)) fun _ b c holds => ?_
  exact .check holds

theorem bindSource (site : BindingSite) (node : Element) (path : String) :
    Agree (BindingStep.bindSource site node path) (BindingStep.bindSource site node path) b c
      kept := by
  unfold BindingStep.bindSource
  refine .step rfl rfl ?_
  obtain ⟨frame, screen⟩ := keeps.screen holds
  rw [screen]
  refine .step rfl rfl ?_
  refine .bind (.ofExcept (keeps.note holds _)) fun source b c holds => ?_
  refine .bind (.require holds) fun kind b c holds => ?_
  refine .bind (.mapM (fun child b c holds => ?_) _ holds) fun requests b c holds => ?_
  · unfold converter
    refine .bind (.require holds) fun kind b c holds => ?_
    exact .bind (.require holds) fun reported b c holds => .pure holds
  refine .bind (.require holds) fun component b c holds => ?_
  refine .bind (keeps.dress holds _ _ _ _ _) fun dressed b c holds => ?_
  refine .bind (.check holds) fun _ b c holds => ?_
  exact keeps.changeScreen holds (Screen.isInside_attach _ _ _ _)

/-- A component is added under one name in both runs, if this is the name that both would make. -/
theorem bindAddon (site : BindingSite) (node : Element) (kind : String)
    (same : ∀ target, node.filled? "connection" = some target →
      (site.components.addon? kind).isSome →
      unusedName (site.lead kind target) c.used = unusedName (site.lead kind target) b.used) :
    Agree (BindingStep.bindAddon site node kind) (BindingStep.bindAddon site node kind) b c
      kept := by
  unfold BindingStep.bindAddon
  cases known : site.components.addon? kind with
  | none => exact ⟨rfl, holds⟩
  | some component =>
    cases connected : node.filled? "connection" with
    | none => exact ⟨rfl, holds⟩
    | some target =>
      have same := same target connected (by simp [known])
      unfold BindingSite.lead at same
      obtain ⟨frame, screen⟩ := keeps.screen holds
      refine .step rfl rfl (.step rfl rfl (.step rfl rfl ?_))
      dsimp only
      rw [same, screen]
      refine .step rfl rfl (.step rfl rfl ?_)
      refine .bind (keeps.dress (keeps.connect (keeps.use holds _) _) _ _ _ _ _)
        fun dressed b c holds => ?_
      refine .bind (keeps.changeScreen holds (Screen.isInside_addElement _ _)) fun _ b c holds => ?_
      exact .check holds

theorem bindApplet (site : BindingSite) (node : Element) :
    Agree (BindingStep.bindApplet site node) (BindingStep.bindApplet site node) b c kept := by
  unfold BindingStep.bindApplet
  split
  · exact .throw holds
  · exact keeps.changeScreen holds fun _ _ => rfl
  · exact keeps.changeScreen holds fun _ _ => rfl
  · exact .throw holds

theorem bindDecoration (site : BindingSite) (node : Element) (kind : DecorationKind) :
    Agree (BindingStep.bindDecoration site node kind) (BindingStep.bindDecoration site node kind)
      b c kept := by
  unfold BindingStep.bindDecoration
  refine .bind (keeps.dress holds _ _ _ _ _) fun dressed b c holds => ?_
  exact .bind (.check holds) fun _ b c holds => keeps.changeScreen holds fun _ _ => rfl

/-- A node that holds no others comes to one outcome in both runs, if it is given one name. -/
theorem bindLeaf (site : BindingSite) (node : Element)
    (made : site.makes? node c.used = site.makes? node b.used) :
    Agree (BindingStep.bindLeaf site node) (BindingStep.bindLeaf site node) b c kept := by
  by_cases isWidget : node.tag = "widget"
  · have leaf : BindingStep.bindLeaf site node = bindWidget site node := by
      simp [BindingStep.bindLeaf, isWidget]
    rw [leaf]
    unfold bindWidget
    cases named : node.filled? "name" with
    | some name => exact keeps.bindElement holds site node name
    | none =>
      cases sourced : node.filled? "source" with
      | some path => exact keeps.bindSource holds site node path
      | none =>
        cases added : node.filled? "addon" with
        | none => exact .throw holds
        | some kind =>
          refine keeps.bindAddon holds site node kind fun target connected known => ?_
          obtain ⟨component, known⟩ := Option.isSome_iff_exists.mp known
          have adds : node.adds? = some (kind, target) :=
            Element.adds?_eq_some_iff.mpr ⟨isWidget, named, sourced, added, connected⟩
          have makes (used : List String) :
              site.makes? node used = some (unusedName (site.lead kind target) used) :=
            site.makes?_eq_some_iff.mpr ⟨kind, target, component, adds, known, rfl⟩
          rw [makes, makes] at made
          exact Option.some.inj made
  · unfold BindingStep.bindLeaf
    split
    · contradiction
    · exact keeps.bindApplet holds site node
    · exact keeps.bindDecoration holds site node .label
    · exact keeps.bindDecoration holds site node .pixmap
    · exact .pure holds

end

/-- Both runs of a node end alike, with the same report or without one. -/
theorem attempt {kept : Binder → Binder → Prop} (keeps : StepsKeep kept) {b c : Binder}
    {step : BindingStep Unit} (site : BindingSite) (tag : String)
    (agree : Agree step step b c kept) : kept (b.attempt site tag step) (c.attempt site tag step) := by
  obtain ⟨same, holds⟩ := agree
  unfold Binder.attempt
  generalize step.run.run b = outcome at same holds ⊢
  generalize step.run.run c = outcomeOther at same holds ⊢
  obtain ⟨result, later⟩ := outcome
  obtain ⟨resultOther, laterOther⟩ := outcomeOther
  obtain rfl : result = resultOther := same
  cases result with
  | ok _ => exact holds
  | error fault => exact keeps.note (keeps.note holds _) _

/-- The walk of a root keeps what its steps keep, as long as both runs make the same names. -/
theorem inStep {kept : Binder → Binder → Prop} (keeps : StepsKeep kept) (site : BindingSite)
    {meets : Visit → Prop}
    (made : ∀ v c, kept v.binder c → v.binder.screen.admits v.node → meets v →
      site.makes? v.node c.used = site.makes? v.node v.binder.used) :
    InStep site meets kept where
  space _ _ holds := (keeps.space holds).symm
  admits _ _ node holds := (keeps.admits holds node).symm
  note _ _ notices holds := keeps.note holds notices
  withSpace _ _ space holds := keeps.withSpace holds space
  leaf v c holds admitted met :=
    keeps.attempt site v.node.tag (keeps.bindLeaf holds site v.node (made v c holds admitted met))

end StepsKeep
end Skinning
