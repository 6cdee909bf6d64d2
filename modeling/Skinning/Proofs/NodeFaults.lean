import Skinning.Proofs.Rebinding
import Skinning.Proofs.SourceResolution

/-! How a node comes to a fault, said once. Where something that it asks for is not there, a node
fails before it changes the screen or the space. A missing image is found later, when a widget is
dressed. Renderers and decorations are not attached then, but a component that a node adds comes
to the screen all the same. -/
namespace Skinning

open Binder BindingStep

/-- A missing image ends the construction of what it is for. -/
def BindingFault.isMissingImage : BindingFault → Bool
  | .ofAttribute fault => fault.isFatal
  | _ => false

namespace AttributeSite

variable {site : AttributeSite} {className : String} {fault : AttributeFault}

theorem isFatal_of_applyOne {w : Widget} {name : String} {value : AttributeValue}
    (ends : (site.applyOne className w name value).fatal? = some fault) : fault.isFatal := by
  unfold applyOne at ends
  dsimp only at ends
  split at ends
  · cases ends
  · cases ends
  next found _ _ =>
    split at ends
    next isFatal => exact Option.some.inj ends ▸ isFatal
    · cases ends

theorem isFatal_of_applyList {w : Widget} {batch : Batch}
    (ends : (site.applyList className w batch).fatal? = some fault) : fault.isFatal := by
  induction batch generalizing w with
  | nil => cases ends
  | cons entry rest ih =>
    rw [applyList] at ends
    dsimp only at ends
    split at ends
    · exact isFatal_of_applyOne ends
    · exact ih ends

/-- Nothing but a missing image ends the application of a batch. -/
theorem isFatal_of_applyAll {w : Widget} {batch : Batch}
    (ends : (site.applyAll className w batch).fatal? = some fault) : fault.isFatal :=
  isFatal_of_applyList ends

end AttributeSite

theorem Notices.faults_append (notices more : Notices) :
    (notices ++ more).faults = notices.faults ++ more.faults :=
  List.filterMap_append

/-- A search for a source writes to the log, but it does not report anything. -/
theorem Peer.Searches.silent {p : Peer} {fragment path : String} {seen : List String}
    {result : Except BindingFault ResolvedSource × Notices}
    (searches : p.Searches fragment seen path result) : result.2.faults = [] := by
  have obsolete (path replacement date : String) (description? : Option String) :
      (obsoleteNotices fragment path replacement date description?).faults = [] := by
    cases description? <;> rfl
  induction searches with
  | source | noScreen | noSource => rfl
  | again => exact obsolete _ _ _ _
  | replaced _ _ _ ih =>
    rw [Notices.faults_append]
    exact List.append_eq_nil_iff.mpr ⟨obsolete _ _ _ _, ih⟩

theorem Peer.Searches.isMissingImage {p : Peer} {fragment path : String} {seen : List String}
    {result : Except BindingFault ResolvedSource × Notices} {fault : BindingFault}
    (searches : p.Searches fragment seen path result) (fails : result.1 = .error fault) :
    fault.isMissingImage = false := by
  induction searches with
  | source => cases fails
  | noScreen | noSource | again =>
    cases fails
    rfl
  | replaced _ _ _ ih => exact ih fails

theorem Element.adds?_eq_some_iff {node : Element} {kind target : String} :
    node.adds? = some (kind, target) ↔ node.tag = "widget" ∧ node.filled? "name" = none ∧
      node.filled? "source" = none ∧ node.filled? "addon" = some kind ∧
      node.filled? "connection" = some target := by
  constructor
  · intro adds
    obtain ⟨⟨isWidget, unnamed, sourceless⟩, rest⟩ := Option.ite_none_right_eq_some.mp adds
    obtain ⟨_, added, rest⟩ := Option.bind_eq_some_iff.mp rest
    obtain ⟨_, connected, same⟩ := Option.map_eq_some_iff.mp rest
    obtain ⟨rfl, rfl⟩ := Prod.mk.inj same
    exact ⟨isWidget, unnamed, sourceless, added, connected⟩
  · rintro ⟨isWidget, unnamed, sourceless, added, connected⟩
    simp [adds?, isWidget, unnamed, sourceless, added, connected]

/-- A widget in the attributes of a node, as far as they can be applied. -/
def BindingSite.dressed (site : BindingSite) (space : Space) (ignored : List String)
    (node : Element) (className : String) (w : Widget) : Applied :=
  site.attributes.applyAll className w (site.gather space ignored node).batch

/-- What comes before the number in the name of a component that is added. -/
def BindingSite.lead (site : BindingSite) (kind target : String) : String :=
  site.fragment ++ "_" ++ kind ++ "_" ++ target ++ "_"

/-- A component in the attributes of a node that adds it. -/
def BindingSite.addition (site : BindingSite) (space : Space) (node : Element)
    (component : Component) : Component :=
  { component with
    widget := (site.dressed space ["addon", "connection"] node component.className
      component.widget).widget }

/-- A binder after a node that nothing came of: there is more in the log, and a name in use. -/
def Binder.passOver (b : Binder) (taken? : Option String) (notices : Notices) : Binder :=
  { b with used := taken?.toList ++ b.used, notices := b.notices ++ notices }

namespace BindingSite

/-- How binding a node fails, and the binder after it. -/
inductive Fails (site : BindingSite) (node : Element) (b : Binder) :
    BindingFault → Binder → Prop
  /-- Something that the node asks for is not there. If it was for an element by its name, that
  element is not there. -/
  | lacking {fault : BindingFault} {notices : Notices} (other : fault.isMissingImage = false)
      (silent : notices.faults = [])
      (missing : ∀ name, node.dresses? = some name → b.screen.elements.get? name = none) :
      site.Fails node b fault (b.passOver node.dresses? notices)
  /-- An image is missing for an element of the screen, which has been dressed up to there. -/
  | undressed {fault : AttributeFault} {after : Binder} {name : String} {component : Component}
      (isFatal : fault.isFatal) (dresses : node.dresses? = some name)
      (found : b.screen.elements.get? name = some component)
      (screen : after.screen = b.screen.addElement name { component with
        widget := (site.dressed b.space ["name"] node component.className
          component.widget).widget }) :
      site.Fails node b (.ofAttribute fault) after
  /-- An image is missing for a component that the node adds. -/
  | added {fault : AttributeFault} {after : Binder} {kind target : String} {component : Component}
      (isFatal : fault.isFatal) (adds : node.adds? = some (kind, target))
      (known : site.components.addon? kind = some component)
      (screen : after.screen = b.screen.addElement
        (unusedName (site.lead kind target) b.used) (site.addition b.space node component)) :
      site.Fails node b (.ofAttribute fault) after
  /-- An image is missing for a renderer or for a decoration. -/
  | unattached {fault : AttributeFault} {after : Binder} (isFatal : fault.isFatal)
      (undressing : node.dresses? = none) (unadding : node.adds? = none) (quiet : b.Quiet after) :
      site.Fails node b (.ofAttribute fault) after

/-- A node that dresses no element may leave something in the log. -/
theorem Fails.of_undressing {site : BindingSite} {node : Element} {b : Binder}
    {fault : BindingFault} {notices : Notices} (undressing : node.dresses? = none)
    (other : fault.isMissingImage = false) (silent : notices.faults = []) :
    site.Fails node b fault (b.note notices) := by
  have fails : site.Fails node b fault (b.passOver node.dresses? notices) :=
    .lacking other silent (by simp [undressing])
  rwa [undressing] at fails

/-- A node that dresses no element may fail at once. -/
theorem Fails.at_once {site : BindingSite} {node : Element} {b : Binder} {fault : BindingFault}
    (undressing : node.dresses? = none) (other : fault.isMissingImage = false) :
    site.Fails node b fault b := by
  have fails : site.Fails node b fault (b.note []) := .of_undressing undressing other rfl
  rwa [Binder.note, List.append_nil] at fails

end BindingSite

namespace BindingStep

namespace Yields

variable {b : Binder} {Q : α → Binder → Prop} {E : BindingFault → Binder → Prop}

theorem require_cases {value? : Option α} {fault : BindingFault}
    (present : ∀ a, value? = some a → Q a b) (missing : value? = none → E fault b) :
    (BindingStep.require value? fault).Yields b Q E := by
  cases value? with
  | some a => exact pure (present a rfl)
  | none => exact throw (missing rfl)

theorem require_still {value? : Option α} {fault : BindingFault} (missing : E fault b) :
    (BindingStep.require value? fault).Yields b (fun _ after => after = b) E :=
  .require (fun _ _ => rfl) missing

theorem ofExcept_cases {result : Except BindingFault α} (good : ∀ a, result = .ok a → Q a b)
    (bad : ∀ fault, result = .error fault → E fault b) :
    (BindingStep.ofExcept result).Yields b Q E := by
  cases result with
  | ok a => exact pure (good a rfl)
  | error fault => exact throw (bad fault rfl)

theorem check_cases {fatal? : Option AttributeFault} {Q : Unit → Binder → Prop} (fine : Q () b)
    (missing : ∀ fault, fatal? = some fault → E (.ofAttribute fault) b) :
    (BindingStep.check fatal?).Yields b Q E := by
  cases fatal? with
  | none => exact pure fine
  | some fault => exact throw (missing fault rfl)

/-- A widget is dressed, up to a missing image at most; only the space and the log are different
then. -/
theorem dress_done {site : BindingSite} {ignored : List String} {node : Element}
    {className : String} {w : Widget} {E : BindingFault → Binder → Prop} :
    (BindingStep.dress site ignored node className w).Yields b (fun result after =>
      b.Quiet after ∧ result.1 = (site.dressed b.space ignored node className w).widget ∧
        ∀ fault, result.2 = some fault → fault.isFatal) E := by
  refine ⟨⟨rfl, rfl, rfl, ?_⟩, rfl, fun fault => AttributeSite.isFatal_of_applyAll⟩
  exact (List.prefix_append _ _).trans (List.prefix_append _ _)

/-- Steps that change nothing, one for each item of a list. -/
theorem mapM_still {β : Type} {step : α → BindingStep β}
    (each : ∀ a, (step a).Yields b (fun _ after => after = b) E) (items : List α) :
    (items.mapM step).Yields b (fun _ after => after = b) E := by
  induction items with
  | nil => exact .pure rfl
  | cons item rest ih =>
    rw [List.mapM_cons]
    refine .bind (each item) ?_
    rintro _ _ rfl
    refine .bind ih ?_
    rintro _ _ rfl
    exact .pure rfl

end Yields

section

variable (site : BindingSite) (node : Element) (b : Binder)

theorem bindElement_fails {name : String} (dresses : node.dresses? = some name) :
    (bindElement site node name).Yields b (fun _ _ => True) (site.Fails node b) := by
  let named : Binder := { b with used := name :: b.used }
  unfold bindElement
  refine .step (c := named) rfl (.step (a := named) (c := named) rfl ?_)
  refine .bind (.require_cases (Q := fun component after =>
    b.screen.elements.get? name = some component ∧ after = named) ?_ ?_) ?_
  · intro component found
    exact ⟨found, rfl⟩
  · intro lost
    have skipped : b.passOver node.dresses? [] = named := by simp [passOver, dresses, named]
    rw [← skipped]
    refine .lacking rfl rfl fun other same => ?_
    obtain rfl : name = other := Option.some.inj (dresses.symm.trans same)
    exact lost
  rintro component _ ⟨found, rfl⟩
  refine .bind .dress_done ?_
  rintro ⟨widget, fatal?⟩ after ⟨quiet, rfl, fatal⟩
  refine .bind (.changeScreen (Q := fun _ later => later.screen = _) rfl) ?_
  intro _ later screen
  refine .check_cases trivial fun fault missing => ?_
  refine .undressed (fatal fault missing) dresses found ?_
  rw [screen, quiet.screen]

/-- A node is dressed before anything is attached for it. -/
theorem attach_fails {before : Binder} (undressing : node.dresses? = none)
    (unadding : node.adds? = none) (quiet : before.Quiet b) (ignored : List String)
    (className : String) (w : Widget) (change : Widget → Screen → Screen) :
    (do
      let (widget, fatal?) ← dress site ignored node className w
      check fatal?
      changeScreen (change widget)).Yields b (fun _ _ => True) (site.Fails node before) := by
  refine .bind .dress_done ?_
  rintro ⟨widget, fatal?⟩ after ⟨dressed, -, fatal⟩
  refine .bind (.check_cases (Q := fun _ _ => True) trivial fun fault missing => ?_) ?_
  · exact .unattached (fatal fault missing) undressing unadding (quiet.trans dressed)
  · exact fun _ _ _ => .changeScreen trivial

variable {node}

theorem bindSource_fails (undressing : node.dresses? = none) (unadding : node.adds? = none)
    (path : String) :
    (bindSource site node path).Yields b (fun _ _ => True) (site.Fails node b) := by
  have searches := b.screen.peer.resolve_searches site.fragment path
  unfold bindSource
  refine .step (a := b) (c := b) rfl ?_
  generalize b.screen.peer.resolve site.fragment path = resolved at searches ⊢
  obtain ⟨source, notices⟩ := resolved
  have lacks {fault : BindingFault} (other : fault.isMissingImage = false) :
      site.Fails node b fault (b.note notices) := .of_undressing undressing other searches.silent
  refine .step (c := b.note notices) rfl ?_
  refine .bind (.ofExcept_cases (Q := fun _ after => after = b.note notices) (fun _ _ => rfl)
    fun fault fails => lacks (searches.isMissingImage fails)) ?_
  rintro source _ rfl
  refine .bind (.require_still (lacks rfl)) ?_
  rintro kind _ rfl
  refine .bind (.mapM_still (fun child => ?_) _) ?_
  · unfold converter
    refine .bind (.require_still (lacks rfl)) ?_
    rintro kind _ rfl
    refine .bind (.require_still (lacks rfl)) ?_
    rintro reported _ rfl
    exact .pure rfl
  rintro requests _ rfl
  refine .bind (.require_still (lacks rfl)) ?_
  rintro component _ rfl
  exact attach_fails site node _ undressing unadding (b.quiet_note notices) _ _ _
    fun widget screen => screen.attach kind { component with widget } source requests

/-- Once its kind and its target are known, a component comes to the screen, with its images or
without. -/
theorem bindAddon_adds {kind target : String} {component : Component}
    (known : site.components.addon? kind = some component)
    (connected : node.filled? "connection" = some target) :
    let extended := b.screen.addElement
      (unusedName (site.lead kind target) b.used) (site.addition b.space node component)
    (bindAddon site node kind).Yields b (fun _ after => after.screen = extended)
      fun fault after => after.screen = extended ∧
        ∃ missing : AttributeFault, fault = .ofAttribute missing ∧ missing.isFatal := by
  intro extended
  unfold bindAddon
  rw [known, connected]
  refine .step rfl (.step rfl (.step rfl (.step rfl (.step rfl ?_))))
  refine .bind .dress_done ?_
  rintro ⟨widget, fatal?⟩ after ⟨quiet, rfl, fatal⟩
  refine .bind (.changeScreen (Q := fun _ later => later.screen = extended) ?_) ?_
  · exact congrArg (Screen.addElement · _ _) quiet.screen
  · intro _ later screen
    exact .check_cases screen fun missing ends => ⟨screen, missing, rfl, fatal missing ends⟩

theorem bindAddon_fails {kind : String} (isWidget : node.tag = "widget")
    (unnamed : node.filled? "name" = none) (sourceless : node.filled? "source" = none)
    (added : node.filled? "addon" = some kind) :
    (bindAddon site node kind).Yields b (fun _ _ => True) (site.Fails node b) := by
  have undressing : node.dresses? = none := by simp [Element.dresses?, unnamed]
  cases known : site.components.addon? kind with
  | none =>
    unfold bindAddon
    rw [known]
    exact .throw (.at_once undressing rfl)
  | some component =>
    cases connected : node.filled? "connection" with
    | none =>
      unfold bindAddon
      rw [known, connected]
      exact .step rfl (.throw (.at_once undressing rfl))
    | some target =>
      have adds : node.adds? = some (kind, target) :=
        Element.adds?_eq_some_iff.mpr ⟨isWidget, unnamed, sourceless, added, connected⟩
      refine (bindAddon_adds site b known connected).mono (fun _ _ _ => trivial) ?_
      rintro _ after ⟨screen, missing, rfl, isFatal⟩
      exact .added isFatal adds known screen

theorem bindApplet_fails (undressing : node.dresses? = none) :
    (bindApplet site node).Yields b (fun _ _ => True) (site.Fails node b) := by
  unfold bindApplet
  split
  · exact .throw (.at_once undressing rfl)
  · exact .changeScreen trivial
  · exact .changeScreen trivial
  · exact .throw (.at_once undressing rfl)

theorem bindDecoration_fails (undressing : node.dresses? = none) (unadding : node.adds? = none)
    (kind : DecorationKind) :
    (bindDecoration site node kind).Yields b (fun _ _ => True) (site.Fails node b) :=
  attach_fails site node b undressing unadding (.refl b) _ _ _ fun widget screen =>
    screen.addDecoration ⟨kind, widget⟩

theorem bindWidget_fails (isWidget : node.tag = "widget") :
    (bindWidget site node).Yields b (fun _ _ => True) (site.Fails node b) := by
  unfold bindWidget
  cases named : node.filled? "name" with
  | some name =>
    exact bindElement_fails site node b (by simp [Element.dresses?, isWidget, named])
  | none =>
    have undressing : node.dresses? = none := by simp [Element.dresses?, named]
    cases sourced : node.filled? "source" with
    | some path =>
      exact bindSource_fails site b undressing (by simp [Element.adds?, sourced]) path
    | none =>
      cases added : node.filled? "addon" with
      | some kind => exact bindAddon_fails site b isWidget named sourced added
      | none => exact .throw (.at_once undressing rfl)

/-- A node that holds no others fails in one of these ways, or not at all. -/
theorem bindLeaf_fails (node : Element) :
    (bindLeaf site node).Yields b (fun _ _ => True) (site.Fails node b) := by
  by_cases isWidget : node.tag = "widget"
  · simpa [bindLeaf, isWidget] using bindWidget_fails site b isWidget
  · have undressing : node.dresses? = none := by simp [Element.dresses?, isWidget]
    have unadding : node.adds? = none := by simp [Element.adds?, isWidget]
    unfold bindLeaf
    split
    · contradiction
    · exact bindApplet_fails site b undressing
    · exact bindDecoration_fails site b undressing unadding .label
    · exact bindDecoration_fails site b undressing unadding .pixmap
    · exact .pure trivial

theorem fails_of_run {fault : BindingFault} {after : Binder}
    (run : (bindLeaf site node).run.run b = (.error fault, after)) :
    site.Fails node b fault after := by
  have yields := bindLeaf_fails site b node
  unfold Yields at yields
  rwa [run] at yields

end
end BindingStep

/-- The node makes something of its own for the screen. -/
inductive Element.Constructs (node : Element) : Prop
  | renderer (path : String) (shows : node.shows? = some path)
  | component (kind target : String) (adds : node.adds? = some (kind, target))
  | label (isLabel : node.tag = "eLabel")
  | pixmap (isPixmap : node.tag = "ePixmap")

theorem Element.Constructs.undressing {node : Element} (constructs : node.Constructs) :
    node.dresses? = none := by
  cases constructs with
  | renderer path shows =>
    have unnamed := (Option.ite_none_right_eq_some.mp shows).1.2
    simp [dresses?, unnamed]
  | component kind target adds =>
    obtain ⟨-, unnamed, -⟩ := adds?_eq_some_iff.mp adds
    simp [dresses?, unnamed]
  | label isLabel => simp [dresses?, isLabel]
  | pixmap isPixmap => simp [dresses?, isPixmap]

/-- An image is missing when a node is bound. -/
def BindingSite.missesImage (site : BindingSite) (node : Element) (b : Binder) : Bool :=
  match (bindLeaf site node).run.run b with
  | (.error fault, _) => fault.isMissingImage
  | (.ok (), _) => false

/-- The screen after a node that constructs something but misses an image for it. -/
structure BindingSite.LeavesScreen (site : BindingSite) (node : Element) (b : Binder)
    (after : Screen) : Prop where
  unattached : node.adds? = none → after = b.screen
  added : ∀ kind target, node.adds? = some (kind, target) → ∃ component,
    site.components.addon? kind = some component ∧
    after = b.screen.addElement
      (unusedName (site.lead kind target) b.used) (site.addition b.space node component)

theorem BindingSite.Fails.leavesScreen {site : BindingSite} {node : Element} {b after : Binder}
    {fault : BindingFault} (fails : site.Fails node b fault after)
    (missing : fault.isMissingImage) (undressing : node.dresses? = none) :
    site.LeavesScreen node b after.screen := by
  cases fails with
  | lacking other => simp [missing] at other
  | undressed _ dresses => simp [undressing] at dresses
  | @added _ _ kind target component _ adds known screen =>
    refine ⟨fun unadding => by simp [unadding] at adds, fun otherKind otherTarget same => ?_⟩
    obtain ⟨rfl, rfl⟩ := Prod.mk.inj (Option.some.inj (adds.symm.trans same))
    exact ⟨component, known, screen⟩
  | unattached _ _ unadding quiet =>
    exact ⟨fun _ => quiet.screen, fun _ _ adds => by simp [unadding] at adds⟩

/-- Neither a renderer nor a decoration comes to the screen without its image, nor does any stage
for the renderer. A component does come, as far as it is dressed. -/
theorem bindNode_leavesScreen (site : BindingSite) (inliner : Inliner) (inlined : List String)
    {node : Element} {b : Binder} (constructs : node.Constructs)
    (admitted : b.screen.admits node) (misses : site.missesImage node b) :
    site.LeavesScreen node b (bindNode site inliner inlined node b).screen := by
  have isLeaf : node.tag ≠ "panel" := by
    rintro isPanel
    cases constructs with
    | renderer path shows => simp [Element.shows?, isPanel] at shows
    | component kind target adds => simp [Element.adds?, isPanel] at adds
    | label isLabel => simp [isPanel] at isLabel
    | pixmap isPixmap => simp [isPanel] at isPixmap
  rw [(bindNode_of_leaf site inliner (fun _ _ _ => []) inlined admitted isLeaf).1]
  unfold BindingSite.missesImage at misses
  unfold Binder.attempt
  split at misses
  next fault after run =>
    rw [run]
    exact (fails_of_run site b run).leavesScreen misses constructs.undressing
  · cases misses

/-- A missing image keeps whatever a node constructs off the screen. -/
def BindingSite.KeepsOff (site : BindingSite) : Prop :=
  ∀ (inliner : Inliner) (inlined : List String) (node : Element) (b : Binder), node.Constructs →
    b.screen.admits node → site.missesImage node b →
    (bindNode site inliner inlined node b).screen = b.screen

/-- A node for a label that scrolls with a list. -/
def scrollLabel : Element :=
  { Element.ofTag "widget" with attributes := [("addon", "ScrollLabel"), ("connection", "list")] }

/-- No directory holds the image of this label. -/
def illustrated : Element := scrollLabel.withAttribute "pixmap" "gone.png"

def scrollRoot : ChosenRoot := ⟨"Main", Element.ofTag "screen", none⟩

def scrollSite : BindingSite := Skin.scrolling.siteFor Skin.scrollComponents scrollRoot 0

def scrollStart : Binder :=
  Skin.scrolling.beginning Skin.scrollComponents Skin.listScreen scrollRoot 0

theorem bindNode_leavesScreen_illustrated :
    illustrated.Constructs ∧ scrollStart.screen.admits illustrated ∧
      scrollSite.missesImage illustrated scrollStart ∧
      scrollSite.LeavesScreen illustrated scrollStart
        (bindNode scrollSite (fun _ _ b => b) [] illustrated scrollStart).screen := by
  have constructs : illustrated.Constructs := .component "ScrollLabel" "list" (by decide +kernel)
  have admitted : scrollStart.screen.admits illustrated := by decide +kernel
  have misses : scrollSite.missesImage illustrated scrollStart := by decide +kernel
  exact ⟨constructs, admitted, misses, bindNode_leavesScreen _ _ _ constructs admitted misses⟩

/-- The label is on the screen. -/
theorem scrollSite_not_keepsOff : ¬ scrollSite.KeepsOff := by
  intro keepsOff
  have constructs : illustrated.Constructs := .component "ScrollLabel" "list" (by decide +kernel)
  have stays := keepsOff (fun _ _ b => b) [] illustrated scrollStart constructs (by decide +kernel)
    (by decide +kernel)
  have absent : scrollStart.screen.contains "Main_ScrollLabel_list_0" = false := by decide +kernel
  have present : (bindNode scrollSite (fun _ _ b => b) [] illustrated scrollStart).screen.contains
      "Main_ScrollLabel_list_0" = true := by
    decide +kernel
  rw [stays, absent] at present
  cases present

end Skinning
