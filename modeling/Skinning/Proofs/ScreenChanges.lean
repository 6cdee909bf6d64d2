import Skinning.Proofs.BoundNames

/-! What a node can do to a screen, said once. A property of the screen that each of the changes
keeps is kept by a binding. -/
namespace Skinning

open Binder BindingStep

/-- A screen after a node that holds no others. -/
inductive Screen.Changes (s : Screen) : Screen → Prop
  | none : s.Changes s
  | element (name : String) (component : Component) : s.Changes (s.addElement name component)
  | renderer (kind : String) (component : Component) (source : ResolvedSource)
      (requests : List ConverterRequest) : s.Changes (s.attach kind component source requests)
  | decoration (decoration : Decoration) : s.Changes (s.addDecoration decoration)
  | finishHook (hook : String) : s.Changes (s.addFinishHook hook)
  | contentHook (hook : String) : s.Changes (s.addContentHook hook)

namespace BindingStep

section

variable {s : Screen} {b : Binder} (stays : b.screen = s)
include stays

theorem require_stays {value? : Option α} {fault : BindingFault} :
    (require value? fault).Yields b (fun _ after => after.screen = s)
      fun _ after => s.Changes after.screen :=
  .require (fun _ _ => stays) (stays ▸ .none)

theorem check_stays {fatal? : Option AttributeFault} :
    (check fatal?).Yields b (fun _ after => after.screen = s)
      fun _ after => s.Changes after.screen :=
  .check stays fun _ => stays ▸ .none

theorem dress_stays {site : BindingSite} {ignored : List String} {node : Element}
    {className : String} {w : Widget} {failed : BindingFault → Binder → Prop} :
    (dress site ignored node className w).Yields b (fun _ after => after.screen = s) failed :=
  .dress fun _ _ quiet => quiet.screen.trans stays

theorem changeScreen_changes {change : Screen → Screen} {failed : BindingFault → Binder → Prop}
    (changes : s.Changes (change s)) :
    (changeScreen change).Yields b (fun _ after => s.Changes after.screen) failed := by
  refine .changeScreen ?_
  rw [stays]
  exact changes

end

theorem bindElement_changes (site : BindingSite) (node : Element) (name : String) (b : Binder) :
    (bindElement site node name).Yields b (fun _ after => b.screen.Changes after.screen)
      fun _ after => b.screen.Changes after.screen := by
  unfold bindElement
  refine .step (c := { b with used := name :: b.used }) rfl (.step rfl ?_)
  refine .bind (require_stays rfl) fun component after stays => ?_
  refine .bind (dress_stays stays) fun dressed after stays => ?_
  refine .bind (changeScreen_changes stays (.element _ _)) fun _ after changes => ?_
  exact .check changes fun _ => changes

theorem bindSource_changes (site : BindingSite) (node : Element) (path : String) (b : Binder) :
    (bindSource site node path).Yields b (fun _ after => b.screen.Changes after.screen)
      fun _ after => b.screen.Changes after.screen := by
  unfold bindSource
  refine .step (a := b) (c := b) rfl ?_
  generalize b.screen.peer.resolve site.fragment path = resolved
  obtain ⟨source, notices⟩ := resolved
  refine .step (c := b.note notices) rfl ?_
  refine .bind (.ofExcept (Q := fun _ after => after.screen = b.screen) (fun _ _ => rfl)
    fun _ => .none) fun source after stays => ?_
  refine .bind (require_stays stays) fun kind after stays => ?_
  refine .bind (R := fun _ after => after.screen = b.screen)
    ((converters_yield site _ after).mono ?_ ?_) fun requests after stays => ?_
  · rintro _ _ ⟨rfl, -⟩
    exact stays
  · rintro _ _ rfl
    exact stays ▸ .none
  refine .bind (require_stays stays) fun component after stays => ?_
  refine .bind (dress_stays stays) fun dressed after stays => ?_
  refine .bind (check_stays stays) fun _ after stays => ?_
  exact changeScreen_changes stays (.renderer _ _ _ _)

theorem bindAddon_changes (site : BindingSite) (node : Element) (kind : String) (b : Binder) :
    (bindAddon site node kind).Yields b (fun _ after => b.screen.Changes after.screen)
      fun _ after => b.screen.Changes after.screen := by
  unfold bindAddon
  refine .bind (require_stays rfl) fun component after stays => ?_
  refine .bind (require_stays stays) fun target after stays => ?_
  refine .step (a := after) (c := after) rfl ?_
  dsimp only
  refine .step (c := { after with used := _ :: after.used }) rfl ?_
  refine .step (c := { after with used := _ :: after.used, connections := _ }) rfl ?_
  have named (used : List String) (connections : List Connection) :
      Binder.screen { after with used, connections } = b.screen := stays
  refine .bind (dress_stays (named _ _)) fun dressed after stays => ?_
  refine .bind (changeScreen_changes stays (.element _ _)) fun _ after changes => ?_
  exact .check changes fun _ => changes

theorem bindApplet_changes (site : BindingSite) (node : Element) (b : Binder) :
    (bindApplet site node).Yields b (fun _ after => b.screen.Changes after.screen)
      fun _ after => b.screen.Changes after.screen := by
  unfold bindApplet
  split
  · exact .throw .none
  · exact changeScreen_changes rfl (.finishHook _)
  · exact changeScreen_changes rfl (.contentHook _)
  · exact .throw .none

theorem bindDecoration_changes (site : BindingSite) (node : Element) (kind : DecorationKind)
    (b : Binder) :
    (bindDecoration site node kind).Yields b (fun _ after => b.screen.Changes after.screen)
      fun _ after => b.screen.Changes after.screen := by
  unfold bindDecoration
  refine .bind (dress_stays rfl) fun dressed after stays => ?_
  refine .bind (check_stays stays) fun _ after stays => ?_
  exact changeScreen_changes stays (.decoration _)

/-- A node that holds no others makes one change to the screen, or none. -/
theorem bindLeaf_changes (site : BindingSite) (node : Element) (b : Binder) :
    (bindLeaf site node).Yields b (fun _ after => b.screen.Changes after.screen)
      fun _ after => b.screen.Changes after.screen := by
  unfold bindLeaf
  split
  · unfold bindWidget
    split
    · exact bindElement_changes site node _ b
    · exact bindSource_changes site node _ b
    · exact bindAddon_changes site node _ b
    · exact .throw .none
  · exact bindApplet_changes site node b
  · exact bindDecoration_changes site node .label b
  · exact bindDecoration_changes site node .pixmap b
  · exact .pure .none

end BindingStep

section

variable {kept : Screen → Prop} (step : ∀ s t, kept s → s.Changes t → kept t)
include step

theorem tracks_screen (site : BindingSite) :
    Tracks site (fun _ _ => True) fun _ b => kept b.screen where
  lasts _ _ _ _ := trivial
  inlines _ _ _ _ _ _ _ _ := trivial
  quiet _ b after holds quiet := quiet.screen ▸ holds
  passed _ _ holds _ _ := holds
  panel _ v holds _ _ _ := (quiet_announce v.binder site v.inlined v.node).screen ▸ holds
  leaf _ v holds _ _ _ := by
    have changes := bindLeaf_changes site v.node v.binder
    refine @attempt_of_yields v.binder site v.node.tag _ (kept ·.screen) ?_ ?_
    · exact changes.mono (fun _ after => step _ _ holds) fun _ after => step _ _ holds
    · exact fun before after holds quiet => quiet.screen ▸ holds

/-- What every change to a screen keeps is kept by a binding. -/
theorem Binder.bindRoot_keeps (b : Binder) (site : BindingSite) (root : Element)
    (begins : kept b.screen) : kept (b.bindRoot site root).screen :=
  (tracks_screen step site).visits trivial b root begins

end
end Skinning
