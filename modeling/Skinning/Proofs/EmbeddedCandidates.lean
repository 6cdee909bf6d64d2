import Skinning.Proofs.Rebinding

/-! The documents that a screen brings along, one for each surface. The one for the surface of the
first binding is kept on the screen, and all bindings after it go by that one. -/
namespace Skinning

namespace EmbeddedSkin

/-- The first of some documents that is a screen for a surface, or else an empty screen. -/
def candidate (roots : List Element) (surface : Nat) : Element :=
  (roots.find? fun root => root.tag = "screen" && isForSurface root surface).getD (.ofTag "screen")

/-- Documents that can be read, and their roots. -/
def ReadAs (sources : List String) (roots : List Element) : Prop :=
  List.Forall₂ (fun source root => Markup.readTree source = .ok root) sources roots

theorem choose_of_readAs {sources : List String} {roots : List Element}
    (reads : ReadAs sources roots) (name : String) (surface : Nat) :
    choose name surface sources =
      .ok (roots.find? fun root => root.tag = "screen" && isForSurface root surface) := by
  induction reads with
  | nil => rfl
  | @cons source root _ _ read _ ih =>
    have isRoot : Markup.readDocument source name = .ok root := by rw [Markup.readDocument, read]
    rw [choose, isRoot, List.find?_cons]
    dsimp only
    cases root.tag = "screen" && isForSurface root surface with
    | true => rfl
    | false => exact ih

end EmbeddedSkin

open EmbeddedSkin

namespace Screen

theorem readEmbedded_of_candidates {screen : Screen} {sources : List String} {roots : List Element}
    (reads : ReadAs sources roots) (name : String) (factor : Float) (surface : Nat) :
    ((screen.setEmbedded (.candidates sources)).readEmbedded name factor surface).root =
      .ok (candidate roots surface) := by
  have chosen := choose_of_readAs reads name surface
  unfold readEmbedded
  dsimp only [setEmbedded, EmbeddedSkin.read]
  rw [chosen, candidate]
  cases roots.find? fun root => root.tag = "screen" && isForSurface root surface <;> rfl

theorem readEmbedded_of_kept {screen : Screen} {root : Element}
    (kept : screen.embeddedRoot? = some root) (name : String) (factor : Float) (surface : Nat) :
    (screen.readEmbedded name factor surface).root = .ok root := by
  rw [readEmbedded, kept]

theorem readEmbedded_screen_of_ok {screen : Screen} {name : String} {factor : Float}
    {surface : Nat} {root : Element}
    (read : (screen.readEmbedded name factor surface).root = .ok root) :
    (screen.readEmbedded name factor surface).screen =
      { screen with embeddedRoot? := some root } := by
  have isKept := embeddedRoot?_of_readEmbedded read
  obtain ⟨root?, kept⟩ := screen.readEmbedded_screen name factor surface
  rw [kept] at isKept ⊢
  rw [← isKept]

end Screen

namespace BindCall

def run (call : BindCall) (screen : Screen) : Bound :=
  call.skin.bind call.components screen call.names call.surface

/-- None of the fragments that a call names can be bound to a screen. -/
def FindsNone (call : BindCall) (screen : Screen) : Prop :=
  (call.skin.choose screen call.names).1 = none

/-- A call binds a root that the screen brings along. -/
def Binds (call : BindCall) (screen : Screen) (root : Element) : Prop :=
  ∃ notices, call.run screen =
    (call.skin.bindRoot call.components { screen with embeddedRoot? := some root }
      ⟨"<embedded-in-" ++ screen.className ++ ">", root, none⟩ call.surface).noting notices

variable {call : BindCall} {screen : Screen} {root other : Element}

theorem FindsNone.congr {t : Screen} (findsNone : call.FindsNone screen)
    (mandatory : screen.mandatory? = t.mandatory?) : call.FindsNone t := by
  rw [FindsNone, ← Skin.choose_congr mandatory]
  exact findsNone

theorem binds_of_read (findsNone : call.FindsNone screen)
    (read : ∀ name factor, (screen.readEmbedded name factor call.surface).root = .ok root) :
    call.Binds screen root := by
  obtain ⟨notices, bound⟩ := Skin.bind_of_choose_eq_none call.components call.surface findsNone
  let reading := screen.readEmbedded ("<embedded-in-" ++ screen.className ++ ">")
    call.skin.store.factor call.surface
  refine ⟨notices ++ reading.notices, ?_⟩
  have isRoot : reading.root = .ok root := read _ _
  have keeps := Screen.readEmbedded_screen_of_ok isRoot
  unfold run
  rw [bound]
  simp only [Skin.bindEmbedded, reading] at isRoot keeps ⊢
  rw [isRoot, keeps]
  simp only [Bound.noting, List.append_assoc]

/-- The root stays on the screen, with all that there was. -/
theorem Binds.outlasts (binds : call.Binds screen root) :
    { screen with embeddedRoot? := some root }.Outlasts (call.run screen).screen := by
  obtain ⟨notices, bound⟩ := binds
  rw [bound]
  let ready : Screen := { screen with embeddedRoot? := some root }
  let chosen : ChosenRoot := ⟨"<embedded-in-" ++ screen.className ++ ">", root, none⟩
  let b := call.skin.beginning call.components ready chosen call.surface
  have begins : ready.Outlasts b.screen := ⟨rfl, rfl, rfl, rfl, rfl, fun _ => id⟩
  have same := (call.skin.bindRoot_eq call.components ready call.surface chosen).1
  change ready.Outlasts (call.skin.bindRoot call.components ready chosen call.surface).screen
  rw [same]
  exact begins.trans (b.bindRoot_outlasts _ root)

theorem Binds.unique (binds : call.Binds screen root) (again : call.Binds screen other) :
    root = other := by
  have kept := binds.outlasts.embeddedRoot
  rw [again.outlasts.embeddedRoot] at kept
  exact (Option.some.inj kept).symm

end BindCall

open BindCall

/-- The calls are made one after the other, and each binds a root of its own. -/
def BindsEach (roots : BindCall → Element) : Screen → List BindCall → Prop
  | _, [] => True
  | screen, call :: rest =>
    call.Binds screen (roots call) ∧ BindsEach roots (call.run screen).screen rest

/-- A root that is kept on the screen is bound by each call. -/
theorem bindsEach_of_kept {root : Element} : (calls : List BindCall) → (screen : Screen) →
    screen.embeddedRoot? = some root → (∀ call ∈ calls, call.FindsNone screen) →
    BindsEach (fun _ => root) screen calls
  | [], _, _, _ => trivial
  | call :: rest, screen, kept, findNone => by
    obtain ⟨findsNone, others⟩ := List.forall_mem_cons.mp findNone
    have binds : call.Binds screen root :=
      binds_of_read findsNone fun name factor => Screen.readEmbedded_of_kept kept name factor _
    have outlasts := binds.outlasts
    refine ⟨binds, bindsEach_of_kept rest _ outlasts.embeddedRoot fun other member => ?_⟩
    exact (others other member).congr outlasts.mandatory.symm

theorem BindsEach.iff_of_each {roots others : BindCall → Element} :
    (calls : List BindCall) → (screen : Screen) → BindsEach roots screen calls →
    (BindsEach others screen calls ↔ ∀ call ∈ calls, others call = roots call)
  | [], _, _ => by simp [BindsEach]
  | call :: rest, screen, ⟨binds, each⟩ => by
    have later : BindsEach others (call.run screen).screen rest ↔ _ := iff_of_each rest _ each
    rw [List.forall_mem_cons, BindsEach, later]
    refine and_congr_left fun _ => ⟨fun again => again.unique binds, fun same => ?_⟩
    rwa [same]

section

variable {sources : List String} {roots : List Element} {screen : Screen} {first : BindCall}
  {rest : List BindCall}

/-- All calls bind the document for the surface of the first one. -/
theorem bindsEach_candidate (reads : ReadAs sources roots)
    (findNone : ∀ call ∈ first :: rest, call.FindsNone screen) :
    BindsEach (fun _ => candidate roots first.surface) (screen.setEmbedded (.candidates sources))
      (first :: rest) := by
  obtain ⟨findsNone, others⟩ := List.forall_mem_cons.mp findNone
  let fresh := screen.setEmbedded (.candidates sources)
  have same : screen.mandatory? = fresh.mandatory? := rfl
  have binds : first.Binds fresh (candidate roots first.surface) :=
    binds_of_read (findsNone.congr same) fun name factor =>
      Screen.readEmbedded_of_candidates reads name factor _
  have outlasts := binds.outlasts
  refine ⟨binds, bindsEach_of_kept rest _ outlasts.embeddedRoot fun call member => ?_⟩
  exact (others call member).congr (same.trans outlasts.mandatory.symm)

/-- Calls that find no fragment bind the document for the surface of the first of them, so that
each binds the one for its own surface exactly if that is the same. -/
theorem bindsEach_candidate_iff (reads : ReadAs sources roots)
    (findNone : ∀ call ∈ first :: rest, call.FindsNone screen) :
    BindsEach (fun _ => candidate roots first.surface) (screen.setEmbedded (.candidates sources))
        (first :: rest) ∧
      (BindsEach (fun call => candidate roots call.surface)
          (screen.setEmbedded (.candidates sources)) (first :: rest) ↔
        ∀ call ∈ rest, candidate roots call.surface = candidate roots first.surface) := by
  have each := bindsEach_candidate reads findNone
  refine ⟨each, (each.iff_of_each _ _).trans ?_⟩
  simp

end

/-- Documents for two surfaces, with a label each. -/
def twoFaces : List String :=
  ["<screen id=\"0\"><eLabel text=\"zero\"/></screen>",
    "<screen id=\"1\"><eLabel text=\"one\"/></screen>"]

def faceRoot (id text : String) : Element :=
  ⟨"screen", [("id", id)], none, 1, [⟨"eLabel", [("text", text)], none, 1, []⟩]⟩

theorem twoFaces_readAs : ReadAs twoFaces [faceRoot "0" "zero", faceRoot "1" "one"] :=
  .cons rfl (.cons rfl .nil)

/-- A call that finds nothing in an empty catalog. -/
def faceCall (surface : Nat) : BindCall := ⟨.ofCatalog [] [], .none, ["About"], surface⟩

theorem faceCall_findsNone (surface : Nat) (screen : Screen) : (faceCall surface).FindsNone screen :=
  rfl

/-- On one surface every call binds the document for it. -/
theorem bindsEach_candidate_again :
    BindsEach (fun call => candidate [faceRoot "0" "zero", faceRoot "1" "one"] call.surface)
      ((Screen.ofClass "About").setEmbedded (.candidates twoFaces)) [faceCall 1, faceCall 1] := by
  have findNone : ∀ call ∈ [faceCall 1, faceCall 1], call.FindsNone (Screen.ofClass "About") := by
    simp [faceCall_findsNone]
  have each := (bindsEach_candidate_iff twoFaces_readAs findNone).2
  exact each.mpr (by simp)

/-- The document for the other surface is bound to this one as well. -/
theorem twoFaces_not_bindsEach :
    ReadAs twoFaces [faceRoot "0" "zero", faceRoot "1" "one"] ∧
      (∀ call ∈ [faceCall 0, faceCall 1], call.FindsNone (Screen.ofClass "About")) ∧
      ¬ BindsEach (fun call => candidate [faceRoot "0" "zero", faceRoot "1" "one"] call.surface)
        ((Screen.ofClass "About").setEmbedded (.candidates twoFaces)) [faceCall 0, faceCall 1] := by
  have findNone : ∀ call ∈ [faceCall 0, faceCall 1], call.FindsNone (Screen.ofClass "About") := by
    simp [faceCall_findsNone]
  refine ⟨twoFaces_readAs, findNone, fun each => ?_⟩
  have first := bindsEach_candidate twoFaces_readAs findNone
  have same := (first.iff_of_each _ _).mp each (faceCall 1) (by simp)
  have texts := congrArg (fun root => root.children.map (·.attribute? "text")) same
  revert texts
  decide +kernel

end Skinning
