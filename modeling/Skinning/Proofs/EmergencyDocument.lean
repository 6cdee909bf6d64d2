import Skinning.Proofs.LoadSteps
import Skinning.Proofs.StartingAgain
import Skinning.Proofs.StyleReplay

/-! The document that is used when no primary skin can be loaded. It can be loaded into every skin,
whatever was declared before, and what it declares stays declared to the end of a start. -/
namespace Skinning

namespace Markup

/-- The tree of a source of the given characters and size. -/
def treeOf (cs : List Char) (size : Nat) : Except LocatedFault Element := do
  let scan := (Mode.textAt 0).scan 0 (withoutMark cs)
  let assembly ←
    Assembly.empty.run (fun offset => (Position.advance ⟨1, 0⟩ offset cs).line) scan.items
  match scan.fault? with
  | some fault => throw fault
  | none => assembly.finish size

theorem readTree_of_toList {source : String} {cs : List Char} (chars : source.toList = cs) :
    readTree source = treeOf cs source.utf8ByteSize := by
  subst chars
  rfl

end Markup

namespace Skin

open Markup (readTree readTree_of_toList)

/-! The document. -/

def emergencyColors : Element :=
  ⟨"colors", [], some "\n\t\t\n\t\t\n\t", 2, [
    ⟨"color", [("name", "background"), ("value", "#00000000")], none, 3, []⟩,
    ⟨"color", [("name", "foreground"), ("value", "#00ffffff")], none, 4, []⟩]⟩

def emergencyStyle : Element :=
  ⟨"windowstyle", [("id", "0")], some "\n\t\t\n\t\t\n\t\t\n\t\t\n\t", 6, [
    ⟨"title", [("offset", "20,5"), ("font", "Regular;20")], none, 7, []⟩,
    ⟨"color", [("name", "Background"), ("color", "background")], none, 8, []⟩,
    ⟨"color", [("name", "LabelForeground"), ("color", "foreground")], none, 9, []⟩,
    ⟨"color", [("name", "WindowTitleForeground"), ("color", "foreground")], none, 10, []⟩]⟩

def emergencyRoot : Element := ⟨"skin", [], some "\n\t\n\t\n", 1, [emergencyColors, emergencyStyle]⟩

theorem readTree_emergencyDocument : readTree emergencyDocument = .ok emergencyRoot := by
  have tree : (readTree emergencyDocument).toOption = some emergencyRoot := by
    obtain ⟨cs, chars⟩ : ∃ cs, emergencyDocument.toList = cs := ⟨_, rfl⟩
    rw [readTree_of_toList chars]
    -- The characters are taken from each line by itself.
    unfold emergencyDocument at chars
    iterate 11 rw [String.toList_append] at chars
    iterate 12 rw [String.toList_ofList] at chars
    subst chars
    decide +kernel
  generalize readTree emergencyDocument = result at tree ⊢
  cases result with
  | error fault => cases tree
  | ok root => rw [Option.some.inj tree]

/-- What the document declares. -/
def emergencyKeys : List Key := [.color "background", .color "foreground", .style guiSurface]

def withColors (s : Store) : Store :=
  (s.set (.color "background" .black)).set (.color "foreground" .white)

/-- The colors of the document are those that its style asks for. -/
def twoColors : Store := withColors { Store.initial with colors := ∅ }

theorem twoColors_covers (s : Store) : twoColors.Covers (withColors s) := by
  intro name given
  simp only [twoColors, withColors, Store.set, Table.get?_insert] at given ⊢
  split
  · rfl
  · split
    · rfl
    next other another =>
      rw [if_neg other, if_neg another] at given
      cases given

theorem mergeBlock_emergencyColors (s : Store) (site : BlockSite) :
    s.mergeBlock site emergencyColors = ⟨withColors s, none, []⟩ := rfl

theorem mergeBlock_emergencyStyle (s : Store) (site : BlockSite) : ∃ style notices,
    (withColors s).mergeBlock site emergencyStyle =
      ⟨{ withColors s with styles := (withColors s).styles.insert guiSurface style }, none,
        notices⟩ := by
  have bare : ((Declaration.readStyle site twoColors emergencyStyle).run.run []).1.isOk := rfl
  have isOk := (Declaration.readStyle_lasts site (twoColors_covers s) emergencyStyle).run [] [] bare
  cases reads : (Declaration.readStyle site (withColors s) emergencyStyle).run.run [] with
  | mk result notices =>
    cases result with
    | error fault =>
      rw [reads] at isOk
      cases isOk
    | ok style => exact ⟨style, notices, Store.mergeBlock_of_style rfl rfl reads⟩

/-! A load of the document. -/

/-- What becomes of a block that is merged without a fault. -/
theorem declareBlock_of_merged {s : Skin} {site : DocumentSite} {block : Element}
    {merged : Merged} (other : block.tag ≠ "screen") (sound : merged.fault? = none)
    (merges : s.store.mergeBlock (s.blockSite site.scope site.base site.surface) block = merged) :
    (s.declareBlock site block).fault? = none ∧
      (s.declareBlock site block).skin.store = merged.store := by
  subst merges
  have noFault : (s.mergeBlock (s.blockSite site.scope site.base site.surface) block).fault? =
      none := congrArg (Option.map _) sound
  rw [declareBlock, if_neg other, Loaded.andThen_of_none noFault]
  exact ⟨rfl, store_recordStyle _ site block⟩

theorem loadBlocks_cons_of_declared {s : Skin} {load : Path → Skin → Loaded} {site : DocumentSite}
    {block : Element} (rest : List Element) (other : block.tag ≠ "include")
    (sound : (s.declareBlock site block).fault? = none) :
    (loadBlocks load site s (block :: rest)).fault? =
        (loadBlocks load site (s.declareBlock site block).skin rest).fault? ∧
      (loadBlocks load site s (block :: rest)).skin =
        (loadBlocks load site (s.declareBlock site block).skin rest).skin := by
  rw [loadBlocks, loadBlock, if_neg other, Loaded.andThen_of_none sound]
  exact ⟨rfl, rfl⟩

/-- The blocks of the document are merged without a fault, whatever was declared before. -/
theorem loadRoot_emergencyRoot (s : Skin) (load : Path → Skin → Loaded) (site : DocumentSite) :
    (s.loadRoot load site emergencyRoot).fault? = none ∧
      ∀ key ∈ emergencyKeys,
        ((s.loadRoot load site emergencyRoot).skin.store.held? key).isSome := by
  have mergesColors := mergeBlock_emergencyColors s.store
    (s.blockSite site.scope site.base site.surface)
  obtain ⟨colored, colors⟩ := declareBlock_of_merged (by decide) rfl mergesColors
  obtain ⟨fault, skin⟩ := @loadBlocks_cons_of_declared s load site emergencyColors [emergencyStyle]
    (by decide) colored
  generalize (s.declareBlock site emergencyColors).skin = t at colors fault skin
  obtain ⟨style, notices, merges⟩ := mergeBlock_emergencyStyle s.store
    (t.blockSite site.scope site.base site.surface)
  dsimp only at colors
  rw [← colors] at merges
  obtain ⟨styled, store⟩ := declareBlock_of_merged (by decide) rfl merges
  obtain ⟨faultAfter, skinAfter⟩ := @loadBlocks_cons_of_declared t load site emergencyStyle []
    (by decide) styled
  have root : s.loadRoot load site emergencyRoot =
      loadBlocks load site s [emergencyColors, emergencyStyle] := if_pos rfl
  rw [root, fault, skin, faultAfter, skinAfter]
  refine ⟨rfl, ?_⟩
  simp only [loadBlocks, Loaded.done, store, colors]
  simp [emergencyKeys, Store.held?, withColors, Store.set]

/-- Nothing that is declared is taken away, and the choice of the primary skin stays. -/
structure Retains (before after : Skin) : Prop where
  held : ∀ key, (before.store.held? key).isSome → (after.store.held? key).isSome
  primary : after.primary = before.primary
  current : after.currentPrimary? = before.currentPrimary?

theorem holdsOfSets_held : Store.HoldsOfSets fun s t =>
    ∀ key, (s.held? key).isSome → (t.held? key).isSome where
  refl _ _ := id
  trans first second key given := second key (first key given)
  set s entry key given := by
    rw [Store.held?_set]
    split
    · rfl
    · exact given

theorem Retains.of_eq {s t : Skin} (store : t.store = s.store) (primary : t.primary = s.primary)
    (current : t.currentPrimary? = s.currentPrimary?) : Retains s t :=
  ⟨fun _ given => store ▸ given, primary, current⟩

theorem Retains.trans {r s t : Skin} (first : Retains r s) (second : Retains s t) : Retains r t :=
  ⟨fun key given => second.held key (first.held key given), second.primary.trans first.primary,
    second.current.trans first.current⟩

theorem holdsOfSteps_retains : HoldsOfSteps Retains where
  refl _ := .of_eq rfl rfl rfl
  trans := .trans
  log _ _ := .of_eq rfl rfl rfl
  merge s site block := ⟨holdsOfSets_held.mergeBlock s.store site block, rfl, rfl⟩
  record s site block := by
    unfold recordStyle
    split <;> exact .of_eq rfl rfl rfl
  fragment s site block := by
    unfold addFragment
    split
    · exact .of_eq rfl rfl rfl
    · split <;> exact .of_eq rfl rfl rfl

/-- The document can be loaded into any skin, as any file, and what it declares is there then. -/
theorem loadSource_emergencyDocument (s : Skin) (path : Path) (scope : Scope) (surface : Nat) :
    (s.loadSource emergencyDocument path scope surface).isLoaded ∧
      ∀ key ∈ emergencyKeys, ((s.loadSource emergencyDocument path scope surface).skin.store.held?
        key).isSome := by
  have document : Markup.readDocument emergencyDocument path.text = .ok emergencyRoot := by
    rw [Markup.readDocument, readTree_emergencyDocument]
  have loads : s.loadSource emergencyDocument path scope surface = outcome (finish
      (s.loadRoot (loadPath scope surface []) ⟨scope, surface, path.base⟩ emergencyRoot)) := by
    rw [loadSource, document]
  obtain ⟨sound, declared⟩ :=
    loadRoot_emergencyRoot s (loadPath scope surface []) ⟨scope, surface, path.base⟩
  have finished := (finish_declared (s.loadRoot (loadPath scope surface [])
    ⟨scope, surface, path.base⟩ emergencyRoot)).1.trans sound
  have kept := holdsOfSteps_retains.finish (holdsOfSteps_retains.refl (s.loadRoot
    (loadPath scope surface []) ⟨scope, surface, path.base⟩ emergencyRoot).skin)
  rw [loads]
  refine ⟨(outcome_isLoaded _).mpr finished, fun key member => ?_⟩
  rw [outcome_of_fault?_eq_none finished]
  exact kept.held key (declared key member)

/-! The choice of the primary skin. -/

namespace Progress

variable {p : Progress}

/-- Of two documents the first is loaded that can be. -/
theorem loadFirst_pair (role : SkinRole) (load : Progress → String → Bool × Progress) (p : Progress)
    (chosen fallback : String) :
    let first := loadFirst role load [] [chosen, fallback] p
    let failed := (load p chosen).2.note (.skinFailed role chosen)
    ((load p chosen).1 = true ∧ first.1 = some chosen) ∨
      (load p chosen).1 = false ∧
        ((chosen ≠ fallback ∧ (load failed fallback).1 = true ∧ first.1 = some fallback) ∨
          (chosen = fallback ∨ (load failed fallback).1 = false) ∧ first.1 = none) := by
  simp only [loadFirst, List.contains_nil, Bool.false_eq_true, if_false, List.contains_cons,
    Bool.or_false, beq_iff_eq]
  rcases load p chosen with ⟨_ | _, after⟩
  · refine .inr ⟨rfl, ?_⟩
    dsimp only
    split
    next same => exact .inr ⟨.inl same.symm, rfl⟩
    next other =>
      rcases load (after.note (.skinFailed role chosen)) fallback with ⟨_ | _, last⟩
      · exact .inr ⟨.inr rfl, rfl⟩
      · exact .inl ⟨fun same => other same.symm, rfl, rfl⟩
  · exact .inl ⟨rfl, rfl⟩

theorem load_retains (p : Progress) (filename : String) (scope : Scope) (surface : Nat) :
    Retains p.skin (p.load filename scope surface).2.skin := by
  rw [load_eq]
  exact holdsOfSteps_retains.load p.skin filename scope surface

theorem loadFirst_retains (role : SkinRole) (load : Progress → String → Bool × Progress)
    (loads : ∀ p filename, Retains p.skin (load p filename).2.skin) (tried names : List String)
    (p : Progress) : Retains p.skin (p.loadFirst role load tried names).2.skin := by
  induction names generalizing tried p with
  | nil => exact .of_eq rfl rfl rfl
  | cons filename rest ih =>
    have loaded := loads p filename
    unfold loadFirst
    split
    · exact ih tried p
    · generalize load p filename = result at loaded ⊢
      obtain ⟨_ | _, after⟩ := result
      · have noted : Retains after.skin (after.note (.skinFailed role filename)).skin :=
          .of_eq rfl rfl rfl
        exact loaded.trans (noted.trans (ih (filename :: tried) _))
      · exact loaded

theorem beforeDisplay_retains (p : Progress) : Retains p.skin p.beforeDisplay.skin := by
  have first := p.load_retains emergencySkin .current guiSurface
  rw [beforeDisplay]
  generalize p.load emergencySkin .current guiSurface = loaded at first
  exact first.trans (loaded.2.load_retains subtitleSkin .current guiSurface)

theorem displayLoaded_retains (p : Progress) : Retains p.skin p.displayLoaded.2.skin := by
  rw [displayLoaded]
  exact loadFirst_retains .display (·.load · .display displaySurface)
    (fun p filename => p.load_retains filename .display displaySurface) [] _ p

theorem loadDisplay_retains (p : Progress) : Retains p.skin p.loadDisplay.skin := by
  have loaded := p.displayLoaded_retains
  rw [loadDisplay_eq]
  generalize p.displayLoaded = result at loaded ⊢
  obtain ⟨_, shown⟩ := result
  exact loaded.trans ⟨fun _ => id, rfl, rfl⟩

theorem loadUserSkin_retains (p : Progress) (found? : Option String) :
    Retains p.skin (p.loadUserSkin found?).skin := by
  cases found? with
  | none => exact ⟨fun _ => id, rfl, rfl⟩
  | some filename => exact p.load_retains filename .current guiSurface

theorem loadUser_retains (p : Progress) : Retains p.skin p.loadUser.skin := by
  rw [loadUser]
  exact p.loadUserSkin_retains _

theorem loadEmergency_declares (p : Progress) :
    p.loadEmergency.skin.currentPrimary? = p.skin.currentPrimary? ∧
      ∀ key ∈ emergencyKeys, (p.loadEmergency.skin.store.held? key).isSome := by
  rw [loadEmergency, loadSource_eq]
  obtain ⟨after, loads⟩ : ∃ after, (p.note .emergency).skin.loadSource emergencyDocument ⟨""⟩
    .current guiSurface = after := ⟨_, rfl⟩
  have kept := holdsOfSteps_retains.loadSource (p.note .emergency).skin emergencyDocument ⟨""⟩
    .current guiSurface
  obtain ⟨-, declared⟩ := loadSource_emergencyDocument (p.note .emergency).skin ⟨""⟩ .current
    guiSurface
  rw [loads] at kept declared ⊢
  exact ⟨kept.current, declared⟩

/-- The primary skin is the one that was loaded, and without one the emergency document is. -/
theorem settlePrimary_current (loaded : Option String) (p : Progress) :
    (settlePrimary (loaded, p)).skin.currentPrimary? = loaded ∧
      (loaded = none →
        ∀ key ∈ emergencyKeys, ((settlePrimary (loaded, p)).skin.store.held? key).isSome) := by
  cases loaded with
  | none =>
    obtain ⟨current, declared⟩ := loadEmergency_declares (p.setPrimary none)
    exact ⟨current, fun _ => declared⟩
  | some filename => exact ⟨rfl, nofun⟩

end Progress

/-- A start up to the choice of the primary skin. -/
def beforePrimary (s : Skin) : Progress := (Progress.beforeDisplay ⟨s, []⟩).loadDisplay

/-- The load of the skin that is asked for. -/
def configuredLoad (s : Skin) : Bool × Progress :=
  s.beforePrimary.load s.primary .current guiSurface

/-- The load of the default skin, after that of the skin that is asked for has failed. -/
def defaultLoad (s : Skin) : Bool × Progress :=
  (s.configuredLoad.2.note (.skinFailed .gui s.primary)).load Settings.defaultPrimary .current
    guiSurface

/-- The primary skin that a start settles on: the one that is asked for, else the default one,
else none, and then everything that the emergency document declares is there. -/
inductive SettlesPrimary (s after : Skin) : Prop
  | configured : s.configuredLoad.1 = true → after.currentPrimary? = some s.primary →
      SettlesPrimary s after
  | default : s.configuredLoad.1 = false → s.primary ≠ Settings.defaultPrimary →
      s.defaultLoad.1 = true → after.currentPrimary? = some Settings.defaultPrimary →
      SettlesPrimary s after
  | emergency : s.configuredLoad.1 = false →
      s.primary = Settings.defaultPrimary ∨ s.defaultLoad.1 = false →
      after.currentPrimary? = none → (∀ key ∈ emergencyKeys, (after.store.held? key).isSome) →
      SettlesPrimary s after

theorem beforePrimary_primary (s : Skin) : s.beforePrimary.skin.primary = s.primary := by
  have first := Progress.beforeDisplay_retains ⟨s, []⟩
  rw [beforePrimary]
  generalize Progress.beforeDisplay ⟨s, []⟩ = p at first
  exact (first.trans p.loadDisplay_retains).primary

theorem loadPrimary_settles (s : Skin) : SettlesPrimary s s.beforePrimary.loadPrimary.skin := by
  have choice := Progress.loadFirst_pair .gui (·.load · .current guiSurface) s.beforePrimary
    s.primary Settings.defaultPrimary
  rw [Progress.loadPrimary, s.beforePrimary_primary]
  generalize Progress.loadFirst _ _ _ _ s.beforePrimary = result at choice
  obtain ⟨loaded, p⟩ := result
  obtain ⟨current, declared⟩ := Progress.settlePrimary_current loaded p
  generalize (Progress.settlePrimary (loaded, p)).skin = after at current declared
  obtain ⟨isLoaded, rfl⟩ | ⟨failed, ⟨other, isLoaded, rfl⟩ | ⟨failedToo, rfl⟩⟩ := choice
  · exact .configured isLoaded current
  · exact .default failed other isLoaded current
  · exact .emergency failed failedToo current (declared rfl)

theorem start_settlesPrimary (s : Skin) : SettlesPrimary s s.start.skin := by
  -- What the run leads to is named, so that no step compares the runs themselves.
  obtain ⟨u, loaded, hasStarted, started⟩ := s.start_skin
  have settles := s.loadPrimary_settles
  have kept : Retains s.beforePrimary.loadPrimary.skin s.beforePrimary.loadPrimary.loadUser.skin :=
    Progress.loadUser_retains _
  have ended : s.beforePrimary.loadPrimary.loadUser.skin = u := loaded
  rw [ended] at kept
  generalize s.beforePrimary.loadPrimary.skin = before at settles kept
  have keptToEnd : Retains before s.start.skin := by
    rw [started]
    exact kept.trans (.of_eq rfl rfl rfl)
  cases settles with
  | configured isLoaded current => exact .configured isLoaded (keptToEnd.current.trans current)
  | default failed other isLoaded current =>
    exact .default failed other isLoaded (keptToEnd.current.trans current)
  | emergency failed failedToo current declared =>
    exact .emergency failed failedToo (keptToEnd.current.trans current) fun key member =>
      keptToEnd.held key (declared key member)

/-- The emergency document can be loaded whatever was loaded before it. So a start settles on the
first primary skin that can be loaded, or else what that document declares is there. -/
theorem emergency_always_loads :
    (∀ (s : Skin) path scope surface,
      (s.loadSource emergencyDocument path scope surface).isLoaded) ∧
    ∀ s : Skin, SettlesPrimary s s.start.skin :=
  ⟨fun s path scope surface => (s.loadSource_emergencyDocument path scope surface).1,
    start_settlesPrimary⟩

end Skin
end Skinning
