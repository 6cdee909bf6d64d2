import Skinning.Proofs.KeyCascade

/-! Merges that a fault stops. Declarations are read in the order of the document, faces before
the face for missing characters and that one before aliases, and each is taken into the store as
a whole or not at all. So a fault leaves the entries of the declarations in front of it, with the
values that they have after every merge that goes on from there without a fault. -/
namespace Skinning

namespace Declaration

/-- The child of a block that a declaration is made of. -/
def child? : Declaration → Option Element
  | .resolution e | .switchPixmap e | .color e | .face e | .fontAlias e | .parameter e | .image _ e
  | .subtitle e => some e
  | .fallbackFace | .style _ _ | .margin _ _ => none

def stage : Declaration → Nat
  | .fallbackFace => 1
  | .fontAlias _ => 2
  | _ => 0

/-- Declarations stand stage after stage, and those of one stage like their elements. -/
structure InOrder (block : Element) (ds : List Declaration) : Prop where
  staged : ds.Pairwise fun d e => d.stage ≤ e.stage
  document : ∀ n, ((ds.filter (·.stage = n)).filterMap child?).Sublist block.children

variable {block : Element}

theorem InOrder.nil : InOrder block [] := ⟨.nil, fun _ => List.nil_sublist _⟩

theorem InOrder.single {d : Declaration} (whole : d.child? = none) : InOrder block [d] := by
  refine ⟨List.pairwise_singleton _ d, fun n => ?_⟩
  by_cases stage : d.stage = n <;> simp [stage, whole]

theorem InOrder.children (tag : String) {make : Element → Declaration} {n : Nat}
    (stage : ∀ e, (make e).stage = n) (child : ∀ e, (make e).child? = some e) :
    InOrder block ((block.childrenNamed tag).map make) := by
  refine ⟨List.pairwise_map.mpr (List.pairwise_of_forall fun d e => by simp [stage]), fun m => ?_⟩
  have read : child? ∘ make = some := funext child
  by_cases same : n = m
  · have all : ((block.childrenNamed tag).map make).filter (·.stage = m) =
        (block.childrenNamed tag).map make := by simp [stage, same]
    rw [all, List.filterMap_map, read, List.filterMap_some]
    exact List.filter_sublist
  · have none : ((block.childrenNamed tag).map make).filter (·.stage = m) = [] := by
      simp [stage, same]
    simp [none]

/-- Later stages go behind earlier ones. -/
theorem InOrder.append {ds es : List Declaration} (first : InOrder block ds)
    (second : InOrder block es) (apart : ∀ d ∈ ds, ∀ e ∈ es, d.stage < e.stage) :
    InOrder block (ds ++ es) := by
  refine ⟨List.pairwise_append.mpr ⟨first.staged, second.staged, fun d inFirst e inSecond =>
    Nat.le_of_lt (apart d inFirst e inSecond)⟩, fun n => ?_⟩
  rw [List.filter_append, List.filterMap_append]
  cases empty : es.filter (·.stage = n) with
  | nil =>
    rw [List.filterMap_nil, List.append_nil]
    exact first.document n
  | cons e more =>
    obtain ⟨member, stage⟩ := List.mem_filter.mp (empty ▸ List.mem_cons_self : e ∈ es.filter _)
    have none : ds.filter (·.stage = n) = [] := List.filter_eq_nil_iff.mpr fun d inside same => by
      have less := apart d inside e member
      simp only [decide_eq_true_eq] at stage same
      omega
    rw [none, ← empty]
    exact second.document n

theorem inOrder_of_ofBlock {ds : List Declaration} (listed : ofBlock block = .ok ds) :
    InOrder block ds := by
  have children (tag : String) {make : Element → Declaration} (stage : ∀ e, (make e).stage = 0)
      (child : ∀ e, (make e).child? = some e)
      (all : .ok ((block.childrenNamed tag).map make) = (.ok ds : Except RegistryFault _)) :
      InOrder block ds := Except.ok.inj all ▸ .children tag stage child
  have whole {make : Nat → Declaration} (none : ∀ id, (make id).child? = none)
      (single : (surfaceId block).map (fun id => [make id]) = .ok ds) : InOrder block ds := by
    cases isId : surfaceId block with
    | error fault =>
      rw [isId] at single
      cases single
    | ok id =>
      rw [isId] at single
      cases single
      exact .single (none id)
  unfold ofBlock at listed
  dsimp only at listed
  split at listed
  -- Most blocks declare by their children of one tag.
  any_goals exact children _ (fun _ => rfl) (fun _ => rfl) listed
  next =>
    cases isId : surfaceId block with
    | error fault =>
      rw [isId] at listed
      cases listed
    | ok id =>
      rw [isId] at listed
      by_cases main : id = guiSurface
      · simp only [Except.map, main, if_true] at listed
        exact children _ (fun _ => rfl) (fun _ => rfl) listed
      · simp only [Except.map, main, if_false] at listed
        cases listed
        exact .nil
  next =>
    cases listed
    have faces : InOrder block ((block.childrenNamed "font").map .face) :=
      .children "font" (fun _ => rfl) fun _ => rfl
    have aliases : InOrder block ((block.childrenNamed "alias").map .fontAlias) :=
      .children "alias" (fun _ => rfl) fun _ => rfl
    refine (faces.append (.single rfl) ?_).append aliases ?_
    · simp [stage]
    · intro d first e last
      obtain ⟨-, -, rfl⟩ := List.mem_map.mp last
      rcases List.mem_append.mp first with first | first
      · obtain ⟨-, -, rfl⟩ := List.mem_map.mp first
        exact Nat.zero_lt_succ 1
      · obtain rfl := List.mem_singleton.mp first
        exact Nat.lt_succ_self 1
  next => exact whole (fun _ => rfl) listed
  next => exact whole (fun _ => rfl) listed
  next =>
    cases listed
    exact .nil

end Declaration

namespace Store

variable {site : BlockSite}

/-- The entries that declarations make one after the other, all of each. -/
inductive Makes (site : BlockSite) : Store → List Declaration → List Entry → Prop where
  | nil {s : Store} : Makes site s [] []
  | cons {s : Store} {d : Declaration} {rest : List Declaration} {made more : List Entry} :
      d.decode site s = .ok made → Makes site (made.foldl set s) rest more →
      Makes site s (d :: rest) (made ++ more)

theorem mergeDeclarations_made {s : Store} {d : Declaration} {made : List Entry}
    (decoded : d.decode site s = .ok made) (rest : List Declaration) :
    (s.mergeDeclarations site (d :: rest)).store =
        ((made.foldl set s).mergeDeclarations site rest).store ∧
      (s.mergeDeclarations site (d :: rest)).fault? =
        ((made.foldl set s).mergeDeclarations site rest).fault? := by
  unfold Declaration.decode at decoded
  simp only [mergeDeclarations]
  generalize (d.read site s).run.run [] = outcome at decoded ⊢
  obtain ⟨result, notices⟩ := outcome
  cases decoded
  exact ⟨rfl, rfl⟩

theorem mergeDeclarations_faulty {s : Store} {d : Declaration} {fault : RegistryFault}
    (faulty : d.decode site s = .error fault) (rest : List Declaration) :
    (s.mergeDeclarations site (d :: rest)).store = s ∧
      (s.mergeDeclarations site (d :: rest)).fault? = some fault := by
  unfold Declaration.decode at faulty
  simp only [mergeDeclarations]
  generalize (d.read site s).run.run [] = outcome at faulty ⊢
  obtain ⟨result, notices⟩ := outcome
  cases faulty
  exact ⟨rfl, rfl⟩

theorem makes_of_mergeDeclarations {s : Store} {ds : List Declaration}
    (merged : (s.mergeDeclarations site ds).fault? = none) :
    ∃ entries, Makes site s ds entries ∧
      (s.mergeDeclarations site ds).store = entries.foldl set s := by
  induction ds generalizing s with
  | nil => exact ⟨[], .nil, rfl⟩
  | cons d rest ih =>
    obtain ⟨made, decoded, mergedOn, store⟩ := mergeDeclarations_cons merged
    obtain ⟨more, makes, storeOn⟩ := ih mergedOn
    exact ⟨made ++ more, .cons decoded makes, by rw [store, storeOn, List.foldl_append]⟩

/-- A merge stops at the first declaration that is at fault. -/
theorem mergeDeclarations_stops {s : Store} {ds : List Declaration} {fault : RegistryFault}
    (stopped : (s.mergeDeclarations site ds).fault? = some fault) :
    ∃ before d later, ds = before ++ d :: later ∧
      (s.mergeDeclarations site before).fault? = none ∧
      (s.mergeDeclarations site ds).store = (s.mergeDeclarations site before).store ∧
      d.decode site (s.mergeDeclarations site before).store = .error fault := by
  induction ds generalizing s with
  | nil => cases stopped
  | cons d rest ih =>
    cases decoded : d.decode site s with
    | error found =>
      obtain ⟨store, same⟩ := mergeDeclarations_faulty decoded rest
      cases same.symm.trans stopped
      exact ⟨[], d, rest, rfl, rfl, store, decoded⟩
    | ok made =>
      obtain ⟨store, same⟩ := mergeDeclarations_made decoded rest
      obtain ⟨before, e, later, rfl, merged, storeOn, faulty⟩ := ih (same.symm.trans stopped)
      obtain ⟨storeFirst, faultFirst⟩ := mergeDeclarations_made decoded before
      refine ⟨d :: before, e, later, rfl, faultFirst.trans merged, ?_, ?_⟩
      · rw [store, storeOn, storeFirst]
      · rw [storeFirst, faulty]

/-- What a merge leaves of a block that it is stopped in: the entries of the declarations `before`
the one that is at fault. -/
structure StopsAt (site : BlockSite) (block : Element) (s : Store) (fault : RegistryFault) (t : Store)
    (before : List Declaration) (d : Declaration) (later : List Declaration) : Prop where
  listed : Declaration.ofBlock block = .ok (before ++ d :: later)
  inOrder : Declaration.InOrder block (before ++ d :: later)
  faulty : d.decode site t = .error fault
  /-- The store differs by the entries of whole declarations. -/
  entries : ∃ entries, Makes site s before entries ∧ t = entries.foldl set s
  undeclared : ∀ key, (∀ e ∈ before, key ∉ e.keys site) → t.held? key = s.held? key
  last : ∀ first e rest key, before = first ++ e :: rest → key ∈ e.keys site →
    (∀ other ∈ rest, key ∉ other.keys site) →
    ∃ entries entry, e.decode site (s.decodedFrom site block first) = .ok entries ∧
      entry ∈ entries ∧ entry.key = key ∧ t.held? key = some entry
  /-- A merge that goes on from there without a fault keeps what it does not declare again. -/
  asMerged : ∀ other rest, Declaration.ofBlock other = .ok (before ++ rest) →
    (s.mergeBlock site other).fault? = none → ∀ key, (∀ e ∈ rest, key ∉ e.keys site) →
    (s.mergeBlock site other).store.held? key = t.held? key

theorem mergeBlock_eq {s : Store} {block : Element} {ds : List Declaration}
    (listed : Declaration.ofBlock block = .ok ds) :
    s.mergeBlock site block = s.mergeDeclarations site ds := by
  rw [mergeBlock, listed]

theorem mergeBlock_stopsAt {s : Store} {block : Element} {ds : List Declaration}
    {fault : RegistryFault} (listed : Declaration.ofBlock block = .ok ds)
    (stopped : (s.mergeBlock site block).fault? = some fault) :
    ∃ before d later, StopsAt site block s fault (s.mergeBlock site block).store before d later := by
  rw [mergeBlock_eq listed] at stopped ⊢
  obtain ⟨before, d, later, rfl, merged, store, faulty⟩ := mergeDeclarations_stops stopped
  rw [store]
  refine ⟨before, d, later, listed, Declaration.inOrder_of_ofBlock listed, faulty,
    makes_of_mergeDeclarations merged, fun key => mergeDeclarations_keeps merged, ?_, ?_⟩
  · rintro first e rest key rfl declared last
    have more : Declaration.ofBlock block = .ok (first ++ e :: (rest ++ d :: later)) := by
      simpa using listed
    rw [decode_decodedFrom more (mergeDeclarations_append merged).1]
    exact mergeDeclarations_last merged declared last
  · intro other rest again whole key kept
    rw [mergeBlock_eq again] at whole ⊢
    obtain ⟨-, mergedRest, storeRest⟩ := mergeDeclarations_append whole
    rw [storeRest]
    exact mergeDeclarations_keeps mergedRest kept

/-- Styles and margins are declared by a block as a whole. -/
theorem ofBlock_whole {block : Element} {ds : List Declaration}
    (tag : block.tag = "windowstyle" ∨ block.tag = "margin")
    (listed : Declaration.ofBlock block = .ok ds) : ∃ d, ds = [d] := by
  cases isId : Declaration.surfaceId block with
  | error fault => rcases tag with tag | tag <;> simp [Declaration.ofBlock, tag, isId, Except.map] at listed
  | ok id =>
    rcases tag with tag | tag
    · exact ⟨.style id block, by simpa [Declaration.ofBlock, tag, isId, Except.map] using listed.symm⟩
    · exact ⟨.margin id block, by simpa [Declaration.ofBlock, tag, isId, Except.map] using listed.symm⟩

/-- A merge that fails leaves whole entries only: none if the surface of the block is at fault, or
if the block is a style or margins, and else those of the declarations in front of the fault. -/
theorem mergeBlock_fails {s : Store} {site : BlockSite} {block : Element} {fault : RegistryFault}
    (stopped : (s.mergeBlock site block).fault? = some fault) :
    (Declaration.ofBlock block = .error fault ∧ (s.mergeBlock site block).store = s ∨
      ∃ before d later,
        StopsAt site block s fault (s.mergeBlock site block).store before d later) ∧
    (block.tag = "windowstyle" ∨ block.tag = "margin" → (s.mergeBlock site block).store = s) := by
  cases listed : Declaration.ofBlock block with
  | error found =>
    have merged : s.mergeBlock site block = ⟨s, some found, []⟩ := by rw [mergeBlock, listed]
    rw [merged] at stopped ⊢
    cases stopped
    exact ⟨.inl ⟨rfl, rfl⟩, fun _ => rfl⟩
  | ok ds =>
    obtain ⟨before, d, later, stops⟩ := mergeBlock_stopsAt listed stopped
    refine ⟨.inr ⟨before, d, later, stops⟩, fun tag => ?_⟩
    obtain ⟨single, alone⟩ := ofBlock_whole tag stops.listed
    have first : before = [] := by
      cases before with
      | nil => rfl
      | cons e rest => simp at alone
    subst first
    obtain ⟨entries, makes, store⟩ := stops.entries
    cases makes
    exact store

/-- A color, one that is named like it, one that is not there, and one behind it. -/
def fadedInks : Element :=
  let color (name value : String) : Element :=
    ((Element.ofTag "color").withAttribute "name" name).withAttribute "value" value
  ((inks.1.withChild (color "paper" "sepia")).withChild (color "foil" "#00ff00"))

theorem fadedInks_fails :
    let merged := initial.mergeBlock bareSite fadedInks
    merged.fault? = some (.unknownColor "sepia") ∧
      (Declaration.ofBlock fadedInks = .error (.unknownColor "sepia") ∧ merged.store = initial ∨
        ∃ before d later,
          StopsAt bareSite fadedInks initial (.unknownColor "sepia") merged.store before d later) ∧
      merged.store.colors.get? "ink" = some ⟨0xff0000⟩ ∧
      merged.store.colors.get? "print" = some ⟨0xff0000⟩ ∧
      merged.store.colors.get? "foil" = none := by
  have stopped : (initial.mergeBlock bareSite fadedInks).fault? = some (.unknownColor "sepia") := by
    decide +kernel
  refine ⟨stopped, (mergeBlock_fails stopped).1, ?_, ?_, ?_⟩ <;> decide +kernel

end Store
end Skinning
