import Skinning.Proofs.DeclaredKeys

/-! Merging, key by key. The last declaration of a key decides its value, and a key that is not
declared keeps the value that it has. All declarations of a block are decoded from the store that
it is merged into, except colors: a color may be named as soon as it is declared. -/
namespace Skinning

namespace Declaration

/-- The entries that a declaration makes where it is read against a store. -/
def decode (d : Declaration) (site : BlockSite) (s : Store) : Except RegistryFault (List Entry) :=
  ((d.read site s).run.run []).1

theorem decode_keys {d : Declaration} {site : BlockSite} {s : Store} {entries : List Entry}
    (decoded : d.decode site s = .ok entries) : entries.map Entry.key = d.keys site :=
  (d.read_keys site s).run [] entries decoded

end Declaration

namespace Store

variable {site : BlockSite}

/-- The store after declarations that can all be merged. -/
theorem mergeDeclarations_cons {s : Store} {d : Declaration} {rest : List Declaration}
    (merged : (s.mergeDeclarations site (d :: rest)).fault? = none) :
    ∃ entries, d.decode site s = .ok entries ∧
      ((entries.foldl set s).mergeDeclarations site rest).fault? = none ∧
      (s.mergeDeclarations site (d :: rest)).store =
        ((entries.foldl set s).mergeDeclarations site rest).store := by
  simp only [mergeDeclarations] at merged ⊢
  unfold Declaration.decode
  generalize (d.read site s).run.run [] = outcome at merged ⊢
  obtain ⟨fault | entries, notices⟩ := outcome
  · cases merged
  · exact ⟨entries, rfl, merged, rfl⟩

theorem mergeDeclarations_append {s : Store} {first rest : List Declaration}
    (merged : (s.mergeDeclarations site (first ++ rest)).fault? = none) :
    let between := s.mergeDeclarations site first
    between.fault? = none ∧ (between.store.mergeDeclarations site rest).fault? = none ∧
      (s.mergeDeclarations site (first ++ rest)).store =
        (between.store.mergeDeclarations site rest).store := by
  induction first generalizing s with
  | nil => exact ⟨rfl, merged, rfl⟩
  | cons d others ih =>
    obtain ⟨entries, decoded, mergedOn, store⟩ := mergeDeclarations_cons merged
    obtain ⟨fault, mergedRest, storeRest⟩ := ih mergedOn
    have step : (s.mergeDeclarations site (d :: others)).store =
          ((entries.foldl set s).mergeDeclarations site others).store ∧
        (s.mergeDeclarations site (d :: others)).fault? =
          ((entries.foldl set s).mergeDeclarations site others).fault? := by
      unfold Declaration.decode at decoded
      simp only [mergeDeclarations]
      generalize (d.read site s).run.run [] = outcome at decoded ⊢
      obtain ⟨result, notices⟩ := outcome
      cases decoded
      exact ⟨rfl, rfl⟩
    simp only [step]
    exact ⟨fault, mergedRest, store.trans storeRest⟩

theorem mergeDeclarations_keeps {s : Store} {ds : List Declaration} {key : Key}
    (merged : (s.mergeDeclarations site ds).fault? = none) (others : ∀ d ∈ ds, key ∉ d.keys site) :
    (s.mergeDeclarations site ds).store.held? key = s.held? key := by
  induction ds generalizing s with
  | nil => rfl
  | cons d rest ih =>
    obtain ⟨entries, decoded, mergedOn, store⟩ := mergeDeclarations_cons merged
    have other : key ∉ entries.map Entry.key := by
      rw [Declaration.decode_keys decoded]
      exact others d List.mem_cons_self
    rw [store, ih mergedOn fun e member => others e (List.mem_cons_of_mem d member),
      held?_foldl_of_notMem s other]

/-- The value of a key is decoded from the last declaration of it. -/
theorem mergeDeclarations_last {s : Store} {before later : List Declaration} {d : Declaration}
    {key : Key} (merged : (s.mergeDeclarations site (before ++ d :: later)).fault? = none)
    (declared : key ∈ d.keys site) (last : ∀ e ∈ later, key ∉ e.keys site) :
    ∃ entries entry, d.decode site (s.mergeDeclarations site before).store = .ok entries ∧
      entry ∈ entries ∧ entry.key = key ∧
      (s.mergeDeclarations site (before ++ d :: later)).store.held? key = some entry := by
  obtain ⟨-, mergedOn, store⟩ := mergeDeclarations_append merged
  obtain ⟨entries, decoded, mergedLater, storeLater⟩ := mergeDeclarations_cons mergedOn
  have keys := Declaration.decode_keys decoded
  obtain ⟨entry, member, rfl⟩ := List.mem_map.mp (keys ▸ declared)
  have distinct : (entries.map Entry.key).Nodup := keys ▸ d.keys_nodup site
  refine ⟨entries, entry, decoded, member, rfl, ?_⟩
  rw [store, storeLater, mergeDeclarations_keeps mergedLater last,
    held?_foldl_of_mem _ distinct member]

end Store

/-! The keys that a block may declare, by its tag. -/

def ImageKind.blockTag : ImageKind → String
  | .menu => "menus"
  | .menuIcon => "menuicons"
  | .screen => "screens"
  | .setup => "setups"

namespace Declaration

/-- An output block counts for the main surface only. -/
def IsMainOutput (block : Element) : Prop :=
  block.tag = "output" ∧ surfaceId block = .ok guiSurface

/-- Whether a block may give a key a value. -/
def Concerns (block : Element) : Key → Prop
  | .surface id => IsMainOutput block ∧ id = guiSurface
  | .fontAlias name => IsMainOutput block ∧ name = "Body" ∨ block.tag = "fonts"
  | .face _ => block.tag = "fonts"
  | .color _ => block.tag = "colors"
  | .parameter _ => block.tag = "parameters"
  | .image kind _ => block.tag = kind.blockTag
  | .switchPixmap _ => block.tag = "switchpixmap"
  | .style id => block.tag = "windowstyle" ∧ surfaceId block = .ok id
  | .margin id => block.tag = "margin" ∧ surfaceId block = .ok id
  | .subtitle _ => block.tag = "subtitles"

/-- A declaration stands in a block as one of its children, or as the block itself. -/
def IsOf (block : Element) : Declaration → Prop
  | .resolution e => IsMainOutput block ∧ e ∈ block.childrenNamed "resolution"
  | .switchPixmap e => block.tag = "switchpixmap" ∧ e ∈ block.childrenNamed "pixmap"
  | .color e => block.tag = "colors" ∧ e ∈ block.childrenNamed "color"
  | .face e => block.tag = "fonts" ∧ e ∈ block.childrenNamed "font"
  | .fallbackFace => block.tag = "fonts"
  | .fontAlias e => block.tag = "fonts" ∧ e ∈ block.childrenNamed "alias"
  | .parameter e => block.tag = "parameters" ∧ e ∈ block.childrenNamed "parameter"
  | .image kind e => block.tag = kind.blockTag ∧ e ∈ block.childrenNamed kind.tag
  | .subtitle e => block.tag = "subtitles" ∧ e ∈ block.childrenNamed "sub"
  | .style id e => block.tag = "windowstyle" ∧ surfaceId block = .ok id ∧ e = block
  | .margin id e => block.tag = "margin" ∧ surfaceId block = .ok id ∧ e = block

theorem isOf_of_mem {block : Element} {ds : List Declaration} (listed : ofBlock block = .ok ds)
    {d : Declaration} (member : d ∈ ds) : d.IsOf block := by
  have child {tag : String} {make : Element → Declaration}
      (all : .ok ((block.childrenNamed tag).map make) = (.ok ds : Except RegistryFault _)) :
      ∃ e ∈ block.childrenNamed tag, make e = d :=
    List.mem_map.mp (Except.ok.inj all ▸ member)
  have whole {make : Nat → Declaration}
      (single : (surfaceId block).map (fun id => [make id]) = .ok ds) :
      ∃ id, surfaceId block = .ok id ∧ make id = d := by
    cases isId : surfaceId block with
    | error fault =>
      rw [isId] at single
      cases single
    | ok id =>
      rw [isId] at single
      cases single
      exact ⟨id, rfl, (List.mem_singleton.mp member).symm⟩
  unfold ofBlock at listed
  dsimp only at listed
  split at listed
  next isTag =>
    cases isId : surfaceId block with
    | error fault =>
      rw [isId] at listed
      cases listed
    | ok id =>
      rw [isId] at listed
      by_cases main : id = guiSurface
      · simp only [Except.map, main, if_true] at listed
        obtain ⟨e, inside, rfl⟩ := child listed
        exact ⟨⟨isTag, main ▸ isId⟩, inside⟩
      · simp only [Except.map, main, if_false] at listed
        cases listed
        cases member
  next isTag => obtain ⟨e, inside, rfl⟩ := child listed; exact ⟨isTag, inside⟩
  next isTag => obtain ⟨e, inside, rfl⟩ := child listed; exact ⟨isTag, inside⟩
  next isTag =>
    cases listed
    simp only [List.append_assoc, List.mem_append, List.mem_map, List.mem_singleton] at member
    rcases member with ⟨e, inside, rfl⟩ | rfl | ⟨e, inside, rfl⟩
    · exact ⟨isTag, inside⟩
    · exact isTag
    · exact ⟨isTag, inside⟩
  next isTag => obtain ⟨e, inside, rfl⟩ := child listed; exact ⟨isTag, inside⟩
  next isTag => obtain ⟨e, inside, rfl⟩ := child listed; exact ⟨isTag, inside⟩
  next isTag => obtain ⟨e, inside, rfl⟩ := child listed; exact ⟨isTag, inside⟩
  next isTag => obtain ⟨e, inside, rfl⟩ := child listed; exact ⟨isTag, inside⟩
  next isTag => obtain ⟨e, inside, rfl⟩ := child listed; exact ⟨isTag, inside⟩
  next isTag => obtain ⟨e, inside, rfl⟩ := child listed; exact ⟨isTag, inside⟩
  next isTag => obtain ⟨id, isId, rfl⟩ := whole listed; exact ⟨isTag, isId, rfl⟩
  next isTag => obtain ⟨id, isId, rfl⟩ := whole listed; exact ⟨isTag, isId, rfl⟩
  next =>
    cases listed
    cases member

/-- A declaration declares only keys that its block's tag is about. -/
theorem IsOf.concerns {block : Element} {d : Declaration} (isOf : d.IsOf block) (site : BlockSite)
    {key : Key} (declared : key ∈ d.keys site) : Concerns block key := by
  have single {make : String → Key} {value? : Option String}
      (inside : key ∈ value?.toList.map make) : ∃ value, make value = key := by
    obtain ⟨value, -, same⟩ := List.mem_map.mp inside
    exact ⟨value, same⟩
  cases d with
  | resolution e =>
    simp only [keys, List.mem_cons, List.not_mem_nil, or_false] at declared
    rcases declared with rfl | rfl
    · exact ⟨isOf.1, rfl⟩
    · exact .inl ⟨isOf.1, rfl⟩
  | switchPixmap e => obtain ⟨name, rfl⟩ := single declared; exact isOf.1
  | color e => obtain ⟨name, rfl⟩ := single declared; exact isOf.1
  | face e => rw [List.mem_singleton.mp declared]; exact isOf.1
  | fallbackFace =>
    simp only [keys] at declared
    split at declared
    · rw [List.mem_singleton.mp declared]
      exact isOf
    · cases declared
  | fontAlias e => obtain ⟨name, rfl⟩ := single declared; exact .inr isOf.1
  | parameter e => obtain ⟨name, rfl⟩ := single declared; exact isOf.1
  | image kind e => obtain ⟨name, rfl⟩ := single declared; exact isOf.1
  | subtitle e => obtain ⟨name, rfl⟩ := single declared; exact isOf.1
  | style id e => rw [List.mem_singleton.mp declared]; exact ⟨isOf.1, isOf.2.1⟩
  | margin id e => rw [List.mem_singleton.mp declared]; exact ⟨isOf.1, isOf.2.1⟩

/-- Apart from colors, no block declares what its own declarations are read from. -/
theorem IsOf.independent {block : Element} {d : Declaration} (isOf : d.IsOf block)
    (uncolored : block.tag ≠ "colors") {key : Key} (concerned : Concerns block key) :
    ¬ d.Asks key ∧ (d.Measures → key ≠ .surface guiSurface) := by
  constructor
  · intro asks
    cases key with
    | color name => exact uncolored concerned
    | fontAlias name =>
      cases d <;> simp_all [Asks, IsOf, Concerns, IsMainOutput]
    | face name => cases d <;> simp_all [Asks, IsOf, Concerns]
    | _ => cases d <;> exact asks
  · rintro measures rfl
    obtain ⟨⟨isOutput, -⟩, -⟩ := concerned
    cases d <;> simp_all [Measures, IsOf]

end Declaration

namespace Store

/-- The store that a declaration of a block is decoded from, where `before` are those in front of
it. -/
def decodedFrom (s : Store) (site : BlockSite) (block : Element) (before : List Declaration) :
    Store :=
  if block.tag = "colors" then (s.mergeDeclarations site before).store else s

theorem decode_decodedFrom {s : Store} {site : BlockSite} {block : Element}
    {before later : List Declaration} {d : Declaration}
    (listed : Declaration.ofBlock block = .ok (before ++ d :: later))
    (merged : (s.mergeDeclarations site before).fault? = none) :
    d.decode site (s.decodedFrom site block before) =
      d.decode site (s.mergeDeclarations site before).store := by
  unfold decodedFrom
  split
  · rfl
  next uncolored =>
    have isOf := Declaration.isOf_of_mem listed (d := d) (by simp)
    have kept {key : Key} (unconcerned : ¬ Declaration.Concerns block key) :
        (s.mergeDeclarations site before).store.held? key = s.held? key :=
      mergeDeclarations_keeps merged fun e member declared => unconcerned
        ((Declaration.isOf_of_mem listed (by simp [member])).concerns site declared)
    have same : d.read site s = d.read site (s.mergeDeclarations site before).store := by
      refine d.read_of_agree site (fun measures => ?_) fun key asks => ?_
      · exact (factor_congr (kept fun concerned =>
          (isOf.independent uncolored concerned).2 measures rfl)).symm
      · exact (kept fun concerned => (isOf.independent uncolored concerned).1 asks).symm
    rw [Declaration.decode, Declaration.decode, same]

/-- What merging a block without a fault makes of a store, key by key. -/
structure Cascades (site : BlockSite) (block : Element) (s t : Store) : Prop where
  listed : ∃ ds, Declaration.ofBlock block = .ok ds
  unconcerned : ∀ key, ¬ Declaration.Concerns block key → t.held? key = s.held? key
  undeclared : ∀ ds key, Declaration.ofBlock block = .ok ds → (∀ d ∈ ds, key ∉ d.keys site) →
    t.held? key = s.held? key
  last : ∀ before d later key, Declaration.ofBlock block = .ok (before ++ d :: later) →
    key ∈ d.keys site → (∀ e ∈ later, key ∉ e.keys site) →
    ∃ entries entry, d.decode site (s.decodedFrom site block before) = .ok entries ∧
      entry ∈ entries ∧ entry.key = key ∧ t.held? key = some entry

theorem mergeBlock_cascades {s : Store} {site : BlockSite} {block : Element}
    (merged : (s.mergeBlock site block).fault? = none) :
    Cascades site block s (s.mergeBlock site block).store := by
  unfold mergeBlock at merged ⊢
  cases listed : Declaration.ofBlock block with
  | error fault =>
    rw [listed] at merged
    cases merged
  | ok ds =>
    simp only [listed] at merged ⊢
    refine ⟨⟨ds, listed⟩, fun key unconcerned => ?_, fun others key again undeclared => ?_,
      fun before d later key again declared isLast => ?_⟩
    · exact mergeDeclarations_keeps merged fun d member declared =>
        unconcerned ((Declaration.isOf_of_mem listed member).concerns site declared)
    · cases listed.symm.trans again
      exact mergeDeclarations_keeps merged undeclared
    · cases listed.symm.trans again
      rw [decode_decodedFrom listed (mergeDeclarations_append merged).1]
      exact mergeDeclarations_last merged declared isLast

end Store

/-! Sequences of blocks. -/

/-- A block and where it is merged. -/
structure SitedBlock where
  site : BlockSite
  block : Element

/-- Whether a block declares a key. -/
def SitedBlock.Declares (b : SitedBlock) (key : Key) : Prop :=
  ∃ ds, Declaration.ofBlock b.block = .ok ds ∧ ∃ d ∈ ds, key ∈ d.keys b.site

namespace Store

/-- Blocks that are merged one after the other, all without a fault. -/
inductive Merges : Store → List SitedBlock → Store → Prop where
  | nil {s : Store} : Merges s [] s
  | cons {s t : Store} {site : BlockSite} {block : Element} {rest : List SitedBlock} :
      (s.mergeBlock site block).fault? = none →
      Merges (s.mergeBlock site block).store rest t → Merges s (⟨site, block⟩ :: rest) t

theorem Merges.split {s t : Store} {first rest : List SitedBlock}
    (merges : Merges s (first ++ rest) t) : ∃ m, Merges s first m ∧ Merges m rest t := by
  induction first generalizing s with
  | nil => exact ⟨s, .nil, merges⟩
  | cons b others ih =>
    cases merges with
    | cons merged more =>
      obtain ⟨m, before, after⟩ := ih more
      exact ⟨m, .cons merged before, after⟩

theorem Merges.keeps {s t : Store} {blocks : List SitedBlock} {key : Key}
    (merges : Merges s blocks t) (undeclared : ∀ b ∈ blocks, ¬ b.Declares key) :
    t.held? key = s.held? key := by
  induction merges with
  | nil => rfl
  | @cons s t site block rest merged _ ih =>
    have cascades := mergeBlock_cascades merged
    obtain ⟨ds, listed⟩ := cascades.listed
    have unnamed : ∀ d ∈ ds, key ∉ d.keys site := fun d member declared =>
      undeclared ⟨site, block⟩ List.mem_cons_self ⟨ds, listed, d, member, declared⟩
    rw [ih fun b member => undeclared b (List.mem_cons_of_mem _ member)]
    exact cascades.undeclared ds key listed unnamed

/-- Each key holds the value of the last declaration of it in a whole sequence of blocks. -/
structure HoldsLast (s : Store) (blocks : List SitedBlock) (t : Store) : Prop where
  undeclared : ∀ key, (∀ b ∈ blocks, ¬ b.Declares key) → t.held? key = s.held? key
  last : ∀ earlier site block later before d after key,
    blocks = earlier ++ ⟨site, block⟩ :: later → (∀ b ∈ later, ¬ b.Declares key) →
    Declaration.ofBlock block = .ok (before ++ d :: after) → key ∈ d.keys site →
    (∀ e ∈ after, key ∉ e.keys site) →
    ∃ m entries entry, Merges s earlier m ∧
      d.decode site (m.decodedFrom site block before) = .ok entries ∧ entry ∈ entries ∧
      entry.key = key ∧ t.held? key = some entry

/-- Merging is a cascade: the last declaration of a key decides its value. -/
theorem merging_cascades :
    (∀ (s : Store) (site : BlockSite) (block : Element), (s.mergeBlock site block).fault? = none →
      Cascades site block s (s.mergeBlock site block).store) ∧
    ∀ (s t : Store) (blocks : List SitedBlock), Merges s blocks t → HoldsLast s blocks t := by
  refine ⟨fun s site block => mergeBlock_cascades, fun s t blocks merges =>
    ⟨fun key => merges.keeps, ?_⟩⟩
  rintro earlier site block later before d after key rfl quiet listed declared last
  obtain ⟨m, mergesEarlier, merges⟩ := merges.split
  cases merges with
  | cons merged mergesLater =>
    obtain ⟨entries, entry, decoded, member, same, value⟩ :=
      (mergeBlock_cascades merged).last before d after key listed declared last
    exact ⟨m, entries, entry, mergesEarlier, decoded, member, same,
      (mergesLater.keeps quiet).trans value⟩

/-- A block with a color that is named by the next one, and a block that changes it. -/
def inks : Element × Element :=
  let color (name value : String) : Element :=
    ((Element.ofTag "color").withAttribute "name" name).withAttribute "value" value
  (((Element.ofTag "colors").withChild (color "ink" "#ff0000")).withChild (color "print" "ink"),
    (Element.ofTag "colors").withChild (color "ink" "#0000ff"))

def bareSite : BlockSite :=
  ⟨⟨⟨.ofList []⟩, ⟨⟨"skins"⟩, ⟨"display"⟩, ⟨"fonts"⟩, ⟨"user"⟩⟩, id⟩, .current, ⟨"skins"⟩, 0⟩

theorem inks_cascade :
    let first := initial.mergeBlock bareSite inks.1
    let second := first.store.mergeBlock bareSite inks.2
    first.fault? = none ∧ second.fault? = none ∧
      Cascades bareSite inks.1 initial first.store ∧
      HoldsLast initial [⟨bareSite, inks.1⟩, ⟨bareSite, inks.2⟩] second.store ∧
      second.store.colors.get? "ink" = some ⟨0x0000ff⟩ ∧
      second.store.colors.get? "print" = some ⟨0xff0000⟩ := by
  have first : (initial.mergeBlock bareSite inks.1).fault? = none := by decide +kernel
  have second : ((initial.mergeBlock bareSite inks.1).store.mergeBlock bareSite inks.2).fault? =
      none := by decide +kernel
  refine ⟨first, second, merging_cascades.1 _ _ _ first,
    merging_cascades.2 _ _ _ (.cons first (.cons second .nil)), ?_, ?_⟩ <;> decide +kernel

end Store
end Skinning
