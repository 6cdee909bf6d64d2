import Skinning.Registry.Merge

/-! What merging a block can fail with: with faults of the block itself, never with an
include cycle. This tells the faults that end the documents around a document from all
others. -/
namespace Skinning

/-- A result whose fault, if it has one, is the block's own and not an include cycle. -/
structure IsLocal (result : Except RegistryFault α) : Prop where
  other : ∀ path, result ≠ .error (.includeCycle path)

namespace IsLocal

theorem ok (a : α) : IsLocal (.ok a) := ⟨fun _ => nofun⟩

theorem bind {r : Except RegistryFault α} {f : α → Except RegistryFault β} (first : IsLocal r)
    (rest : ∀ a, IsLocal (f a)) : IsLocal (r >>= f) := by
  cases r with
  | error fault => exact ⟨fun path equal => first.other path (by cases equal; rfl)⟩
  | ok a => exact rest a

theorem map {r : Except RegistryFault α} (isLocal : IsLocal r) (f : α → β) : IsLocal (r.map f) := by
  cases r with
  | error fault => exact ⟨fun path equal => isLocal.other path (by cases equal; rfl)⟩
  | ok a => exact ok (f a)

end IsLocal

namespace Reading

/-- A reading with a local result, whatever was noted before. -/
structure StaysLocal (r : Reading α) : Prop where
  run : ∀ notices, IsLocal (r.run.run notices).1

namespace StaysLocal

theorem pure (a : α) : StaysLocal (Pure.pure a : Reading α) := ⟨fun _ => .ok a⟩

theorem throw {fault : RegistryFault} (other : ∀ path, fault ≠ .includeCycle path) :
    StaysLocal (throw fault : Reading α) :=
  ⟨fun _ => ⟨fun path equal => other path (Except.error.inj equal)⟩⟩

theorem throw_bind {fault : RegistryFault} (other : ∀ path, fault ≠ .includeCycle path)
    (f : α → Reading β) : StaysLocal (MonadExcept.throw fault >>= f) :=
  ⟨fun _ => ⟨fun path equal => other path (Except.error.inj equal)⟩⟩

theorem bind {r : Reading α} {f : α → Reading β} (first : StaysLocal r)
    (rest : ∀ a, StaysLocal (f a)) : StaysLocal (r >>= f) := by
  refine ⟨fun notices => ?_⟩
  have isLocal := first.run notices
  simp only [ExceptT.run_bind, StateT.run_bind]
  generalize r.run.run notices = outcome at isLocal ⊢
  obtain ⟨fault | a, more⟩ := outcome
  · exact ⟨fun path equal => isLocal.other path (congrArg _ (Except.error.inj equal))⟩
  · exact (rest a).run more

theorem notice (more : Notices) : StaysLocal (notice more) := ⟨fun _ => .ok ()⟩

theorem noted (result : α × Notices) : StaysLocal (noted result) :=
  .bind (.notice _) fun _ => .pure _

theorem ofExcept {r : Except RegistryFault α} (isLocal : IsLocal r) : StaysLocal (ofExcept r) := by
  cases r with
  | ok a => exact .pure a
  | error fault => exact .throw fun path equal => isLocal.other path (by rw [equal])

theorem ofLiteral (r : Except LiteralFault α) : StaysLocal (ofLiteral r) := by
  cases r with
  | ok a => exact .pure a
  | error fault => exact .throw fun _ => nofun

theorem foldlM {f : β → α → Reading β} (steps : ∀ b a, StaysLocal (f b a)) (b : β) (as : List α) :
    StaysLocal (as.foldlM f b) := by
  induction as generalizing b with
  | nil => exact .pure b
  | cons a rest ih => exact .bind (steps b a) ih

end StaysLocal
end Reading

namespace Declaration

open Reading (StaysLocal)

theorem required_local (e : Element) (tag key : String) : IsLocal (required e tag key) := by
  unfold required
  split
  · exact .ok _
  · exact ⟨fun _ => nofun⟩

theorem int_local (e : Element) (key : String) (default : Int) : IsLocal (int e key default) := by
  refine IsLocal.map ?_ _
  unfold int?
  split
  · exact .ok _
  · split
    · exact .ok _
    · exact ⟨fun _ => nofun⟩

theorem surfaceId_local (block : Element) : IsLocal (surfaceId block) :=
  (int_local block "id" guiSurface).map _

theorem color_local (s : Store) (value : String) : IsLocal (s.color value) := by
  unfold Store.color
  split
  · split
    · exact .ok _
    · exact ⟨fun _ equal => by cases equal⟩
  · split
    · exact .ok _
    · exact ⟨fun _ equal => by cases equal⟩

theorem loadPixmap_local (site : BlockSite) (filename : String) :
    IsLocal (loadPixmap site filename) := by
  unfold loadPixmap
  dsimp only
  split
  · exact .ok _
  · exact ⟨fun _ => nofun⟩

theorem readResolution_local (s : Store) (e : Element) : StaysLocal (readResolution s e) :=
  .bind (.ofExcept (int_local ..)) fun _ =>
  .bind (.ofExcept (int_local ..)) fun _ =>
  .bind (.ofExcept (int_local ..)) fun _ =>
  .bind (.notice _) fun _ => .pure _

theorem readSwitchPixmap_local (site : BlockSite) (e : Element) :
    IsLocal (readSwitchPixmap site e) := by
  refine .bind (required_local ..) fun name => .bind (required_local ..) fun filename => ?_
  dsimp only
  split
  · exact ⟨fun _ => nofun⟩
  · exact .bind (loadPixmap_local ..) fun _ => .ok _

theorem readColor_local (s : Store) (e : Element) : IsLocal (readColor s e) :=
  .bind (required_local ..) fun _ => .bind (required_local ..) fun _ =>
  .bind (color_local ..) fun _ => .ok _

theorem readFace_local (site : BlockSite) (e : Element) : StaysLocal (readFace site e) := by
  refine .bind (.ofExcept (int_local ..)) fun scale =>
    .bind (.ofExcept (int_local ..)) fun render => ?_
  dsimp only
  split
  · exact .throw_bind (by nofun) _
  · exact .bind (.notice _) fun _ => .pure _

theorem readAlias_local (s : Store) (e : Element) : StaysLocal (readAlias s e) := by
  have scalar (text : String) : StaysLocal (do
      Reading.notice (.ofCoordinates (Coordinate.scalarOrZero s.factor text).2)
      return (Coordinate.scalarOrZero s.factor text).1 : Reading Int) :=
    .bind (.notice _) fun _ => .pure _
  have optional (text? : Option String) (default : Int) : StaysLocal ((text?.map fun text => do
      Reading.notice (.ofCoordinates (Coordinate.scalarOrZero s.factor text).2)
      return (Coordinate.scalarOrZero s.factor text).1 : Option (Reading Int)).getD
        (pure default)) := by
    cases text? with
    | none => exact .pure default
    | some text => exact scalar text
  unfold readAlias
  dsimp only
  split
  · exact .throw_bind (by nofun) _
  split
  · split
    · exact .bind (scalar _) fun size => .bind (optional _ size) fun height =>
        .bind (optional _ size) fun width => .pure _
    · exact .throw fun _ => nofun
  · exact .throw fun _ => nofun

theorem readParameter_local (s : Store) (e : Element) : StaysLocal (readParameter s e) := by
  refine .bind (.ofExcept (required_local ..)) fun name =>
    .bind (.ofExcept (required_local ..)) fun value => .bind (.notice _) fun _ => ?_
  split
  · exact .pure _
  · exact .throw fun _ => nofun

theorem readImage_local (kind : ImageKind) (e : Element) : IsLocal (readImage kind e) :=
  .bind (required_local ..) fun _ => .bind (required_local ..) fun _ => .ok _

theorem color?_local (s : Store) (e : Element) (key : String) : StaysLocal (color? s e key) := by
  unfold color?
  split
  · exact .bind (.ofExcept (color_local ..)) fun _ => .pure _
  · exact .pure _

theorem readSubtitle_local (s : Store) (e : Element) : StaysLocal (readSubtitle s e) :=
  .bind (.ofExcept (required_local ..)) fun _ =>
  .bind (.ofExcept (required_local ..)) fun _ =>
  .bind (.noted _) fun _ =>
  .bind (color?_local ..) fun _ =>
  .bind (color?_local ..) fun _ =>
  .bind (.ofExcept (int_local ..)) fun _ => .pure _

theorem readTitle_local (s : Store) (style : WindowStyle) (e : Element) :
    StaysLocal (readTitle s style e) := by
  unfold readTitle
  dsimp only
  split
  · refine .bind (.ofLiteral _) fun pair => .bind (.noted pair) fun point => ?_
    split
    · exact .bind (.noted _) fun font => .pure _
    · exact .pure _
  · split
    · exact .bind (.noted _) fun font => .pure _
    · exact .pure _

theorem readBorder_local (site : BlockSite) (set : Option BorderSet) (style : WindowStyle)
    (e : Element) : StaysLocal (readBorder site set style e) := by
  unfold readBorder
  split
  · refine .bind (.ofExcept (loadPixmap_local ..)) fun pixmap => ?_
    split
    · exact .pure _
    · exact .pure _
  · exact .pure _

theorem readStyleColor_local (s : Store) (style : WindowStyle) (e : Element) :
    StaysLocal (readStyleColor s style e) := by
  refine .bind (.ofExcept (required_local ..)) fun value =>
    .bind (.ofExcept (color_local ..)) fun color => ?_
  split
  · exact .pure _
  · exact .throw fun _ => nofun

theorem readStyle_local (site : BlockSite) (s : Store) (block : Element) :
    StaysLocal (readStyle site s block) :=
  .bind (.foldlM (readTitle_local s) ..) fun _ =>
  .bind (.foldlM (fun style _ => .foldlM (readBorder_local site _) style _) ..) fun _ =>
  .foldlM (readStyleColor_local s) ..

theorem readMargin_local (block : Element) : IsLocal (readMargin block) :=
  .bind (int_local ..) fun _ => .bind (int_local ..) fun _ =>
  .bind (int_local ..) fun _ => .bind (int_local ..) fun _ => .ok _

theorem read_local (site : BlockSite) (s : Store) (d : Declaration) :
    StaysLocal (d.read site s) := by
  cases d with
  | resolution e => exact readResolution_local s e
  | switchPixmap e => exact .ofExcept (readSwitchPixmap_local site e)
  | color e => exact .ofExcept (readColor_local s e)
  | face e => exact readFace_local site e
  | fallbackFace => exact .pure _
  | fontAlias e => exact readAlias_local s e
  | parameter e => exact readParameter_local s e
  | image kind e => exact .ofExcept (readImage_local kind e)
  | subtitle e => exact readSubtitle_local s e
  | style id block => exact .bind (readStyle_local site s block) fun _ => .pure _
  | margin id block => exact .bind (.ofExcept (readMargin_local block)) fun _ => .pure _

theorem ofBlock_local (block : Element) : IsLocal (ofBlock block) := by
  unfold ofBlock
  split
  all_goals first
    | exact .ok _
    | exact (surfaceId_local block).map _

end Declaration

namespace Store

theorem mergeDeclarations_local (site : BlockSite) (declarations : List Declaration) (s : Store)
    (path : Path) : (s.mergeDeclarations site declarations).fault? ≠ some (.includeCycle path) := by
  induction declarations generalizing s with
  | nil => exact nofun
  | cons declaration rest ih =>
    have isLocal := (declaration.read_local site s).run []
    simp only [mergeDeclarations]
    generalize (declaration.read site s).run.run [] = outcome at isLocal ⊢
    obtain ⟨fault | entries, notices⟩ := outcome
    · intro equal
      exact isLocal.other path (congrArg _ (Option.some.inj equal))
    · exact ih _

/-- Merging a block does not fail as an include cycle does. -/
theorem mergeBlock_local (s : Store) (site : BlockSite) (block : Element) (path : Path) :
    (s.mergeBlock site block).fault? ≠ some (.includeCycle path) := by
  have isLocal := Declaration.ofBlock_local block
  simp only [mergeBlock]
  cases declares : Declaration.ofBlock block with
  | error fault =>
    intro equal
    exact isLocal.other path (declares.trans (congrArg _ (Option.some.inj equal)))
  | ok declarations => exact mergeDeclarations_local site declarations s path

end Store
end Skinning
