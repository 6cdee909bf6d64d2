import Skinning.Proofs.StoreEntries

/-! Which keys a block gives values to, read off its attributes alone. What a declaration is
decoded to has exactly these keys. -/
namespace Skinning

/-! What a reading that succeeds comes to. -/

theorem ok_of_bind {r : Except ε α} {f : α → Except ε β} {b : β}
    (equal : (r >>= f) = .ok b) : ∃ a, r = .ok a ∧ f a = .ok b := by
  cases r with
  | error fault => cases equal
  | ok a => exact ⟨a, rfl, equal⟩

namespace Reading

/-- A result, if there is one, is of a kind. -/
structure Yields (post : α → Prop) (r : Reading α) : Prop where
  run : ∀ notices a, (r.run.run notices).1 = .ok a → post a

namespace Yields

variable {post : β → Prop}

theorem pure {a : β} (holds : post a) : Yields post (Pure.pure a : Reading β) :=
  ⟨fun _ _ equal => Except.ok.inj equal ▸ holds⟩

theorem throw (fault : RegistryFault) : Yields post (MonadExcept.throw fault : Reading β) :=
  ⟨fun _ _ equal => by cases equal⟩

theorem throw_bind (fault : RegistryFault) (f : α → Reading β) :
    Yields post (MonadExcept.throw fault >>= f) :=
  ⟨fun _ _ equal => by cases equal⟩

theorem bind {mid : α → Prop} {r : Reading α} {f : α → Reading β} (first : Yields mid r)
    (rest : ∀ a, mid a → Yields post (f a)) : Yields post (r >>= f) := by
  refine ⟨fun notices b equal => ?_⟩
  have holds := first.run notices
  simp only [ExceptT.run_bind, StateT.run_bind] at equal
  generalize r.run.run notices = outcome at holds equal
  obtain ⟨fault | a, noted⟩ := outcome
  · cases equal
  · exact (rest a (holds a rfl)).run noted b equal

/-- Whatever is read first, the rest decides. -/
theorem after (r : Reading α) {f : α → Reading β} (rest : ∀ a, Yields post (f a)) :
    Yields post (r >>= f) :=
  have any : Yields (fun _ => True) r := ⟨fun _ _ _ => trivial⟩
  bind any fun a _ => rest a

theorem ofExcept {r : Except RegistryFault β} (holds : ∀ a, r = .ok a → post a) :
    Yields post (ofExcept r) := by
  cases r with
  | ok a => exact pure (holds a rfl)
  | error fault => exact throw fault

end Yields
end Reading

namespace Declaration

open Reading (Yields)

def fallbackPath (site : BlockSite) : Path :=
  site.assets.resolve .fonts "fallback.font" (some site.base)

/-- The keys that a declaration gives values to. -/
def keys (site : BlockSite) : Declaration → List Key
  | .resolution _ => [.surface guiSurface, .fontAlias "Body"]
  | .switchPixmap e => (e.filled? "name").toList.map .switchPixmap
  | .color e => (e.filled? "name").toList.map .color
  | .face e => [.face ((e.attribute? "name").getD "Regular")]
  | .fallbackFace => if site.assets.files.isFile (fallbackPath site) then [.face "Fallback"] else []
  | .fontAlias e => (e.attribute? "name").toList.map .fontAlias
  | .parameter e => (e.filled? "name").toList.map .parameter
  | .image kind e => (e.filled? "key").toList.map (.image kind)
  | .subtitle e => (e.filled? "name").toList.map .subtitle
  | .style id _ => [.style id]
  | .margin id _ => [.margin id]

theorem keys_nodup (d : Declaration) (site : BlockSite) : (d.keys site).Nodup := by
  have single {α : Type} (value? : Option α) (key : α → Key) :
      (value?.toList.map key).Nodup := by
    cases value? <;> simp
  cases d with
  | resolution e => simp [keys]
  | fallbackFace =>
    simp only [keys]
    split <;> simp
  | switchPixmap e => exact single _ _
  | color e => exact single _ _
  | fontAlias e => exact single _ _
  | parameter e => exact single _ _
  | image kind e => exact single _ _
  | subtitle e => exact single _ _
  | face e => simp [keys]
  | style id block => simp [keys]
  | margin id block => simp [keys]

theorem required_eq_ok {e : Element} {tag key value : String}
    (read : required e tag key = .ok value) : e.filled? key = some value := by
  unfold required at read
  split at read
  next given => exact Except.ok.inj read ▸ given
  · cases read

theorem readResolution_keys (s : Store) (e : Element) :
    Yields (fun entries => entries.map Entry.key = [.surface guiSurface, .fontAlias "Body"])
      (readResolution s e) :=
  .after _ fun _ => .after _ fun _ => .after _ fun _ => .after _ fun _ => .pure rfl

theorem readSwitchPixmap_keys {site : BlockSite} {e : Element} {entries : List Entry}
    (read : readSwitchPixmap site e = .ok entries) :
    entries.map Entry.key = (e.filled? "name").toList.map .switchPixmap := by
  obtain ⟨name, named, read⟩ := ok_of_bind read
  obtain ⟨filename, -, read⟩ := ok_of_bind read
  dsimp only at read
  split at read
  · cases read
  · obtain ⟨pixmap, -, read⟩ := ok_of_bind read
    cases read
    simp [required_eq_ok named, Entry.key]

theorem readColor_keys {s : Store} {e : Element} {entries : List Entry}
    (read : readColor s e = .ok entries) :
    entries.map Entry.key = (e.filled? "name").toList.map .color := by
  obtain ⟨name, named, read⟩ := ok_of_bind read
  obtain ⟨value, -, read⟩ := ok_of_bind read
  obtain ⟨color, -, read⟩ := ok_of_bind read
  cases read
  simp [required_eq_ok named, Entry.key]

theorem readImage_keys {kind : ImageKind} {e : Element} {entries : List Entry}
    (read : readImage kind e = .ok entries) :
    entries.map Entry.key = (e.filled? "key").toList.map (.image kind) := by
  obtain ⟨key, named, read⟩ := ok_of_bind read
  obtain ⟨image, -, read⟩ := ok_of_bind read
  cases read
  simp [required_eq_ok named, Entry.key]

theorem readFace_keys (site : BlockSite) (e : Element) :
    Yields (fun entries => entries.map Entry.key = [.face ((e.attribute? "name").getD "Regular")])
      (readFace site e) := by
  refine .after _ fun _ => .after _ fun _ => ?_
  dsimp only
  split
  · exact .after _ fun _ => .after _ fun _ => .pure rfl
  · exact .after _ fun _ => .pure rfl

theorem readAlias_keys (s : Store) (e : Element) :
    Yields (fun entries => entries.map Entry.key = (e.attribute? "name").toList.map .fontAlias)
      (readAlias s e) := by
  unfold readAlias
  dsimp only
  cases e.attribute? "name" with
  | none => exact .throw _
  | some name =>
    split
    · exact .throw_bind _ _
    split
    · split
      · exact .after _ fun _ => .after _ fun _ => .after _ fun _ => .pure rfl
      · exact .throw _
    · exact .throw _

theorem readParameter_keys (s : Store) (e : Element) :
    Yields (fun entries => entries.map Entry.key = (e.filled? "name").toList.map .parameter)
      (readParameter s e) := by
  refine .bind (.ofExcept fun _ => required_eq_ok) fun name named => ?_
  refine .after _ fun _ => .after _ fun _ => ?_
  split
  · exact .pure (by simp [named, Entry.key])
  · exact .throw _

theorem readSubtitle_keys (s : Store) (e : Element) :
    Yields (fun entries => entries.map Entry.key = (e.filled? "name").toList.map .subtitle)
      (readSubtitle s e) := by
  refine .bind (.ofExcept fun _ => required_eq_ok) fun name named => ?_
  refine .after _ fun _ => .after _ fun _ => .after _ fun _ => .after _ fun _ => .after _ fun _ => ?_
  exact .pure (by simp [named, Entry.key])

theorem fallbackEntries_keys (site : BlockSite) :
    (fallbackEntries site).map Entry.key = fallbackFace.keys site := by
  by_cases found : site.assets.files.isFile (fallbackPath site) <;>
    simp_all [fallbackEntries, keys, fallbackPath, Entry.key]

/-- A declaration that can be read gives its keys a value, each one and no others. -/
theorem read_keys (d : Declaration) (site : BlockSite) (s : Store) :
    Yields (fun entries => entries.map Entry.key = d.keys site) (d.read site s) := by
  cases d with
  | resolution e => exact readResolution_keys s e
  | switchPixmap e => exact .ofExcept fun _ => readSwitchPixmap_keys
  | color e => exact .ofExcept fun _ => readColor_keys
  | face e => exact readFace_keys site e
  | fallbackFace => exact .pure (fallbackEntries_keys site)
  | fontAlias e => exact readAlias_keys s e
  | parameter e => exact readParameter_keys s e
  | image kind e => exact .ofExcept fun _ => readImage_keys
  | subtitle e => exact readSubtitle_keys s e
  | style id block => exact .after _ fun _ => .pure rfl
  | margin id block => exact .after _ fun _ => .pure rfl

end Declaration
end Skinning
