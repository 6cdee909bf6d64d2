import Skinning.Registry.Merge

/-! A store as one map from keys to entries, and what a declaration asks of the store that it is
read against: the factor, colors, and the fonts by their names. -/
namespace Skinning

/-- What an entry is found by. -/
inductive Key where
  | surface (id : Nat)
  | fontAlias (name : String)
  | face (name : String)
  | color (name : String)
  | parameter (name : String)
  | image (kind : ImageKind) (key : String)
  | switchPixmap (name : String)
  | style (id : Nat)
  | margin (id : Nat)
  | subtitle (name : String)
  deriving DecidableEq, Repr

def Entry.key : Entry → Key
  | .surface id _ => .surface id
  | .fontAlias name _ => .fontAlias name
  | .face name _ => .face name
  | .color name _ => .color name
  | .parameter name _ => .parameter name
  | .image kind key _ => .image kind key
  | .switchPixmap name _ => .switchPixmap name
  | .style id _ => .style id
  | .margin id _ => .margin id
  | .subtitle name _ => .subtitle name

namespace Store

def held? (s : Store) : Key → Option Entry
  | .surface id => (s.surfaces.get? id).map (.surface id)
  | .fontAlias name => (s.aliases.get? name).map (.fontAlias name)
  | .face name => (s.faces.get? name).map (.face name)
  | .color name => (s.colors.get? name).map (.color name)
  | .parameter name => (s.parameters.get? name).map (.parameter name)
  | .image kind key => (s.images.get? (kind, key)).map (.image kind key)
  | .switchPixmap name => (s.switchPixmaps.get? name).map (.switchPixmap name)
  | .style id => (s.styles.get? id).map (.style id)
  | .margin id => (s.margins.get? id).map (.margin id)
  | .subtitle name => (s.subtitles.get? name).map (.subtitle name)

/-- Setting an entry gives its key a value and leaves all other keys alone. -/
@[simp] theorem held?_set (s : Store) (entry : Entry) (key : Key) :
    (s.set entry).held? key = if key = entry.key then some entry else s.held? key := by
  by_cases same : key = entry.key
  · subst same
    cases entry <;> simp [set, held?, Entry.key]
  · rw [if_neg same]
    cases entry <;> cases key <;> grind [set, held?, Entry.key, Table.get?_insert]

theorem held?_foldl_of_notMem (s : Store) {entries : List Entry} {key : Key}
    (other : key ∉ entries.map Entry.key) : (entries.foldl set s).held? key = s.held? key := by
  induction entries generalizing s with
  | nil => rfl
  | cons entry rest ih =>
    rw [List.map_cons, List.mem_cons, not_or] at other
    rw [List.foldl_cons, ih _ other.2, held?_set, if_neg other.1]

theorem held?_foldl_of_mem (s : Store) {entries : List Entry} {entry : Entry}
    (distinct : (entries.map Entry.key).Nodup) (member : entry ∈ entries) :
    (entries.foldl set s).held? entry.key = some entry := by
  induction entries generalizing s with
  | nil => cases member
  | cons first rest ih =>
    rw [List.map_cons, List.nodup_cons] at distinct
    rw [List.foldl_cons]
    rcases List.mem_cons.mp member with rfl | member
    · rw [held?_foldl_of_notMem _ distinct.1, held?_set, if_pos rfl]
    · exact ih _ distinct.2 member

variable {s t : Store}

theorem colors_congr (same : ∀ name, s.held? (.color name) = t.held? (.color name)) :
    s.colors.get? = t.colors.get? := by
  funext name
  exact Option.map_injective (fun a b equal => (Entry.color.inj equal).2) (same name)

theorem aliases_congr (same : ∀ name, s.held? (.fontAlias name) = t.held? (.fontAlias name)) :
    s.aliases.get? = t.aliases.get? := by
  funext name
  exact Option.map_injective (fun a b equal => (Entry.fontAlias.inj equal).2) (same name)

theorem faces_congr (same : ∀ name, s.held? (.face name) = t.held? (.face name)) :
    s.faces.get? = t.faces.get? := by
  funext name
  exact Option.map_injective (fun a b equal => (Entry.face.inj equal).2) (same name)

theorem factor_congr (same : s.held? (.surface guiSurface) = t.held? (.surface guiSurface)) :
    s.factor = t.factor := by
  have sizes : s.surfaces.get? guiSurface = t.surfaces.get? guiSurface :=
    Option.map_injective (fun a b equal => (Entry.surface.inj equal).2) same
  rw [factor, factor, sizes]

theorem color_congr (colors : s.colors.get? = t.colors.get?) : s.color = t.color := by
  funext value
  rw [color, color, colors]

theorem plainPair_congr (factor : s.factor = t.factor) : s.plainPair = t.plainPair := by
  funext text
  rw [plainPair, plainPair, factor]

theorem font_congr (factor : s.factor = t.factor) (aliases : s.aliases.get? = t.aliases.get?)
    (faces : s.faces.get? = t.faces.get?) : s.font = t.font := by
  have parts : s.fontParts = t.fontParts := by
    funext spec
    rw [fontParts, fontParts, factor]
  have body : s.body = t.body := by rw [Store.body, Store.body, aliases]
  funext spec ratio
  unfold font
  simp only [parts, body, aliases, Table.contains, faces]
  rfl

end Store

namespace Declaration

/-- Whether reading depends on the factor. -/
def Measures : Declaration → Prop
  | .fontAlias _ | .parameter _ | .subtitle _ | .style _ _ => True
  | _ => False

/-- The keys that reading may ask for. -/
def Asks : Declaration → Key → Prop
  | .color _, .color _ | .parameter _, .color _ => True
  | .subtitle _, .color _ | .subtitle _, .fontAlias _ | .subtitle _, .face _ => True
  | .style _ _, .color _ | .style _ _, .fontAlias _ | .style _ _, .face _ => True
  | _, _ => False

theorem readStyle_of_agree (site : BlockSite) (block : Element) {s t : Store}
    (factor : s.factor = t.factor) (colors : s.colors.get? = t.colors.get?)
    (aliases : s.aliases.get? = t.aliases.get?) (faces : s.faces.get? = t.faces.get?) :
    readStyle site s block = readStyle site t block := by
  have titles : readTitle s = readTitle t := by
    funext style e
    simp only [readTitle, Store.plainPair_congr factor, Store.font_congr factor aliases faces]
  have slots : readStyleColor s = readStyleColor t := by
    funext style e
    simp only [readStyleColor, Store.color_congr colors]
  simp only [readStyle, titles, slots]

/-- A declaration reads the same from stores that agree on what it asks for. -/
theorem read_of_agree (d : Declaration) (site : BlockSite) {s t : Store}
    (factor : d.Measures → s.factor = t.factor)
    (asked : ∀ key, d.Asks key → s.held? key = t.held? key) :
    d.read site s = d.read site t := by
  cases d with
  | color e =>
    have colors := Store.color_congr (Store.colors_congr fun name => asked (.color name) trivial)
    simp only [read, readColor, colors]
  | fontAlias e => simp only [read, readAlias, factor trivial]
  | parameter e =>
    have colors := Store.colors_congr fun name => asked (.color name) trivial
    simp only [read, readParameter, Store.parameterReader, factor trivial, colors]
  | subtitle e =>
    have colors := Store.color_congr (Store.colors_congr fun name => asked (.color name) trivial)
    have fonts := Store.font_congr (factor trivial)
      (Store.aliases_congr fun name => asked (.fontAlias name) trivial)
      (Store.faces_congr fun name => asked (.face name) trivial)
    simp only [read, readSubtitle, color?, fonts, colors]
  | style id block =>
    rw [read, read, readStyle_of_agree site block (factor trivial)
      (Store.colors_congr fun name => asked (.color name) trivial)
      (Store.aliases_congr fun name => asked (.fontAlias name) trivial)
      (Store.faces_congr fun name => asked (.face name) trivial)]
  | _ => rfl

end Declaration
end Skinning
