import Skinning.Registry.Store

/-! The declarations of a block, and the entries that each of them makes in a store. A
declaration is read against the store as the ones before it left it. -/
namespace Skinning

/-- Where a block stands: what it can reach, its directory, and its surface. -/
structure BlockSite where
  assets : Assets
  scope : Scope
  base : Path
  surface : Nat

inductive Entry where
  | surface (id : Nat) (size : Size)
  | fontAlias (name : String) (value : FontAlias)
  | face (name : String) (face : FontFace)
  | color (name : String) (color : Color)
  | parameter (name : String) (value : Parameter)
  | image (kind : ImageKind) (key image : String)
  | switchPixmap (name : String) (pixmap : Pixmap)
  | style (id : Nat) (style : WindowStyle)
  | margin (id : Nat) (margins : Margins)
  | subtitle (face : String) (style : SubtitleStyle)

def Store.set (s : Store) : Entry → Store
  | .surface id size => { s with surfaces := s.surfaces.insert id size }
  | .fontAlias name a => { s with aliases := s.aliases.insert name a }
  | .face name f => { s with faces := s.faces.insert name f }
  | .color name c => { s with colors := s.colors.insert name c }
  | .parameter name p => { s with parameters := s.parameters.insert name p }
  | .image kind key image => { s with images := s.images.insert (kind, key) image }
  | .switchPixmap name p => { s with switchPixmaps := s.switchPixmaps.insert name p }
  | .style id style => { s with styles := s.styles.insert id style }
  | .margin id margins => { s with margins := s.margins.insert id margins }
  | .subtitle face style => { s with subtitles := s.subtitles.insert face style }

inductive Declaration where
  | resolution (e : Element)
  | switchPixmap (e : Element)
  | color (e : Element)
  | face (e : Element)
  /-- The face for missing characters, if there is a file of it. -/
  | fallbackFace
  | fontAlias (e : Element)
  | parameter (e : Element)
  | image (kind : ImageKind) (e : Element)
  | subtitle (e : Element)
  | style (id : Nat) (block : Element)
  | margin (id : Nat) (block : Element)

abbrev Reading := ExceptT RegistryFault (StateM Notices)

namespace Reading

def notice (notices : Notices) : Reading Unit := modify (· ++ notices)

def noted (result : α × Notices) : Reading α := do
  notice result.2
  return result.1

def ofLiteral : Except LiteralFault α → Reading α
  | .ok a => pure a
  | .error fault => throw (.literal fault)

def ofExcept : Except RegistryFault α → Reading α
  | .ok a => pure a
  | .error fault => throw fault

end Reading

namespace Declaration

def required (e : Element) (tag key : String) : Except RegistryFault String :=
  match e.filled? key with
  | some value => .ok value
  | none => .error (.missingAttribute tag key)

def int? (e : Element) (key : String) : Except RegistryFault (Option Int) :=
  match e.filled? key with
  | none => .ok none
  | some value =>
    match Text.readInt32 (Text.trim value) with
    | .ok n => .ok (some n)
    | .error _ => .error (.badValue key value)

def int (e : Element) (key : String) (default : Int) : Except RegistryFault Int :=
  (int? e key).map (·.getD default)

/-- The surface of a block: the main one unless it has an id, negative ids counting as 0. -/
def surfaceId (block : Element) : Except RegistryFault Nat :=
  (int block "id" guiSurface).map Int.toNat

/-- The alias for the body, in the size that suits a surface. -/
def scaledBody (s : Store) : FontAlias :=
  { Store.bodyFont with
    size := s.applyFactor Store.bodyFont.size
    height := s.applyFactor Store.bodyFont.height
    width := s.applyFactor Store.bodyFont.width }

def readResolution (s : Store) (e : Element) : Reading (List Entry) := do
  let width ← Reading.ofExcept (int e "xres" 720)
  let height ← Reading.ofExcept (int e "yres" 576)
  let _ ← Reading.ofExcept (int e "bpp" 32)
  Reading.notice [.resolution width height]
  let surface : Entry := .surface guiSurface ⟨width, height⟩
  return [surface, .fontAlias "Body" (scaledBody (s.set surface))]

def loadPixmap (site : BlockSite) (filename : String) : Except RegistryFault Pixmap :=
  let path := site.assets.resolve site.scope filename (some site.base)
  match site.assets.loadPixmap path none with
  | some pixmap => .ok pixmap
  | none => .error (.pixmapNotFound path)

/-- The file itself must be there, not only the one its name's option belongs to. -/
def readSwitchPixmap (site : BlockSite) (e : Element) : Except RegistryFault (List Entry) := do
  let name ← required e "pixmap" "name"
  let filename ← required e "pixmap" "filename"
  let path := site.assets.resolve site.scope filename (some site.base)
  if !site.assets.files.isFile path then throw (.pixmapNotFound path)
  return [.switchPixmap name (← loadPixmap site filename)]

def readColor (s : Store) (e : Element) : Except RegistryFault (List Entry) := do
  let name ← required e "color" "name"
  let value ← required e "color" "value"
  return [.color name (← s.color value)]

def readFace (site : BlockSite) (e : Element) : Reading (List Entry) := do
  let filename := (e.attribute? "filename").getD "<NONAME>"
  let name := (e.attribute? "name").getD "Regular"
  let scale ← Reading.ofExcept (int e "scale" 100)
  let replacement := (e.filled? "replacement").isSome
  let render ← Reading.ofExcept (int e "render" 0)
  let path := site.assets.resolve .fonts filename (some site.base)
  if !site.assets.files.isFile path then throw (.fontNotFound path)
  Reading.notice [.fontAdded path name]
  return [.face name ⟨path, scale, replacement, render⟩]

def fallbackEntries (site : BlockSite) : List Entry :=
  let path := site.assets.resolve .fonts "fallback.font" (some site.base)
  if site.assets.files.isFile path then [.face "Fallback" ⟨path, 100, true, 0⟩] else []

/-- An alias's height and width are its size unless they are given. -/
def readAlias (s : Store) (e : Element) : Reading (List Entry) := do
  let name := (e.attribute? "name").getD ""
  if name.isEmpty then throw (.badFontAlias name "name")
  let some family := e.attribute? "font" | throw (.badFontAlias name "font")
  let some size := e.attribute? "size" | throw (.badFontAlias name "size")
  let scalar (text : String) : Reading Int := do
    let (value, faults) := Coordinate.scalarOrZero s.factor text
    Reading.notice (.ofCoordinates faults)
    return value
  let size ← scalar size
  let height ← ((e.attribute? "height").map scalar).getD (pure size)
  let width ← ((e.attribute? "width").map scalar).getD (pure size)
  return [.fontAlias name ⟨family, size, height, width⟩]

def readParameter (s : Store) (e : Element) : Reading (List Entry) := do
  let name ← Reading.ofExcept (required e "parameter" "name")
  let value ← Reading.ofExcept (required e "parameter" "value")
  let reading := s.parameterReader.read value
  Reading.notice (.ofCoordinates reading.faults)
  match reading.value with
  | .ok decoded => return [.parameter name decoded]
  | .error fault => throw (.badParameter name fault)

def readImage (kind : ImageKind) (e : Element) : Except RegistryFault (List Entry) := do
  let key ← required e kind.tag "key"
  let image ← required e kind.tag "image"
  return [.image kind key image]

def color? (s : Store) (e : Element) (key : String) : Reading (Option Color) :=
  match e.attribute? key with
  | some value => return some (← Reading.ofExcept (s.color value))
  | none => return none

def readSubtitle (s : Store) (e : Element) : Reading (List Entry) := do
  let name ← Reading.ofExcept (required e "sub" "name")
  let font ← Reading.ofExcept (required e "sub" "font")
  let font ← Reading.noted (s.font font .identity)
  let foreground ← color? s e "foregroundColor"
  let border ← color? s e "borderColor"
  let width ← Reading.ofExcept (int e "borderWidth" 3)
  return [.subtitle name
    ⟨font, foreground.getD .white, foreground.isSome, border.getD .black, width⟩]

/-- A title's offset is not negative. -/
def readTitle (s : Store) (style : WindowStyle) (e : Element) : Reading WindowStyle := do
  let mut style := style
  if let some offset := e.attribute? "offset" then
    let point ← Reading.noted (← Reading.ofLiteral (s.plainPair offset))
    style := { style with titleOffset := ⟨max point.x 0, max point.y 0⟩ }
  if let some font := e.attribute? "font" then
    style := { style with titleFont := ← Reading.noted (s.font font .identity) }
  return style

/-- The image must be there, also where the names of the set and the place are unknown. -/
def readBorder (site : BlockSite) (set : Option BorderSet) (style : WindowStyle) (e : Element) :
    Reading WindowStyle := do
  match e.attribute? "pos", e.attribute? "filename" with
  | some pos, some filename =>
    let pixmap ← Reading.ofExcept (loadPixmap site filename)
    match set, BorderPos.ofWord? pos with
    | some set, some pos => return { style with borders := style.borders.insert (set, pos) pixmap }
    | _, _ => return style
  | _, _ => return style

def readBorderSet (site : BlockSite) (style : WindowStyle) (e : Element) : Reading WindowStyle :=
  let set := (e.attribute? "name").bind BorderSet.ofWord?
  (e.childrenNamed "pixmap").foldlM (readBorder site set) style

def readStyleColor (s : Store) (style : WindowStyle) (e : Element) : Reading WindowStyle := do
  let name := (e.attribute? "name").getD ""
  let value ← Reading.ofExcept (required e "color" "color")
  let color ← Reading.ofExcept (s.color value)
  match StyleColor.ofWord? name with
  | some slot => return { style with colors := style.colors.insert slot color }
  | none => throw (.unknownStyleColor name)

/-- A style is made of the default one and its block, as a whole. -/
def readStyle (site : BlockSite) (s : Store) (block : Element) : Reading WindowStyle := do
  let style ← (block.childrenNamed "title").foldlM (readTitle s) .default
  let style ← (block.childrenNamed "borderset").foldlM (readBorderSet site) style
  (block.childrenNamed "color").foldlM (readStyleColor s) style

def readMargin (block : Element) : Except RegistryFault Margins := do
  let left ← int block "left" 0
  let top ← int block "top" 0
  let right ← int block "right" 0
  let bottom ← int block "bottom" 0
  return ⟨left, top, right, bottom⟩

def read (site : BlockSite) (s : Store) : Declaration → Reading (List Entry)
  | .resolution e => readResolution s e
  | .switchPixmap e => Reading.ofExcept (readSwitchPixmap site e)
  | .color e => Reading.ofExcept (readColor s e)
  | .face e => readFace site e
  | .fallbackFace => return fallbackEntries site
  | .fontAlias e => readAlias s e
  | .parameter e => readParameter s e
  | .image kind e => Reading.ofExcept (readImage kind e)
  | .subtitle e => readSubtitle s e
  | .style id block => return [.style id (← readStyle site s block)]
  | .margin id block => return [.margin id (← Reading.ofExcept (readMargin block))]

/-- The declarations of a top-level block, in the order in which they count. Blocks
that declare nothing for all screens have none. -/
def ofBlock (block : Element) : Except RegistryFault (List Declaration) :=
  let each (tag : String) (make : Element → Declaration) : List Declaration :=
    (block.childrenNamed tag).map make
  match block.tag with
  | "output" => (surfaceId block).map fun id =>
    if id = guiSurface then each "resolution" .resolution else []
  | "switchpixmap" => .ok (each "pixmap" .switchPixmap)
  | "colors" => .ok (each "color" .color)
  | "fonts" => .ok (each "font" .face ++ [.fallbackFace] ++ each "alias" .fontAlias)
  | "parameters" => .ok (each "parameter" .parameter)
  | "menus" => .ok (each "menu" (.image .menu))
  | "menuicons" => .ok (each "menuicon" (.image .menuIcon))
  | "screens" => .ok (each "screen" (.image .screen))
  | "setups" => .ok (each "setup" (.image .setup))
  | "subtitles" => .ok (each "sub" .subtitle)
  | "windowstyle" => (surfaceId block).map fun id => [.style id block]
  | "margin" => (surfaceId block).map fun id => [.margin id block]
  | _ => .ok []

end Declaration
end Skinning
