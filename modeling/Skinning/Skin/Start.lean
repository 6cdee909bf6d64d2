import Skinning.Skin.Load

/-! Starting a skin: the documents that belong to it, in the order of their priority. -/
namespace Skinning.Skin

def emergencySkin : String := "skin_default/skin.xml"
def subtitleSkin : String := "skin_subtitles.xml"
def userSkin : String := "skin_user.xml"

/-- The document that is used when no other is left. -/
def emergencyDocument : String :=
  "<skin>\n" ++
  "\t<colors>\n" ++
  "\t\t<color name=\"background\" value=\"#00000000\" />\n" ++
  "\t\t<color name=\"foreground\" value=\"#00ffffff\" />\n" ++
  "\t</colors>\n" ++
  "\t<windowstyle id=\"0\">\n" ++
  "\t\t<title offset=\"20,5\" font=\"Regular;20\" />\n" ++
  "\t\t<color name=\"Background\" color=\"background\" />\n" ++
  "\t\t<color name=\"LabelForeground\" color=\"foreground\" />\n" ++
  "\t\t<color name=\"WindowTitleForeground\" color=\"foreground\" />\n" ++
  "\t</windowstyle>\n" ++
  "</skin>"

structure Progress where
  skin : Skin
  notices : Notices

namespace Progress

def note (p : Progress) (notice : Notice) : Progress :=
  ⟨p.skin.log [notice], p.notices ++ [notice]⟩

/-- Loads a document; whether it could be loaded is the first result. -/
def load (p : Progress) (filename : String) (scope : Scope) (surface : Nat) : Bool × Progress :=
  let after := p.skin.load filename scope surface
  (after.isLoaded, ⟨after.skin, p.notices ++ after.notices⟩)

/-- Loads the first of some documents that can be loaded; none is tried twice. -/
def loadFirst (role : SkinRole) (load : Progress → String → Bool × Progress) :
    List String → List String → Progress → Option String × Progress
  | _, [], p => (none, p)
  | tried, filename :: rest, p =>
    if tried.contains filename then loadFirst role load tried rest p
    else
      match load p filename with
      | (true, p) => (some filename, p)
      | (false, p) =>
        loadFirst role load (filename :: tried) rest (p.note (.skinFailed role filename))

def hasFile (p : Progress) (filename : String) : Bool :=
  p.skin.files.isFile (p.skin.assets.resolve .current filename none)

/-- The name of the user's additions to the skin in a directory. -/
def userSkinOf? (primary : String) : Option String :=
  match (Path.mk primary).parent? with
  | some directory =>
    if directory.text.isEmpty then none else some ("skin_user_" ++ directory.text ++ ".xml")
  | none => none

def loadUserSkin (p : Progress) : Option String → Progress
  | some filename => (p.load filename .current guiSurface).2
  | none => p

/-- The user's additions to the chosen skin, or else to any skin. -/
def loadUser (p : Progress) : Progress :=
  let names := (userSkinOf? p.skin.primary).toList ++ [userSkin]
  p.loadUserSkin (names.find? p.hasFile)

def setDisplay : Option String × Progress → Progress
  | (loaded, p) => { p with skin := { p.skin with
      currentDisplay? := loaded, display := loaded.getD p.skin.display } }

def setPrimary (p : Progress) (loaded : Option String) : Progress :=
  { p with skin := { p.skin with
      currentPrimary? := loaded, primary := loaded.getD p.skin.primary } }

def loadDisplay (p : Progress) : Progress :=
  setDisplay (p.loadFirst .display (·.load · .display displaySurface) []
    [p.skin.display, Settings.defaultDisplay])

def loadSource (p : Progress) (source : String) : Progress :=
  let after := p.skin.loadSource source ⟨""⟩ .current guiSurface
  ⟨after.skin, p.notices ++ after.notices⟩

def loadEmergency (p : Progress) : Progress := (p.note .emergency).loadSource emergencyDocument

/-- Without a primary skin the emergency document is used. -/
def settlePrimary : Option String × Progress → Progress
  | (loaded, p) =>
    let p := p.setPrimary loaded
    if loaded.isSome then p else p.loadEmergency

def loadPrimary (p : Progress) : Progress :=
  settlePrimary (p.loadFirst .gui (·.load · .current guiSurface) []
    [p.skin.primary, Settings.defaultPrimary])

end Progress

/-- A start: the skin after it, what was noted, and the callbacks that were run. -/
structure Started where
  skin : Skin
  notices : Notices
  calls : List String

namespace Progress

def loadAll (p : Progress) : Progress :=
  let p := (p.load emergencySkin .current guiSurface).2
  let p := (p.load subtitleSkin .current guiSurface).2
  p.loadDisplay.loadPrimary.loadUser

/-- The callbacks are run once. -/
def finish (p : Progress) : Started :=
  if p.skin.hasStarted then ⟨p.skin, p.notices, []⟩
  else ⟨{ p.skin with hasStarted := true }, p.notices, p.skin.callbacks.map Prod.snd⟩

end Progress

/-- Loads every document of the skin. -/
def start (s : Skin) : Started := (Progress.loadAll ⟨s, []⟩).finish

/-- The skin without what its documents declared, except for the sizes of surfaces. -/
def cleared (s : Skin) : Skin :=
  { s with fragments := ∅, styles := ∅, store := s.store.reset }

def restart (s : Skin) : Started := s.cleared.start

end Skinning.Skin
