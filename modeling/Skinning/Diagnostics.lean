import Skinning.Binding.Fault
import Skinning.Markup.Document

/-! What is reported while skins are loaded and bound. Every notice is a line of the
log; the faults among them are also kept for the caller. -/
namespace Skinning

inductive SkinFault where
  | parse (error : Markup.ParseError)
  | read (path : Path) (fault : FileFault)
  | registry (fault : RegistryFault)
  | binding (fault : BindingFault)
  | ofAttribute (fault : AttributeFault)
  | coordinate (fault : Coordinate.Fault)
  /-- Elements of a screen that no node of its fragment names. -/
  | unusedElements (screen : String) (names : List String)

def SkinFault.message : SkinFault → String
  | .parse error => error.message
  | .read path fault => "IO error reading '" ++ path.text ++ "': " ++ fault.message
  | .registry fault => fault.message
  | .binding fault => fault.message
  | .ofAttribute fault => fault.message
  | .coordinate fault => fault.message
  | .unusedElements screen names =>
    "The following components in '" ++ screen ++ "' don't have a skin entry: " ++
      ", ".intercalate names

/-- A skin of the surface that it is loaded for. -/
inductive SkinRole where
  | gui
  | display
  deriving DecidableEq, Repr

def SkinRole.word : SkinRole → String
  | .gui => "GUI"
  | .display => "display"

inductive Notice where
  | fault (fault : SkinFault)
  | resolution (width height : Int)
  | fontAdded (path : Path) (name : String)
  /-- A font of no known family, drawn in the font of the body. -/
  | fontReplaced (name spec family : String)
  | loading (path : Path)
  | loaded (path : Path)
  | skinFailed (role : SkinRole) (file : String)
  | emergency
  | processing (fragment screen : String)
  | rejected (fragment : String) (mandatory : List String)
  | template (screen : String)
  | noCandidate (screen : String)
  | nothingToShow (screen : String)
  | faultyNode (fragment tag : String)
  | obsoleteSource (fragment source replacement date : String)
  | sourceDescription (text : String)

def Notice.line : Notice → String
  | .fault problem => "[Skin] Error: " ++ problem.message
  | .resolution width height =>
    "[Skin] Resolution xres=" ++ toString width ++ ", yres=" ++ toString height
  | .fontAdded path name => "[Skin] Add font: path='" ++ path.text ++ "', name='" ++ name ++ "'"
  | .fontReplaced name spec family =>
    "[Skin] Error: Font '" ++ name ++ "' (in '" ++ spec ++
      "') is not defined! Using 'Body' font ('" ++ family ++ "') instead."
  | .loading path => "[Skin] Loading skin file '" ++ path.text ++ "'."
  | .loaded path => "[Skin] Loading skin file '" ++ path.text ++ "' complete."
  | .skinFailed role file =>
    "[Skin] Error: Adding " ++ role.word ++ " skin '" ++ file ++ "' has failed!"
  | .emergency =>
    "[Skin] Error: No GUI skin could be loaded, using the embedded emergency skin"
  | .processing fragment screen =>
    "[Skin] Processing screen '" ++ fragment ++ "' for module '" ++ screen ++ "'"
  | .rejected fragment mandatory =>
    "[Skin] Warning: Skin screen '" ++ fragment ++
      "' rejected as it does not offer all the mandatory widgets '" ++
      ", ".intercalate mandatory ++ "'!"
  | .template screen => "[Skin] Resizable embedded skin template found in '" ++ screen ++ "'"
  | .noCandidate screen => "[Skin] No suitable screen found in '" ++ screen ++ "'"
  | .nothingToShow screen => "[Skin] No skin to read or screen to display for '" ++ screen ++ "'"
  | .faultyNode fragment tag =>
    "[Skin] Error in screen '" ++ fragment ++ "' widget '" ++ tag ++ "'"
  | .obsoleteSource fragment source replacement date =>
    "[Skin] WARNING: Skin '" ++ fragment ++ "' uses obsolete source '" ++ source ++ "', use '" ++
      replacement ++ "' instead! It will be removed " ++ date ++ "."
  | .sourceDescription text => "[Skin] Source description: '" ++ text ++ "'"

abbrev Notices := List Notice

namespace Notices

def faults (notices : Notices) : List SkinFault :=
  notices.filterMap fun
    | .fault problem => some problem
    | _ => none

def lines (notices : Notices) : List String := notices.map Notice.line

def ofCoordinates (faults : List Coordinate.Fault) : Notices :=
  faults.map fun fault => .fault (.coordinate fault)

end Notices
end Skinning
