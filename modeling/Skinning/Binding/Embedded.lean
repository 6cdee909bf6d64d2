import Skinning.Skin.State
import Skinning.Screen.State

/-! The document that a screen brings along, for use when no fragment is suitable. -/
namespace Skinning

namespace EmbeddedSkin

/-- Puts numbers, multiplied by a factor, in the places of `%d` from the left. Places
without a number and numbers without a place are left as they are. -/
def fillChars (factor : Float) : List Int → List Char → List Char
  | _, [] => []
  | [], '%' :: 'd' :: rest => '%' :: 'd' :: fillChars factor [] rest
  | value :: values, '%' :: 'd' :: rest =>
    (toString (truncate (Float.ofInt value * factor))).toList ++ fillChars factor values rest
  | values, c :: rest => c :: fillChars factor values rest

def fill (source : String) (values : List Int) (factor : Float) : String :=
  String.ofList (fillChars factor values source.toList)

/-- The first of some documents that is a screen for a surface. A faulty document before
it ends the search. -/
def choose (name : String) (surface : Nat) :
    List String → Except Markup.ParseError (Option Element)
  | [] => .ok none
  | source :: rest =>
    match Markup.readDocument source name with
    | .error error => .error error
    | .ok root =>
      if root.tag = "screen" && isForSurface root surface then .ok (some root)
      else choose name surface rest

def read (e : EmbeddedSkin) (name : String) (factor : Float) (surface : Nat) :
    Except Markup.ParseError (Option Element) × Notices :=
  match e with
  | .single source => ((Markup.readDocument source name).map some, [])
  | .template source values =>
    ((Markup.readDocument (fill source values factor) name).map some, [.template name])
  | .candidates sources =>
    match choose name surface sources with
    | .ok none => (.ok none, [.noCandidate name])
    | chosen => (chosen, [])

end EmbeddedSkin

structure EmbeddedReading where
  root : Except Markup.ParseError Element
  screen : Screen
  notices : Notices

namespace Screen

/-- Reads the embedded document, which is done once. A screen without any is empty. -/
def readEmbedded (s : Screen) (name : String) (factor : Float) (surface : Nat) :
    EmbeddedReading :=
  match s.embeddedRoot? with
  | some root => ⟨.ok root, s, []⟩
  | none =>
    let (root?, notices) := match s.embedded? with
      | some embedded => embedded.read name factor surface
      | none => (.ok none, [])
    match root? with
    | .error error => ⟨.error error, s, notices⟩
    | .ok (some root) => ⟨.ok root, { s with embeddedRoot? := some root }, notices⟩
    | .ok none =>
      let root := Element.ofTag "screen"
      ⟨.ok root, { s with embeddedRoot? := some root }, notices ++ [.nothingToShow name]⟩

end Screen
end Skinning
