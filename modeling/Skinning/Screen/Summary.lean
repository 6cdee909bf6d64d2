import Skinning.Screen.State
import Skinning.Text.Quoted

/-! A screen in one line, for messages. -/
namespace Skinning.Screen

def listText (items : List String) : String := "[" ++ ", ".intercalate items ++ "]"

def recordText (name : String) (fields : List (String × String)) : String :=
  name ++ " \x7b " ++ ", ".intercalate (fields.map fun (key, value) => key ++ ": " ++ value) ++
    " \x7d"

def rendererText (s : Screen) (r : Renderer) : String :=
  recordText "BoundRenderer" [
    ("kind", Text.quoted r.kind),
    ("input", ((s.trail r).getLast?.map StageKind.text).getD ""),
    ("label_name", Text.quoted r.label)]

def summary (s : Screen) : String :=
  recordText "Screen" [
    ("class_name", Text.quoted s.className),
    ("elements", listText (s.elementNames.map Text.quoted)),
    ("sources", listText (s.peer.sources.keys.map Text.quoted)),
    ("renderers", listText (s.renderers.map s.rendererText)),
    ("additional_widgets", toString s.decorations.length)]

end Skinning.Screen
