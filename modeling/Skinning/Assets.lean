import Skinning.Files.Tree
import Skinning.Geometry
import Skinning.Text.Split

/-! Where the files that documents name are found. A relative name is looked for next
to the document first and then below the directories of its scope; the first that
exists is taken, and where none does, the scope's first directory. -/
namespace Skinning

inductive Scope where
  | shared
  /-- Files of the skin in use, where the user's own come first. -/
  | current
  | display
  | fonts
  deriving DecidableEq, Repr

structure Directories where
  skins : Path
  display : Path
  fonts : Path
  user : Path
  deriving DecidableEq, Repr

/-- The directories of a scope: one, and those that stand in for it. -/
def Directories.roots (d : Directories) : Scope → Path × List Path
  | .shared => (d.skins, [d.user])
  | .current => (d.user, [d.skins])
  | .display => (d.display, [])
  | .fonts => (d.fonts, [d.skins.join ⟨"fonts"⟩])

structure Pixmap where
  path : Path
  size : Option Size
  deriving DecidableEq, Repr

structure Assets where
  files : Files
  directories : Directories
  translate : String → String

namespace Assets

/-- The paths a name may stand for, in the order in which they are tried. -/
def candidates (assets : Assets) (scope : Scope) (name : Path) (base : Option Path) : List Path :=
  let (first, others) := assets.directories.roots scope
  (base.toList ++ first :: others).map (·.join name)

def resolve (assets : Assets) (scope : Scope) (name : String) (base : Option Path) : Path :=
  let name : Path := ⟨name⟩
  if name.isAbsolute then name
  else ((assets.candidates scope name base).find? assets.files.isPresent).getD
    ((assets.directories.roots scope).1.join name)

/-- The path of an image without the option that may follow it after `#`. -/
def withoutOption (path : Path) : Path :=
  match Text.cut? '#' path.text with
  | some (file, _) => ⟨file⟩
  | none => path

/-- An image that exists; a wanted size without area is no size. -/
def loadPixmap (assets : Assets) (path : Path) (size : Option Size) : Option Pixmap :=
  let file := withoutOption path
  if assets.files.isFile file then
    some ⟨file, size.filter fun s => 0 < s.width && 0 < s.height⟩
  else none

end Assets
end Skinning
