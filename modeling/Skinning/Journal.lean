import Skinning.Files.Tree

/-! The log. Entries are written to the file that was opened last, each where the one
before has ended, whatever has become of the file in the meantime. Without an open file
they are lost. -/
namespace Skinning

/-- An open file, and the offset of what is written to it next. -/
structure OpenFile where
  place : Location
  offset : Nat
  deriving DecidableEq, Repr

structure Journal where
  files : Files
  open? : Option OpenFile
  /-- The time that entries are given. The host sets it as time goes on. -/
  time : String
  deriving Repr

namespace Journal

def opening : String := "=== Veneer Log Started ==="

/-- A text as it is written; it may have more than one line. -/
def entry (j : Journal) (text : String) : String := "[" ++ j.time ++ "] " ++ text ++ "\n"

def write (j : Journal) (piece : String) : Journal :=
  match j.open? with
  | none => j
  | some file =>
    match j.files.kindAt? file.place with
    | some (.file content) =>
      { j with
        files := j.files.set file.place (.file (content.writeAt file.offset piece))
        open? := some { file with offset := file.offset + piece.utf8ByteSize } }
    | _ => j

def add (j : Journal) (text : String) : Journal := j.write (j.entry text)

def addAll (j : Journal) (texts : List String) : Journal := texts.foldl add j

/-- Opens a file and empties it. If it cannot be opened, the one before stays in use. -/
def start (j : Journal) (path : Path) : Journal :=
  let opened : Journal :=
    match j.files.target path with
    | .ok place =>
      { j with files := j.files.set place (.file (.text "")), open? := some ⟨place, 0⟩ }
    | .error _ => j
  opened.add opening

def stop (j : Journal) : Journal := { j with open? := none }

/-- Takes a file away; a directory stays. What is written to the file afterwards is lost. -/
def remove? (j : Journal) (path : Path) : Option Journal :=
  match j.files.locate path with
  | .ok (place, .file _) =>
    some { j with
      files := j.files.without place
      open? := j.open?.filter fun file => file.place ≠ place }
  | _ => none

end Journal
end Skinning
