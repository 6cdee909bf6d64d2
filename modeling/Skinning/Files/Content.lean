/-! What files hold: text, or bytes that are not the encoding of any text. -/
namespace Skinning

inductive Content where
  | text (text : String)
  | binary (bytes : List UInt8)
  deriving DecidableEq, Repr

namespace Content

def ofBytes (bytes : List UInt8) : Content :=
  match String.fromUTF8? ⟨bytes.toArray⟩ with
  | some s => .text s
  | none => .binary bytes

def bytes : Content → List UInt8
  | .text s => s.toUTF8.toList
  | .binary b => b

/-- Bytes with others in their place from an offset on. Zeros fill what is missing before. -/
def splice (bytes : List UInt8) (offset : Nat) (piece : List UInt8) : List UInt8 :=
  bytes.take offset ++ List.replicate (offset - bytes.length) 0 ++ piece ++
    bytes.drop (offset + piece.length)

/-- A text written at an offset, over what stands there. At the end of a text it is
appended. -/
def writeAt (content : Content) (offset : Nat) (piece : String) : Content :=
  match content with
  | .text s =>
    if offset = s.utf8ByteSize then .text (s ++ piece)
    else .ofBytes (splice content.bytes offset piece.toUTF8.toList)
  | .binary b => .ofBytes (splice b offset piece.toUTF8.toList)

end Content
end Skinning
