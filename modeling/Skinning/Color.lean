import Skinning.LiteralFault
import Skinning.Text.Blank
import Skinning.Text.Integer

/-! Colors of four channels. The alpha channel is 0 for opaque and 255 for fully
transparent, as framebuffers have it. -/
namespace Skinning

/-- Alpha, red, green and blue, from the highest byte to the lowest. -/
structure Color where
  argb : UInt32
  deriving DecidableEq, Repr, Inhabited

namespace Color

def black : Color := ⟨0x00000000⟩
def white : Color := ⟨0x00ffffff⟩
def transparent : Color := ⟨0xff000000⟩

def alpha (c : Color) : UInt8 := (c.argb >>> 24).toUInt8
def red (c : Color) : UInt8 := (c.argb >>> 16).toUInt8
def green (c : Color) : UInt8 := (c.argb >>> 8).toUInt8
def blue (c : Color) : UInt8 := c.argb.toUInt8

/-- A color is written as one number of at most eight digits, after any `#`s. -/
def ofHex (text : String) : Except LiteralFault Color :=
  let digits := (Text.trimChars text.toList).dropWhile (· == '#')
  if digits.isEmpty || 8 < (String.ofList digits).utf8ByteSize then .error (.hexColor text)
  else match Text.readInteger .nat32 16 (String.ofList digits) with
    | .ok value => .ok ⟨UInt32.ofNat value.toNat⟩
    | .error _ => .error (.hexColor text)

def hexDigit (n : Nat) : Char :=
  if n < 10 then Char.ofNat ('0'.toNat + n) else Char.ofNat ('a'.toNat + (n - 10))

def hexDigits : Nat → Nat → List Char
  | 0, _ => []
  | count + 1, n => hexDigits count (n / 16) ++ [hexDigit (n % 16)]

def text (c : Color) : String := String.ofList ('#' :: hexDigits 8 c.argb.toNat)

end Color
end Skinning
