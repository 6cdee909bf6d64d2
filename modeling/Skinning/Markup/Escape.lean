import Skinning.Markup.Fault
import Skinning.Text.Integer

/-! Escaped characters: five names and numbers in base 10 or 16, between `&` and `;`. -/
namespace Skinning.Markup

def named? : String → Option Char
  | "lt" => some '<'
  | "gt" => some '>'
  | "amp" => some '&'
  | "apos" => some '\''
  | "quot" => some '"'
  | _ => none

/-- The first byte of a character, as the character of that number. -/
def leadByte (c : Char) : Char :=
  match (String.singleton c).toUTF8.toList with
  | byte :: _ => Char.ofNat byte.toNat
  | [] => c

/-- Reads digits; `fault` names the first character that is none. -/
def readCode (base : Nat) (fault : Char → EscapeFault) :
    Nat → List Char → Except EscapeFault Nat
  | code, [] => .ok code
  | code, c :: rest =>
    match Text.digit? base c with
    | some digit => readCode base fault (code * base + digit) rest
    | none => .error (fault (leadByte c))

def charOfCode (start stop code : Nat) : Except EscapeFault Char :=
  if code = 0 then .error (.null start stop)
  else if h : code.isValidChar then .ok (Char.ofNatAux code h)
  else .error (.codepoint code)

/-- The character that `&name;` stands for; `start` and `stop` are the places of its ends. -/
def resolveReference (start stop : Nat) (name : List Char) : Except EscapeFault Char :=
  match name with
  | '#' :: 'x' :: digits =>
    if 6 < (String.ofList digits).utf8ByteSize then .error .longHexadecimal
    else (readCode 16 .hexadecimalDigit 0 digits).bind (charOfCode start stop)
  | '#' :: digits =>
    if 7 < (String.ofList digits).utf8ByteSize then .error .longDecimal
    else (readCode 10 .decimalDigit 0 digits).bind (charOfCode start stop)
  | _ =>
    let name := String.ofList name
    match named? name with
    | some c => .ok c
    | none => .error (.unknown (start + 1) stop name)

/-- Decodes the characters from byte `offset` of a text of `size` bytes on. Inside an
escape, `reference` is its start and what was read of its name, the last first. -/
def unescapeFrom (size : Nat) :
    Nat → Option (Nat × List Char) → List Char → Except EscapeFault (List Char)
  | _, none, [] => .ok []
  | _, some (start, _), [] => .error (.unterminated start size)
  | offset, none, c :: rest =>
    if c = '&' then unescapeFrom size (offset + 1) (some (offset, [])) rest
    else (unescapeFrom size (offset + c.utf8Size) none rest).map (c :: ·)
  | offset, some (start, name), c :: rest =>
    if c = '&' then .error (.unterminated start size)
    else if c = ';' then do
      let decoded ← resolveReference start offset name.reverse
      (unescapeFrom size (offset + 1) none rest).map (decoded :: ·)
    else unescapeFrom size (offset + c.utf8Size) (some (start, c :: name)) rest

def unescape (cs : List Char) : Except EscapeFault String :=
  (unescapeFrom (String.ofList cs).utf8ByteSize 0 none cs).map String.ofList

end Skinning.Markup
