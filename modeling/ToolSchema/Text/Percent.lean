import ToolSchema.Text.Digits
import ToolSchema.Text.Utf8

/-!
# Percent escapes

`percentEncode` replaces characters by `%` and two hexadecimal digits for each of their bytes.
`percentDecode` replaces each `%` with two hexadecimal digits by a byte and reads the bytes as
UTF-8. Characters outside ASCII stand for themselves, so the text falls into runs of ASCII
characters that are decoded one by one. A `%` without two digits behind it stays.

## Termination

Each step takes a whole run of ASCII characters, or one other character.
-/

namespace ToolSchema

namespace Text

def isAscii (c : Char) : Bool := c.toNat < 0x80

/-- Letters, digits and the four signs that no address gives a meaning to. -/
def isUnreserved (c : Char) : Bool := c.isAlphanum || c == '-' || c == '.' || c == '_' || c == '~'

/-- A byte as an escape. -/
def escape (byte : UInt8) : List Char :=
  ['%', capitalHexDigit (byte.toNat / 16), capitalHexDigit (byte.toNat % 16)]

/-- The text with escapes for all characters but those to keep. -/
def percentEncode (keeps : Char → Bool) (text : List Char) : List Char :=
  text.flatMap (fun c => if keeps c then [c] else (encodeChar c).flatMap escape)

/-- The byte of two hexadecimal digits. -/
def escapedByte? (high low : Char) : Option UInt8 :=
  match hexDigit? high, hexDigit? low with
  | some high, some low => some (UInt8.ofNat (high * 16 + low))
  | _, _ => none

/-- The bytes of a run of ASCII characters, escapes replaced. -/
def runBytes : List Char → List UInt8
  | '%' :: high :: low :: rest =>
    match escapedByte? high low with
    | some byte => byte :: runBytes rest
    | none => UInt8.ofNat '%'.toNat :: runBytes (high :: low :: rest)
  | c :: rest => UInt8.ofNat c.toNat :: runBytes rest
  | [] => []

/-- The text that an escaped text stands for. -/
def percentDecode : List Char → List Char
  | [] => []
  | c :: rest =>
    if isAscii c then
      decode (runBytes (c :: rest.takeWhile isAscii)) ++ percentDecode (rest.dropWhile isAscii)
    else c :: percentDecode rest
termination_by text => text.length
decreasing_by
  · have := (List.dropWhile_sublist isAscii (l := rest)).length_le
    simp
    omega
  · simp

end Text

end ToolSchema
