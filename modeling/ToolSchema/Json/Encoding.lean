import ToolSchema.Text.CodeUnit
import ToolSchema.Text.Utf8

/-!
# Encodings of JSON texts

A JSON text that comes as bytes does not name its encoding. But its first characters are of ASCII,
so the zeros among the first bytes tell how many bytes each character takes and in which order.

`Json.textOfBytes?` is the text that bytes hold. A UTF-8 text may begin with a byte order mark.
-/

namespace ToolSchema

namespace Json

/-- How the characters of a text are written as bytes. -/
inductive Encoding where
  | utf8
  | utf16 (bigEndian : Bool)
  | utf32 (bigEndian : Bool)
  deriving DecidableEq, Repr

namespace Encoding

/-- The encoding of bytes, by the zeros among the first of them. -/
def ofBytes : (bytes : List Nat) → Encoding
  | 0 :: second :: _ :: _ :: _ => if second = 0 then utf32 true else utf16 true
  | _ :: 0 :: third :: fourth :: _ => if third = 0 ∧ fourth = 0 then utf32 false else utf16 false
  | [0, _] => utf16 true
  | [_, 0] => utf16 false
  | _ => utf8

/-- The number that bytes are the digits of. -/
def number (bigEndian : Bool) (bytes : List Nat) : Nat :=
  (if bigEndian then bytes else bytes.reverse).foldl (fun n byte => n * 0x100 + byte) 0

/-- Numbers of two bytes each. -/
def pairs? (bigEndian : Bool) : (bytes : List Nat) → Option (List Nat)
  | [] => some []
  | a :: b :: rest => do return number bigEndian [a, b] :: (← pairs? bigEndian rest)
  | _ => none

/-- Numbers of four bytes each. -/
def quadruples? (bigEndian : Bool) : (bytes : List Nat) → Option (List Nat)
  | [] => some []
  | a :: b :: c :: d :: rest => do
    return number bigEndian [a, b, c, d] :: (← quadruples? bigEndian rest)
  | _ => none

/-- The character of a code point, if there is such a code point. -/
def charOfPoint? (point : Nat) : Option Char :=
  if point ≤ 0x10FFFF then some (Text.charOfUnit point) else none

/-- The characters that bytes encode. -/
def chars? (encoding : Encoding) (bytes : List UInt8) : Option (List Char) :=
  match encoding with
  | .utf8 => (Text.decode? bytes).map String.toList
  | .utf16 bigEndian => (pairs? bigEndian (bytes.map UInt8.toNat)).map Text.charsOfUnits
  | .utf32 bigEndian => do
    (← quadruples? bigEndian (bytes.map UInt8.toNat)).mapM charOfPoint?

end Encoding

/-- The text without a byte order mark in front of it. -/
def withoutMark : List Char → List Char
  | '\uFEFF' :: rest => rest
  | text => text

/-- The text that bytes hold, if they are well encoded. -/
def textOfBytes? (bytes : List UInt8) : Option String :=
  ((Encoding.ofBytes (bytes.map UInt8.toNat)).chars? bytes).map
    (fun text => String.ofList (withoutMark text))

end Json

end ToolSchema
