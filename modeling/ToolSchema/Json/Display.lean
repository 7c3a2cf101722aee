import ToolSchema.Binary64.Text
import ToolSchema.Json
import ToolSchema.Text.Printed

/-!
# The text of a value in a message

Messages quote values that may be of any kind. `Json.display` writes a string as it is and any other
value as `Json.literal` does: `None`, `True`, decimal numbers, strings in quotes, lists in brackets,
objects in braces. An attribute without a name is not shown.
-/

namespace ToolSchema

namespace Json

def hexDigitChar (digit : Nat) : Char :=
  if digit < 10 then Char.ofNat (48 + digit) else Char.ofNat (87 + digit)

/-- The last `width` hexadecimal digits of a number, most significant first. -/
def hexChars (number : Nat) : Nat → List Char
  | 0 => []
  | width + 1 => hexChars (number / 16) width ++ [hexDigitChar (number % 16)]

/-- A character by its number, with as many digits as it takes. -/
def numberedChar (c : Char) : List Char :=
  if c.toNat < 0x100 then '\\' :: 'x' :: hexChars c.toNat 2
  else if c.toNat < 0x10000 then '\\' :: 'u' :: hexChars c.toNat 4
  else '\\' :: 'U' :: hexChars c.toNat 8

/--
A character between quotes. The quote and the backslash are escaped, and so are the characters that
print as nothing.
-/
def quotedChar (quote c : Char) : List Char :=
  if c = quote ∨ c = '\\' then ['\\', c]
  else if c = '\n' then ['\\', 'n']
  else if c = '\r' then ['\\', 'r']
  else if c = '\t' then ['\\', 't']
  else if Text.isPrinted c then [c]
  else numberedChar c

/-- Single quotes, unless the text holds one and no double quote. -/
def quoteFor (text : List Char) : Char :=
  if text.contains '\'' && !text.contains '"' then '"' else '\''

/-- A text between quotes. -/
def quoted (text : String) : List Char :=
  let quote := quoteFor text.toList
  quote :: (text.toList.flatMap (quotedChar quote) ++ [quote])

/-- A byte between quotes: printable ASCII as it is, any other as two hexadecimal digits. -/
def quotedByte (quote : Char) (byte : UInt8) : List Char :=
  if byte.toNat < 127 then quotedChar quote (Char.ofNat byte.toNat)
  else '\\' :: 'x' :: hexChars byte.toNat 2

/-- Pieces with a comma and a blank between them. -/
def separated : List (List Char) → List Char
  | [] => []
  | [piece] => piece
  | piece :: rest => piece ++ ',' :: ' ' :: separated rest

mutual

/-- The text of a value, by which its kind can be told. -/
def literalChars : Json → List Char
  | .null => "None".toList
  | .bool true => "True".toList
  | .bool false => "False".toList
  | .int value => (toString value).toList
  | .float value => value.text.toList
  | .string value => quoted value
  | .binary bytes =>
    let quote := quoteFor (bytes.map (fun byte => Char.ofNat byte.toNat))
    'b' :: quote :: (bytes.flatMap (quotedByte quote) ++ [quote])
  | .array items => '[' :: (separated (literalItems items) ++ [']'])
  | .object members => '\x7b' :: (separated (literalMembers members) ++ ['\x7d'])
  | .record attributes => "namespace(".toList ++ separated (literalAttributes attributes) ++ [')']
  | .foreign => "<object>".toList

def literalItems : List Json → List (List Char)
  | [] => []
  | item :: rest => literalChars item :: literalItems rest

def literalMembers : List (String × Json) → List (List Char)
  | [] => []
  | (key, value) :: rest => (quoted key ++ ':' :: ' ' :: literalChars value) :: literalMembers rest

def literalAttributes : List (String × Json) → List (List Char)
  | [] => []
  | (key, value) :: rest =>
    if key = "" then literalAttributes rest
    else (key.toList ++ '=' :: literalChars value) :: literalAttributes rest

end

/-- The text of a value, by which its kind can be told. -/
def literal (value : Json) : String := String.ofList value.literalChars

/-- A string as it is, any other value as its literal. -/
def display : Json → String
  | .string value => value
  | value => value.literal

end Json

end ToolSchema
