import ToolSchema.Json.Display

/-!
# JSON texts

`Json.write` writes a value as a JSON text without blanks. A value that JSON has no form for is
written as null.
-/

namespace ToolSchema

namespace Json

/-- A character of a string in a JSON text. -/
def escapedChar (c : Char) : List Char :=
  if c = '"' ∨ c = '\\' then ['\\', c]
  else if c.toNat < 32 then '\\' :: 'u' :: hexChars c.toNat 4
  else [c]

/-- A string in a JSON text. -/
def writtenString (text : String) : List Char := '"' :: (text.toList.flatMap escapedChar ++ ['"'])

mutual

def writeChars : Json → List Char
  | .bool true => "true".toList
  | .bool false => "false".toList
  | .int number => (toString number).toList
  | .float number => if number.isFinite then number.text.toList else "null".toList
  | .string text => writtenString text
  | .array items => '[' :: (writeItems items ++ [']'])
  | .object members => '\x7b' :: (writeMembers members ++ ['\x7d'])
  | _ => "null".toList

def writeItems : List Json → List Char
  | [] => []
  | [item] => item.writeChars
  | item :: rest => item.writeChars ++ ',' :: writeItems rest

def writeMembers : List (String × Json) → List Char
  | [] => []
  | [(key, value)] => writtenString key ++ ':' :: value.writeChars
  | (key, value) :: rest =>
    writtenString key ++ ':' :: (value.writeChars ++ ',' :: writeMembers rest)

end

/-- The JSON text of a value. -/
def write (value : Json) : String := String.ofList value.writeChars

end Json

end ToolSchema
