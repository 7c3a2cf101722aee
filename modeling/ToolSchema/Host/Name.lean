import ToolSchema.Host.Label
import ToolSchema.Text.LowerCase
import ToolSchema.Text.Pieces

/-!
# Host names

A host name is labels with dots between them, of which the one behind the last dot may be empty. A
label with other characters than those of ASCII is sent in ASCII, behind a mark (`asciiMark`).

* `toAscii?` is a name as it is sent.
* `ofAscii?` is the name that was sent.
-/

namespace ToolSchema

namespace Host

/-- What a label begins with that is written in ASCII though it holds other characters. -/
def asciiMark : List Char := "xn--".toList

/-- How many characters a label may have as it is sent. -/
def labelLimit : Nat := 63

/-- The dots that labels may have between them, in several scripts. -/
def isDot (c : Char) : Bool := c == '.' || c == '\u3002' || c == '\uFF0E' || c == '\uFF61'

/-- The label, unless something is wrong with it. -/
def checked (label : List Nat) : Except NameDefect (List Nat) :=
  match labelDefect? label with
  | some defect => .error defect
  | none => .ok label

/-- The label that is written in ASCII behind the mark. -/
def readMarked (label : List Char) : Except NameDefect (List Nat) :=
  if label.isEmpty then .error .noContent
  else if label.getLast? = some '-' then .error .lastHyphen
  else
    match Punycode.decode? label with
    | none => .error .unreadable
    | some points => checked points

/-- The label that is sent as this text. -/
def readLabel (label : List Char) : Except NameDefect (List Nat) :=
  let label := label.map Char.toLower
  if asciiMark.isPrefixOf label then readMarked (label.drop asciiMark.length)
  else checked (label.map Char.toNat)

/-- A label as it is sent. -/
def writeLabel (label : List Char) : Except NameDefect (List Char) := do
  let written ←
    if label.all Punycode.isBasic then do
      let _ ← readLabel label
      pure label
    else do
      let _ ← checked (label.map Char.toNat)
      pure (asciiMark ++ Punycode.encode label)
  if labelLimit < written.length then throw .labelTooLong
  return written

/-- The labels of a name. -/
def labels (name : List Char) : Except NameDefect (List (List Char)) :=
  if nameLimit < name.length then .error .nameTooLong
  else if name.isEmpty then .error .noName
  else .ok (Text.pieces isDot name)

/-- Does something with each label, but not with an empty one behind the last dot. -/
def eachLabel {α : Type} (act : List Char → Except NameDefect (List α)) :
    List (List Char) → Except NameDefect (List (List α))
  | [] => .ok []
  | [label] => if label.isEmpty then .ok [[]] else do return [← act label]
  | label :: rest => do return (← act label) :: (← eachLabel act rest)

/-- A name as it is sent. -/
def toAscii? (name : List Char) : Except NameDefect (List Char) := do
  let written ← eachLabel writeLabel (← labels name)
  let sent := List.intercalate ['.'] written
  let limit := if written.getLast? = some [] then nameLimit else nameLimit - 1
  if limit < sent.length then throw .nameTooLong
  return sent

/-- The name that was sent. -/
def ofAscii? (sent : List Char) : Except NameDefect (List Char) := do
  let read ← eachLabel readLabel (← labels sent)
  return List.intercalate ['.'] (read.map (fun label => label.map Char.ofNat))

end Host

end ToolSchema
