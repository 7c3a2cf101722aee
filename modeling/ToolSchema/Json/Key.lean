import ToolSchema.Fault

/-!
# Values as keys

Values of most kinds can be looked up by. As keys, booleans and numbers are the same if they are
equal as numbers, and all other values if they look alike.

`Entries` holds values under such keys, in the order in which the keys first came.
-/

namespace ToolSchema

namespace Json

/-- The integer that a boolean or a number is equal to. -/
def integral? : Json → Option Int
  | .bool value => some (if value then 1 else 0)
  | .int value => some value
  | .float value => value.toInt?
  | _ => none

/-- Two values are the same key. -/
def isSameKey (left right : Json) : Bool :=
  match left.integral?, right.integral? with
  | some m, some n => m == n
  | none, none => left == right
  | _, _ => false

/-- The text under which a key of any kind is a key of an object. -/
def keyText : Json → String
  | .string key => key
  | .null => "null"
  | .bool value => if value then "true" else "false"
  | .float value =>
    if value.isFinite then value.text
    else if value.isNaN then "NaN"
    else if value.isNegative then "-Infinity"
    else "Infinity"
  | value => value.display

/-- The value, if it can be a key. -/
def hashable (value : Json) : Except Fault Json :=
  match value with
  | .array _ | .object _ | .record _ => .error (.notHashable value.typeName)
  | value => .ok value

end Json

/-- Values under keys of any kind. -/
abbrev Entries (α : Type) := List (Json × α)

namespace Entries

variable {α : Type}

def hasKey (entries : Entries α) (key : Json) : Bool := entries.any (·.1.isSameKey key)

/-- The value under a key. -/
def find? (entries : Entries α) (key : Json) : Option α :=
  (List.find? (fun entry => entry.1.isSameKey key) entries).map Prod.snd

/-- The entries with `value` under `key`. A key that is there keeps its place and its form. -/
def put (entries : Entries α) (key : Json) (value : α) : Entries α :=
  if entries.hasKey key then
    entries.map (fun entry => if entry.1.isSameKey key then (entry.1, value) else entry)
  else entries ++ [(key, value)]

/-- Members as entries. -/
def ofMembers (members : Members) : Entries Json :=
  members.map (fun member => (.string member.1, member.2))

/-- The members among entries, which are those with a text as their key. -/
def members (entries : Entries Json) : Members :=
  entries.filterMap (fun entry => entry.1.string?.map (·, entry.2))

end Entries

end ToolSchema
