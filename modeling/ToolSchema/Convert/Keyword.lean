import ToolSchema.Reference

/-!
# The keywords of a schema document

How the members of a schema node are read. Every keyword may hold a value of any kind; one of the
wrong kind counts as absent.
-/

namespace ToolSchema

/-- What the `type` keyword can say. -/
inductive TypeName where
  | null | boolean | integer | number | string | array | object | anyOf
  deriving DecidableEq, Repr

namespace TypeName

/-- How a type is written. -/
def text : TypeName → String
  | null => "null"
  | boolean => "boolean"
  | integer => "integer"
  | number => "number"
  | string => "string"
  | array => "array"
  | object => "object"
  | anyOf => "anyOf"

/-- The type that a text stands for. -/
def classify : String → Option TypeName
  | "null" => some null
  | "boolean" => some boolean
  | "integer" => some integer
  | "number" => some number
  | "string" => some string
  | "array" => some array
  | "object" => some object
  | "anyOf" => some anyOf
  | _ => none

end TypeName

namespace Members

/-- The string under a key. -/
def string? (members : Members) (key : String) : Option String :=
  (members.lookup key).bind Json.string?

/-- The items of the array under a key. -/
def items? (members : Members) (key : String) : Option (List Json) :=
  (members.lookup key).bind Json.items?

/-- The integer under a key, if it is not negative. -/
def count? (members : Members) (key : String) : Option Int :=
  ((members.lookup key).bind Json.int?).filter (0 ≤ ·)

/--
The type that a node declares. Without a `type` key, an array under `anyOf` makes the node a union.
-/
def declaredType (members : Members) : Option TypeName :=
  match members.string? "type" with
  | some name => TypeName.classify name
  | none =>
    if !members.hasKey "type" && (members.items? "anyOf").isSome then some .anyOf else none

/-- The strings in the array under `type`, if there is one. -/
def typeList? (members : Members) : Option (List String) :=
  (members.items? "type").map (·.filterMap Json.string?)

/-- The types of a type list other than `null`. -/
def concreteTypes (types : List String) : List String := types.filter (· != "null")

/-- The node with a single type. -/
def withType (members : Members) (type : String) : Members := members.put "type" (.string type)

/-- The names under `required`. -/
def requiredNames (members : Members) : List String :=
  ((members.items? "required").getD []).filterMap Json.string?

/-- The members under `properties`. -/
def properties (members : Members) : Members :=
  ((members.lookup "properties").bind Json.members?).getD []

/-- The branches under `anyOf`. -/
def branches (members : Members) : List Json := (members.items? "anyOf").getD []

/-- A union of branches and nothing else: no `type`, but an array under `anyOf`. -/
def isUntypedUnion (members : Members) : Bool :=
  !members.hasKey "type" && (members.items? "anyOf").isSome

end Members

end ToolSchema
