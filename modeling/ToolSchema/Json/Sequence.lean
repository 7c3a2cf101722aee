import ToolSchema.Fault

/-!
# Sequences

What is asked of a value that should be a sequence or a number of things, and the fault where it is
none.
-/

namespace ToolSchema

namespace Json

/-- The values that a value yields. -/
def elements (value : Json) : Except Fault (List Json) :=
  match value.elements? with
  | some elements => .ok elements
  | none => .error (.notIterable value.typeName)

/-- The integer that a value counts as, of booleans too. -/
def counted? : Json → Option Int
  | .bool value => some (if value then 1 else 0)
  | .int value => some value
  | _ => none

/-- How many things a value asks for. -/
def count (value : Json) : Except Fault Nat :=
  match value.counted? with
  | some count => .ok count.toNat
  | none => .error (.notInteger value.typeName)

end Json

end ToolSchema
