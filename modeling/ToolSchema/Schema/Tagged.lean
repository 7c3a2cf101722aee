import ToolSchema.Schema

/-!
# The tagged tree of a schema

Every node becomes an object whose `kind` says what it is. Nothing of the schema is lost.
-/

namespace ToolSchema

/-- The tagged form of a constraint. -/
def Constraint.tagged : Constraint → Json
  | .fixed value => .object [("kind", .string "fixed"), ("value", value)]
  | .range low high => .object [("kind", .string "range"), ("low", low), ("high", high)]

namespace Schema

variable {ν : Type}

mutual

/-- The tagged tree, with names written by `write`. -/
def tagged (write : ν → Json) : Schema ν → Json
  | .leaf kind constraint =>
    .object [("kind", .string "primitive"), ("type", .string kind.name),
      ("constraint", (constraint.map Constraint.tagged).getD .null)]
  | .object name description fields =>
    .object [("kind", .string "object"), ("name", write name),
      ("description", description), ("fields", .array (taggedFields write fields))]
  | .array element least greatest =>
    .object [("kind", .string "array"), ("element", element.tagged write),
      ("min_elements", .ofInt? least), ("max_elements", .ofInt? greatest)]
  | .union name description branches =>
    .object [("kind", .string "union"), ("name", write name),
      ("description", description),
      ("branches", .array (taggedBranches write branches))]

def taggedFields (write : ν → Json) : List (Field (Schema ν)) → List Json
  | [] => []
  | ⟨name, description, schema, isOptional⟩ :: rest =>
    .object [("name", .string name), ("description", description),
      ("is_optional", .bool isOptional), ("schema", schema.tagged write)] ::
      taggedFields write rest

def taggedBranches (write : ν → Json) : List (Schema ν) → List Json
  | [] => []
  | branch :: rest => branch.tagged write :: taggedBranches write rest

end

/-- The tagged form of what stands under a name. -/
def taggedSlot (write : ν → Json) (name : Json) (slot : Slot (Schema ν)) : Json :=
  .object [("name", name), ("description", slot.description),
    ("is_optional", .bool slot.isOptional), ("schema", slot.schema.tagged write)]

end Schema

end ToolSchema
