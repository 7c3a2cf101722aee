import ToolSchema.Schema

/-!
# The JSON Schema document of a schema

The dialect is the one that model servers take for the parameters of a tool: `type`, `enum`,
`minimum`, `maximum`, `title`, `description`, `properties`, `required`, `items`, `minItems`,
`maxItems` and `anyOf`. A union of string constants becomes one string with an `enum`. Empty
descriptions are left out, and so are the names of unions.
-/

namespace ToolSchema

/-- The members that state a constraint. -/
def Constraint.document : Constraint → Members
  | .fixed value => [("enum", .array [value])]
  | .range low high => [("minimum", low), ("maximum", high)]

/-- The member for a description, if there is one to be shown. -/
def descriptionMember (description : Json) : Members :=
  if description.isTruthy then [("description", description)] else []

/-- The members with a description put over the one they may have. -/
def Members.described (members : Members) (description : Json) : Members :=
  if description.isTruthy then members.put "description" description else members

namespace Schema

variable {ν : Type}

/-- The values of branches that are all string constants. -/
def constants? (branches : List (Schema ν)) : Option (List Json) :=
  branches.mapM constant?

/-- The names of the fields that the decoder may not leave out. -/
def requiredNames (fields : List (Field (Schema ν))) : List String :=
  (fields.filter (fun field => !field.isOptional)).map Field.name

mutual

/-- The members of the document of a schema, with names written by `write`. -/
def documentMembers (write : ν → Json) : Schema ν → Members
  | .leaf kind constraint =>
    ("type", .string kind.name) :: (constraint.map Constraint.document).getD []
  | .object name description fields =>
    ("type", .string "object") :: ("title", write name) :: (descriptionMember description ++
      [("properties", .object (documentFields write fields)),
        ("required", .array ((requiredNames fields).map .string))])
  | .array element least greatest =>
    ("type", .string "array") :: ("items", .object (element.documentMembers write)) ::
      ((least.map (fun n => ("minItems", Json.int n))).toList ++
        (greatest.map (fun n => ("maxItems", Json.int n))).toList)
  | .union _ description branches =>
    (match branches, constants? branches with
      | _ :: _, some values => [("type", .string "string"), ("enum", .array values)]
      | _, _ => [("anyOf", .array (documentBranches write branches))]) ++
      descriptionMember description

/-- The documents of fields, each under the name and with the description of its field. -/
def documentFields (write : ν → Json) : List (Field (Schema ν)) → List (String × Json)
  | [] => []
  | ⟨name, description, schema, _⟩ :: rest =>
    (name, .object (Members.described (schema.documentMembers write) description)) ::
      documentFields write rest

def documentBranches (write : ν → Json) : List (Schema ν) → List Json
  | [] => []
  | branch :: rest => .object (branch.documentMembers write) :: documentBranches write rest

end

/-- The document of a schema, with names written by `write`. -/
def document (write : ν → Json) (schema : Schema ν) : Json :=
  .object (schema.documentMembers write)

end Schema

end ToolSchema
