import ToolSchema.Json

/-!
# Generation schemas

A generation schema says which values a constrained decoder may produce. It is a tree of four kinds
of nodes: leaves, objects, arrays and unions. Objects and unions carry a name, of a type `ν` that
depends on where the tree is used: names may still have to be chosen (`Label`), or they are given.
A description is whatever the document or the caller gives, and null where there is none.
-/

namespace ToolSchema

/-- The kinds of a leaf. -/
inductive Primitive where
  | boolean | integer | number | string
  deriving DecidableEq, Repr

namespace Primitive

def name : Primitive → String
  | boolean => "boolean"
  | integer => "integer"
  | number => "number"
  | string => "string"

/-- The kind of a given name. -/
def ofName? : String → Option Primitive
  | "boolean" => some boolean
  | "integer" => some integer
  | "number" => some number
  | "string" => some string
  | _ => none

end Primitive

/-- What narrows a leaf. -/
inductive Constraint where
  /-- Exactly this value. -/
  | fixed (value : Json)
  /-- The values from `low` to `high`, both included. -/
  | range (low high : Json)
  deriving DecidableEq, Repr

/-- A named field of an object, with the schema of its value. -/
structure Field (σ : Type) where
  name : String
  description : Json
  schema : σ
  /-- The decoder may leave the field out. -/
  isOptional : Bool
  deriving DecidableEq, Repr

/-- What an object has under the name of a field. -/
structure Slot (σ : Type) where
  description : Json
  schema : σ
  isOptional : Bool
  deriving DecidableEq, Repr

/-- The field of a name. -/
def Slot.named {σ : Type} (slot : Slot σ) (name : String) : Field σ :=
  ⟨name, slot.description, slot.schema, slot.isOptional⟩

inductive Schema (ν : Type) where
  | leaf (kind : Primitive) (constraint : Option Constraint)
  | object (name : ν) (description : Json) (fields : List (Field (Schema ν)))
  | array (element : Schema ν) (least greatest : Option Int)
  | union (name : ν) (description : Json) (branches : List (Schema ν))
  deriving Repr

/-- The name of an object or a union while names may still have to be chosen. -/
inductive Label where
  /-- The document or the caller gives the name. -/
  | given (name : Json)
  /-- A name will be generated. -/
  | generated
  deriving DecidableEq, Repr

namespace Label

/-- The name that a caller gives; an empty one counts as none. -/
def ofName (name : Json) : Label := if name.isTruthy then given name else generated

/-- The name that a caller may give. -/
def ofName? (name : Option String) : Label := ofName (Json.ofString? name)

end Label

namespace Schema

variable {ν μ : Type}

mutual

/-- The tree with other names. -/
def map (f : ν → μ) : Schema ν → Schema μ
  | .leaf kind constraint => .leaf kind constraint
  | .object name description fields => .object (f name) description (mapFields f fields)
  | .array element least greatest => .array (element.map f) least greatest
  | .union name description branches => .union (f name) description (mapBranches f branches)

def mapFields (f : ν → μ) : List (Field (Schema ν)) → List (Field (Schema μ))
  | [] => []
  | ⟨name, description, schema, isOptional⟩ :: rest =>
    ⟨name, description, schema.map f, isOptional⟩ :: mapFields f rest

def mapBranches (f : ν → μ) : List (Schema ν) → List (Schema μ)
  | [] => []
  | branch :: rest => branch.map f :: mapBranches f rest

end

mutual

/-- The names of the tree, a node before what is below it. -/
def names : Schema ν → List ν
  | .leaf _ _ => []
  | .object name _ fields => name :: namesOfFields fields
  | .array element _ _ => element.names
  | .union name _ branches => name :: namesOfBranches branches

def namesOfFields : List (Field (Schema ν)) → List ν
  | [] => []
  | ⟨_, _, schema, _⟩ :: rest => schema.names ++ namesOfFields rest

def namesOfBranches : List (Schema ν) → List ν
  | [] => []
  | branch :: rest => branch.names ++ namesOfBranches rest

end

/-- A leaf that admits one string. -/
def constant? : Schema ν → Option Json
  | .leaf .string (some (.fixed value)) => some value
  | _ => none

/-- The field of a name. -/
def field? (schema : Schema ν) (name : String) : Option (Field (Schema ν)) :=
  match schema with
  | .object _ _ fields => fields.find? (fun field => field.name == name)
  | _ => none

/-- The leaf of a string constant. -/
def stringConstant (value : String) : Schema ν := .leaf .string (some (.fixed (.string value)))

end Schema

end ToolSchema
