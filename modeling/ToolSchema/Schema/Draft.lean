import ToolSchema.Json.Order
import ToolSchema.Schema.Document
import ToolSchema.Schema.Tagged

/-!
# Drafts of schemas

A draft is a schema that somebody else wrote down: leaves of unknown kinds, objects that repeat a
field, arrays whose bounds exclude each other, names and bounds of any kind, and values that are no
schemas at all.

* `Draft.defect?` finds what keeps the parts from being put together, inner parts first.
* `Draft.tagged` and `Draft.document` render a draft without defects. They fail only where a value
  stands for a schema, and of a schema they give what its own renderings give
  (`Draft.tagged_ofSchema`, `Draft.documentMembers_ofSchema`).
-/

namespace ToolSchema

/-- A named field, as somebody wrote it down. -/
structure DraftField (σ : Type) where
  name : Json
  description : Json
  schema : σ
  isOptional : Json
  deriving Repr

inductive Draft where
  | leaf (kind : Json) (constraint : Option Constraint)
  | object (name description : Json) (fields : List (DraftField Draft))
  /-- A bound that is null is absent. -/
  | array (element : Draft) (least greatest : Json)
  | union (name description : Json) (branches : List Draft)
  /-- A value in the place of a schema. -/
  | raw (value : Json)
  deriving Repr, Inhabited

namespace Draft

/-! ## Defects -/

/-- The kind of a leaf. -/
def primitive (kind : Json) : Except Fault Primitive :=
  match kind.string?.bind Primitive.ofName? with
  | some primitive => .ok primitive
  | none => .error (.unknownPrimitive kind.literal)

/-- The least bound is above the greatest, or cannot be compared with it. -/
def boundsDefect? (least greatest : Json) : Option Fault :=
  if least = .null ∨ greatest = .null then none
  else
    match least.exceeds greatest with
    | .ok false => none
    | .ok true => some (.invertedBounds least greatest)
    | .error fault => some fault

/-- A name of the object stands for two fields, or is none. -/
def namesDefect? (object : Json) (names : List Json) : Option Fault :=
  match names.mapM Json.hashable with
  | .error fault => some fault
  | .ok names =>
    if names.Pairwise (fun name other => name.isSameKey other = false) then none
    else some (.duplicateFields object.display)

mutual

/-- The first defect of a draft, with those of inner parts before its own. -/
def defect? : Draft → Option Fault
  | .leaf kind _ =>
    match primitive kind with
    | .ok _ => none
    | .error fault => some fault
  | .object name _ fields =>
    (fieldsDefect? fields).or (namesDefect? name (fields.map DraftField.name))
  | .array element least greatest => element.defect?.or (boundsDefect? least greatest)
  | .union _ _ branches => branchesDefect? branches
  | .raw _ => none

def fieldsDefect? : List (DraftField Draft) → Option Fault
  | [] => none
  | ⟨_, _, schema, _⟩ :: rest => schema.defect?.or (fieldsDefect? rest)

def branchesDefect? : List Draft → Option Fault
  | [] => none
  | branch :: rest => branch.defect?.or (branchesDefect? rest)

end

/-! ## The tagged tree -/

mutual

/-- The tagged tree, unless a value stands somewhere in it. -/
def tagged : Draft → Except Fault Json
  | .leaf kind constraint =>
    .ok (.object [("kind", .string "primitive"), ("type", kind),
      ("constraint", (constraint.map Constraint.tagged).getD .null)])
  | .object name description fields => do
    return .object [("kind", .string "object"), ("name", name), ("description", description),
      ("fields", .array (← taggedFields fields))]
  | .array element least greatest => do
    return .object [("kind", .string "array"), ("element", ← element.tagged),
      ("min_elements", least), ("max_elements", greatest)]
  | .union name description branches => do
    return .object [("kind", .string "union"), ("name", name), ("description", description),
      ("branches", .array (← taggedBranches branches))]
  | .raw value => .error (.notASchema value.bareTypeName)

def taggedFields : List (DraftField Draft) → Except Fault (List Json)
  | [] => .ok []
  | ⟨name, description, schema, isOptional⟩ :: rest => do
    let field := .object [("name", name), ("description", description),
      ("is_optional", isOptional), ("schema", ← schema.tagged)]
    return field :: (← taggedFields rest)

def taggedBranches : List Draft → Except Fault (List Json)
  | [] => .ok []
  | branch :: rest => do return (← branch.tagged) :: (← taggedBranches rest)

end

/-! ## The JSON Schema document -/

/-- The value of a leaf that admits one string. -/
def constant? : Draft → Option Json
  | .leaf (.string "string") (some (.fixed value)) => some value
  | _ => none

def isStringConstant (draft : Draft) : Bool := draft.constant?.isSome

/-- The values of branches that are all string constants, if there are any. -/
def constants? (branches : List Draft) : Option (List Json) :=
  if branches.isEmpty then none else branches.mapM constant?

/-- The names of the fields that the decoder may not leave out. -/
def requiredNames (fields : List (DraftField Draft)) : List Json :=
  (fields.filter (fun field => !field.isOptional.isTruthy)).map DraftField.name

/-- The member for a bound that is not null. -/
def boundMember (key : String) (bound : Json) : Members :=
  if bound = .null then [] else [(key, bound)]

mutual

/-- The members of the document, unless a value stands somewhere in it. -/
def documentMembers : Draft → Except Fault Members
  | .leaf kind constraint =>
    .ok (("type", kind) :: (constraint.map Constraint.document).getD [])
  | .object name description fields => do
    return ("type", .string "object") :: ("title", name) :: (descriptionMember description ++
      [("properties", .object (← documentFields fields)),
        ("required", .array (requiredNames fields))])
  | .array element least greatest => do
    return ("type", .string "array") :: ("items", .object (← element.documentMembers)) ::
      (boundMember "minItems" least ++ boundMember "maxItems" greatest)
  | .union _ description branches =>
    match constants? branches with
    | some values =>
      .ok ([("type", .string "string"), ("enum", .array values)] ++ descriptionMember description)
    | none => do
      return ("anyOf", .array (← documentBranches branches)) :: descriptionMember description
  | .raw value => .error (.notASchema value.bareTypeName)

/-- The documents of fields, each under the text of its name. -/
def documentFields : List (DraftField Draft) → Except Fault Members
  | [] => .ok []
  | ⟨name, description, schema, _⟩ :: rest => do
    let field := .object (Members.described (← schema.documentMembers) description)
    return (name.keyText, field) :: (← documentFields rest)

def documentBranches : List Draft → Except Fault (List Json)
  | [] => .ok []
  | branch :: rest => do
    return .object (← branch.documentMembers) :: (← documentBranches rest)

end

/-- The document of a draft, unless a value stands somewhere in it. -/
def document (draft : Draft) : Except Fault Json := draft.documentMembers.map .object

/-- The field of a name. -/
def field? (draft : Draft) (name : Json) : Option (DraftField Draft) :=
  match draft with
  | .object _ _ fields => fields.find? (fun field => field.name.isEqual name)
  | _ => none

/-! ## Schemas as drafts -/

mutual

/-- The draft that says what a schema says. -/
def ofSchema : Schema Json → Draft
  | .leaf kind constraint => .leaf (.string kind.name) constraint
  | .object name description fields => .object name description (ofFields fields)
  | .array element least greatest => .array (ofSchema element) (.ofInt? least) (.ofInt? greatest)
  | .union name description branches => .union name description (ofBranches branches)

def ofFields : List (Field (Schema Json)) → List (DraftField Draft)
  | [] => []
  | ⟨name, description, schema, isOptional⟩ :: rest =>
    ⟨.string name, description, ofSchema schema, .bool isOptional⟩ :: ofFields rest

def ofBranches : List (Schema Json) → List Draft
  | [] => []
  | branch :: rest => ofSchema branch :: ofBranches rest

end

mutual

theorem tagged_ofSchema : (schema : Schema Json) → (ofSchema schema).tagged = .ok (schema.tagged id)
  | .leaf _ _ => rfl
  | .object name description fields => by
    rw [ofSchema, tagged, taggedFields_ofFields fields]
    rfl
  | .array element least greatest => by
    rw [ofSchema, tagged, tagged_ofSchema element]
    rfl
  | .union name description branches => by
    rw [ofSchema, tagged, taggedBranches_ofBranches branches]
    rfl

theorem taggedFields_ofFields : (fields : List (Field (Schema Json))) →
    taggedFields (ofFields fields) = .ok (Schema.taggedFields id fields)
  | [] => rfl
  | ⟨name, description, schema, isOptional⟩ :: rest => by
    rw [ofFields, taggedFields, tagged_ofSchema schema, taggedFields_ofFields rest]
    rfl

theorem taggedBranches_ofBranches : (branches : List (Schema Json)) →
    taggedBranches (ofBranches branches) = .ok (Schema.taggedBranches id branches)
  | [] => rfl
  | branch :: rest => by
    rw [ofBranches, taggedBranches, tagged_ofSchema branch, taggedBranches_ofBranches rest]
    rfl

end

theorem constant?_ofSchema (schema : Schema Json) :
    (ofSchema schema).constant? = schema.constant? := by
  match schema with
  | .leaf kind constraint => cases kind <;> rcases constraint with _ | ⟨_⟩ | ⟨_, _⟩ <;> rfl
  | .object _ _ _ => rfl
  | .array _ _ _ => rfl
  | .union _ _ _ => rfl

theorem mapM_constant?_ofBranches (branches : List (Schema Json)) :
    (ofBranches branches).mapM constant? = branches.mapM Schema.constant? := by
  induction branches with
  | nil => rfl
  | cons branch rest ih => rw [ofBranches, List.mapM_cons, List.mapM_cons, constant?_ofSchema, ih]

theorem requiredNames_ofFields (fields : List (Field (Schema Json))) :
    requiredNames (ofFields fields) = (Schema.requiredNames fields).map .string := by
  induction fields with
  | nil => rfl
  | cons field rest ih =>
    obtain ⟨name, description, schema, isOptional⟩ := field
    cases isOptional <;>
      simp_all [ofFields, requiredNames, Schema.requiredNames, Json.isTruthy]

theorem boundMember_ofInt? (key : String) (bound : Option Int) :
    boundMember key (.ofInt? bound) = (bound.map (fun n => (key, Json.int n))).toList := by
  cases bound <;> rfl

mutual

theorem documentMembers_ofSchema : (schema : Schema Json) →
    (ofSchema schema).documentMembers = .ok (schema.documentMembers id)
  | .leaf _ _ => rfl
  | .object name description fields => by
    rw [ofSchema, documentMembers, documentFields_ofFields fields, requiredNames_ofFields]
    rfl
  | .array element least greatest => by
    rw [ofSchema, documentMembers, documentMembers_ofSchema element, boundMember_ofInt?,
      boundMember_ofInt?]
    rfl
  | .union name description branches => by
    rw [ofSchema, documentMembers, documentBranches_ofBranches branches, constants?,
      mapM_constant?_ofBranches]
    cases branches with
    | nil => rfl
    | cons branch rest =>
      simp only [ofBranches, List.isEmpty_cons, Bool.false_eq_true, if_false]
      cases h : List.mapM Schema.constant? (branch :: rest) <;>
        simp [Schema.documentMembers, Schema.constants?, h, bind, Except.bind, pure, Except.pure]

theorem documentFields_ofFields : (fields : List (Field (Schema Json))) →
    documentFields (ofFields fields) = .ok (Schema.documentFields id fields)
  | [] => rfl
  | ⟨name, description, schema, isOptional⟩ :: rest => by
    rw [ofFields, documentFields, documentMembers_ofSchema schema, documentFields_ofFields rest]
    rfl

theorem documentBranches_ofBranches : (branches : List (Schema Json)) →
    documentBranches (ofBranches branches) = .ok (Schema.documentBranches id branches)
  | [] => rfl
  | branch :: rest => by
    rw [ofBranches, documentBranches, documentMembers_ofSchema branch,
      documentBranches_ofBranches rest]
    rfl

end

end Draft

end ToolSchema
