import ToolSchema.Proofs.Everywhere
import ToolSchema.Proofs.Naming
import ToolSchema.Proofs.Validity
import ToolSchema.Schema.Document

/-!
# What a rendered schema admits

`Schema.Admits` says which values a schema admits. The document of a schema admits the same ones
(`Schema.valid_document`), and names make no difference (`Schema.admits_nameFrom`).
-/

namespace ToolSchema

open Json

variable {ν : Type}

/-- The values that a constraint admits, of the kind of its leaf. -/
def Constraint.Admits : (constraint : Constraint) → (value : Json) → Prop
  | .fixed only, value => only.SameScalar value
  | .range low high, value => low.InOrder value ∧ value.InOrder high

namespace Schema

mutual

/-- The values that a schema admits. -/
def Admits : (schema : Schema ν) → (value : Json) → Prop
  | .leaf kind constraint, value =>
    value.HasType kind.name ∧ ∀ c, constraint = some c → c.Admits value
  | .object _ _ fields, value => ∃ members, value = .object members ∧ FieldsAdmit fields members
  | .array element least greatest, value =>
    ∃ items, value = .array items ∧ (∀ item ∈ items, element.Admits item) ∧
      (∀ n, least = some n → n ≤ items.length) ∧ ∀ n, greatest = some n → items.length ≤ n
  | .union _ _ branches, value => SomeAdmits branches value

/-- A field that is there is admitted, and a field that is not optional is there. -/
def FieldsAdmit : (fields : List (Field (Schema ν))) → (members : Members) → Prop
  | [], _ => True
  | ⟨name, _, schema, isOptional⟩ :: rest, members =>
    ((∀ part, members.lookup name = some part → schema.Admits part) ∧
      (isOptional = false → members.hasKey name)) ∧ FieldsAdmit rest members

def SomeAdmits : (branches : List (Schema ν)) → (value : Json) → Prop
  | [], _ => False
  | branch :: rest, value => branch.Admits value ∨ SomeAdmits rest value

end

theorem fieldsAdmit_iff {fields : List (Field (Schema ν))} {members : Members} :
    FieldsAdmit fields members ↔ ∀ field ∈ fields,
      (∀ part, members.lookup field.name = some part → field.schema.Admits part) ∧
        (field.isOptional = false → members.hasKey field.name) := by
  induction fields with
  | nil => simp [FieldsAdmit]
  | cons field rest ih => rw [FieldsAdmit, ih, List.forall_mem_cons]

theorem someAdmits_iff {branches : List (Schema ν)} {value : Json} :
    SomeAdmits branches value ↔ ∃ branch ∈ branches, branch.Admits value := by
  induction branches with
  | nil => simp [SomeAdmits]
  | cons branch rest ih => simp [SomeAdmits, ih]

/-! ## Documents -/

/-- A description asks nothing of a value. -/
theorem valid_described {members : Members} {description value : Json} :
    Valid (.object (members.described description)) value ↔ Valid (.object members) value := by
  rw [Members.described]
  split
  · refine valid_congr (fun key hk => Members.lookup_put_of_ne ?_)
    rintro rfl
    exact absurd hk (by decide)
  · rfl

theorem exists_of_constant? {branch : Schema ν} {only : Json} (h : branch.constant? = some only) :
    branch = .leaf .string (some (.fixed only)) := by
  unfold constant? at h
  split at h
  · cases h
    rfl
  · cases h

/-- What branches admit that are all string constants. -/
theorem someAdmits_of_constants {branches : List (Schema ν)} {values : List Json}
    (h : constants? branches = some values) (value : Json) :
    SomeAdmits branches value ↔
      value.HasType "string" ∧ ∃ only ∈ values, only.SameScalar value := by
  induction branches generalizing values with
  | nil =>
    cases h
    simp [SomeAdmits]
  | cons branch rest ih =>
    rw [constants?, List.mapM_cons, Option.bind_eq_bind, Option.bind_eq_some_iff] at h
    obtain ⟨only, ho, h⟩ := h
    rw [Option.bind_eq_bind, Option.bind_eq_some_iff] at h
    obtain ⟨others, hrest, h⟩ := h
    cases h
    rw [SomeAdmits, ih hrest, exists_of_constant? ho]
    simp [Admits, Constraint.Admits, Primitive.name]
    grind

theorem isSome_constant? {branches : List (Schema ν)} {values : List Json}
    (h : constants? branches = some values) :
    ∀ branch ∈ branches, branch.constant?.isSome := by
  induction branches generalizing values with
  | nil => exact fun _ hb => (List.not_mem_nil hb).elim
  | cons branch rest ih =>
    rw [constants?, List.mapM_cons] at h
    obtain ⟨value, hv, h⟩ := Option.bind_eq_some_iff.mp h
    obtain ⟨others, ho, _⟩ := Option.bind_eq_some_iff.mp h
    exact List.forall_mem_cons.mpr ⟨by rw [hv]; rfl, ih ho⟩

/-- One branch that is no string constant is enough for a list of branches to have no values. -/
theorem constants?_eq_none_of_mem {branches : List (Schema ν)} {branch : Schema ν}
    (hb : branch ∈ branches) (h : branch.constant? = none) : constants? branches = none := by
  rw [Option.eq_none_iff_forall_ne_some]
  intro values hvalues
  have hconstant := isSome_constant? hvalues branch hb
  rw [h] at hconstant
  cases hconstant

theorem constants?_texts (texts : List String) :
    constants? (texts.map stringConstant : List (Schema ν)) = some (texts.map .string) := by
  induction texts with
  | nil => rfl
  | cons text rest ih =>
    rw [constants?] at ih ⊢
    rw [List.map_cons, List.mapM_cons, ih]
    rfl

/-- String constants are written as one enumeration. -/
theorem documentMembers_texts {write : ν → Json} {texts : List String} (h : texts ≠ []) (name : ν)
    (description : Json) :
    documentMembers write (.union name description (texts.map stringConstant)) =
      [("type", .string "string"), ("enum", .array (texts.map .string))] ++
        descriptionMember description := by
  unfold documentMembers
  rw [constants?_texts]
  cases texts with
  | nil => exact absurd rfl h
  | cons text rest => rfl

theorem documentMembers_anyOf {write : ν → Json} {branches : List (Schema ν)}
    (h : branches = [] ∨ constants? branches = none) (name : ν) (description : Json) :
    documentMembers write (.union name description branches) =
      [("anyOf", .array (documentBranches write branches))] ++ descriptionMember description := by
  unfold documentMembers
  rcases h with rfl | h
  · rfl
  · rw [h]
    cases branches <;> rfl

/-- A description is no keyword that is read. -/
theorem only_descriptionMember (description : Json) (keys : List String) :
    (descriptionMember description).Only keys := by
  rw [descriptionMember]
  split
  · simp [Members.Only]
  · simp [Members.Only]

theorem lookup_descriptionMember (description : Json) {key : String} (h : key ≠ "description") :
    (descriptionMember description).lookup key = none := by
  rw [descriptionMember]
  split
  · rw [List.lookup_cons, beq_eq_false_iff_ne.mpr h]
    rfl
  · rfl

theorem documentFields_eq_map (write : ν → Json) (fields : List (Field (Schema ν))) :
    documentFields write fields = fields.map (fun field =>
      (field.name,
        .object ((field.schema.documentMembers write).described field.description))) := by
  induction fields with
  | nil => rfl
  | cons field rest ih => rw [documentFields, ih, List.map_cons]

theorem documentBranches_eq_map (write : ν → Json) (branches : List (Schema ν)) :
    documentBranches write branches = branches.map (document write) := by
  induction branches with
  | nil => rfl
  | cons branch rest ih => rw [documentBranches, ih, List.map_cons, document]

/-- What holds of the documents of fields holds under the name of each field. -/
theorem forall_documentFields {write : ν → Json} {fields : List (Field (Schema ν))}
    {q : String → Json → Prop} :
    (∀ property ∈ documentFields write fields, q property.1 property.2) ↔
      ∀ field ∈ fields, q field.name
        (.object (Members.described (field.schema.documentMembers write) field.description)) := by
  rw [documentFields_eq_map, List.forall_mem_map]

theorem exists_documentBranches {write : ν → Json} {branches : List (Schema ν)} {q : Json → Prop} :
    (∃ branch ∈ documentBranches write branches, q branch) ↔
      ∃ branch ∈ branches, q (.object (branch.documentMembers write)) := by
  simp only [documentBranches_eq_map, List.mem_map, exists_exists_and_eq_and, document]

/-- A field is required if it is not optional. -/
theorem forall_requiredNames {fields : List (Field (Schema ν))} {q : String → Prop} :
    (∀ name ∈ requiredNames fields, q name) ↔
      ∀ field ∈ fields, field.isOptional = false → q field.name := by
  rw [requiredNames, List.forall_mem_map]
  simp only [List.mem_filter, Bool.not_eq_true', and_imp]

theorem valid_documentLeaf (write : ν → Json) (kind : Primitive) (constraint : Option Constraint)
    (value : Json) :
    Valid (.object (documentMembers write (.leaf kind constraint))) value ↔
      Admits (.leaf kind constraint : Schema ν) value := by
  rw [documentMembers, Admits]
  cases constraint with
  | none =>
    rw [Option.map_none, Option.getD_none, valid_of_type (by simp [Members.Only]) rfl]
    simp
  | some c =>
    rw [Option.map_some, Option.getD_some]
    cases c with
    | fixed only =>
      rw [Constraint.document, valid_of_enum (by simp [Members.Only]) rfl]
      simp [Names, Constraint.Admits]
    | range low high =>
      rw [Constraint.document, valid_of_range (by simp [Members.Only]) rfl rfl rfl]
      simp [Constraint.Admits]

section Object

variable (write : ν → Json) (name : ν) (description : Json) (fields : List (Field (Schema ν)))

theorem only_documentObject :
    Members.Only (documentMembers write (.object name description fields))
      ["type", "properties", "required"] := by
  intro member hm
  rw [documentMembers, List.mem_cons, List.mem_cons, List.mem_append] at hm
  rcases hm with rfl | rfl | hm | hm
  · simp
  · simp
  · exact only_descriptionMember description _ member hm
  · rcases List.mem_cons.mp hm with rfl | hm
    · simp
    · rw [List.mem_singleton.mp hm]
      simp

theorem lookup_properties_documentObject :
    (documentMembers write (.object name description fields)).lookup "properties" =
      some (.object (documentFields write fields)) := by
  simp [documentMembers, List.lookup_cons, List.lookup_append, lookup_descriptionMember]

theorem lookup_required_documentObject :
    (documentMembers write (.object name description fields)).lookup "required" =
      some (.array ((requiredNames fields).map .string)) := by
  simp [documentMembers, List.lookup_cons, List.lookup_append, lookup_descriptionMember]

variable {write name description fields}

theorem valid_documentObject
    (h : ∀ field ∈ fields, ∀ value,
      Valid (.object (field.schema.documentMembers write)) value ↔ field.schema.Admits value)
    (value : Json) :
    Valid (.object (documentMembers write (.object name description fields))) value ↔
      Admits (.object name description fields) value := by
  have hproperties : Members.properties (documentMembers write (.object name description fields)) =
      documentFields write fields := by
    rw [Members.properties, lookup_properties_documentObject]
    rfl
  have hrequired : Members.requiredNames (documentMembers write (.object name description fields)) =
      requiredNames fields := by
    rw [Members.requiredNames, Members.items?, lookup_required_documentObject]
    simp [Json.items?, List.filterMap_map, Function.comp_def, Json.string?]
  rw [valid_of_properties (only_documentObject write name description fields) rfl, hproperties,
    hrequired, Admits]
  refine exists_congr (fun parts => and_congr_right (fun _ => ?_))
  rw [fieldsAdmit_iff, forall_requiredNames, forall_documentFields (q := fun name node =>
    ∀ part, parts.lookup name = some part → Valid node part)]
  have hfield : ∀ field ∈ fields, ∀ part,
      Valid (.object (Members.described (field.schema.documentMembers write) field.description))
        part ↔ field.schema.Admits part :=
    fun field hf part => valid_described.trans (h field hf part)
  constructor
  · rintro ⟨hvalid, hpresent⟩ field hf
    exact ⟨fun part hv => (hfield field hf part).mp (hvalid field hf part hv), hpresent field hf⟩
  · intro hadmits
    exact ⟨fun field hf part hv => (hfield field hf part).mpr ((hadmits field hf).1 part hv),
      fun field hf => (hadmits field hf).2⟩

end Object

section Array

variable (write : ν → Json) (element : Schema ν) (least greatest : Option Int)

theorem only_documentArray : Members.Only (documentMembers write (.array element least greatest))
    ["type", "items", "minItems", "maxItems"] := by
  cases least <;> cases greatest <;> simp [documentMembers, Members.Only]

theorem lookup_minItems_documentArray :
    (documentMembers write (.array element least greatest)).lookup "minItems" =
      least.map Json.int := by
  cases least <;> cases greatest <;> simp [documentMembers, List.lookup_cons]

theorem lookup_maxItems_documentArray :
    (documentMembers write (.array element least greatest)).lookup "maxItems" =
      greatest.map Json.int := by
  cases least <;> cases greatest <;> simp [documentMembers, List.lookup_cons]

variable {write element least greatest}

theorem valid_documentArray
    (h : ∀ value, Valid (.object (element.documentMembers write)) value ↔ element.Admits value)
    (value : Json) :
    Valid (.object (documentMembers write (.array element least greatest))) value ↔
      Admits (.array element least greatest) value := by
  have hitems : (documentMembers write (.array element least greatest)).lookup "items" =
      some (.object (element.documentMembers write)) := rfl
  rw [valid_of_items (only_documentArray write element least greatest) rfl,
    lookup_minItems_documentArray, lookup_maxItems_documentArray, hitems, Admits]
  refine exists_congr (fun parts => and_congr_right (fun _ => and_congr ?_ ?_))
  · simp only [Option.some.injEq, forall_eq', h]
  · simp only [Option.map_eq_some_iff, Json.int.injEq, exists_eq_right]

end Array

theorem valid_documentUnion {write : ν → Json} {name : ν} {description : Json}
    {branches : List (Schema ν)}
    (h : ∀ branch ∈ branches, ∀ value,
      Valid (.object (branch.documentMembers write)) value ↔ branch.Admits value) (value : Json) :
    Valid (.object (documentMembers write (.union name description branches))) value ↔
      Admits (.union name description branches) value := by
  have hanyOf : Valid (.object ([("anyOf", .array (documentBranches write branches))] ++
      descriptionMember description)) value ↔ SomeAdmits branches value := by
    have honly : Members.Only [("anyOf", .array (documentBranches write branches))] ["anyOf"] := by
      simp [Members.Only]
    rw [valid_of_anyOf (honly.append (only_descriptionMember _ _)) rfl, exists_documentBranches,
      someAdmits_iff]
    exact exists_congr (fun branch => and_congr_right (fun hb => h branch hb value))
  unfold documentMembers Admits
  split
  · -- Branches that are all string constants are written as one enumeration.
    next values hconstants =>
    have honly : Members.Only [("type", .string "string"), ("enum", .array values)]
        ["type", "enum"] := by
      simp [Members.Only]
    rw [valid_of_enum (honly.append (only_descriptionMember _ _)) rfl,
      someAdmits_of_constants hconstants]
    refine and_congr_left (fun _ => ?_)
    simp [Names]
  · exact hanyOf

mutual

/-- **The document of a schema admits what the schema admits.** -/
theorem valid_document (write : ν → Json) : (schema : Schema ν) → ∀ value : Json,
    (Valid (.object (schema.documentMembers write)) value ↔ schema.Admits value)
  | .leaf kind constraint => valid_documentLeaf write kind constraint
  | .object _ _ fields => valid_documentObject (valid_documentFields write fields)
  | .array element _ _ => valid_documentArray (valid_document write element)
  | .union _ _ branches => valid_documentUnion (valid_documentBranches write branches)

theorem valid_documentFields (write : ν → Json) : (fields : List (Field (Schema ν))) →
    ∀ field ∈ fields, ∀ value,
      (Valid (.object (field.schema.documentMembers write)) value ↔ field.schema.Admits value)
  | [] => fun _ hf => (List.not_mem_nil hf).elim
  | ⟨_, _, schema, _⟩ :: rest => List.forall_mem_cons.mpr
    ⟨valid_document write schema, valid_documentFields write rest⟩

theorem valid_documentBranches (write : ν → Json) : (branches : List (Schema ν)) →
    ∀ branch ∈ branches, ∀ value,
      (Valid (.object (branch.documentMembers write)) value ↔ branch.Admits value)
  | [] => fun _ hb => (List.not_mem_nil hb).elim
  | branch :: rest => List.forall_mem_cons.mpr
    ⟨valid_document write branch, valid_documentBranches write rest⟩

end

/-- **Every schema can be rendered, and its document accepts exactly what it admits.** -/
theorem rendering_admits (schema : Schema Json) :
    ∃ document, (Draft.ofSchema schema).document = .ok document ∧
      ∀ value, Valid document value ↔ schema.Admits value := by
  refine ⟨schema.document id, ?_, valid_document id schema⟩
  rw [Draft.document, Draft.documentMembers_ofSchema]
  rfl

/-! ## Names -/

mutual

/-- A schema admits the same values with its names. -/
theorem admits_nameFrom : (schema : Schema Label) → ∀ {supply rest named},
    schema.nameFrom supply = some (named, rest) → ∀ value, named.Admits value ↔ schema.Admits value
  | .leaf kind constraint, supply, rest, named, h, value => by
    obtain ⟨rfl, rfl⟩ := nameFrom_leaf_eq_some.mp h
    rw [Admits, Admits]
  | .object label description fields, supply, rest, named, h, value => by
    obtain ⟨name, between, namedFields, hn, hf, rfl⟩ := nameFrom_object_eq_some.mp h
    rw [Admits, Admits]
    exact exists_congr (fun parts => and_congr_right (fun _ =>
      fieldsAdmit_nameFieldsFrom fields hf parts))
  | .array element least greatest, supply, rest, named, h, value => by
    obtain ⟨namedElement, he, rfl⟩ := nameFrom_array_eq_some.mp h
    rw [Admits, Admits]
    simp only [admits_nameFrom element he]
  | .union label description branches, supply, rest, named, h, value => by
    obtain ⟨name, between, namedBranches, hn, hb, rfl⟩ := nameFrom_union_eq_some.mp h
    rw [Admits, Admits]
    exact someAdmits_nameBranchesFrom branches hb value

theorem fieldsAdmit_nameFieldsFrom : (fields : List (Field (Schema Label))) →
    ∀ {supply rest named}, nameFieldsFrom fields supply = some (named, rest) →
      ∀ members, FieldsAdmit named members ↔ FieldsAdmit fields members
  | [], supply, rest, named, h, members => by
    obtain ⟨rfl, rfl⟩ := nameFieldsFrom_nil_eq_some.mp h
    rw [FieldsAdmit, FieldsAdmit]
  | ⟨name, description, schema, isOptional⟩ :: others, supply, rest, named, h, members => by
    obtain ⟨namedSchema, between, namedOthers, hn, ho, rfl⟩ := nameFieldsFrom_cons_eq_some.mp h
    rw [FieldsAdmit, FieldsAdmit, fieldsAdmit_nameFieldsFrom others ho]
    simp only [admits_nameFrom schema hn]

theorem someAdmits_nameBranchesFrom : (branches : List (Schema Label)) →
    ∀ {supply rest named}, nameBranchesFrom branches supply = some (named, rest) →
      ∀ value, SomeAdmits named value ↔ SomeAdmits branches value
  | [], supply, rest, named, h, value => by
    obtain ⟨rfl, rfl⟩ := nameBranchesFrom_nil_eq_some.mp h
    rw [SomeAdmits, SomeAdmits]
  | branch :: others, supply, rest, named, h, value => by
    obtain ⟨namedBranch, between, namedOthers, hn, ho, rfl⟩ := nameBranchesFrom_cons_eq_some.mp h
    rw [SomeAdmits, SomeAdmits, admits_nameFrom branch hn, someAdmits_nameBranchesFrom others ho]

end

end Schema

end ToolSchema
