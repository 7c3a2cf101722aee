import Mathlib.Tactic.MkIffOfInductiveProp
import ToolSchema.Convert.Descent
import ToolSchema.Json.Order

/-!
# Validity

What the keywords of a document ask of a value: `type`, `enum`, `const`, `minimum`, `maximum`,
`properties`, `required`, `items`, `minItems`, `maxItems` and `anyOf`, and no others. Scalars are
compared by kind and value. A keyword of the wrong kind asks nothing, and neither does a node that
is no object.
-/

namespace ToolSchema

namespace Json

/-- The names of the types of a value. An integer is a number, too. -/
def typeNames : Json → List String
  | .null => ["null"]
  | .bool _ => ["boolean"]
  | .int _ => ["integer", "number"]
  | .float _ => ["number"]
  | .string _ => ["string"]
  | .array _ => ["array"]
  | .object _ => ["object"]
  | .binary _ | .record _ | .foreign => []

/-- The value is of the type with this name. -/
def HasType (value : Json) (name : String) : Prop := name ∈ value.typeNames

theorem hasType_array {value : Json} : value.HasType "array" ↔ ∃ items, value = .array items := by
  cases value <;> simp [HasType, typeNames]

theorem hasType_object {value : Json} :
    value.HasType "object" ↔ ∃ members, value = .object members := by
  cases value <;> simp [HasType, typeNames]

/-- Scalars of one kind and one value. -/
inductive SameScalar : Json → Json → Prop where
  | null : SameScalar .null .null
  | bool (value : Bool) : SameScalar (.bool value) (.bool value)
  | int (value : Int) : SameScalar (.int value) (.int value)
  | float {value other : Binary64} {place : Binary64.Place} (hv : value.place? = some place)
      (ho : other.place? = some place) : SameScalar (.float value) (.float other)
  | string (value : String) : SameScalar (.string value) (.string value)

/-- The place of an integer or a floating point number. -/
def numberPlace? : Json → Option Binary64.Place
  | .int value => some (.ofInt value)
  | .float value => value.place?
  | _ => none

/-- The numbers are in order; what is no number is in order with everything. -/
def InOrder (low high : Json) : Prop :=
  ∀ p q, low.numberPlace? = some p → high.numberPlace? = some q → q.isBefore p = false

/-- The value under `type` names a type of the value. -/
def Names : (type value : Json) → Prop
  | .string name, value => value.HasType name
  | .array names, value => ∃ name, .string name ∈ names ∧ value.HasType name
  | _, _ => True

end Json

/-- The keywords of a node, apart from those that hold nodes, admit the value. -/
@[mk_iff]
structure Members.Admit (members : Members) (value : Json) : Prop where
  type : ∀ type, members.lookup "type" = some type → type.Names value
  enum : ∀ items, members.items? "enum" = some items → ∃ item ∈ items, item.SameScalar value
  const : ∀ given, members.lookup "const" = some given → given.SameScalar value
  minimum : ∀ bound, members.lookup "minimum" = some bound → bound.InOrder value
  maximum : ∀ bound, members.lookup "maximum" = some bound → value.InOrder bound
  required : ∀ parts : Members, value = .object parts →
    ∀ name ∈ members.requiredNames, parts.hasKey name
  minItems : ∀ items, value = .array items → ∀ n, members.lookup "minItems" = some (.int n) →
    n ≤ items.length
  maxItems : ∀ items, value = .array items → ∀ n, members.lookup "maxItems" = some (.int n) →
    items.length ≤ n

namespace Json

/-- The value is valid under a document. -/
def Valid : (schema value : Json) → Prop
  | .object members, value =>
    Members.Admit members value ∧
    (∀ property, property ∈ Members.properties members → ∀ parts part, value = .object parts →
      parts.lookup property.1 = some part → Valid property.2 part) ∧
    (∀ items, members.lookup "items" = some items → ∀ parts, value = .array parts →
      ∀ part ∈ parts, Valid items part) ∧
    ∀ branches, Members.items? members "anyOf" = some branches →
      ∃ branch, ∃ _ : branch ∈ branches, Valid branch value
  | _, _ => True
termination_by schema => schema.weight
decreasing_by
  · exact Convert.weight_property_lt ‹_›
  · exact Convert.weight_lookup_lt ‹_›
  · exact Convert.weight_item_of_items? ‹_› ‹_›

theorem valid_object {members : Members} {value : Json} :
    Valid (.object members) value ↔
      members.Admit value ∧
      (∀ property ∈ members.properties, ∀ parts part, value = .object parts →
        parts.lookup property.1 = some part → Valid property.2 part) ∧
      (∀ items, members.lookup "items" = some items → ∀ parts, value = .array parts →
        ∀ part ∈ parts, Valid items part) ∧
      ∀ branches, members.items? "anyOf" = some branches →
        ∃ branch ∈ branches, Valid branch value := by
  rw [Valid]
  simp only [exists_prop]

/-- The keywords that say what is valid. -/
def validationKeys : List String :=
  ["type", "enum", "const", "minimum", "maximum", "properties", "required", "items", "minItems",
    "maxItems", "anyOf"]

/-- Nothing but these keywords says what is valid. -/
theorem valid_congr {members others : Members} {value : Json}
    (h : ∀ key ∈ validationKeys, members.lookup key = others.lookup key) :
    Valid (.object members) value ↔ Valid (.object others) value := by
  -- The keywords are shared both ways, so that one direction is enough.
  have hmono : ∀ {members others : Members},
      (∀ key ∈ validationKeys, members.lookup key = others.lookup key) →
        members.Admit value → others.Admit value := by
    intro members others h hm
    have hnames : members.requiredNames = others.requiredNames := by
      rw [Members.requiredNames, Members.requiredNames, Members.items?, Members.items?,
        h "required" (by decide)]
    have henum : members.items? "enum" = others.items? "enum" := by
      rw [Members.items?, Members.items?, h "enum" (by decide)]
    exact ⟨h "type" (by decide) ▸ hm.type, henum ▸ hm.enum, h "const" (by decide) ▸ hm.const,
      h "minimum" (by decide) ▸ hm.minimum, h "maximum" (by decide) ▸ hm.maximum,
      hnames ▸ hm.required, h "minItems" (by decide) ▸ hm.minItems,
      h "maxItems" (by decide) ▸ hm.maxItems⟩
  have hiff : members.Admit value ↔ others.Admit value :=
    ⟨hmono h, hmono (fun key hk => (h key hk).symm)⟩
  rw [valid_object, valid_object, hiff, Members.properties, Members.properties, Members.items?,
    Members.items?, h "properties" (by decide), h "items" (by decide), h "anyOf" (by decide)]

end Json

/-! ## Nodes with few keywords -/

/-- Only these keys stand in the node, and a title and a description. -/
def Members.Only (members : Members) (keys : List String) : Prop :=
  ∀ member ∈ members, member.1 ∈ "title" :: "description" :: keys

theorem Members.Only.append {front back : Members} {keys : List String} (hf : front.Only keys)
    (hb : back.Only keys) : (front ++ back).Only keys := by
  intro member hm
  rcases List.mem_append.mp hm with hm | hm
  · exact hf member hm
  · exact hb member hm

theorem Members.Only.lookup {members : Members} {keys : List String} (h : members.Only keys)
    {key : String} (hk : key ∉ "title" :: "description" :: keys) : members.lookup key = none := by
  rw [List.lookup_eq_none_iff]
  intro member hm
  rw [bne_iff_ne]
  rintro rfl
  exact hk (h member hm)

theorem Members.Only.hasKey {members : Members} {keys : List String} (h : members.Only keys)
    {key : String} (hk : key ∉ "title" :: "description" :: keys) : members.hasKey key = false := by
  rw [Members.hasKey, List.any_eq_false]
  intro member hm hkey
  rw [beq_iff_eq] at hkey
  exact hk (hkey ▸ h member hm)

theorem Members.Only.items? {members : Members} {keys : List String} (h : members.Only keys)
    {key : String} (hk : key ∉ "title" :: "description" :: keys) : members.items? key = none := by
  rw [Members.items?, h.lookup hk]
  rfl

namespace Json

variable {members : Members} {value : Json}

/-- A node that says nothing but a type. -/
theorem valid_of_type (h : members.Only ["type"]) {type : String}
    (ht : members.lookup "type" = some (.string type)) :
    Valid (.object members) value ↔ value.HasType type := by
  simp (disch := decide) [valid_object, Members.admit_iff, Members.properties,
    Members.requiredNames, h.lookup, h.items?, ht, Names]

/-- A node that lists values, of any type or of one. -/
theorem valid_of_enum (h : members.Only ["type", "enum"]) {items : List Json}
    (he : members.lookup "enum" = some (.array items)) :
    Valid (.object members) value ↔
      (∀ type, members.lookup "type" = some type → type.Names value) ∧
        ∃ item ∈ items, item.SameScalar value := by
  have hitems : members.items? "enum" = some items := by
    rw [Members.items?, he]
    rfl
  simp (disch := decide) [valid_object, Members.admit_iff, Members.properties,
    Members.requiredNames, h.lookup, h.items?, hitems]

/-- A node that names a single value, of any type or of one. -/
theorem valid_of_const (h : members.Only ["type", "const"]) {given : Json}
    (hc : members.lookup "const" = some given) :
    Valid (.object members) value ↔
      (∀ type, members.lookup "type" = some type → type.Names value) ∧ given.SameScalar value := by
  simp (disch := decide) [valid_object, Members.admit_iff, Members.properties,
    Members.requiredNames, h.lookup, h.items?, hc]

/-- A node of a type between two bounds. -/
theorem valid_of_range (h : members.Only ["type", "minimum", "maximum"]) {type : String}
    {low high : Json} (ht : members.lookup "type" = some (.string type))
    (hl : members.lookup "minimum" = some low) (hh : members.lookup "maximum" = some high) :
    Valid (.object members) value ↔
      value.HasType type ∧ low.InOrder value ∧ value.InOrder high := by
  simp (disch := decide) [valid_object, Members.admit_iff, Members.properties,
    Members.requiredNames, h.lookup, h.items?, ht, hl, hh, Names]

/-- A node that describes objects. -/
theorem valid_of_properties (h : members.Only ["type", "properties", "required"])
    (ht : members.lookup "type" = some (.string "object")) :
    Valid (.object members) value ↔
      ∃ parts : Members, value = .object parts ∧
        (∀ property ∈ members.properties, ∀ part, parts.lookup property.1 = some part →
          Valid property.2 part) ∧
        ∀ name ∈ members.requiredNames, parts.hasKey name := by
  simp (disch := decide) only [valid_object, Members.admit_iff, h.lookup, h.items?, ht]
  constructor
  · rintro ⟨⟨htype, -, -, -, -, hrequired, -⟩, hproperties, -⟩
    obtain ⟨parts, rfl⟩ := hasType_object.mp (htype _ rfl)
    exact ⟨parts, rfl, fun property hp part => hproperties property hp parts part rfl,
      hrequired parts rfl⟩
  · rintro ⟨parts, rfl, hproperties, hrequired⟩
    refine ⟨⟨?_, by simp, by simp, by simp, by simp, ?_, by simp, by simp⟩, ?_, by simp, by simp⟩
    · rintro _ ⟨⟩
      exact hasType_object.mpr ⟨parts, rfl⟩
    · rintro _ ⟨⟩
      exact hrequired
    · rintro property hp _ part ⟨⟩
      exact hproperties property hp part

/-- A node that describes arrays. -/
theorem valid_of_items (h : members.Only ["type", "items", "minItems", "maxItems"])
    (ht : members.lookup "type" = some (.string "array")) :
    Valid (.object members) value ↔
      ∃ parts, value = .array parts ∧
        (∀ items, members.lookup "items" = some items → ∀ part ∈ parts, Valid items part) ∧
        (∀ n, members.lookup "minItems" = some (.int n) → n ≤ parts.length) ∧
        ∀ n, members.lookup "maxItems" = some (.int n) → parts.length ≤ n := by
  simp (disch := decide) only [valid_object, Members.admit_iff, Members.properties,
    Members.requiredNames, h.lookup, h.items?, ht]
  constructor
  · rintro ⟨⟨htype, -, -, -, -, -, hleast, hgreatest⟩, -, hitems, -⟩
    obtain ⟨parts, rfl⟩ := hasType_array.mp (htype _ rfl)
    exact ⟨parts, rfl, fun items hi => hitems items hi parts rfl, hleast parts rfl,
      hgreatest parts rfl⟩
  · rintro ⟨parts, rfl, hitems, hleast, hgreatest⟩
    refine ⟨⟨?_, by simp, by simp, by simp, by simp, by simp, ?_, ?_⟩, by simp, ?_, by simp⟩
    · rintro _ ⟨⟩
      exact hasType_array.mpr ⟨parts, rfl⟩
    · rintro _ ⟨⟩
      exact hleast
    · rintro _ ⟨⟩
      exact hgreatest
    · rintro items hi _ ⟨⟩
      exact hitems items hi

/-- A node that lists nodes. -/
theorem valid_of_anyOf (h : members.Only ["anyOf"]) {branches : List Json}
    (hb : members.lookup "anyOf" = some (.array branches)) :
    Valid (.object members) value ↔ ∃ branch ∈ branches, Valid branch value := by
  have hitems : members.items? "anyOf" = some branches := by
    rw [Members.items?, hb]
    rfl
  simp (disch := decide) [valid_object, Members.admit_iff, Members.properties,
    Members.requiredNames, h.lookup, h.items?, hitems]

end Json

end ToolSchema
