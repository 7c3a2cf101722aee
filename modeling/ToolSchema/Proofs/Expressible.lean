import ToolSchema.Proofs.Building
import ToolSchema.Proofs.Enumerating

/-!
# Documents that a schema can express

A generation schema says less than a document can. `Json.Expressible` is the part of documents that
it can say: types, lists of scalars, single values, objects, arrays and unions, without references.
Their schemas admit exactly the values that the documents do.
-/

namespace ToolSchema

namespace Json

/-- A value that can stand in a list of constants. -/
def IsListed : Json → Prop
  | .bool _ | .int _ | .float _ | .string _ => True
  | _ => False

/-- A value that can stand alone as a constant. -/
def IsSingle : Json → Prop
  | .int _ | .string _ => True
  | _ => False

end Json

/-- The node names no type, or one that all these constants have; that of booleans is left out. -/
def Members.TypeFits (members : Members) (constants : List Json) : Prop :=
  members.lookup "type" = none ∨ ∃ kind : Primitive, kind ≠ .boolean ∧
    members.lookup "type" = some (.string kind.name) ∧ ∀ item ∈ constants, item.HasType kind.name

namespace Json

/-- A document that a schema can express. -/
inductive Expressible : Json → Prop where
  | type {members : Members} {kind : Primitive} (only : members.Only ["type"])
      (type : members.lookup "type" = some (.string kind.name)) : Expressible (.object members)
  | enum {members : Members} {items : List Json} (only : members.Only ["type", "enum"])
      (enum : members.lookup "enum" = some (.array items)) (listed : ∀ item ∈ items, item.IsListed)
      (type : members.TypeFits items) : Expressible (.object members)
  | const {members : Members} {given : Json} (only : members.Only ["type", "const"])
      (const : members.lookup "const" = some given) (single : given.IsSingle)
      (type : members.TypeFits [given]) : Expressible (.object members)
  /-- The properties, if there are any, are no unions, and what is required is among them. -/
  | object {members : Members} (only : members.Only ["type", "properties", "required"])
      (type : members.lookup "type" = some (.string "object"))
      (properties : ∀ given, members.lookup "properties" = some given → given.members?.isSome)
      (required : ∀ given, members.lookup "required" = some given →
        ∃ names : List String, given = .array (names.map .string) ∧
          ∀ name ∈ names, name ∈ members.properties.keys)
      (parts : ∀ property ∈ members.properties, Expressible property.2)
      (single : ∀ property ∈ members.properties, property.2.members.hasKey "anyOf" = false) :
      Expressible (.object members)
  | array {members : Members} {element : Json}
      (only : members.Only ["type", "items", "minItems", "maxItems"])
      (type : members.lookup "type" = some (.string "array"))
      (items : members.lookup "items" = some element) (part : Expressible element)
      (least : ∀ given, members.lookup "minItems" = some given → ∃ n, 0 ≤ n ∧ given = .int n)
      (greatest : ∀ given, members.lookup "maxItems" = some given → ∃ n, 0 ≤ n ∧ given = .int n)
      (ordered : ∀ m n, members.lookup "minItems" = some (.int m) →
        members.lookup "maxItems" = some (.int n) → m ≤ n) : Expressible (.object members)
  | union {members : Members} {branches : List Json} (only : members.Only ["anyOf"])
      (anyOf : members.lookup "anyOf" = some (.array branches))
      (parts : ∀ branch ∈ branches, Expressible branch) : Expressible (.object members)

end Json

namespace Convert

open Json

/-! ## Constants -/

theorem SameScalar.typeNames_eq {value other : Json} (h : value.SameScalar other) :
    value.typeNames = other.typeNames := by
  cases h <;> rfl

/-- A leaf with one value admits what is the same. -/
theorem admits_fixed {kind : Primitive} {only : Json} (h : only.HasType kind.name) (value : Json) :
    Schema.Admits (.leaf kind (some (.fixed only)) : Schema Label) value ↔
      only.SameScalar value := by
  rw [Schema.Admits]
  constructor
  · rintro ⟨_, hc⟩
    exact hc _ rfl
  · intro hs
    refine ⟨?_, fun c hc => ?_⟩
    · rw [HasType, ← SameScalar.typeNames_eq hs]
      exact h
    · cases hc
      exact hs

/-- A range of one integer admits this integer. -/
theorem admits_point (n : Int) (value : Json) :
    Schema.Admits (.leaf .integer (some (.range (.int n) (.int n))) : Schema Label) value ↔
      (Json.int n).SameScalar value := by
  rw [Schema.Admits]
  constructor
  · -- An integer is between `n` and `n` only if it is `n`; nothing else has the type.
    rintro ⟨htype, hc⟩
    obtain ⟨hlow, hhigh⟩ := hc _ rfl
    cases value with
    | int m =>
      have hle := hlow _ _ rfl rfl
      have hge := hhigh _ _ rfl rfl
      rw [isBefore_ofInt, decide_eq_false_iff_not, Int.not_lt] at hle hge
      rw [Int.le_antisymm hge hle]
      exact .int n
    | _ => simp [HasType, typeNames, Primitive.name] at htype
  · rintro ⟨⟩
    have horder : (Json.int n).InOrder (.int n) := by
      rintro p q ⟨⟩ ⟨⟩
      rw [isBefore_ofInt, decide_eq_false_iff_not]
      exact Int.lt_irrefl n
    refine ⟨by simp [HasType, typeNames, Primitive.name], fun c hc => ?_⟩
    cases hc
    exact ⟨horder, horder⟩

/-- The leaf of a listed scalar admits what is the same. -/
theorem admits_scalarConstant? {item : Json} {schema : Schema Label}
    (h : scalarConstant? item = some schema) (value : Json) :
    schema.Admits value ↔ item.SameScalar value := by
  cases item <;> simp only [scalarConstant?, Option.some.injEq, reduceCtorEq] at h <;> subst h
  all_goals exact admits_fixed (by simp [HasType, typeNames, Primitive.name]) value

theorem admits_stringConstant (text : String) (value : Json) :
    (Schema.stringConstant text : Schema Label).Admits value ↔
      (Json.string text).SameScalar value :=
  admits_fixed (by simp [HasType, typeNames, Primitive.name]) value

/-- The branches of an enumeration and the listed scalars admit the same values. -/
theorem exists_enumeration_branch {items : List Json} (h : ∀ item ∈ items, item.IsListed)
    (value : Json) :
    (∃ branch ∈ (items.filterMap Json.string?).map Schema.stringConstant ++
        items.filterMap scalarConstant?, branch.Admits value) ↔
      ∃ item ∈ items, item.SameScalar value := by
  -- Texts come first in the union, but no value depends on the order of its branches.
  constructor
  · rintro ⟨branch, hb, hadmits⟩
    rcases List.mem_append.mp hb with hb | hb
    · obtain ⟨text, ht, rfl⟩ := List.mem_map.mp hb
      obtain ⟨item, hi, hs⟩ := List.mem_filterMap.mp ht
      cases item <;> simp only [Json.string?, Option.some.injEq, reduceCtorEq] at hs
      subst hs
      exact ⟨_, hi, (admits_stringConstant _ value).mp hadmits⟩
    · obtain ⟨item, hi, hs⟩ := List.mem_filterMap.mp hb
      exact ⟨item, hi, (admits_scalarConstant? hs value).mp hadmits⟩
  · rintro ⟨item, hi, hsame⟩
    have hlisted := h item hi
    cases item with
    | string text =>
      have ht : text ∈ items.filterMap Json.string? := List.mem_filterMap.mpr ⟨_, hi, rfl⟩
      exact ⟨_, List.mem_append_left _ (List.mem_map_of_mem ht),
        (admits_stringConstant text value).mpr hsame⟩
    | bool _ | int _ | float _ =>
      exact ⟨_, List.mem_append_right _ (List.mem_filterMap.mpr ⟨_, hi, rfl⟩),
        (admits_scalarConstant? rfl value).mpr hsame⟩
    | _ => exact hlisted.elim

/-- The union of constants admits what is the same as one of them, and never null. -/
theorem exists_enumeration {items : List Json} (h : ∀ item ∈ items, item.IsListed) (name : Label)
    (description : Json) :
    ∃ schema : Schema Label,
      enumeration (.array items) name description = ⟨⟨schema, false⟩, []⟩ ∧
        ∀ value, schema.Admits value ↔ ∃ item ∈ items, item.SameScalar value := by
  have hnull : items.contains .null = false := by
    rw [List.contains_eq_mem, decide_eq_false_iff_not]
    exact fun hm => h .null hm
  have htrace : items.filterMap unsupportedMark? = [] := by
    refine List.filterMap_eq_nil_iff.mpr (fun item hi => ?_)
    have hlisted := h item hi
    cases item with
    | bool _ | int _ | float _ | string _ => rfl
    | _ => exact hlisted.elim
  refine ⟨(enumeration (.array items) name description).value.schema, ?_, fun value => ?_⟩
  · simp only [enumeration_eq, items_array, hnull, htrace]
  · rw [enumeration_eq, Schema.Admits, Schema.someAdmits_iff]
    exact exists_enumeration_branch h value

theorem exists_constant {given : Json} (h : given.IsSingle) :
    ∃ schema : Schema Label, constant given = ⟨some schema, []⟩ ∧
      ∀ value, schema.Admits value ↔ given.SameScalar value := by
  cases given with
  | int n => exact ⟨_, rfl, admits_point n⟩
  | string text => exact ⟨_, rfl, admits_fixed (by simp [HasType, typeNames, Primitive.name])⟩
  | _ => exact h.elim

/-- A value that is one of the constants has the type of the node. -/
theorem names_of_typeFits {members : Members} {constants : List Json}
    (h : members.TypeFits constants) {item value type : Json} (hi : item ∈ constants)
    (hs : item.SameScalar value) (ht : members.lookup "type" = some type) : type.Names value := by
  rcases h with h | ⟨kind, _, hkind, htypes⟩
  · rw [h] at ht
    cases ht
  · rw [hkind] at ht
    cases ht
    have hitem := htypes item hi
    rwa [HasType, SameScalar.typeNames_eq hs] at hitem

/-! ## Nodes that are no references -/

variable {root : Json} {inFlight : List String}

theorem reference?_of_only {members : Members} {keys : List String} (h : members.Only keys)
    (hk : referenceKey ∉ "title" :: "description" :: keys) : members.reference? = none := by
  rw [Members.reference?, h.lookup hk]
  rfl

theorem typeList?_of_typeFits {members : Members} {constants : List Json}
    (h : members.TypeFits constants) : members.typeList? = none := by
  rw [Members.typeList?, Members.items?]
  rcases h with h | ⟨kind, _, h, _⟩
  · rw [h]
    rfl
  · rw [h]
    rfl

theorem typeList?_of_string {members : Members} {type : String}
    (h : members.lookup "type" = some (.string type)) : members.typeList? = none := by
  rw [Members.typeList?, Members.items?, h]
  rfl

theorem declaredType_of_string {members : Members} {type : String}
    (h : members.lookup "type" = some (.string type)) :
    members.declaredType = TypeName.classify type := by
  rw [Members.declaredType, Members.string?, h]
  rfl

/-- A node without a reference and a type list is built by its type. -/
theorem buildSchema_eq_declared {members : Members} (hr : members.reference? = none)
    (ht : members.typeList? = none) (name : Label) (description : Json) :
    buildSchema root inFlight (.object members) name description =
      buildDeclared root inFlight members (titled members name)
        (described members description) := by
  rw [buildSchema_of_not_reference (show (Json.object members).reference? = none from hr)]
  show buildNode root inFlight members (titled members name) (described members description) = _
  rw [buildNode_eq, ht]

theorem buildSlot_eq_typed {members : Members} (hr : members.reference? = none)
    (ht : members.typeList? = none) (hu : members.hasKey "anyOf" = false) (name : Json)
    (required : Bool) (description : Json) :
    buildSlot root inFlight (.object members) name required description =
      buildTypedSlot root inFlight members name required (described members description) := by
  have hunion : members.isUntypedUnion = false := by
    rw [← Bool.not_eq_true]
    intro h
    rw [hasKey_of_isUntypedUnion h] at hu
    cases hu
  rw [buildSlot_of_not_reference hr, buildReducedSlot_eq, ht, hunion]
  rfl

/-! ## Faithful schemas -/

/-- The schema that was built admits what the node admits. -/
structure Faithful (node : Json) (built : Traced (Schema Label)) : Prop where
  supported : built.unsupported = []
  admits : ∀ value, built.value.Admits value ↔ Valid node value

/-- The slot that was built is required as asked for, and admits what the node admits. -/
structure FaithfulSlot (node : Json) (required : Bool)
    (built : Traced (Option (Slot (Schema Label)))) : Prop where
  supported : built.unsupported = []
  admits : ∃ slot, built.value = some slot ∧ slot.isOptional = !required ∧
    ∀ value, slot.schema.Admits value ↔ Valid node value

theorem Faithful.slotOf {node : Json} {built : Traced (Schema Label)} (h : Faithful node built)
    (description : Json) (required : Bool) :
    FaithfulSlot node required (built.map (slotOf description · required)) :=
  ⟨h.supported, _, rfl, rfl, h.admits⟩

/-- The node is built as a schema and, unless it is a union, as a slot that admit what it admits. -/
structure Conveyed (node : Json) : Prop where
  schema : ∀ root inFlight name description,
    Faithful node (buildSchema root inFlight node name description)
  slot : node.members.hasKey "anyOf" = false → ∀ root inFlight name required description,
    FaithfulSlot node required (buildSlot root inFlight node name required description)

/-- A node without a reference and a type list is conveyed as its type says. -/
theorem conveyed_of_declared {members : Members} (hr : members.reference? = none)
    (ht : members.typeList? = none)
    (schema : ∀ root inFlight name description,
      Faithful (.object members) (buildDeclared root inFlight members name description))
    (slot : members.hasKey "anyOf" = false →
      (∀ root inFlight name description,
        Faithful (.object members) (buildSchema root inFlight (.object members) name description)) →
      ∀ root inFlight name required description, FaithfulSlot (.object members) required
        (buildTypedSlot root inFlight members name required description)) :
    Conveyed (.object members) := by
  have hschema : ∀ root inFlight name description,
      Faithful (.object members)
        (buildSchema root inFlight (.object members) name description) := by
    intro root inFlight name description
    rw [buildSchema_eq_declared hr ht]
    exact schema root inFlight _ _
  refine ⟨hschema, fun hu root inFlight name required description => ?_⟩
  rw [buildSlot_eq_typed hr ht hu]
  exact slot hu hschema root inFlight name required _

/-! ## Leaves -/

section Typed

variable {members : Members} {kind : Primitive} (only : members.Only ["type"])
  (type : members.lookup "type" = some (.string kind.name))
include only

theorem narrowing_of_type (name : Label) (description : Json) :
    narrowing members name description = ⟨none, []⟩ := by
  rw [narrowing, only.lookup (by decide), only.lookup (by decide)]

include type

theorem buildDeclared_of_type (root : Json) (inFlight : List String) (name : Label)
    (description : Json) :
    buildDeclared root inFlight members name description = ⟨.leaf kind none, []⟩ := by
  rw [buildDeclared, declaredType_of_string type]
  -- A boolean has no constraint to look for.
  cases kind with
  | boolean => rfl
  | _ =>
    simp only [Primitive.name, TypeName.classify, buildLeaf, narrowing_of_type only]
    rfl

theorem buildTypedSlot_of_type (root : Json) (inFlight : List String) (name : Json)
    (required : Bool) (description : Json) :
    buildTypedSlot root inFlight members name required description =
      ⟨slotOf description (.leaf kind none) required, []⟩ := by
  rw [buildTypedSlot, declaredType_of_string type]
  cases kind with
  | boolean => rfl
  | _ =>
    simp only [Primitive.name, TypeName.classify, buildLeafSlot, narrowing_of_type only]
    rfl

theorem conveyed_type : Conveyed (.object members) := by
  have hadmits : ∀ value, Schema.Admits (.leaf kind none : Schema Label) value ↔
      Valid (.object members) value := by
    intro value
    rw [valid_of_type only type, Schema.Admits]
    simp
  refine conveyed_of_declared (reference?_of_only only (by decide)) (typeList?_of_string type)
    (fun root inFlight name description => ?_)
    (fun _ _ root inFlight name required description => ?_)
  · rw [buildDeclared_of_type only type]
    exact ⟨rfl, hadmits⟩
  · rw [buildTypedSlot_of_type only type]
    exact ⟨rfl, _, rfl, rfl, hadmits⟩

end Typed

/-! ## Narrowed leaves -/

theorem narrowing_of_enum {members : Members} {values : Json}
    (h : members.lookup "enum" = some values) (name : Label) (description : Json) :
    narrowing members name description = (enumeration values name description).map some := by
  rw [narrowing, h]

theorem narrowing_of_const {members : Members} {value : Json} (he : members.lookup "enum" = none)
    (h : members.lookup "const" = some value) (name : Label) (description : Json) :
    narrowing members name description = (constant value).map (·.map (⟨·, false⟩)) := by
  rw [narrowing, he, h]

section Narrowed

variable {members : Members} {constants : List Json} (fits : members.TypeFits constants)
  (anyOf : members.items? "anyOf" = none)
include fits anyOf

/-- The type of a node that fits its constants: none, or that of a leaf that can be narrowed. -/
theorem declaredType_of_typeFits : members.declaredType = none ∨
    members.declaredType = some .integer ∨ members.declaredType = some .number ∨
      members.declaredType = some .string := by
  rcases fits with h | ⟨kind, hkind, h, _⟩
  · refine .inl ?_
    rw [Members.declaredType, Members.string?, h, anyOf]
    simp
  · rw [declaredType_of_string h]
    cases kind with
    | boolean => exact absurd rfl hkind
    | integer => exact .inr (.inl rfl)
    | number => exact .inr (.inr (.inl rfl))
    | string => exact .inr (.inr (.inr rfl))

theorem faithful_narrowed {name : Label} {description : Json} {schema : Schema Label}
    (hn : narrowing members name description = ⟨some ⟨schema, false⟩, []⟩)
    (hadmits : ∀ value, schema.Admits value ↔ Valid (.object members) value) :
    Faithful (.object members) (buildDeclared root inFlight members name description) := by
  rw [buildDeclared]
  rcases declaredType_of_typeFits fits anyOf with h | h | h | h
  · rw [h, hn]
    exact ⟨rfl, hadmits⟩
  all_goals
    rw [h]
    simp only [buildLeaf, hn]
    exact ⟨rfl, hadmits⟩

/-- A typed slot of a narrowed leaf; `slot` says what a node without a type is built as. -/
theorem faithfulSlot_narrowed {name : Json} {required : Bool} {description : Json}
    {schema : Schema Label}
    (hn : narrowing members (.given name) description = ⟨some ⟨schema, false⟩, []⟩)
    (hadmits : ∀ value, schema.Admits value ↔ Valid (.object members) value)
    (untyped : members.declaredType = none →
      buildTypedSlot root inFlight members name required description =
        ⟨slotOf description schema required, []⟩) :
    FaithfulSlot (.object members) required
      (buildTypedSlot root inFlight members name required description) := by
  rcases declaredType_of_typeFits fits anyOf with h | h | h | h
  · rw [untyped h]
    exact ⟨rfl, _, rfl, rfl, hadmits⟩
  all_goals
    rw [buildTypedSlot, h]
    simp only [buildLeafSlot, hn]
    refine ⟨rfl, _, rfl, ?_, hadmits⟩
    simp [Narrowing.apply]

end Narrowed

theorem conveyed_enum {members : Members} {items : List Json}
    (only : members.Only ["type", "enum"])
    (enum : members.lookup "enum" = some (.array items)) (listed : ∀ item ∈ items, item.IsListed)
    (type : members.TypeFits items) : Conveyed (.object members) := by
  have hvalid : ∀ value, Valid (.object members) value ↔ ∃ item ∈ items, item.SameScalar value := by
    intro value
    rw [valid_of_enum only enum]
    refine and_iff_right_of_imp ?_
    rintro ⟨item, hi, hs⟩ given ht
    exact names_of_typeFits type hi hs ht
  have anyOf : members.items? "anyOf" = none := only.items? (by decide)
  refine conveyed_of_declared (reference?_of_only only (by decide)) (typeList?_of_typeFits type)
    (fun root inFlight name description => ?_)
    (fun _ _ root inFlight name required description => ?_)
  · obtain ⟨schema, hs, hadmits⟩ := exists_enumeration listed name description
    have hn : narrowing members name description = ⟨some ⟨schema, false⟩, []⟩ := by
      rw [narrowing_of_enum enum, hs]
      rfl
    exact faithful_narrowed type anyOf hn (fun value => (hadmits value).trans (hvalid value).symm)
  · obtain ⟨schema, hs, hadmits⟩ := exists_enumeration listed (.given name) description
    have hn : narrowing members (.given name) description = ⟨some ⟨schema, false⟩, []⟩ := by
      rw [narrowing_of_enum enum, hs]
      rfl
    refine faithfulSlot_narrowed type anyOf hn
      (fun value => (hadmits value).trans (hvalid value).symm) (fun hd => ?_)
    rw [buildTypedSlot, hd, enum]
    simp only [hs, Traced.map, Bool.not_false, Bool.and_true]

theorem conveyed_const {members : Members} {given : Json} (only : members.Only ["type", "const"])
    (const : members.lookup "const" = some given) (single : given.IsSingle)
    (type : members.TypeFits [given]) : Conveyed (.object members) := by
  obtain ⟨schema, hs, hadmits⟩ := exists_constant single
  have hvalid : ∀ value, schema.Admits value ↔ Valid (.object members) value := by
    intro value
    rw [hadmits, valid_of_const only const]
    refine (and_iff_right_of_imp ?_).symm
    intro hsame other ht
    exact names_of_typeFits type (List.mem_singleton_self given) hsame ht
  have anyOf : members.items? "anyOf" = none := only.items? (by decide)
  have enum : members.lookup "enum" = none := only.lookup (by decide)
  have hn : ∀ name description,
      narrowing members name description = ⟨some ⟨schema, false⟩, []⟩ := by
    intro name description
    rw [narrowing_of_const enum const, hs]
    rfl
  refine conveyed_of_declared (reference?_of_only only (by decide)) (typeList?_of_typeFits type)
    (fun root inFlight name description => faithful_narrowed type anyOf (hn _ _) hvalid)
    (fun _ _ root inFlight name required description =>
      faithfulSlot_narrowed type anyOf (hn _ _) hvalid (fun hd => ?_))
  rw [buildTypedSlot, hd, enum, const]
  simp only [hs, Traced.map, Option.bind_some]

end Convert

end ToolSchema
