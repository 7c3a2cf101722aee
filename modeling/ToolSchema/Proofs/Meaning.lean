import ToolSchema.Proofs.Drawing
import ToolSchema.Proofs.Expressible

/-!
# Conversion preserves meaning

The schema of an expressible document admits what the document admits, and so does the document that
the schema is rendered as: a conversion and a rendering one after the other change no meaning.

The induction goes along the document. It says of each node that its schema and its slot admit what
the node admits (`Conveyed`); a union is no slot here, since a field takes one of its branches.
-/

namespace ToolSchema

namespace Convert

open Json

variable {root : Json} {inFlight : List String}

/-! ## Objects -/

section Object

variable {members : Members} (only : members.Only ["type", "properties", "required"])
  (type : members.lookup "type" = some (.string "object"))
  (required : ∀ given, members.lookup "required" = some given →
    ∃ names : List String, given = .array (names.map .string) ∧
      ∀ name ∈ names, name ∈ members.properties.keys)
  (parts : ∀ property ∈ members.properties, Conveyed property.2)
  (single : ∀ property ∈ members.properties, property.2.members.hasKey "anyOf" = false)

include required in
/-- What is required is among the properties. -/
theorem mem_keys_of_required {name : String} (h : name ∈ members.requiredNames) :
    ∃ property ∈ members.properties, property.1 = name := by
  rw [Members.requiredNames, Members.items?] at h
  cases hv : members.lookup "required" with
  | none =>
    rw [hv] at h
    cases h
  | some given =>
    obtain ⟨names, rfl, hnames⟩ := required given hv
    rw [hv] at h
    have hn : name ∈ names := by simpa [Json.items?, Json.string?] using h
    exact List.mem_map.mp (hnames name hn)

include parts single in
/-- Each property gives a field, required as the node says. -/
theorem exists_field {property : String × Json} (hp : property ∈ members.properties) :
    (buildField root inFlight members.requiredNames property).unsupported = [] ∧
      ∃ field, (buildField root inFlight members.requiredNames property).value = some field ∧
        field.name = property.1 ∧
        field.isOptional = !members.requiredNames.contains property.1 ∧
        ∀ value, field.schema.Admits value ↔ Valid property.2 value := by
  have hslot := (parts property hp).slot (single property hp) root inFlight (.string property.1)
    (members.requiredNames.contains property.1) .null
  obtain ⟨slot, hs, hoptional, hadmits⟩ := hslot.admits
  refine ⟨hslot.supported, slot.named property.1, ?_, rfl, hoptional, hadmits⟩
  rw [buildField, Traced.value_map, hs]
  rfl

include only type required parts single in
theorem faithful_object (name : Label) (description : Json) :
    Faithful (.object members) (buildObject root inFlight members name description) := by
  constructor
  · rw [buildObject_eq]
    exact Traced.unsupported_sequence_map_eq_nil
      (fun property hp => (exists_field parts single hp).1)
  · intro value
    rw [value_buildObject, Schema.Admits, valid_of_properties only type]
    refine exists_congr (fun found => and_congr_right (fun _ => ?_))
    rw [Schema.fieldsAdmit_iff]
    constructor
    · intro hfields
      refine ⟨fun property hp part hv => ?_, fun name hn => ?_⟩
      · obtain ⟨_, field, hf, hname, -, hadmits⟩ := exists_field parts single hp
        have hfield := hfields field (List.mem_filterMap.mpr ⟨property, hp, hf⟩)
        exact (hadmits part).mp (hfield.1 part (hname ▸ hv))
      · -- A required name is that of a property, so its field is there and not optional.
        obtain ⟨property, hp, rfl⟩ := mem_keys_of_required required hn
        obtain ⟨_, field, hf, hname, hoptional, -⟩ := exists_field parts single hp
        have hfield := hfields field (List.mem_filterMap.mpr ⟨property, hp, hf⟩)
        rw [← hname]
        refine hfield.2 ?_
        rw [hoptional, List.contains_eq_mem, decide_eq_true hn]
        rfl
    · rintro ⟨hvalid, hrequired⟩ field hfield
      obtain ⟨property, hp, hf⟩ := List.mem_filterMap.mp hfield
      obtain ⟨_, other, ho, hname, hoptional, hadmits⟩ := exists_field parts single hp
      rw [ho] at hf
      cases hf
      rw [hname]
      refine ⟨fun part hv => (hadmits part).mpr (hvalid property hp part hv), fun hneeded => ?_⟩
      refine hrequired _ ?_
      rw [hoptional, Bool.not_eq_false', List.contains_eq_mem, decide_eq_true_eq] at hneeded
      exact hneeded

include only type required parts single in
theorem conveyed_object : Conveyed (.object members) := by
  refine conveyed_of_declared (reference?_of_only only (by decide)) (typeList?_of_string type)
    (fun root inFlight name description => ?_)
    (fun _ hschema root inFlight name required description => ?_)
  · rw [buildDeclared, declaredType_of_string type]
    exact faithful_object only type required parts single name description
  · rw [buildTypedSlot, declaredType_of_string type]
    exact (hschema root inFlight .generated .null).slotOf description required

end Object

/-! ## Arrays -/

section Array

variable {members element : Members}
  (only : members.Only ["type", "items", "minItems", "maxItems"])
  (type : members.lookup "type" = some (.string "array"))
  (items : members.lookup "items" = some (.object element))
  (part : Conveyed (.object element))
  (least : ∀ given, members.lookup "minItems" = some given → ∃ n, 0 ≤ n ∧ given = .int n)
  (greatest : ∀ given, members.lookup "maxItems" = some given → ∃ n, 0 ≤ n ∧ given = .int n)
  (ordered : ∀ m n, members.lookup "minItems" = some (.int m) →
    members.lookup "maxItems" = some (.int n) → m ≤ n)

/-- A count that is not negative is read as it is written. -/
theorem count?_eq_some {key : String}
    (h : ∀ given, members.lookup key = some given → ∃ n, 0 ≤ n ∧ given = .int n) (n : Int) :
    members.count? key = some n ↔ members.lookup key = some (.int n) := by
  rw [Members.count?]
  cases hv : members.lookup key with
  | none => simp
  | some given =>
    obtain ⟨m, hm, rfl⟩ := h given hv
    simp [Json.int?, Option.filter, hm]

include ordered least greatest in
/-- The bounds are those of the node, and there is nothing to report. -/
theorem arrayBounds_eq : arrayBounds members =
    ⟨(members.count? "minItems", members.count? "maxItems"), []⟩ := by
  rw [arrayBounds]
  split
  · next m n hm hn =>
    have hle := ordered m n ((count?_eq_some least m).mp hm) ((count?_eq_some greatest n).mp hn)
    rw [if_neg (Int.not_lt.mpr hle), hm, hn]
  · rfl

include only type items part least greatest ordered in
theorem faithful_array : Faithful (.object members) (buildArray root inFlight members) := by
  have helement := part.schema root inFlight .generated .null
  rw [buildArray_eq, arrayBounds_eq least greatest ordered, buildItems, items]
  refine ⟨?_, fun value => ?_⟩
  · exact Traced.unsupported_append_eq_nil.mpr ⟨helement.supported, rfl⟩
  · rw [Schema.Admits, valid_of_items only type, items]
    refine exists_congr (fun parts => and_congr_right (fun _ => and_congr ?_ (and_congr ?_ ?_)))
    · simp only [helement.admits, Option.some.injEq, forall_eq']
    · simp only [count?_eq_some least]
    · simp only [count?_eq_some greatest]

include only type items part least greatest ordered in
theorem conveyed_array : Conveyed (.object members) := by
  have harray : ∀ root inFlight,
      Faithful (.object members) (buildArray root inFlight members) := fun root inFlight =>
    faithful_array only type items part least greatest ordered
  refine conveyed_of_declared (reference?_of_only only (by decide)) (typeList?_of_string type)
    (fun root inFlight name description => ?_)
    (fun _ _ root inFlight name required description => ?_)
  · rw [buildDeclared, declaredType_of_string type]
    exact harray root inFlight
  · rw [buildTypedSlot, declaredType_of_string type]
    exact (harray root inFlight).slotOf description required

end Array

/-! ## Unions -/

section Union

variable {members : Members} {branches : List Json} (only : members.Only ["anyOf"])
  (anyOf : members.lookup "anyOf" = some (.array branches))
  (parts : ∀ branch ∈ branches, (∃ found, branch = .object found ∧
    Members.reference? found = none) ∧ Conveyed branch)

include anyOf in
theorem branches_eq : members.branches = branches := by
  rw [Members.branches, Members.items?, anyOf]
  rfl

include parts in
/-- Each branch gives a schema. -/
theorem exists_branch (root : Json) (inFlight : List String) {branch : Json}
    (hb : branch ∈ branches) :
    (buildBranch root inFlight branch).unsupported = [] ∧
      ∃ schema, (buildBranch root inFlight branch).value = some schema ∧
        ∀ value, schema.Admits value ↔ Valid branch value := by
  obtain ⟨⟨found, rfl, hr⟩, hconveyed⟩ := parts branch hb
  have hschema := hconveyed.schema root inFlight .generated .null
  rw [buildBranch,
    dereference_of_not_reference (show (Json.object found).reference? = none from hr)]
  exact ⟨hschema.supported, _, rfl, hschema.admits⟩

include only anyOf parts in
theorem conveyed_union : Conveyed (.object members) := by
  have htype : members.lookup "type" = none := only.lookup (by decide)
  have htypes : members.typeList? = none := by
    rw [Members.typeList?, Members.items?, htype]
    rfl
  have hkey : members.hasKey "type" = false := only.hasKey (by decide)
  have hdeclared : members.declaredType = some .anyOf := by
    rw [Members.declaredType, Members.string?, htype, hkey, Members.items?, anyOf]
    rfl
  refine conveyed_of_declared (reference?_of_only only (by decide)) htypes
    (fun root inFlight name description => ?_) (fun hu => ?_)
  · rw [buildDeclared, hdeclared]
    refine ⟨?_, fun value => ?_⟩
    · show (buildUnion root inFlight members name description).unsupported = []
      rw [buildUnion_eq, branches_eq anyOf]
      exact Traced.unsupported_sequence_map_eq_nil
        (fun branch hb => (exists_branch parts root inFlight hb).1)
    · show Schema.Admits (buildUnion root inFlight members name description).value value ↔ _
      rw [value_buildUnion, branches_eq anyOf, Schema.Admits, Schema.someAdmits_iff,
        valid_of_anyOf only anyOf]
      constructor
      · rintro ⟨schema, hs, hadmits⟩
        obtain ⟨branch, hb, hv⟩ := List.mem_filterMap.mp hs
        obtain ⟨_, other, ho, hiff⟩ := exists_branch parts root inFlight hb
        rw [ho] at hv
        cases hv
        exact ⟨branch, hb, (hiff value).mp hadmits⟩
      · rintro ⟨branch, hb, hvalid⟩
        obtain ⟨_, schema, hs, hiff⟩ := exists_branch parts root inFlight hb
        exact ⟨schema, List.mem_filterMap.mpr ⟨branch, hb, hs⟩, (hiff value).mpr hvalid⟩
  · rw [hasKey_of_lookup anyOf] at hu
    cases hu

end Union

/-! ## Every document -/

/-- The schema and the slot of an expressible node admit what it admits. -/
theorem conveyed {node : Json} (h : Expressible node) :
    (∃ members, node = .object members ∧ Members.reference? members = none) ∧ Conveyed node := by
  induction h with
  | type only type => exact ⟨⟨_, rfl, reference?_of_only only (by decide)⟩, conveyed_type only type⟩
  | enum only enum listed type =>
    exact ⟨⟨_, rfl, reference?_of_only only (by decide)⟩, conveyed_enum only enum listed type⟩
  | const only const single type =>
    exact ⟨⟨_, rfl, reference?_of_only only (by decide)⟩, conveyed_const only const single type⟩
  | object only type properties required parts single ih =>
    exact ⟨⟨_, rfl, reference?_of_only only (by decide)⟩,
      conveyed_object only type required (fun property hp => (ih property hp).2) single⟩
  | array only type items part least greatest ordered ih =>
    obtain ⟨⟨element, rfl, _⟩, hpart⟩ := ih
    exact ⟨⟨_, rfl, reference?_of_only only (by decide)⟩,
      conveyed_array only type items hpart least greatest ordered⟩
  | union only anyOf parts ih =>
    exact ⟨⟨_, rfl, reference?_of_only only (by decide)⟩, conveyed_union only anyOf ih⟩

/--
**Converting an expressible document and rendering its schema preserves its meaning.** The rendered
document admits the very values that the document does, whichever names are drawn.
-/
theorem conversion_preserves_meaning {node : Json} (h : Expressible node) (name : Option String) :
    ∃ schema notices, document node (.ofName? name) = .ok (schema, notices) ∧
      ∀ supply : Supply, schema.names.count .generated ≤ supply.left →
        ∃ named rest, schema.nameFrom supply = some (named, rest) ∧
          ∀ value, Valid (named.document id) value ↔ Valid node value := by
  have hschema := (conveyed h).2.schema node [] (.ofName? name) .null
  refine ⟨_, _, Traced.conclude_eq_ok hschema.supported, fun supply hleft => ?_⟩
  obtain ⟨named, rest, hn, _⟩ := Schema.exists_nameFrom _ supply hleft
  refine ⟨named, rest, hn, fun value => ?_⟩
  calc Valid (named.document id) value
      ↔ named.Admits value := Schema.valid_document id named value
    _ ↔ _ := Schema.admits_nameFrom _ hn value
    _ ↔ Valid node value := hschema.admits value

/-- A line of an order: a text or a price. -/
def line : Json := .object [("anyOf", .array [
  .object [("type", .string "string")],
  .object [("type", .string "number"), ("title", .string "Price")]])]

/-- The parts of an order: what kind it is, how often, and its lines. -/
def orderParts : Members := [
  ("kind", .object [("enum", .array [.string "eat", .int 1])]),
  ("times", .object [("type", .string "number"), ("const", .int 3)]),
  ("lines", .object [("type", .string "array"), ("items", line), ("minItems", .int 1),
    ("maxItems", .int 4)])]

/-- An order, which needs its kind only. -/
def order : Json := .object [("type", .string "object"), ("properties", .object orderParts),
  ("required", .array [.string "kind"])]

theorem expressible_line : Expressible line := by
  have htext : Expressible (.object [("type", .string "string")]) :=
    @Expressible.type _ .string (by simp [Members.Only]) rfl
  have hprice : Expressible (.object [("type", .string "number"), ("title", .string "Price")]) :=
    @Expressible.type _ .number (by simp [Members.Only]) rfl
  refine .union (by simp [Members.Only]) rfl ?_
  simpa using ⟨htext, hprice⟩

theorem expressible_orderParts : ∀ property ∈ orderParts, Expressible property.2 := by
  have hkind : Expressible (.object [("enum", .array [.string "eat", .int 1])]) := by
    refine .enum (by simp [Members.Only]) rfl ?_ (.inl rfl)
    simp [IsListed]
  have htimes : Expressible (.object [("type", .string "number"), ("const", .int 3)]) := by
    refine .const (by simp [Members.Only]) rfl trivial (.inr ⟨.number, by decide, rfl, ?_⟩)
    simp [HasType, typeNames, Primitive.name]
  have hlines : Expressible (.object [("type", .string "array"), ("items", line),
      ("minItems", .int 1), ("maxItems", .int 4)]) := by
    refine .array (by simp [Members.Only]) rfl rfl expressible_line ?_ ?_ ?_
    · rintro _ ⟨⟩
      exact ⟨1, by decide, rfl⟩
    · rintro _ ⟨⟩
      exact ⟨4, by decide, rfl⟩
    · rintro _ _ ⟨⟩ ⟨⟩
      decide
  simpa [orderParts] using ⟨hkind, htimes, hlines⟩

theorem expressible_order : Expressible order := by
  refine .object (by simp [Members.Only]) rfl ?_ ?_ expressible_orderParts ?_
  · rintro _ ⟨⟩
    rfl
  · rintro _ ⟨⟩
    exact ⟨["kind"], rfl, by decide⟩
  · show ∀ property ∈ orderParts, property.2.members.hasKey "anyOf" = false
    decide

theorem meaning_order : Expressible order ∧
    ∃ schema notices, document order (.ofName? (some "order")) = .ok (schema, notices) ∧
      ∀ supply : Supply, schema.names.count .generated ≤ supply.left →
        ∃ named rest, schema.nameFrom supply = some (named, rest) ∧
          ∀ value, Valid (named.document id) value ↔ Valid order value :=
  ⟨expressible_order, conversion_preserves_meaning expressible_order (some "order")⟩

end Convert

end ToolSchema
