import ToolSchema.Proofs.Expressible
import ToolSchema.Proofs.Sound

/-!
# The schema of a slot

A node is read twice in different ways: as a schema, and as what an object has under the name of a
field. The two differ by intention for type lists, for unions without a type, for null, and for
constants that no schema holds. Any other node (`Members.ReadsAlike`) gives a slot, its schema is
that of the node but for the name of the outermost object or union, and its description is the
node's own.

Where a slot falls back on the schema of a node, the node is followed once more. It is the end of a
chain then and is followed no further (`Convert.AtEnd`), so that the schema stays the same and only
the notice comes again.
-/

namespace ToolSchema

/-! ## Schemas under another name -/

namespace Schema

/-- The schema with another name for its outermost object or union. -/
def withName {ν : Type} (name : ν) : Schema ν → Schema ν
  | .object _ description fields => .object name description fields
  | .union _ description branches => .union name description branches
  | schema => schema

end Schema

namespace Convert

open Json

variable {root : Json} {inFlight : List String}

/-! ## Ends of chains -/

/-- With these pointers in flight the node is followed no further. -/
def AtEnd (root : Json) (inFlight : List String) (members : Members) : Prop :=
  (dereference root inFlight (.object members)).followed = []

/-- A node at the end of a chain is followed no further below the chain. -/
theorem atEnd_dereference {node : Json} {members : Members}
    (hn : (dereference root inFlight node).node = .object members) :
    AtEnd root ((dereference root inFlight node).followed ++ inFlight) members := by
  rw [AtEnd, ← hn, dereference_dereference]

/-- Whether a node is followed depends on its pointer alone. -/
theorem AtEnd.congr {members others : Members} (h : AtEnd root inFlight members)
    (hr : others.reference? = members.reference?) : AtEnd root inFlight others := by
  cases hp : members.reference? with
  | none => rw [AtEnd, dereference_of_reference?_none (hr.trans hp)]
  | some pointer =>
    cases ht : target root inFlight others pointer with
    | error notice => rw [AtEnd, dereference_of_error (hr.trans hp) ht]
    | ok found =>
      -- The other node could be followed with the same pointer, then.
      obtain ⟨hnew, hlocal, below, hl, -⟩ := target_eq_ok.mp ht
      have hfollowed : target root inFlight members pointer = .ok (overlaid below members) :=
        target_eq_ok.mpr ⟨hnew, hlocal, below, hl, rfl⟩
      rw [AtEnd, dereference_of_ok hp hfollowed] at h
      cases h

theorem AtEnd.node {members : Members} (h : AtEnd root inFlight members) :
    (dereference root inFlight (.object members)).node = .object members :=
  dereference_of_followed_nil h

theorem AtEnd.buildSchema {members : Members} (h : AtEnd root inFlight members) (name : Label)
    (description : Json) :
    Convert.buildSchema root inFlight (.object members) name description =
      (buildNode root inFlight members (titled members name)
        (described members description)).after
          (dereference root inFlight (.object members)).notice := by
  rw [buildSchema_eq, h.node,
    show (dereference root inFlight (.object members)).followed = [] from h]
  rfl

theorem AtEnd.buildSlot {members : Members} (h : AtEnd root inFlight members) (name : Json)
    (required : Bool) (description : Json) :
    Convert.buildSlot root inFlight (.object members) name required description =
      (buildReducedSlot root inFlight members name required
        (described members description)).after
          (dereference root inFlight (.object members)).notice := by
  rw [buildSlot_eq, h.node, show (dereference root inFlight (.object members)).followed = [] from h]
  rfl

end Convert

/-! ## Nodes that are read alike -/

/-- A constant that a schema holds: an integer, a floating point number or a text. -/
def Json.IsConstant (value : Json) : Prop :=
  value.kind? = some .int ∨ value.kind? = some .float ∨ value.kind? = some .string

instance : DecidablePred Json.IsConstant := fun value =>
  inferInstanceAs (Decidable (value.kind? = some .int ∨ _))

/--
The type is neither a list nor null, the node is no union without a type, and no constant that a
schema cannot hold stands without a type and an `enum`.
-/
structure Members.ReadsAlike (members : Members) : Prop where
  notList : members.items? "type" = none
  notNull : members.string? "type" ≠ some "null"
  notUnion : members.isUntypedUnion = false
  constant : members.declaredType = none → members.lookup "enum" = none →
    ∀ value ∈ members.lookup "const", value.IsConstant

theorem TypeName.eq_null_of_classify {name : String} (h : TypeName.classify name = some .null) :
    name = "null" := by
  unfold TypeName.classify at h
  split at h <;> first | rfl | cases h

/-- Only the name of the null type declares it. -/
theorem Members.string?_of_declaredType {members : Members}
    (h : members.declaredType = some .null) : members.string? "type" = some "null" := by
  rw [declaredType] at h
  split at h
  · next name hs => rw [hs, TypeName.eq_null_of_classify h]
  · split at h <;> cases h

namespace Convert

open Json

variable {root : Json} {inFlight : List String}

theorem constant_eq_none {value : Json} :
    (constant value).value = none ↔ ¬value.IsConstant := by
  cases value <;> simp [constant, IsConstant, kind?]

/-! ## Slots and schemas that agree -/

/-- The slot is there, with this description and with the schema under some name. -/
structure Agrees (slot : Traced (Option (Slot (Schema Label)))) (description : Json)
    (schema : Traced (Schema Label)) : Prop where
  value : slot.value.map (fun kept => (kept.description, kept.schema.withName .generated)) =
    some (description, schema.value.withName .generated)
  unsupported : slot.unsupported = schema.unsupported

theorem Agrees.after {slot : Traced (Option (Slot (Schema Label)))} {description : Json}
    {schema : Traced (Schema Label)} (h : Agrees slot description schema)
    (notice : Option Notice) : Agrees (slot.after notice) description (schema.after notice) where
  value := h.value
  unsupported := by
    rw [Traced.unsupported_after, Traced.unsupported_after]
    exact h.unsupported

theorem agrees_slotOf {built schema : Traced (Schema Label)}
    (hv : built.value.withName .generated = schema.value.withName .generated)
    (hu : built.unsupported = schema.unsupported) (description : Json) (required : Bool) :
    Agrees (built.map (slotOf description · required)) description schema where
  value := congrArg (fun schema => some (description, schema)) hv
  unsupported := hu

/-- The name of an enumeration goes nowhere else. -/
theorem enumeration_withName (values : Json) (name other : Label) (description : Json) :
    (enumeration values name description).value.schema.withName .generated =
        (enumeration values other description).value.schema.withName .generated ∧
      (enumeration values name description).trace =
        (enumeration values other description).trace := by
  rw [enumeration_eq, enumeration_eq]
  exact ⟨rfl, rfl⟩

/-- What narrows a node does not depend on the name, but for its own name. -/
theorem narrowing_withName (members : Members) (name other : Label) (description : Json) :
    (narrowing members name description).value.map (·.schema.withName .generated) =
        (narrowing members other description).value.map (·.schema.withName .generated) ∧
      (narrowing members name description).trace = (narrowing members other description).trace := by
  rw [narrowing, narrowing]
  split
  · next values _ =>
    obtain ⟨hschema, htrace⟩ := enumeration_withName values name other description
    exact ⟨congrArg some hschema, htrace⟩
  · split <;> exact ⟨rfl, rfl⟩

theorem agrees_leafSlot (kind : Primitive) (members : Members) (name : Json) (required : Bool)
    (description : Json) (label : Label) :
    Agrees (buildLeafSlot kind members name required description) description
      (buildLeaf kind members label description) := by
  obtain ⟨hv, ht⟩ := narrowing_withName members (.given name) label description
  refine ⟨?_, congrArg (List.filterMap _) ht⟩
  rw [buildLeafSlot, buildLeaf, Traced.value_map, Traced.value_map]
  cases hn : (narrowing members (.given name) description).value with
  | none =>
    rw [hn, Option.map_none, eq_comm, Option.map_eq_none_iff] at hv
    rw [hv]
    rfl
  | some narrowed =>
    rw [hn, Option.map_some, eq_comm, Option.map_eq_some_iff] at hv
    obtain ⟨other, ho, hschema⟩ := hv
    rw [ho]
    exact congrArg (fun schema => some (description, schema)) hschema.symm

/-- A node that declares no type but object, and no constants either. -/
def IsBare (members : Members) : Prop :=
  members.declaredType = some .object ∨
    members.declaredType = none ∧ members.lookup "enum" = none ∧ members.lookup "const" = none

/-- A bare node is built as an object. -/
theorem buildDeclared_of_isBare {members : Members} (h : IsBare members) (name : Label)
    (description : Json) :
    buildDeclared root inFlight members name description =
      buildObject root inFlight members name description := by
  rw [buildDeclared]
  rcases h with hd | ⟨hd, he, hc⟩
  · rw [hd]
  · have hnarrowing : narrowing members name description = ⟨none, []⟩ := by rw [narrowing, he, hc]
    rw [hd, hnarrowing]
    rfl

theorem typeList?_of_notList {members : Members} (h : members.items? "type" = none) :
    members.typeList? = none := by
  rw [Members.typeList?, h]
  rfl

section Typed

variable {members : Members} (hend : AtEnd root inFlight members) (h : members.ReadsAlike)
include hend h

/-- Where a slot falls back on the schema of its node, this is the object that the node is. -/
theorem agrees_object (hbare : IsBare members) (required : Bool) (label : Label) :
    Agrees ((buildSchema root inFlight (.object members) .generated .null).map
        (slotOf (described members .null) · required)) (described members .null)
      (buildObject root inFlight members label (described members .null)) := by
  have hschema : buildSchema root inFlight (.object members) .generated .null =
      (buildObject root inFlight members (titled members .generated)
        (described members .null)).after (dereference root inFlight (.object members)).notice := by
    rw [hend.buildSchema, buildNode_eq, typeList?_of_notList h.notList,
      buildDeclared_of_isBare hbare]
  refine agrees_slotOf ?_ ?_ _ required
  · rw [hschema, value_buildObject]
    show (buildObject root inFlight members _ _).value.withName .generated = _
    rw [value_buildObject]
    rfl
  · rw [hschema, Traced.unsupported_after, buildObject_eq, buildObject_eq]
    rfl

/-- Where nothing but constants may say what a node is, both levels read the same constants. -/
theorem agrees_constants (hd : members.declaredType = none) (name : Json) (required : Bool)
    (label : Label) :
    Agrees (buildTypedSlot root inFlight members name required (described members .null))
      (described members .null)
      (buildDeclared root inFlight members label (described members .null)) := by
  rw [buildTypedSlot, hd]
  cases he : members.lookup "enum" with
  | some values =>
    rw [buildDeclared, hd, narrowing, he]
    obtain ⟨hschema, htrace⟩ := enumeration_withName values (.given name) label
      (described members .null)
    exact ⟨congrArg (fun schema => some (described members .null, schema)) hschema,
      congrArg (List.filterMap _) htrace⟩
  | none =>
    cases hc : members.lookup "const" with
    | some value =>
      have hvalue := h.constant hd he value hc
      rw [buildDeclared, hd, narrowing, he, hc]
      cases value with
      | int _ | float _ | string _ => exact ⟨rfl, rfl⟩
      | _ => simp [IsConstant, kind?] at hvalue
    | none =>
      have hbare : IsBare members := .inr ⟨hd, he, hc⟩
      rw [buildDeclared_of_isBare hbare]
      exact agrees_object hend h hbare required label

/-- At both levels a node that reads alike lands in the same builder. -/
theorem agrees_typedSlot (name : Json) (required : Bool) (label : Label) :
    Agrees (buildTypedSlot root inFlight members name required (described members .null))
      (described members .null)
      (buildDeclared root inFlight members label (described members .null)) := by
  cases hd : members.declaredType with
  | none => exact agrees_constants hend h hd name required label
  | some type =>
    rw [buildTypedSlot, buildDeclared, hd]
    cases type with
    | null => exact absurd (Members.string?_of_declaredType hd) h.notNull
    | boolean => exact ⟨rfl, rfl⟩
    | integer => exact agrees_leafSlot .integer members name required _ label
    | number => exact agrees_leafSlot .number members name required _ label
    | string => exact agrees_leafSlot .string members name required _ label
    | array => exact agrees_slotOf rfl rfl _ required
    | object => exact agrees_object hend h (.inl hd) required label
    | anyOf =>
      refine agrees_slotOf ?_ ?_ _ required
      · rw [value_buildUnion, value_buildUnion]
        rfl
      · rw [buildUnion_eq, buildUnion_eq]
        rfl

end Typed

theorem agrees_slot {node : Json} {members : Members}
    (hn : (dereference root inFlight node).node = .object members) (h : members.ReadsAlike)
    (name : Json) (required : Bool) (label : Label) :
    Agrees (buildSlot root inFlight node name required .null) (described members .null)
      (buildSchema root inFlight node label .null) := by
  have htyped := agrees_typedSlot (atEnd_dereference hn) h name required (titled members label)
  rw [buildSlot_eq, buildSchema_eq, hn, buildNode_eq]
  show Agrees (Traced.after _ (buildReducedSlot _ _ members _ _ _)) _ _
  rw [buildReducedSlot_eq, show (Json.object members).members = members from rfl,
    typeList?_of_notList h.notList, h.notUnion]
  exact htyped.after _

/--
**A node that reads alike is the same as a schema and as a field.** With its references followed it
is an object whose type is neither a list nor null, that is no union without a type, and that has no
constant which no schema holds in the place of a type. Then it gives a slot, and the schema of the
slot is that of the node, except for the name of its outermost object or union. The description is
the text under `description`, or null. If one of the two is refused, so is the other one; in JSON
documents neither is.
-/
theorem slot_reads_alike {root value : Json} {members : Members}
    (hn : (dereference root [] value).node = .object members) (h : members.ReadsAlike) (name : Json)
    (required : Bool) (label : Label) :
    (slot root value name required .null).map (fun built =>
        built.1.map (fun kept => (kept.description, kept.schema.withName .generated))) =
      (node root value label .null).map (fun built =>
        some (.ofString? (members.string? "description"), built.1.withName .generated)) ∧
    (root.IsDocument → value.IsDocument → ∃ kept notices schema others,
      slot root value name required .null = .ok (some kept, notices) ∧
      node root value label .null = .ok (schema, others) ∧
      kept.description = .ofString? (members.string? "description") ∧
      kept.schema.withName .generated = schema.withName .generated) := by
  obtain ⟨hvalue, hunsupported⟩ := agrees_slot hn h name required label
  rw [show described members .null = .ofString? (members.string? "description") from if_pos rfl]
    at hvalue
  refine ⟨?_, fun hroot hdocument => ?_⟩
  · exact Traced.map_conclude_congr
      (g := fun schema => some (Json.ofString? (members.string? "description"),
        schema.withName .generated)) hvalue hunsupported
  have hsupported := ((sound_build hroot).2 [] value name required .null hdocument).supported
  obtain ⟨kept, hkept, hagrees⟩ := Option.map_eq_some_iff.mp hvalue
  have hslot := Traced.conclude_eq_ok hsupported
  have hnode := Traced.conclude_eq_ok (hunsupported.symm.trans hsupported)
  rw [hkept] at hslot
  exact ⟨kept, _, _, _, hslot, hnode, congrArg Prod.fst hagrees, congrArg Prod.snd hagrees⟩

/-- Sizes are one of some integers, or nothing. -/
def wardrobe : Json := .object [("$defs", .object [("size", .object [("type", .string "integer"),
  ("title", .string "Size"), ("enum", .array [.int 38, .null, .int 40])])])]

/-- The size of a shoe. -/
def shoeSize : Json :=
  .object [("$ref", .string "#/$defs/size"), ("description", .string "Shoe size")]

/-- What the size of a shoe refers to, with what it says itself. -/
def shoeSizeMembers : Members := [("type", .string "integer"), ("title", .string "Size"),
  ("enum", .array [.int 38, .null, .int 40]), ("description", .string "Shoe size")]

theorem dereference_shoeSize :
    (dereference wardrobe [] shoeSize).node = .object shoeSizeMembers := by
  have htarget : target wardrobe [] [("$ref", .string "#/$defs/size"),
      ("description", .string "Shoe size")] "#/$defs/size" = .ok (.object shoeSizeMembers) := by
    decide +kernel
  rw [shoeSize, dereference_of_ok rfl htarget, dereference_of_reference?_none rfl]

theorem slot_reads_alike_shoeSize :
    ((dereference wardrobe [] shoeSize).node = .object shoeSizeMembers ∧
      shoeSizeMembers.ReadsAlike ∧ wardrobe.IsDocument ∧ shoeSize.IsDocument) ∧
    ∃ kept notices schema others,
      slot wardrobe shoeSize (.string "shoe") true .null = .ok (some kept, notices) ∧
      node wardrobe shoeSize .generated .null = .ok (schema, others) ∧
      kept.description = .string "Shoe size" ∧
      kept.schema.withName .generated = schema.withName .generated := by
  have halike : shoeSizeMembers.ReadsAlike := ⟨rfl, by decide, by decide, by decide⟩
  have hroot : wardrobe.IsDocument := by decide
  have hvalue : shoeSize.IsDocument := by decide
  exact ⟨⟨dereference_shoeSize, halike, hroot, hvalue⟩,
    (slot_reads_alike dereference_shoeSize halike (.string "shoe") true .generated).2 hroot hvalue⟩

end Convert

end ToolSchema
