import ToolSchema.Proofs.Collapsing

/-!
# Optional fields

Whoever asks for the slot of a node says whether its field is required. This decides whether the
field is optional and nothing else: the slot of a field that is not required is the slot of the same
field that is, made optional (`Convert.Loosens`).

A required field is optional all the same if null is admitted: in a type list, by a branch of a
union, or in the `enum` of the node that the slot is made from (`Convert.OptionalAnyway`).
-/

namespace ToolSchema

/-- The slot of a field that may be left out. -/
def Slot.optional {σ : Type} (slot : Slot σ) : Slot σ := { slot with isOptional := true }

namespace Members

/-- Constants may narrow the node, and null is among those under `enum`. -/
structure EnumeratesNull (members : Members) : Prop where
  narrowed : members.declaredType = none ∨ members.declaredType = some .integer ∨
    members.declaredType = some .number ∨ members.declaredType = some .string
  null : ∃ items, members.lookup "enum" = some (.array items) ∧ Json.null ∈ items

theorem enumeratesNull_iff {members : Members}
    (h : members.declaredType = none ∨ members.declaredType = some .integer ∨
      members.declaredType = some .number ∨ members.declaredType = some .string) :
    members.EnumeratesNull ↔
      ∃ items, members.lookup "enum" = some (.array items) ∧ Json.null ∈ items :=
  ⟨EnumeratesNull.null, fun hnull => ⟨h, hnull⟩⟩

end Members

namespace Convert

open Json

variable {root : Json} {inFlight : List String} {members : Members}

/-! ## The flag -/

/-- The second slot is the first one made optional, and the same is reported. -/
def Loosens (slot loosened : Traced (Option (Slot (Schema Label)))) : Prop :=
  loosened = slot.map (Option.map Slot.optional)

theorem loosens_none (trace : List Mark) : Loosens ⟨none, trace⟩ ⟨none, trace⟩ := rfl

theorem Loosens.after {slot loosened : Traced (Option (Slot (Schema Label)))}
    (h : Loosens slot loosened) (notice : Option Notice) :
    Loosens (slot.after notice) (loosened.after notice) := by
  unfold Loosens at *
  rw [h]
  rfl

/-- What is recorded in front does not matter. -/
theorem Loosens.append {slot loosened : Traced (Option (Slot (Schema Label)))}
    (h : Loosens slot loosened) (front : List Mark) :
    Loosens ⟨slot.value, front ++ slot.trace⟩ ⟨loosened.value, front ++ loosened.trace⟩ := by
  unfold Loosens at *
  rw [h]
  rfl

theorem loosens_slotOf (built : Traced (Schema Label)) (description : Json) (required : Bool) :
    Loosens (built.map (slotOf description · required)) (built.map (slotOf description · false)) :=
  rfl

theorem loosens_leafSlot (kind : Primitive) (members : Members) (name : Json) (required : Bool)
    (description : Json) :
    Loosens (buildLeafSlot kind members name required description)
      (buildLeafSlot kind members name false description) := by
  unfold Loosens buildLeafSlot
  cases h : (narrowing members (.given name) description).value with
  | none => simp [Traced.map, h, Narrowing.apply, slotOf, Slot.optional]
  | some narrowed => simp [Traced.map, h, Narrowing.apply, slotOf, Slot.optional]

theorem loosens_typedSlot (root : Json) (inFlight : List String) (members : Members) (name : Json)
    (required : Bool) (description : Json) :
    Loosens (buildTypedSlot root inFlight members name required description)
      (buildTypedSlot root inFlight members name false description) := by
  rw [buildTypedSlot, buildTypedSlot]
  cases members.declaredType with
  | some type =>
    cases type with
    | null => exact loosens_none []
    | boolean => rfl
    | integer => exact loosens_leafSlot .integer members name required description
    | number => exact loosens_leafSlot .number members name required description
    | string => exact loosens_leafSlot .string members name required description
    | _ => exact loosens_slotOf _ description required
  | none =>
    cases members.lookup "enum" with
    | some values => rfl
    | none =>
      cases members.lookup "const" with
      | none => exact loosens_slotOf _ description required
      | some value =>
        unfold Loosens
        cases h : (constant value).value <;> simp [Traced.map, h, slotOf, Slot.optional]

/-- What the induction says of a slot. -/
def SlotLoosens (root : Json) (inFlight : List String) (node name : Json) (required : Bool)
    (description : Json) : Prop :=
  Loosens (buildSlot root inFlight node name required description)
    (buildSlot root inFlight node name false description)

theorem loosens_collapsed
    (calls : SlotCalls root (fun _ _ _ _ => True) (SlotLoosens root) inFlight members)
    (hu : members.isUntypedUnion = true) (name : Json) (required : Bool) (description : Json) :
    Loosens (buildCollapsedSlot root inFlight members name required description)
      (buildCollapsedSlot root inFlight members name false description) := by
  unfold buildCollapsedSlot
  split
  · next branch hb =>
    rw [Bool.false_and]
    exact calls.chosen branch (List.mem_of_find?_eq_some hb) name _ description
  · split
    · exact loosens_none []
    · exact calls.rest hu name required description

theorem loosens_reducedSlot
    (calls : SlotCalls root (fun _ _ _ _ => True) (SlotLoosens root) inFlight members)
    (name : Json) (required : Bool) (description : Json) :
    Loosens (buildReducedSlot root inFlight members name required description)
      (buildReducedSlot root inFlight members name false description) := by
  rw [buildReducedSlot_eq, buildReducedSlot_eq]
  split
  · next types ht =>
    split
    · exact loosens_none []
    · rw [Bool.false_and]
      exact loosens_typedSlot _ _ _ _ _ _
  · split
    · next hu => exact (loosens_collapsed calls hu name required description).append _
    · exact loosens_typedSlot _ _ _ _ _ _

/-- A slot that is not required is the slot that is, made optional. -/
theorem loosens_slot (root : Json) (inFlight : List String) (node name : Json) (required : Bool)
    (description : Json) : SlotLoosens root inFlight node name required description := by
  -- Schemas have no flag, so there is nothing to say about them.
  refine (@build_induction root (fun _ _ _ _ => True) (SlotLoosens root) ?_ ?_).2 inFlight node
    name required description
  · intro _ _ _ _ _
    trivial
  · intro inFlight node name required description calls
    unfold SlotLoosens
    rw [buildSlot_eq, buildSlot_eq]
    split
    · next members hn =>
      exact (loosens_reducedSlot (calls members hn) name required _).after _
    · exact (loosens_none []).after _

/-! ## Required fields that are optional -/

/-- Null makes the field of a node at the end of its references optional. -/
inductive OptionalAnyway (root : Json) (inFlight : List String) (members : Members) : Prop where
  | listed {types : List String} (list : members.typeList? = some types) (null : "null" ∈ types)
  | offered (union : members.isUntypedUnion = true)
      (null : OffersNull root inFlight members.branches)
  | enumerated {effective : Members} (made : Effective root inFlight members effective)
      (null : effective.EnumeratesNull)

/-- With the references of the node followed, null makes its field optional. -/
def IsOptionalAnyway (root : Json) (inFlight : List String) (node : Json) : Prop :=
  OptionalAnyway root ((dereference root inFlight node).followed ++ inFlight)
    (dereference root inFlight node).node.members

theorem admitsNull_iff : admitsNull root inFlight members = true ↔
    (∃ types, members.typeList? = some types ∧ "null" ∈ types) ∨
      members.isUntypedUnion = true ∧ OffersNull root inFlight members.branches := by
  unfold admitsNull
  cases ht : members.typeList? with
  | some types =>
    -- A node with a type list has a type.
    have hu : members.isUntypedUnion = false := by
      obtain ⟨items, hl, -⟩ := typeList?_lookup ht
      exact isUntypedUnion_of_type hl
    simp [hu]
  | none => simp [anyNullBranch_iff]

theorem admitsNull_enumeration (values : Json) (name : Label) (description : Json) :
    (enumeration values name description).value.admitsNull = true ↔
      ∃ items, values = .array items ∧ Json.null ∈ items := by
  cases values <;> simp [enumeration_eq, Json.items, Json.items?]

/-- Only what is under `enum` admits null. -/
theorem admitsNull_narrowing (members : Members) (name : Label) (description : Json) :
    (narrowing members name description).value.any Narrowing.admitsNull = true ↔
      ∃ items, members.lookup "enum" = some (.array items) ∧ Json.null ∈ items := by
  unfold narrowing
  cases he : members.lookup "enum" with
  | some values => simp [Traced.map, admitsNull_enumeration]
  | none =>
    cases hc : members.lookup "const" with
    | none => simp
    | some value => cases hv : (constant value).value <;> simp [Traced.map, hv]

theorem isOptional_leafSlot {kind : Primitive} {name description : Json} {required : Bool}
    {kept : Slot (Schema Label)}
    (h : (buildLeafSlot kind members name required description).value = some kept) :
    kept.isOptional = true ↔ required = false ∨
      ∃ items, members.lookup "enum" = some (.array items) ∧ Json.null ∈ items := by
  rw [← admitsNull_narrowing members (.given name) description]
  unfold buildLeafSlot at h
  cases hn : (narrowing members (.given name) description).value with
  | none =>
    simp only [Traced.map, hn, Narrowing.apply, slotOf, Option.some.injEq] at h
    subst h
    simp
  | some narrowed =>
    simp only [Traced.map, hn, Narrowing.apply, slotOf, Option.some.injEq] at h
    subst h
    simp

/-- The slot of a node that only says what type it has is as optional as it was asked to be. -/
theorem isOptional_of_map_slotOf {built : Traced (Schema Label)} {description : Json}
    {required : Bool} {kept : Slot (Schema Label)}
    (h : (built.map (slotOf description · required)).value = some kept) :
    kept.isOptional = true ↔ required = false := by
  cases h
  simp

theorem isOptional_typedSlot {name description : Json} {required : Bool}
    {kept : Slot (Schema Label)}
    (h : (buildTypedSlot root inFlight members name required description).value = some kept) :
    kept.isOptional = true ↔ required = false ∨ members.EnumeratesNull := by
  -- A type that no constants narrow says nothing about null.
  have hwide {type : TypeName} (hd : members.declaredType = some type)
      (hi : type ≠ .integer) (hn : type ≠ .number) (hs : type ≠ .string) :
      ¬members.EnumeratesNull := by
    intro henum
    rcases henum.narrowed with ht | ht | ht | ht
    · cases hd.symm.trans ht
    · exact hi (Option.some.inj (hd.symm.trans ht))
    · exact hn (Option.some.inj (hd.symm.trans ht))
    · exact hs (Option.some.inj (hd.symm.trans ht))
  rw [buildTypedSlot] at h
  cases hd : members.declaredType with
  | some type =>
    rw [hd] at h
    cases type with
    | null => cases h
    | boolean =>
      cases h
      simp [hwide hd (by decide) (by decide) (by decide)]
    | integer =>
      rw [isOptional_leafSlot h, Members.enumeratesNull_iff (.inr (.inl hd))]
    | number =>
      rw [isOptional_leafSlot h, Members.enumeratesNull_iff (.inr (.inr (.inl hd)))]
    | string =>
      rw [isOptional_leafSlot h, Members.enumeratesNull_iff (.inr (.inr (.inr hd)))]
    | array | object | anyOf =>
      rw [isOptional_of_map_slotOf h]
      simp [hwide hd (by decide) (by decide) (by decide)]
  | none =>
    rw [hd] at h
    cases he : members.lookup "enum" with
    | some values =>
      rw [he] at h
      cases h
      have henum : members.EnumeratesNull ↔
          ∃ items, values = .array items ∧ Json.null ∈ items := by
        rw [Members.enumeratesNull_iff (.inl hd), he]
        simp only [Option.some.injEq]
      rw [henum, ← admitsNull_enumeration values (.given name) description]
      simp
    | none =>
      have hnot : ¬members.EnumeratesNull := by
        intro henum
        obtain ⟨items, hitems, -⟩ := henum.null
        cases he.symm.trans hitems
      rw [he] at h
      cases hc : members.lookup "const" with
      | none =>
        rw [hc] at h
        rw [isOptional_of_map_slotOf h]
        simp [hnot]
      | some value =>
        rw [hc] at h
        simp only [Traced.map, Option.bind_eq_some_iff] at h
        obtain ⟨schema, -, hkept⟩ := h
        cases hkept
        simp [hnot]

theorem Effective.isOptional {effective : Members} (he : Effective root inFlight members effective)
    (hend : AtEnd root inFlight members) {name description : Json} {kept : Slot (Schema Label)}
    (h : (buildReducedSlot root inFlight members name true description).value = some kept) :
    kept.isOptional = true ↔
      admitsNull root inFlight members = true ∨ effective.EnumeratesNull := by
  obtain ⟨below, own, hvalue⟩ := he.value_eq hend name true description
  rw [hvalue] at h
  rw [isOptional_typedSlot h, Bool.true_and, Bool.not_eq_false']

/-- A slot that is asked to be required is optional if null makes it so. -/
theorem isOptional_reducedSlot (hend : AtEnd root inFlight members) {name description : Json}
    {kept : Slot (Schema Label)}
    (h : (buildReducedSlot root inFlight members name true description).value = some kept) :
    kept.isOptional = true ↔ OptionalAnyway root inFlight members := by
  have hgiven : ¬Omitted root inFlight (.object members) := by
    intro homitted
    cases ((value_buildReducedSlot_eq_none hend).mpr homitted).symm.trans h
  obtain ⟨effective, he⟩ := (exists_effective root inFlight members).resolve_right hgiven
  constructor
  · intro hoptional
    rcases (he.isOptional hend h).mp hoptional with hnull | henum
    · rcases admitsNull_iff.mp hnull with ⟨types, ht, hmem⟩ | ⟨hu, hoffered⟩
      · exact .listed ht hmem
      · exact .offered hu hoffered
    · exact .enumerated he henum
  · intro hanyway
    cases hanyway with
    | listed ht hmem =>
      exact (he.isOptional hend h).mpr (.inl (admitsNull_iff.mpr (.inl ⟨_, ht, hmem⟩)))
    | offered hu hoffered =>
      exact (he.isOptional hend h).mpr (.inl (admitsNull_iff.mpr (.inr ⟨hu, hoffered⟩)))
    | enumerated made henum => exact (made.isOptional hend h).mpr (.inr henum)

theorem isOptional_slot {node name description : Json} {kept : Slot (Schema Label)}
    (h : (buildSlot root inFlight node name true description).value = some kept) :
    kept.isOptional = true ↔ IsOptionalAnyway root inFlight node := by
  rw [buildSlot_eq] at h
  unfold IsOptionalAnyway
  cases hn : (dereference root inFlight node).node with
  | object members =>
    rw [hn] at h
    exact isOptional_reducedSlot (atEnd_dereference hn) h
  | _ =>
    rw [hn] at h
    cases h

/--
**Whether a field is required decides about nothing but its being optional.** Of one node with the
same name and description, the field that is not required is the field that is, if there is one,
made optional; the same is reported, or both are refused, which a JSON document never is. The field
that is required is optional all the same exactly if null makes it so: null is in the type list of
the node, with its references followed; or the node is a union without a type, and a branch leads
to an object of type null; or null is under the `enum` of what the field is made from, which has a
type that constants narrow, or none that is known.
-/
theorem required_flag_only_loosens (root value name description : Json) :
    slot root value name false description =
      (slot root value name true description).map (fun built =>
        (built.1.map Slot.optional, built.2)) ∧
    (root.IsDocument → value.IsDocument →
      ∃ built notices, slot root value name true description = .ok (built, notices)) ∧
    ∀ kept notices, slot root value name true description = .ok (some kept, notices) →
      (kept.isOptional = true ↔ IsOptionalAnyway root [] value) := by
  refine ⟨?_, ?_, ?_⟩
  · have hloosens := loosens_slot root [] value name true description
    unfold SlotLoosens Loosens at hloosens
    rw [slot, hloosens, Traced.conclude_map]
    rfl
  · intro hroot hvalue
    have hsupported :=
      ((sound_build hroot).2 [] value name true description hvalue).supported
    exact ⟨_, _, Traced.conclude_eq_ok hsupported⟩
  · intro kept notices h
    exact isOptional_slot (Traced.value_of_conclude h)

/-- A floor of the hotel, if it is known. -/
def floor : Members :=
  [("type", .string "integer"), ("enum", .array [.int 0, .null, .int 1])]

def hotel : Json := .object [("$defs", .object [("floor", .object floor)])]

def floorBranch : Json := .object [("$ref", .string "#/$defs/floor")]

/-- A room is on a floor, but this is only seen where the reference and the `enum` are read. -/
def room : Members := [("anyOf", .array [.bool true, floorBranch])]

theorem dereference_floor :
    dereference hotel [] floorBranch = ⟨.object floor, ["#/$defs/floor"], none⟩ := by
  have htarget : target hotel [] [("$ref", .string "#/$defs/floor")] "#/$defs/floor" =
      .ok (.object floor) := by
    decide +kernel
  rw [floorBranch, dereference_of_ok rfl htarget, dereference_of_reference?_none rfl]

theorem effective_room : Effective hotel [] room floor := by
  have hinteger : branchType hotel [] floorBranch = some "integer" := by
    rw [branchType, dereference_floor]
    rfl
  have hbool : branchType hotel [] (.bool true) = none := branchType_of_not_object (by simp)
  have hchosen : Chosen hotel [] room.branches floorBranch := by
    refine ⟨⟨"integer", hinteger, by decide⟩, [.bool true], [], rfl, ?_⟩
    intro branch hb type ht
    cases List.mem_singleton.mp hb
    cases hbool.symm.trans ht
  exact .branch rfl (find?_eq_some_iff_chosen.mpr hchosen)
    (congrArg Dereferenced.node dereference_floor)

theorem required_flag_only_loosens_room :
    (hotel.IsDocument ∧ (Json.object room).IsDocument) ∧
    ∃ kept notices,
      slot hotel (.object room) (.string "floor") true .null = .ok (some kept, notices) ∧
      kept.isOptional = true ∧
      slot hotel (.object room) (.string "floor") false .null =
        .ok (some kept.optional, notices) := by
  have hhotel : hotel.IsDocument := by decide
  have hroom : (Json.object room).IsDocument := by decide
  obtain ⟨hloosens, hok, hoptional⟩ :=
    required_flag_only_loosens hotel (.object room) (.string "floor") .null
  obtain ⟨built, notices, hslot⟩ := hok hhotel hroom
  have hchain : dereference hotel [] (.object room) = ⟨.object room, [], none⟩ :=
    dereference_of_reference?_none rfl
  have hanyway : IsOptionalAnyway hotel [] (.object room) := by
    rw [IsOptionalAnyway, hchain]
    exact .enumerated effective_room ⟨.inr (.inl rfl), [.int 0, .null, .int 1], rfl, by simp⟩
  -- The floor is no null and no constant, so there is a field.
  have hsome : built ≠ none := by
    rintro rfl
    have hnone := Traced.value_of_conclude hslot
    rw [buildSlot_of_not_reference rfl, effective_room.value_buildReducedSlot
      (congrArg Dereferenced.followed hchain)] at hnone
    rcases hnone with hnull | hconstant
    · cases hnull
    · cases hconstant.untyped
  obtain ⟨kept, rfl⟩ := Option.ne_none_iff_exists'.mp hsome
  refine ⟨⟨hhotel, hroom⟩, kept, notices, hslot, (hoptional kept notices hslot).mpr hanyway, ?_⟩
  rw [hloosens, hslot]
  rfl

end Convert

end ToolSchema
