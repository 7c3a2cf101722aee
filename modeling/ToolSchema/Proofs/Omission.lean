import ToolSchema.Proofs.SlotSchema

/-!
# Fields that are left out

A node gives no field for one of five reasons (`Convert.Omitted`), which are read off the node at
the end of its references: it is no object, it lists no type but null, it is null, it is a union
whose only type is null, or it is nothing but a constant that no schema holds. The last one is asked
of the node that the slot is made from (`Convert.Effective`): a slot takes one type of a list and
one branch of a union.

An object has a field for each other property, in order.
-/

namespace ToolSchema

/-- Nothing but a constant says what the node is, and no schema holds the constant. -/
structure Members.Unholdable (members : Members) : Prop where
  untyped : members.declaredType = none
  unlisted : members.lookup "enum" = none
  constant : ∃ value, members.lookup "const" = some value ∧ ¬value.IsConstant

/-- A union without a type has nothing under `type`. -/
theorem Members.lookup_type_of_isUntypedUnion {members : Members}
    (h : members.isUntypedUnion = true) : members.lookup "type" = none := by
  rw [isUntypedUnion, Bool.and_eq_true, Bool.not_eq_true'] at h
  exact lookup_of_not_hasKey h.1

namespace Convert

open Json

variable {root : Json} {inFlight : List String} {members effective : Members}

/-! ## Reasons to give no field -/

/--
The node that a slot is made from. A node with a type list takes the first type other than null in
its place. For a union without a type it is what the first branch with a type other than null leads
to, or the union without its branches where none of them has a type. Any other node stays.
-/
inductive Effective (root : Json) (inFlight : List String) (members : Members) :
    Members → Prop where
  | typed {types others : List String} {first : String} (list : members.typeList? = some types)
      (concrete : Members.concreteTypes types = first :: others) :
      Effective root inFlight members (members.withType first)
  | branch {branch : Json} {found : Members} (union : members.isUntypedUnion = true)
      (chosen : members.branches.find? (isConcreteBranch root inFlight) = some branch)
      (leads : (dereference root inFlight branch).node = .object found) :
      Effective root inFlight members found
  | rest (union : members.isUntypedUnion = true)
      (typeless : ∀ branch ∈ members.branches, branchType root inFlight branch = none) :
      Effective root inFlight members (members.erase "anyOf")
  | self (notList : members.items? "type" = none) (notUnion : members.isUntypedUnion = false) :
      Effective root inFlight members members

/-- Why a node at the end of its references gives no field. -/
inductive Omitted (root : Json) (inFlight : List String) : Json → Prop where
  | notObject {node : Json} (notObject : node.members? = none) : Omitted root inFlight node
  | nullList {members : Members} {types : List String} (list : members.typeList? = some types)
      (null : ∀ type ∈ types, type = "null") : Omitted root inFlight (.object members)
  | null {members : Members} (null : members.string? "type" = some "null") :
      Omitted root inFlight (.object members)
  | nullUnion {members : Members} {branch : Json} (union : members.isUntypedUnion = true)
      (mem : branch ∈ members.branches) (null : branchType root inFlight branch = some "null")
      (others : ∀ other ∈ members.branches, ∀ type,
        branchType root inFlight other = some type → type = "null") :
      Omitted root inFlight (.object members)
  | constant {members effective : Members} (made : Effective root inFlight members effective)
      (unholdable : effective.Unholdable) : Omitted root inFlight (.object members)

/-- With the references of the node followed there is a reason to give no field. -/
def GivesNoField (root : Json) (inFlight : List String) (node : Json) : Prop :=
  Omitted root ((dereference root inFlight node).followed ++ inFlight)
    (dereference root inFlight node).node

/-! ## Nodes with a single type -/

theorem typeList?_of_isUntypedUnion (h : members.isUntypedUnion = true) :
    members.typeList? = none := by
  rw [Members.typeList?, Members.items?, Members.lookup_type_of_isUntypedUnion h]
  rfl

/-- A node with a single type gives no slot if it is null or an unholdable constant. -/
theorem value_buildTypedSlot_eq_none {name description : Json} {required : Bool} :
    (buildTypedSlot root inFlight members name required description).value = none ↔
      members.declaredType = some .null ∨ members.Unholdable := by
  rw [buildTypedSlot]
  cases hd : members.declaredType with
  | some type =>
    have hnot : ¬members.Unholdable := fun h => by cases hd.symm.trans h.untyped
    cases type <;> simp [hnot, slotOf, buildLeafSlot, Traced.map]
  | none =>
    cases he : members.lookup "enum" with
    | some values =>
      have hnot : ¬members.Unholdable := fun h => by cases he.symm.trans h.unlisted
      simp [hnot, slotOf, Traced.map]
    | none =>
      cases hc : members.lookup "const" with
      | none =>
        have hnot : ¬members.Unholdable := fun h => by
          obtain ⟨value, hv, -⟩ := h.constant
          cases hc.symm.trans hv
        simp [hnot, slotOf, Traced.map]
      | some value =>
        have hunholdable : members.Unholdable ↔ ¬value.IsConstant := by
          refine ⟨fun h => ?_, fun h => ⟨hd, he, value, hc, h⟩⟩
          obtain ⟨other, ho, hother⟩ := h.constant
          cases hc.symm.trans ho
          exact hother
        rw [hunholdable, ← constant_eq_none]
        cases hv : (constant value).value <;> simp [slotOf, Traced.map, hv]

theorem isUntypedUnion_of_type {type : Json} (h : members.lookup "type" = some type) :
    members.isUntypedUnion = false := by
  rw [Members.isUntypedUnion, hasKey_of_lookup h]
  rfl

/-- Without a type list and branches to choose from, a node is built by its type. -/
theorem buildReducedSlot_of_single (hl : members.typeList? = none)
    (hu : members.isUntypedUnion = false) (name : Json) (required : Bool) (description : Json) :
    buildReducedSlot root inFlight members name required description =
      buildTypedSlot root inFlight members name required description := by
  rw [buildReducedSlot_eq, hl, hu]
  rfl

/-- A union without a type gives the slot of what it collapses to. -/
theorem value_buildReducedSlot_of_union (hu : members.isUntypedUnion = true) (name : Json)
    (required : Bool) (description : Json) :
    (buildReducedSlot root inFlight members name required description).value =
      (buildCollapsedSlot root inFlight members name required description).value := by
  rw [buildReducedSlot_eq, typeList?_of_isUntypedUnion hu, hu]
  rfl

/-! ## The node that a slot is made from -/

/-- A branch that is taken leads to an object with a text other than null under `type`. -/
theorem lookup_type_of_isConcreteBranch {branch : Json} {found : Members}
    (h : isConcreteBranch root inFlight branch = true)
    (hn : (dereference root inFlight branch).node = .object found) :
    ∃ type, found.lookup "type" = some (.string type) ∧ type ≠ "null" := by
  rw [isConcreteBranch, branchType, hn] at h
  split at h
  · next type ht => exact ⟨type, Members.lookup_of_string? ht, by simpa using h⟩
  · cases h

/-- No branch is taken exactly if those with a type are null. -/
theorem find?_isConcreteBranch_eq_none {branches : List Json} :
    branches.find? (isConcreteBranch root inFlight) = none ↔
      ∀ branch ∈ branches, ∀ type, branchType root inFlight branch = some type → type = "null" := by
  rw [List.find?_eq_none]
  refine forall₂_congr (fun branch _ => ?_)
  rw [isConcreteBranch]
  cases branchType root inFlight branch <;> simp

/-- The node admits null besides what its slot is made from: in its type list, or in a branch. -/
def admitsNull (root : Json) (inFlight : List String) (members : Members) : Bool :=
  match members.typeList? with
  | some types => types.contains "null"
  | none => members.isUntypedUnion && anyNullBranch root inFlight members.branches

/-- The slot of a node is the slot by type of the node that it is made from. -/
theorem Effective.value_eq (h : Effective root inFlight members effective)
    (hend : AtEnd root inFlight members) (name : Json) (required : Bool) (description : Json) :
    ∃ below own, (buildReducedSlot root inFlight members name required description).value =
      (buildTypedSlot root below effective name
        (required && !admitsNull root inFlight members) own).value := by
  cases h with
  | @typed types others first hl hc =>
    rw [buildReducedSlot_eq, hl, admitsNull, hl]
    simp only [hc]
    exact ⟨inFlight, description, rfl⟩
  | @branch branch _ hu hchosen hn =>
    obtain ⟨type, ht, -⟩ := lookup_type_of_isConcreteBranch (List.find?_some hchosen) hn
    -- What the branch leads to has a text under `type`, so nothing is left to choose there.
    have hsingle : effective.typeList? = none := typeList?_of_string ht
    have hnull : admitsNull root inFlight members =
        anyNullBranch root inFlight members.branches := by
      rw [admitsNull, typeList?_of_isUntypedUnion hu, hu]
      rfl
    rw [value_buildReducedSlot_of_union hu, buildCollapsedSlot, hchosen, hnull]
    dsimp only
    rw [buildSlot_eq, hn]
    refine ⟨(dereference root inFlight branch).followed ++ inFlight,
      described effective description, ?_⟩
    rw [← buildReducedSlot_of_single hsingle (isUntypedUnion_of_type ht)]
    rfl
  | rest hu htypeless =>
    -- Without its branches the node is the same reference as before, and is followed no further.
    have hend' : AtEnd root inFlight (members.erase "anyOf") :=
      hend.congr (Members.reference?_erase_anyOf members)
    have hchosen : members.branches.find? (isConcreteBranch root inFlight) = none := by
      rw [find?_isConcreteBranch_eq_none]
      intro branch hb type ht
      cases (htypeless branch hb).symm.trans ht
    have hany : anyNullBranch root inFlight members.branches = false := by
      rw [anyNullBranch, List.any_eq_false]
      intro branch hb
      rw [htypeless branch hb]
      exact Bool.false_ne_true
    have hnull : admitsNull root inFlight members = false := by
      rw [admitsNull, typeList?_of_isUntypedUnion hu, hany, Bool.and_false]
    have hsingle : (members.erase "anyOf").typeList? = none := by
      rw [Members.typeList?, Members.items?, lookup_erase_of_ne (by decide)]
      exact typeList?_of_isUntypedUnion hu
    rw [value_buildReducedSlot_of_union hu, buildCollapsedSlot, hchosen, hany, hnull]
    refine ⟨inFlight, described (members.erase "anyOf") description, ?_⟩
    rw [← buildReducedSlot_of_single hsingle (Members.isUntypedUnion_erase members),
      Bool.not_false, Bool.and_true]
    show (buildSlot root inFlight (.object (members.erase "anyOf")) name required _).value = _
    rw [hend'.buildSlot]
    rfl
  | self hl hu =>
    have hsingle : members.typeList? = none := typeList?_of_notList hl
    have hnull : admitsNull root inFlight members = false := by
      rw [admitsNull, hsingle, hu, Bool.false_and]
    rw [buildReducedSlot_of_single hsingle hu, hnull, Bool.not_false, Bool.and_true]
    exact ⟨inFlight, description, rfl⟩

/-- The node that a slot is made from decides whether there is one. -/
theorem Effective.value_buildReducedSlot (h : Effective root inFlight members effective)
    (hend : AtEnd root inFlight members) (name : Json) (required : Bool) (description : Json) :
    (buildReducedSlot root inFlight members name required description).value = none ↔
      effective.declaredType = some .null ∨ effective.Unholdable := by
  obtain ⟨below, own, hvalue⟩ := h.value_eq hend name required description
  rw [hvalue]
  exact value_buildTypedSlot_eq_none

/-- The node that a slot is made from declares null only where the node itself is null. -/
theorem Effective.string?_type (h : Effective root inFlight members effective)
    (hd : effective.declaredType = some .null) : members.string? "type" = some "null" := by
  have hnull := Members.string?_of_declaredType hd
  cases h with
  | @typed types others first hl hc =>
    -- A type list gives a type other than null.
    have hmem : first ∈ Members.concreteTypes types := by
      rw [hc]
      exact List.mem_cons_self
    rw [Members.string?_withType] at hnull
    cases hnull
    exact absurd rfl (bne_iff_ne.mp (List.mem_filter.mp hmem).2)
  | branch hu hchosen hn =>
    obtain ⟨type, ht, hne⟩ := lookup_type_of_isConcreteBranch (List.find?_some hchosen) hn
    rw [Members.string?, ht] at hnull
    cases hnull
    exact absurd rfl hne
  | rest hu _ =>
    rw [Members.string?, lookup_erase_of_ne (by decide), Members.lookup_type_of_isUntypedUnion hu]
      at hnull
    cases hnull
  | self _ _ => exact hnull

/-- A slot is made from some node, unless the node names no type but null. -/
theorem exists_effective (root : Json) (inFlight : List String) (members : Members) :
    (∃ effective, Effective root inFlight members effective) ∨
      Omitted root inFlight (.object members) := by
  cases hl : members.items? "type" with
  | some items =>
    have hlist : members.typeList? = some (items.filterMap Json.string?) := by
      rw [Members.typeList?, hl]
      rfl
    cases hc : Members.concreteTypes (items.filterMap Json.string?) with
    | nil =>
      refine .inr (.nullList hlist (fun type ht => ?_))
      simpa using List.filter_eq_nil_iff.mp hc type ht
    | cons first others => exact .inl ⟨_, .typed hlist hc⟩
  | none =>
    cases hu : members.isUntypedUnion with
    | false => exact .inl ⟨_, .self hl hu⟩
    | true =>
      cases hchosen : members.branches.find? (isConcreteBranch root inFlight) with
      | some branch =>
        cases hn : (dereference root inFlight branch).node with
        | object found => exact .inl ⟨_, .branch hu hchosen hn⟩
        | _ =>
          -- What is no object has no type, so it is not chosen.
          have htaken := List.find?_some hchosen
          rw [isConcreteBranch, branchType, hn] at htaken
          cases htaken
      | none =>
        have htypes := find?_isConcreteBranch_eq_none.mp hchosen
        by_cases hnull : ∃ branch ∈ members.branches, branchType root inFlight branch = some "null"
        · obtain ⟨branch, hb, ht⟩ := hnull
          exact .inr (.nullUnion hu hb ht htypes)
        · refine .inl ⟨_, .rest hu (fun branch hb => ?_)⟩
          cases ht : branchType root inFlight branch with
          | none => rfl
          | some type =>
            cases htypes branch hb type ht
            exact absurd ⟨branch, hb, ht⟩ hnull

/-! ## Slots -/

/-- At the end of its references a node gives no slot exactly for one of the reasons. -/
theorem value_buildReducedSlot_eq_none (hend : AtEnd root inFlight members) {name : Json}
    {required : Bool} {description : Json} :
    (buildReducedSlot root inFlight members name required description).value = none ↔
      Omitted root inFlight (.object members) := by
  constructor
  · intro hnone
    rcases exists_effective root inFlight members with ⟨effective, he⟩ | homitted
    · rcases (he.value_buildReducedSlot hend name required description).mp hnone with hd | hc
      · exact .null (he.string?_type hd)
      · exact .constant he hc
    · exact homitted
  · intro homitted
    cases homitted with
    | notObject hobject => cases hobject
    | nullList hl hnull =>
      have hconcrete : Members.concreteTypes _ = [] :=
        List.filter_eq_nil_iff.mpr (fun type ht => by simpa using hnull type ht)
      rw [buildReducedSlot_eq, hl]
      simp only [hconcrete]
    | null hnull =>
      have hlookup := Members.lookup_of_string? hnull
      rw [buildReducedSlot_of_single (typeList?_of_string hlookup) (isUntypedUnion_of_type hlookup),
        value_buildTypedSlot_eq_none, declaredType_of_string hlookup]
      exact .inl rfl
    | nullUnion hu hb ht hothers =>
      have hany : anyNullBranch root inFlight members.branches = true :=
        List.any_eq_true.mpr ⟨_, hb, by rw [ht]; rfl⟩
      rw [value_buildReducedSlot_of_union hu, buildCollapsedSlot,
        find?_isConcreteBranch_eq_none.mpr hothers, hany]
      rfl
    | constant he hc =>
      exact (he.value_buildReducedSlot hend name required description).mpr (.inr hc)

theorem value_buildSlot_eq_none {node name : Json} {required : Bool} {description : Json} :
    (buildSlot root inFlight node name required description).value = none ↔
      GivesNoField root inFlight node := by
  rw [buildSlot_eq, GivesNoField]
  cases hn : (dereference root inFlight node).node with
  | object members => exact value_buildReducedSlot_eq_none (atEnd_dereference hn)
  | _ => exact ⟨fun _ => .notObject rfl, fun _ => rfl⟩

instance (root : Json) (inFlight : List String) (node : Json) :
    Decidable (GivesNoField root inFlight node) :=
  decidable_of_iff ((buildSlot root inFlight node .null true .null).value.isNone = true)
    (Option.isNone_iff_eq_none.trans value_buildSlot_eq_none)

/-- A node that reads alike as a schema and as a field gives one. -/
theorem not_givesNoField_of_readsAlike {node : Json}
    (hn : (dereference root inFlight node).node = .object members) (h : members.ReadsAlike) :
    ¬GivesNoField root inFlight node := by
  intro homitted
  have hnone : (buildSlot root inFlight node .null true .null).value = none :=
    value_buildSlot_eq_none.mpr homitted
  have hvalue := (agrees_slot hn h .null true .generated).value
  rw [hnone] at hvalue
  cases hvalue

/-! ## Fields -/

/-- The names of the properties that give a field. -/
def fieldNames (root : Json) (inFlight : List String) (members : Members) : List String :=
  Members.keys
    (members.properties.filter (fun property => ¬GivesNoField root inFlight property.2))

theorem names_buildField (required : List String) (properties : Members) :
    (properties.filterMap (fun property =>
        (buildField root inFlight required property).value)).map Field.name =
      Members.keys
        (properties.filter (fun property => ¬GivesNoField root inFlight property.2)) := by
  induction properties with
  | nil => rfl
  | cons property rest ih =>
    have hfield : (buildField root inFlight required property).value =
        (buildSlot root inFlight property.2 (.string property.1) (required.contains property.1)
          .null).value.map (·.named property.1) := rfl
    rw [List.filterMap_cons, hfield]
    cases hs : (buildSlot root inFlight property.2 (.string property.1)
        (required.contains property.1) .null).value with
    | none =>
      rw [List.filter_cons_of_neg (by simpa using value_buildSlot_eq_none.mp hs)]
      exact ih
    | some kept =>
      have hgives : ¬GivesNoField root inFlight property.2 := fun h => by
        cases hs.symm.trans (value_buildSlot_eq_none.mpr h)
      rw [List.filter_cons_of_pos (by simpa using hgives)]
      exact congrArg (property.1 :: ·) ih

theorem fieldNames_withType (root : Json) (inFlight : List String) (members : Members)
    (type : String) :
    fieldNames root inFlight (members.withType type) = fieldNames root inFlight members := by
  rw [fieldNames, Members.properties_withType, fieldNames]

/-- No constants make an object. -/
theorem narrowing_ne_object {name : Label} {description : Json} {narrowed : Narrowing}
    (h : (narrowing members name description).value = some narrowed) {own : Label} {shown : Json}
    {fields : List (Field (Schema Label))} : narrowed.schema ≠ .object own shown fields := by
  intro hobject
  rw [narrowing] at h
  split at h
  · rw [enumeration_eq] at h
    cases h
    cases hobject
  · split at h
    · next value hc => cases value <;> cases h <;> cases hobject
    · cases h

section Object

variable {own : Label} {shown : Json} {fields : List (Field (Schema Label))}

theorem names_buildObject {name : Label} {description : Json}
    (h : (buildObject root inFlight members name description).value = .object own shown fields) :
    fields.map Field.name = fieldNames root inFlight members := by
  rw [value_buildObject] at h
  cases h
  exact names_buildField members.requiredNames members.properties

theorem names_buildDeclared {name : Label} {description : Json}
    (h : (buildDeclared root inFlight members name description).value = .object own shown fields) :
    fields.map Field.name = fieldNames root inFlight members := by
  have hleaf (kind : Primitive) :
      (buildLeaf kind members name description).value ≠ .object own shown fields := by
    rw [buildLeaf, Traced.value_map]
    cases hn : (narrowing members name description).value with
    | none => exact fun hobject => by cases hobject
    | some narrowed => exact narrowing_ne_object hn
  rw [buildDeclared] at h
  split at h
  · cases h
  · rw [buildArray_eq] at h
    cases h
  · exact absurd h (hleaf .integer)
  · exact absurd h (hleaf .number)
  · exact absurd h (hleaf .string)
  · rw [value_buildUnion] at h
    cases h
  · exact names_buildObject h
  -- A node that is null is the same as a schema as one without a type.
  all_goals
    split at h
    · next narrowed trace hn => exact absurd h (narrowing_ne_object (congrArg Traced.value hn))
    · exact names_buildObject h

theorem names_buildNode (hend : AtEnd root inFlight members) {name : Label} {description : Json}
    (h : (buildNode root inFlight members name description).value = .object own shown fields) :
    fields.map Field.name = fieldNames root inFlight members := by
  rw [buildNode_eq] at h
  split at h
  · next types hl =>
    split at h
    · exact names_buildObject h
    · next type hc =>
      -- The node is built once more with this type, and its properties stay.
      rw [(hend.congr (Members.reference?_withType members type)).buildSchema, buildNode_eq,
        Members.typeList?_withType] at h
      rw [← fieldNames_withType root inFlight members type]
      exact names_buildDeclared h
    · cases h
  · exact names_buildDeclared h

end Object

/-- Also the members of what is no object are followed no further: there are none. -/
theorem atEnd_members (root : Json) (inFlight : List String) (node : Json) :
    AtEnd root ((dereference root inFlight node).followed ++ inFlight)
      (dereference root inFlight node).node.members := by
  cases hn : (dereference root inFlight node).node with
  | object members => exact atEnd_dereference hn
  | _ => exact congrArg Dereferenced.followed (dereference_of_reference?_none rfl)

/--
**No field is lost but for a stated reason.** A node that is converted without a fault gives no slot
exactly if, with its references followed, one of the reasons holds: it is no object; its type is a
list with no text but null; its type is null; it is a union without a type that has a branch of type
null and none of another type; or what the slot is made from is a constant that is neither an
integer nor a floating point number nor a text, without a type and an `enum`. In a JSON document
there is no fault. So an object has fields for the other properties, in their order, at any place of
a conversion.
-/
theorem slot_eq_none_iff (root value : Json) :
    (∀ name required description built notices,
      slot root value name required description = .ok (built, notices) →
        (built = none ↔ GivesNoField root [] value)) ∧
    (root.IsDocument → value.IsDocument → ∀ name required description,
      ∃ built notices, slot root value name required description = .ok (built, notices)) ∧
    ∀ inFlight label description own shown fields,
      (buildSchema root inFlight value label description).value = .object own shown fields →
      fields.map Field.name =
        fieldNames root ((dereference root inFlight value).followed ++ inFlight)
          (dereference root inFlight value).node.members := by
  refine ⟨?_, ?_, ?_⟩
  · intro name required description built notices h
    rw [← Traced.value_of_conclude h]
    exact value_buildSlot_eq_none
  · intro hroot hvalue name required description
    have hsupported :=
      ((sound_build hroot).2 [] value name required description hvalue).supported
    exact ⟨_, _, Traced.conclude_eq_ok hsupported⟩
  · intro inFlight label description own shown fields h
    rw [buildSchema_eq] at h
    exact names_buildNode (atEnd_members root inFlight value) h

/-- A flag that can only be false. -/
def unpaid : Members := [("const", .bool false)]

/-- Money in cents. -/
def cents : Members := [("type", .string "integer")]

/-- What refers to null. -/
def rebate : Json := .object [("$ref", .string "#/$defs/nothing")]

/-- A choice with nothing to choose. -/
def tip : Members := [("anyOf", .array [rebate, .bool true])]

/-- A bill has a flag, an amount, a rebate and a tip. -/
def bill : Members := [
  ("$defs", .object [("nothing", .object [("type", .string "null")])]),
  ("type", .string "object"),
  ("properties", .object [("isPaid", .object unpaid), ("amount", .object cents),
    ("rebate", rebate), ("tip", .object tip)])]

theorem dereference_rebate : dereference (.object bill) [] rebate =
    ⟨.object [("type", .string "null")], ["#/$defs/nothing"], none⟩ := by
  have htarget : target (.object bill) [] [("$ref", .string "#/$defs/nothing")]
      "#/$defs/nothing" = .ok (.object [("type", .string "null")]) := by decide +kernel
  rw [rebate, dereference_of_ok rfl htarget, dereference_of_reference?_none rfl]

theorem givesNoField_rebate : GivesNoField (.object bill) [] rebate := by
  rw [GivesNoField, dereference_rebate]
  exact .null rfl

theorem givesNoField_tip : GivesNoField (.object bill) [] (.object tip) := by
  have hnull : branchType (.object bill) [] rebate = some "null" := by
    rw [branchType, dereference_rebate]
    rfl
  have hbool : branchType (.object bill) [] (.bool true) = none := by
    rw [branchType, dereference_of_not_reference rfl]
    rfl
  rw [GivesNoField, dereference_of_reference?_none rfl]
  refine .nullUnion rfl List.mem_cons_self hnull (fun other ho type ht => ?_)
  rcases List.mem_pair.mp ho with rfl | rfl
  · exact Option.some.inj (ht.symm.trans hnull)
  · cases hbool.symm.trans ht

theorem fieldNames_bill : fieldNames (.object bill) [] bill = ["amount"] := by
  have hunpaid : GivesNoField (.object bill) [] (.object unpaid) := by
    rw [GivesNoField, dereference_of_reference?_none rfl]
    exact .constant (.self rfl rfl) ⟨rfl, rfl, .bool false, rfl, by decide⟩
  have hcents : ¬GivesNoField (.object bill) [] (.object cents) :=
    not_givesNoField_of_readsAlike
      (congrArg Dereferenced.node (dereference_of_reference?_none rfl))
      ⟨rfl, by decide, by decide, by decide⟩
  show Members.keys (List.filter _ [("isPaid", .object unpaid), ("amount", .object cents),
    ("rebate", rebate), ("tip", .object tip)]) = _
  simp [Members.keys, hunpaid, hcents, givesNoField_rebate, givesNoField_tip]

theorem slot_eq_none_iff_bill :
    (∃ notices, slot (.object bill) rebate (.string "rebate") false .null = .ok (none, notices)) ∧
    ∃ own shown fields,
      (buildSchema (.object bill) [] (.object bill) .generated .null).value =
        .object own shown fields ∧
      fields.map Field.name = ["amount"] := by
  have hroot : (Json.object bill).IsDocument := by decide
  have hrebate : rebate.IsDocument := by decide
  constructor
  · obtain ⟨hnone, hok, -⟩ := slot_eq_none_iff (.object bill) rebate
    obtain ⟨built, notices, h⟩ := hok hroot hrebate (.string "rebate") false .null
    have hbuilt : built = none := (hnone _ _ _ _ _ h).mpr givesNoField_rebate
    exact ⟨notices, hbuilt ▸ h⟩
  · have hchain : dereference (.object bill) [] (.object bill) = ⟨.object bill, [], none⟩ :=
      dereference_of_reference?_none rfl
    have hobject : (buildSchema (.object bill) [] (.object bill) .generated .null).value =
        (buildObject (.object bill) [] bill .generated .null).value := by
      rw [buildSchema_of_not_reference rfl, buildNode_eq]
      rfl
    rw [value_buildObject] at hobject
    have hnames := (slot_eq_none_iff (.object bill) (.object bill)).2.2 [] .generated .null _ _ _
      hobject
    rw [hchain] at hnames
    exact ⟨_, _, _, hobject, hnames.trans fieldNames_bill⟩

end Convert

end ToolSchema
