import Mathlib.Data.Prod.Basic
import ToolSchema.Convert
import ToolSchema.Proofs.Resolving
import ToolSchema.Proofs.Trace

/-!
# Equations and an induction for building

The builders of `ToolSchema.Convert.Build` carry the proofs that they descend. Here they are stated
without them, one equation a builder, with the parts of a union, an array and an object as
functions of their own (`buildBranch`, `buildItems`, `buildField`).

`build_induction` is the induction that goes with them. It has two cases, one for the schema of a
node and one for its slot, and each gives all that building the node may call: what is below the
node (`PartsHold`) and the node again with a single type or without `anyOf`.
-/

namespace ToolSchema

namespace Convert

open Json

/-! ## Equations -/

theorem buildSchema_eq (root : Json) (inFlight : List String) (node : Json) (name : Label)
    (description : Json) :
    buildSchema root inFlight node name description =
      (buildNode root ((dereference root inFlight node).followed ++ inFlight)
        (dereference root inFlight node).node.members
        (titled (dereference root inFlight node).node.members name)
        (described (dereference root inFlight node).node.members description)).after
          (dereference root inFlight node).notice := by
  rw [buildSchema]

/-- What a branch of a union gives, if it leads to an object. -/
def buildBranch (root : Json) (inFlight : List String) (branch : Json) :
    Traced (Option (Schema Label)) :=
  match (dereference root inFlight branch).node with
  | .object found =>
    ((buildSchema root ((dereference root inFlight branch).followed ++ inFlight) (.object found)
      .generated .null).map some).after (dereference root inFlight branch).notice
  | _ => Traced.after (dereference root inFlight branch).notice ⟨none, []⟩

/-- The schema of what is under `items`. -/
def buildItems (root : Json) (inFlight : List String) (members : Members) :
    Traced (Schema Label) :=
  match members.lookup "items" with
  | some (.object items) => buildSchema root inFlight (.object items) .generated .null
  | _ => ⟨unspecified, []⟩

/-- The field of a property, if it gives one. -/
def buildField (root : Json) (inFlight : List String) (required : List String)
    (property : String × Json) : Traced (Option (Field (Schema Label))) :=
  (buildSlot root inFlight property.2 (.string property.1) (required.contains property.1) .null).map
    (fun slot => slot.map (·.named property.1))

theorem buildUnion_eq (root : Json) (inFlight : List String) (members : Members) (name : Label)
    (description : Json) :
    buildUnion root inFlight members name description =
      (Traced.sequence (members.branches.map (buildBranch root inFlight))).map
        (fun branches => .union name description (branches.filterMap id)) := by
  rw [buildUnion, ← List.attach_map_val (f := buildBranch root inFlight)]
  congr 2
  refine List.map_congr_left (fun ⟨branch, _⟩ _ => ?_)
  simp only [buildBranch]
  split <;> simp_all

theorem buildArray_eq (root : Json) (inFlight : List String) (members : Members) :
    buildArray root inFlight members =
      ⟨.array (buildItems root inFlight members).value (arrayBounds members).value.1
        (arrayBounds members).value.2,
        (buildItems root inFlight members).trace ++ (arrayBounds members).trace⟩ := by
  rw [buildArray, buildItems]
  split <;> simp_all

theorem buildObject_eq (root : Json) (inFlight : List String) (members : Members) (name : Label)
    (description : Json) :
    buildObject root inFlight members name description =
      (Traced.sequence (members.properties.map
        (buildField root inFlight members.requiredNames))).map
          (fun fields => .object name description (fields.filterMap id)) := by
  rw [buildObject, ← List.attach_map_val (f := buildField root inFlight members.requiredNames)]
  rfl

theorem value_buildUnion (root : Json) (inFlight : List String) (members : Members) (name : Label)
    (description : Json) :
    (buildUnion root inFlight members name description).value =
      .union name description
        (members.branches.filterMap (fun branch => (buildBranch root inFlight branch).value)) := by
  rw [buildUnion_eq, Traced.value_map, Traced.value_sequence, List.map_map, List.filterMap_map]
  rfl

theorem value_buildObject (root : Json) (inFlight : List String) (members : Members) (name : Label)
    (description : Json) :
    (buildObject root inFlight members name description).value =
      .object name description (members.properties.filterMap
        (fun property => (buildField root inFlight members.requiredNames property).value)) := by
  rw [buildObject_eq, Traced.value_map, Traced.value_sequence, List.map_map, List.filterMap_map]
  rfl

/-- The schema of a node without a type list. -/
def buildDeclared (root : Json) (inFlight : List String) (members : Members) (name : Label)
    (description : Json) : Traced (Schema Label) :=
  match members.declaredType with
  | some .boolean => ⟨.leaf .boolean none, []⟩
  | some .array => buildArray root inFlight members
  | some .integer => buildLeaf .integer members name description
  | some .number => buildLeaf .number members name description
  | some .string => buildLeaf .string members name description
  | some .anyOf => buildUnion root inFlight members name description
  | some .object => buildObject root inFlight members name description
  | some .null | none =>
    match narrowing members name description with
    | ⟨some narrowed, trace⟩ => ⟨narrowed.schema, trace⟩
    | ⟨none, trace⟩ =>
      ⟨(buildObject root inFlight members name description).value,
        trace ++ (buildObject root inFlight members name description).trace⟩

theorem buildNode_eq (root : Json) (inFlight : List String) (members : Members) (name : Label)
    (description : Json) :
    buildNode root inFlight members name description =
      match members.typeList? with
      | some types =>
        match Members.concreteTypes types with
        | [] => buildObject root inFlight members name description
        | [type] =>
          buildSchema root inFlight (.object (members.withType type)) name description
        | first :: second :: others =>
          (Traced.sequence ((first :: second :: others).map (fun type =>
            buildSchema root inFlight (.object (members.withType type)) .generated
              description))).map (.union name description)
      | none => buildDeclared root inFlight members name description := by
  rw [buildNode]
  split
  · next types ht =>
    rw [ht]
    split <;> simp_all
  · next ht =>
    rw [ht]
    rfl

theorem buildSlot_eq (root : Json) (inFlight : List String) (node : Json) (name : Json)
    (required : Bool) (description : Json) :
    buildSlot root inFlight node name required description =
      match (dereference root inFlight node).node with
      | .object members =>
        (buildReducedSlot root ((dereference root inFlight node).followed ++ inFlight) members name
          required (described members description)).after (dereference root inFlight node).notice
      | _ => Traced.after (dereference root inFlight node).notice ⟨none, []⟩ := by
  rw [buildSlot]
  split <;> simp_all

/-- The slot of a union that has no type of its own. -/
def buildCollapsedSlot (root : Json) (inFlight : List String) (members : Members) (name : Json)
    (required : Bool) (description : Json) : Traced (Option (Slot (Schema Label))) :=
  match members.branches.find? (isConcreteBranch root inFlight) with
  | some branch =>
    buildSlot root inFlight branch name
      (required && !anyNullBranch root inFlight members.branches) description
  | none =>
    if anyNullBranch root inFlight members.branches then ⟨none, []⟩
    else buildSlot root inFlight (.object (members.erase "anyOf")) name required description

theorem buildReducedSlot_eq (root : Json) (inFlight : List String) (members : Members)
    (name : Json) (required : Bool) (description : Json) :
    buildReducedSlot root inFlight members name required description =
      match members.typeList? with
      | some types =>
        match Members.concreteTypes types with
        | [] => ⟨none, []⟩
        | type :: _ =>
          buildTypedSlot root inFlight (members.withType type) name
            (required && !types.contains "null") description
      | none =>
        if members.isUntypedUnion then
          ⟨(buildCollapsedSlot root inFlight members name required description).value,
            branchNotices root inFlight members.branches ++
              (buildCollapsedSlot root inFlight members name required description).trace⟩
        else buildTypedSlot root inFlight members name required description := by
  rw [buildReducedSlot]
  split
  · next types ht =>
    rw [ht]
    split <;> simp_all
  · next ht =>
    rw [ht]
    split
    · simp only [buildCollapsedSlot]
      split
      · next branch hb => simp [hb]
      · next hb =>
        simp only [hb]
        split <;> simp
    · rfl

/-! ## Titles and descriptions -/

/-- A title is taken once and for all. -/
theorem titled_titled (members : Members) (name : Label) :
    titled members (titled members name) = titled members name := by
  unfold titled
  cases members.string? "title" with
  | none => rfl
  | some title => by_cases h : title = "" <;> simp [h]

/-- A description is taken once and for all. -/
theorem described_described (members : Members) (description : Json) :
    described members (described members description) = described members description := by
  unfold described
  by_cases h : description = .null <;> simp [h]

/-! ## Nodes that are no references -/

theorem after_none {α : Type} (built : Traced α) : built.after none = built := rfl

theorem buildSchema_of_not_reference {root : Json} {inFlight : List String} {node : Json}
    (hr : node.reference? = none) (name : Label) (description : Json) :
    buildSchema root inFlight node name description =
      buildNode root inFlight node.members (titled node.members name)
        (described node.members description) := by
  rw [buildSchema_eq, dereference_of_not_reference hr, after_none]
  rfl

theorem buildSlot_of_not_reference {root : Json} {inFlight : List String} {members : Members}
    (hr : members.reference? = none) (name : Json) (required : Bool) (description : Json) :
    buildSlot root inFlight (.object members) name required description =
      buildReducedSlot root inFlight members name required (described members description) := by
  rw [buildSlot_eq, dereference_of_reference?_none hr, after_none]
  rfl

/-- A node without keywords is an object without fields. -/
theorem buildSchema_of_members_nil {root : Json} {inFlight : List String} {node : Json}
    (hr : node.reference? = none) (hmembers : node.members = []) :
    buildSchema root inFlight node .generated .null = ⟨unspecified, []⟩ := by
  rw [buildSchema_of_not_reference hr, hmembers, buildNode_eq]
  show buildDeclared root inFlight [] .generated .null = _
  rw [buildDeclared]
  show (⟨(buildObject root inFlight [] .generated .null).value,
    (buildObject root inFlight [] .generated .null).trace⟩ : Traced (Schema Label)) = _
  rw [buildObject_eq]
  rfl

/-! ## Nodes with a single type -/

/-- A node as its slot is built from it: itself, or with one type in the place of its type list. -/
inductive Reduced (members : Members) : Members → Prop where
  | same : Reduced members members
  | typed {types : List String} {type : String} (ht : members.typeList? = some types)
      (hm : type ∈ Members.concreteTypes types) : Reduced members (members.withType type)

theorem weight_withType_lt_of_mem {members : Members} {types : List String} {type : String}
    (ht : members.typeList? = some types) (hm : type ∈ Members.concreteTypes types) :
    (Json.object (members.withType type)).weight < (Json.object members).weight := by
  cases hc : Members.concreteTypes types with
  | nil =>
    rw [hc] at hm
    cases hm
  | cons first others => exact weight_withType_lt ht hc

theorem Reduced.references_subset {members reduced : Members} (h : Reduced members reduced) :
    (Json.object reduced).references ⊆ (Json.object members).references := by
  cases h with
  | same => exact fun _ hp => hp
  | typed ht hm => exact references_withType_subset members _

theorem Reduced.weight_le {members reduced : Members} (h : Reduced members reduced) :
    (Json.object reduced).weight ≤ (Json.object members).weight := by
  cases h with
  | same => exact Nat.le_refl _
  | typed ht hm => exact Nat.le_of_lt (weight_withType_lt_of_mem ht hm)

/-! ## Induction -/

section Induction

variable (root : Json) (P : List String → Json → Label → Json → Prop)
  (Q : List String → Json → Json → Bool → Json → Prop)

/-- What building the parts of a node may call: branches, items and properties. -/
structure PartsHold (inFlight : List String) (members : Members) : Prop where
  branch : ∀ branch ∈ members.branches, ∀ found,
    (dereference root inFlight branch).node = .object found → ∀ name description,
      P ((dereference root inFlight branch).followed ++ inFlight) (.object found) name description
  items : ∀ items, members.lookup "items" = some (.object items) → ∀ name description,
    P inFlight (.object items) name description
  property : ∀ property ∈ members.properties, ∀ name required description,
    Q inFlight property.2 name required description

/-- What building the schema of a node may call. -/
structure SchemaCalls (inFlight : List String) (members : Members) : Prop where
  parts : PartsHold root P Q inFlight members
  typed : ∀ types, members.typeList? = some types → ∀ type ∈ Members.concreteTypes types,
    ∀ name description, P inFlight (.object (members.withType type)) name description

/-- What building the slot of a node may call. -/
structure SlotCalls (inFlight : List String) (members : Members) : Prop where
  parts : ∀ reduced, Reduced members reduced → PartsHold root P Q inFlight reduced
  schema : ∀ reduced, Reduced members reduced → ∀ name description,
    P inFlight (.object reduced) name description
  chosen : ∀ branch ∈ members.branches, ∀ name required description,
    Q inFlight branch name required description
  rest : members.isUntypedUnion = true → ∀ name required description,
    Q inFlight (.object (members.erase "anyOf")) name required description

variable {root P Q}

theorem lower_trans {a b c : Nat × Nat × Nat} (h : Lower a b) (h' : Lower b c) : Lower a c :=
  Prod.Lex.trans h h'

/-- What holds below a measure holds of the parts of every node above it. -/
theorem partsHold_of_lower {inFlight : List String} {members : Members} {m : Nat × Nat × Nat}
    (hm : Lower (measure root inFlight (.object members) 2) m)
    (schema : ∀ inFlight node name description, Lower (measure root inFlight node 3) m →
      P inFlight node name description)
    (slot : ∀ inFlight node name required description, Lower (measure root inFlight node 6) m →
      Q inFlight node name required description) :
    PartsHold root P Q inFlight members where
  branch _ hb _ hn name description :=
    schema _ _ name description (lower_trans (lower_of_branch hb hn) hm)
  items _ hl name description :=
    schema _ _ name description (lower_trans
      (lower_of_weight (references_lookup_members_subset hl) (weight_lookup_lt hl)) hm)
  property _ hp name required description :=
    slot _ _ name required description (lower_trans
      (lower_of_weight (references_property_subset hp) (weight_property_lt hp)) hm)

theorem schemaCalls_of_lower {inFlight : List String} {node : Json}
    (schema : ∀ inFlight' node' name description,
      Lower (measure root inFlight' node' 3) (measure root inFlight node 3) →
        P inFlight' node' name description)
    (slot : ∀ inFlight' node' name required description,
      Lower (measure root inFlight' node' 6) (measure root inFlight node 3) →
        Q inFlight' node' name required description) :
    SchemaCalls root P Q ((dereference root inFlight node).followed ++ inFlight)
      (dereference root inFlight node).node.members := by
  have hnode : Lower (measure root ((dereference root inFlight node).followed ++ inFlight)
      (.object (dereference root inFlight node).node.members) 2) (measure root inFlight node 3) :=
    lower_of_dereference (references_members_subset _) (weight_members_le _) (by decide)
  refine ⟨partsHold_of_lower hnode schema slot, fun types ht type hm name description => ?_⟩
  exact schema _ _ name description (lower_trans
    (lower_of_weight (references_withType_subset _ type) (weight_withType_lt_of_mem ht hm)) hnode)

theorem slotCalls_of_lower {inFlight : List String} {node : Json} {members : Members}
    (hn : (dereference root inFlight node).node = .object members)
    (schema : ∀ inFlight' node' name description,
      Lower (measure root inFlight' node' 3) (measure root inFlight node 6) →
        P inFlight' node' name description)
    (slot : ∀ inFlight' node' name required description,
      Lower (measure root inFlight' node' 6) (measure root inFlight node 6) →
        Q inFlight' node' name required description) :
    SlotCalls root P Q ((dereference root inFlight node).followed ++ inFlight) members := by
  have hnode : Lower (measure root ((dereference root inFlight node).followed ++ inFlight)
      (.object members) 5) (measure root inFlight node 6) := lower_of_node hn (by decide)
  refine ⟨fun reduced hr => ?_, fun reduced hr name description => ?_, ?_, ?_⟩
  · exact partsHold_of_lower (lower_trans
      (lower_of_rank hr.references_subset hr.weight_le (by decide)) hnode) schema slot
  · exact schema _ _ name description (lower_trans
      (lower_of_rank hr.references_subset hr.weight_le (by decide)) hnode)
  · intro branch hb name required description
    exact slot _ _ name required description (lower_trans
      (lower_of_weight (references_branch_subset hb) (weight_branch_lt hb)) hnode)
  · intro hu name required description
    exact slot _ _ name required description (lower_trans
      (lower_of_weight (references_erase_subset (by decide))
        (weight_erase_lt (hasKey_of_isUntypedUnion hu))) hnode)

/--
Induction along the calls of the builders. Where `P` and `Q` follow from what a node may call, they
hold of the schema and of the slot of every node.
-/
theorem build_induction
    (schema : ∀ inFlight node name description,
      SchemaCalls root P Q ((dereference root inFlight node).followed ++ inFlight)
        (dereference root inFlight node).node.members →
      P inFlight node name description)
    (slot : ∀ inFlight node name required description,
      (∀ members, (dereference root inFlight node).node = .object members →
        SlotCalls root P Q ((dereference root inFlight node).followed ++ inFlight) members) →
      Q inFlight node name required description) :
    (∀ inFlight node name description, P inFlight node name description) ∧
      ∀ inFlight node name required description, Q inFlight node name required description := by
  -- A schema and a slot of one node differ in their ranks only, so one measure serves both.
  have key : ∀ m : Nat × Nat × Nat,
      (∀ inFlight node name description, measure root inFlight node 3 = m →
        P inFlight node name description) ∧
      ∀ inFlight node name required description, measure root inFlight node 6 = m →
        Q inFlight node name required description := by
    intro m
    induction m using (inferInstance : WellFoundedRelation (Nat × Nat × Nat)).wf.induction with
    | h m ih =>
      have schemaBelow : ∀ inFlight node name description,
          Lower (measure root inFlight node 3) m → P inFlight node name description :=
        fun inFlight node name description hm => (ih _ hm).1 inFlight node name description rfl
      have slotBelow : ∀ inFlight node name required description,
          Lower (measure root inFlight node 6) m → Q inFlight node name required description :=
        fun inFlight node name required description hm =>
          (ih _ hm).2 inFlight node name required description rfl
      constructor
      · rintro inFlight node name description rfl
        exact schema _ _ _ _ (schemaCalls_of_lower schemaBelow slotBelow)
      · rintro inFlight node name required description rfl
        exact slot _ _ _ _ _ (fun members hn => slotCalls_of_lower hn schemaBelow slotBelow)
  exact ⟨fun inFlight node name description => (key _).1 inFlight node name description rfl,
    fun inFlight node name required description =>
      (key _).2 inFlight node name required description rfl⟩

end Induction

end Convert

end ToolSchema
