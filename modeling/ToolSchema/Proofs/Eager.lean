import Mathlib.Data.List.Find
import ToolSchema.Proofs.Building
import ToolSchema.Proofs.Settled

/-!
# Conversion of a resolved node

Conversion follows references on its way, each node when it comes to it. A resolution beforehand
that leaves no reference makes no difference: the node and the resolved node become the same schema
and the same slot.

The resolved node has no references, so that its conversion follows none, whatever is in flight
there. `SchemaAgrees` and `SlotAgrees` therefore leave the pointers in flight of the second
conversion open; those of the first are the ones with which the node is settled.
-/

namespace ToolSchema

namespace Convert

open Json

variable {root : Json} {inFlight : List String}

/-- Conversion of the resolved node gives the same schema. -/
def SchemaAgrees (root : Json) (inFlight : List String) (node : Json) (name : Label)
    (description : Json) : Prop :=
  Settled root inFlight node → ∀ other : List String,
    buildSchema root inFlight node name description =
      buildSchema root other (resolved root inFlight node) name description

/-- Conversion of the resolved node gives the same slot. -/
def SlotAgrees (root : Json) (inFlight : List String) (node name : Json) (required : Bool)
    (description : Json) : Prop :=
  Settled root inFlight node → ∀ other : List String,
    buildSlot root inFlight node name required description =
      buildSlot root other (resolved root inFlight node) name required description

/-! ## Nodes that are no references -/

/-- What is no object is built as a node without keywords. -/
theorem buildSchema_of_not_object {node : Json} (hn : ∀ members, node ≠ .object members) :
    buildSchema root inFlight node .generated .null = ⟨unspecified, []⟩ := by
  cases node with
  | object members => exact absurd rfl (hn members)
  | _ => exact buildSchema_of_members_nil rfl rfl

/-! ## Parts -/

section Parts

variable {members : Members} (h : Settled root inFlight (.object members))
  (hr : members.reference? = none)
  (parts : PartsHold root (SchemaAgrees root) (SlotAgrees root) inFlight members)
include h hr parts

theorem buildBranch_resolved (hroot : Everywhere IsPlain root) {branch : Json}
    (hb : branch ∈ members.branches) (other : List String) :
    buildBranch root inFlight branch = buildBranch root other (resolved root inFlight branch) := by
  have hbranch := h.branch hr hb
  have hend := hbranch.dereference hroot
  have hendr := reference?_dereference hbranch.notice
  -- The resolved branch is no reference: its chain ends where it starts.
  rw [buildBranch, buildBranch, hbranch.notice,
    dereference_of_not_reference (reference?_of_references_nil hbranch.resolves),
    resolved_dereference inFlight branch hbranch.notice]
  cases hn : (dereference root inFlight branch).node with
  | object found =>
    rw [hn] at hend hendr
    have hfound := parts.branch branch hb found hn .generated .null hend other
    rw [resolved_object (show Members.reference? found = none from hendr)] at hfound ⊢
    simp only [hfound, List.nil_append]
  | array items => rw [resolved_array]
  | _ => rw [resolved_of_leaf (by simp) (by simp)]

theorem buildUnion_resolved (hroot : Everywhere IsPlain root) (name : Label) (description : Json)
    (other : List String) :
    buildUnion root inFlight members name description =
      buildUnion root other (members.mapValues (resolved root inFlight)) name description := by
  rw [buildUnion_eq, buildUnion_eq, branches_mapValues h.isPlain, List.map_map]
  congr 2
  exact List.map_congr_left (fun branch hb => buildBranch_resolved h hr parts hroot hb other)

theorem buildItems_resolved (other : List String) :
    buildItems root inFlight members =
      buildItems root other (members.mapValues (resolved root inFlight)) := by
  rw [buildItems, buildItems, Members.lookup_mapValues]
  cases hv : members.lookup "items" with
  | none => rfl
  | some value =>
    rw [Option.map_some]
    cases value with
    | object items =>
      -- What a reference under `items` leads to need not be an object.
      have hitems := parts.items items hv .generated .null (h.under hr hv) other
      show buildSchema root inFlight (.object items) .generated .null = _
      rw [hitems]
      split
      · next found hf => rw [Option.some.inj hf]
      · next hf => exact buildSchema_of_not_object (fun found hn => hf found (congrArg some hn))
    | array items => rw [resolved_array]
    | _ => rw [resolved_of_leaf (by simp) (by simp)]

theorem buildArray_resolved (other : List String) :
    buildArray root inFlight members =
      buildArray root other (members.mapValues (resolved root inFlight)) := by
  rw [buildArray_eq, buildArray_eq, arrayBounds_mapValues h.isPlain,
    buildItems_resolved h hr parts other]

theorem buildObject_resolved (name : Label) (description : Json) (other : List String) :
    buildObject root inFlight members name description =
      buildObject root other (members.mapValues (resolved root inFlight)) name description := by
  rw [buildObject_eq, buildObject_eq, properties_mapValues h.isPlain,
    requiredNames_mapValues h.isPlain, Members.mapValues, List.map_map]
  congr 2
  refine List.map_congr_left (fun property hp => ?_)
  rw [Function.comp_apply, buildField, buildField,
    parts.property property hp (.string property.1) _ .null (h.property hr hp) other]

theorem buildDeclared_resolved (hroot : Everywhere IsPlain root) (name : Label)
    (description : Json) (other : List String) :
    buildDeclared root inFlight members name description =
      buildDeclared root other (members.mapValues (resolved root inFlight)) name description := by
  have hplain := h.isPlain
  rw [buildDeclared, buildDeclared, declaredType_mapValues hplain, narrowing_mapValues hplain,
    buildArray_resolved h hr parts other,
    buildUnion_resolved h hr parts hroot name description other,
    buildObject_resolved h hr parts name description other]
  simp only [buildLeaf, narrowing_mapValues hplain]

theorem buildTypedSlot_resolved (hroot : Everywhere IsPlain root)
    (schema : SchemaAgrees root inFlight (.object members) .generated .null) (name : Json)
    (required : Bool) (description : Json) (other : List String) :
    buildTypedSlot root inFlight members name required description =
      buildTypedSlot root other (members.mapValues (resolved root inFlight)) name required
        description := by
  have hplain := h.isPlain
  have hschema := schema h other
  rw [resolved_object hr] at hschema
  rw [buildTypedSlot, buildTypedSlot, declaredType_mapValues hplain, hschema,
    buildArray_resolved h hr parts other,
    buildUnion_resolved h hr parts hroot (.given name) description other,
    lookup_literal hplain (by decide), lookup_literal hplain (by decide)]
  simp only [buildLeafSlot, narrowing_mapValues hplain]

end Parts

/-! ## The schema of a node -/

section Schema

variable {members : Members} (h : Settled root inFlight (.object members))
  (hr : members.reference? = none)
  (calls : SchemaCalls root (SchemaAgrees root) (SlotAgrees root) inFlight members)
include h hr calls

theorem buildSchema_withType_resolved {types : List String} (ht : members.typeList? = some types)
    {type : String} (hm : type ∈ Members.concreteTypes types) (name : Label) (description : Json)
    (other : List String) :
    buildSchema root inFlight (.object (members.withType type)) name description =
      buildSchema root other
        (.object (Members.withType (members.mapValues (resolved root inFlight)) type)) name
        description := by
  -- The type is a text, so it may be put in its place before or after the resolution.
  have hagrees := calls.typed types ht type hm name description (h.withType hr type) other
  rwa [resolved_object ((Members.reference?_withType members type).trans hr),
    Members.mapValues_withType (resolved_string type)] at hagrees

theorem buildNode_resolved (hroot : Everywhere IsPlain root) (name : Label) (description : Json)
    (other : List String) :
    buildNode root inFlight members name description =
      buildNode root other (members.mapValues (resolved root inFlight)) name description := by
  rw [buildNode_eq, buildNode_eq, typeList?_mapValues h.isPlain]
  split
  · next types ht =>
    split
    · exact buildObject_resolved h hr calls.parts name description other
    · next type hc =>
      have hm : type ∈ Members.concreteTypes types := by rw [hc]; exact List.mem_cons_self
      exact buildSchema_withType_resolved h hr calls ht hm name description other
    · next first second others hc =>
      congr 2
      refine List.map_congr_left (fun type hm => ?_)
      exact buildSchema_withType_resolved h hr calls ht (hc ▸ hm) .generated description other
  · exact buildDeclared_resolved h hr calls.parts hroot name description other

end Schema

/-- What is read off a settled value that is no object is read off an empty one. -/
theorem Settled.ofMembers {value : Json} (h : Settled root inFlight value) :
    Settled root inFlight (.object value.members) := by
  cases value with
  | object members => exact h
  | _ => exact ⟨by rw [resolved_object rfl]; rfl, everywhere_of_leaf rfl stable_isPlain.empty⟩

theorem reference?_members (value : Json) :
    Members.reference? value.members = value.reference? := by
  cases value <;> rfl

/-- If all that the schema of a node needs agrees, it agrees itself. -/
theorem schemaAgrees_of_calls (hroot : Everywhere IsPlain root) {node : Json} {name : Label}
    {description : Json}
    (calls : SchemaCalls root (SchemaAgrees root) (SlotAgrees root)
      ((dereference root inFlight node).followed ++ inFlight)
      (dereference root inFlight node).node.members) :
    SchemaAgrees root inFlight node name description := by
  intro hnode other
  have hend := reference?_dereference hnode.notice
  have hr := (reference?_members _).trans hend
  have h := (hnode.dereference hroot).ofMembers
  -- Both are now built from the end of the chain, with what is in flight there.
  rw [buildSchema_of_not_reference (reference?_of_references_nil hnode.resolves), buildSchema_eq,
    hnode.notice, after_none, resolved_dereference inFlight node hnode.notice,
    members_resolved hend, titled_mapValues h.isPlain, described_mapValues h.isPlain]
  exact buildNode_resolved h hr calls hroot _ _ other

/-! ## The slot of a node -/

/-- The type that a branch leads to does not depend on when its references are followed. -/
theorem branchType_resolved (hroot : Everywhere IsPlain root) {branch : Json}
    (h : Settled root inFlight branch) (other : List String) :
    branchType root other (resolved root inFlight branch) = branchType root inFlight branch := by
  have hend := reference?_dereference h.notice
  rw [branchType, branchType,
    dereference_of_not_reference (reference?_of_references_nil h.resolves),
    resolved_dereference inFlight branch h.notice, members_resolved hend, Members.string?,
    lookup_literal (h.dereference hroot).ofMembers.isPlain (by decide)]
  rfl

section Slot

variable {members : Members} (hroot : Everywhere IsPlain root)
  (h : Settled root inFlight (.object members)) (hr : members.reference? = none)
include hroot h hr

theorem find?_isConcreteBranch_resolved (other : List String) :
    (members.branches.map (resolved root inFlight)).find? (isConcreteBranch root other) =
      (members.branches.find? (isConcreteBranch root inFlight)).map (resolved root inFlight) := by
  rw [List.find?_map]
  congr 1
  refine List.find?_congr (fun branch hb => ?_)
  rw [Function.comp_apply, isConcreteBranch, isConcreteBranch,
    branchType_resolved hroot (h.branch hr hb)]

theorem anyNullBranch_resolved (other : List String) :
    anyNullBranch root other (members.branches.map (resolved root inFlight)) =
      anyNullBranch root inFlight members.branches := by
  rw [anyNullBranch, anyNullBranch, List.any_map, Bool.eq_iff_iff, List.any_eq_true,
    List.any_eq_true]
  refine exists_congr (fun branch => and_congr_right (fun hb => ?_))
  rw [Function.comp_apply, branchType_resolved hroot (h.branch hr hb)]

omit hroot in
/-- The chains of settled branches end without a notice. -/
theorem branchNotices_settled : branchNotices root inFlight members.branches = [] := by
  refine List.filterMap_eq_nil_iff.mpr (fun branch hb => ?_)
  rw [(h.branch hr hb).notice]
  rfl

omit hroot in
theorem branchNotices_resolved (other : List String) :
    branchNotices root other (members.branches.map (resolved root inFlight)) = [] := by
  refine List.filterMap_eq_nil_iff.mpr (fun found hm => ?_)
  obtain ⟨branch, hb, rfl⟩ := List.mem_map.mp hm
  rw [dereference_of_not_reference (reference?_of_references_nil (h.branch hr hb).resolves)]
  rfl

variable (calls : SlotCalls root (SchemaAgrees root) (SlotAgrees root) inFlight members)
include calls

theorem buildCollapsedSlot_resolved (hu : members.isUntypedUnion = true) (name : Json)
    (required : Bool) (description : Json) (other : List String) :
    buildCollapsedSlot root inFlight members name required description =
      buildCollapsedSlot root other (members.mapValues (resolved root inFlight)) name required
        description := by
  have hrest := calls.rest hu name required description (h.erase hr) other
  rw [resolved_object ((Members.reference?_erase_anyOf members).trans hr),
    Members.mapValues_erase] at hrest
  rw [buildCollapsedSlot, buildCollapsedSlot, branches_mapValues h.isPlain,
    find?_isConcreteBranch_resolved hroot h hr, anyNullBranch_resolved hroot h hr, hrest]
  cases hb : members.branches.find? (isConcreteBranch root inFlight) with
  | none => rfl
  | some branch =>
    have hbranch := List.mem_of_find?_eq_some hb
    exact calls.chosen branch hbranch name _ description (h.branch hr hbranch) other

theorem buildTypedSlot_reduced {reduced : Members} (hreduced : Reduced members reduced)
    (name : Json) (required : Bool) (description : Json) (other : List String) :
    buildTypedSlot root inFlight reduced name required description =
      buildTypedSlot root other (reduced.mapValues (resolved root inFlight)) name required
        description := by
  have hsettled : Settled root inFlight (.object reduced) ∧ reduced.reference? = none := by
    cases hreduced with
    | same => exact ⟨h, hr⟩
    | typed ht hm => exact ⟨h.withType hr _, (Members.reference?_withType members _).trans hr⟩
  exact buildTypedSlot_resolved hsettled.1 hsettled.2 (calls.parts reduced hreduced) hroot
    (calls.schema reduced hreduced .generated .null) name required description other

theorem buildReducedSlot_resolved (name : Json) (required : Bool) (description : Json)
    (other : List String) :
    buildReducedSlot root inFlight members name required description =
      buildReducedSlot root other (members.mapValues (resolved root inFlight)) name required
        description := by
  rw [buildReducedSlot_eq, buildReducedSlot_eq, typeList?_mapValues h.isPlain,
    isUntypedUnion_mapValues h.isPlain]
  split
  · next types ht =>
    split
    · rfl
    · next type others hc =>
      have hm : type ∈ Members.concreteTypes types := by rw [hc]; exact List.mem_cons_self
      rw [buildTypedSlot_reduced hroot h hr calls (.typed ht hm) name _ description other,
        Members.mapValues_withType (resolved_string type)]
  · split
    · next hu =>
      rw [buildCollapsedSlot_resolved hroot h hr calls hu name required description other,
        branchNotices_settled h hr, branches_mapValues h.isPlain,
        branchNotices_resolved h hr other]
    · exact buildTypedSlot_reduced hroot h hr calls .same name required description other

end Slot

/-- If all that the slot of a node needs agrees, it agrees itself. -/
theorem slotAgrees_of_calls (hroot : Everywhere IsPlain root) {node name : Json} {required : Bool}
    {description : Json}
    (calls : ∀ members, (dereference root inFlight node).node = .object members →
      SlotCalls root (SchemaAgrees root) (SlotAgrees root)
        ((dereference root inFlight node).followed ++ inFlight) members) :
    SlotAgrees root inFlight node name required description := by
  intro hnode other
  have hend := reference?_dereference hnode.notice
  have hsettled := hnode.dereference hroot
  rw [buildSlot_eq, buildSlot_eq,
    dereference_of_not_reference (reference?_of_references_nil hnode.resolves),
    resolved_dereference inFlight node hnode.notice, hnode.notice]
  cases hn : (dereference root inFlight node).node with
  | object members =>
    rw [hn] at hsettled hend
    have hr : Members.reference? members = none := hend
    rw [resolved_object hr]
    simp only [List.nil_append, described_mapValues hsettled.isPlain]
    rw [buildReducedSlot_resolved hroot hsettled hr (calls members hn) name required _ other]
  | array items => rw [resolved_array]
  | _ => rw [resolved_of_leaf (by simp) (by simp)]

/-! ## Every conversion -/

/-- Every settled node agrees with its resolution, as a schema and as a slot. -/
theorem agrees (hroot : Everywhere IsPlain root) :
    (∀ inFlight node name description, SchemaAgrees root inFlight node name description) ∧
      ∀ inFlight node name required description,
        SlotAgrees root inFlight node name required description :=
  build_induction (fun _ _ _ _ calls => schemaAgrees_of_calls hroot calls)
    (fun _ _ _ _ _ calls => slotAgrees_of_calls hroot calls)

/--
**Following references on the way is resolving them beforehand.** If resolution leaves no reference
of a node, and references stand only where conversion follows them, then the node and the resolved
node become the same schema and the same slot, names that are generated apart.
-/
theorem conversion_resolve {root value : Json}
    (hfree : (Json.resolve root none value).value.references = [])
    (hroot : Everywhere IsPlain root) (hvalue : Everywhere IsPlain value) :
    (∀ name description, node root value name description =
      node root (Json.resolve root none value).value name description) ∧
    ∀ name required description, slot root value name required description =
      slot root (Json.resolve root none value).value name required description := by
  by_cases href : value.hasReferences = true
  · have hresolve : (Json.resolve root none value).value = resolved root [] value := by
      rw [Json.resolve, if_pos href, resolved]
    rw [hresolve] at hfree ⊢
    have hsettled : Settled root [] value := ⟨hfree, hvalue⟩
    obtain ⟨hschema, hslot⟩ := agrees hroot
    refine ⟨fun name description => ?_, fun name required description => ?_⟩
    · rw [node, node, hschema [] value name description hsettled []]
    · rw [slot, slot, hslot [] value name required description hsettled []]
  · -- Without a reference the value is not resolved at all.
    have hresolve : (Json.resolve root none value).value = value := by
      rw [Json.resolve, if_neg href]
    rw [hresolve]
    exact ⟨fun _ _ => rfl, fun _ _ _ => rfl⟩

/-- A place is an alias of a point. -/
def atlas : Json := .object [("$defs", .object [
  ("point", .object [("type", .string "array"), ("items", .object [("type", .string "number")])]),
  ("place", .object [("$ref", .string "#/$defs/point"), ("minItems", .int 2)])])]

/-- A place, or nothing. -/
def somewhere : Json := .object [("anyOf", .array [
  .object [("type", .string "null")],
  .object [("$ref", .string "#/$defs/place"), ("maxItems", .int 3)]])]

theorem references_resolve_somewhere :
    (Json.resolve atlas none somewhere).value.references = [] := by
  have hplace : target atlas [] [("$ref", .string "#/$defs/place"), ("maxItems", .int 3)]
      "#/$defs/place" =
      .ok (.object [("$ref", .string "#/$defs/point"), ("minItems", .int 2),
        ("maxItems", .int 3)]) := by decide +kernel
  have hpoint : target atlas ["#/$defs/place"] [("$ref", .string "#/$defs/point"),
      ("minItems", .int 2), ("maxItems", .int 3)] "#/$defs/point" =
      .ok (.object [("type", .string "array"), ("items", .object [("type", .string "number")]),
        ("minItems", .int 2), ("maxItems", .int 3)]) := by decide +kernel
  have href : somewhere.hasReferences = true := by decide +kernel
  rw [Json.resolve, if_pos href, ← resolved, somewhere, resolved_object rfl]
  simp only [Members.mapValues, List.map_cons, List.map_nil]
  rw [resolved_array]
  simp only [List.map_cons, List.map_nil]
  rw [resolved_of_ok rfl hplace, resolved_of_ok rfl hpoint, resolved_of_references_nil rfl,
    resolved_of_references_nil rfl]
  rfl

theorem conversion_resolve_somewhere :
    ((Json.resolve atlas none somewhere).value.references = [] ∧ Everywhere IsPlain atlas ∧
      Everywhere IsPlain somewhere) ∧
    (∀ name description, node atlas somewhere name description =
      node atlas (Json.resolve atlas none somewhere).value name description) ∧
    ∀ name required description, slot atlas somewhere name required description =
      slot atlas (Json.resolve atlas none somewhere).value name required description := by
  have hroot : Everywhere IsPlain atlas := by decide
  have hvalue : Everywhere IsPlain somewhere := by decide
  exact ⟨⟨references_resolve_somewhere, hroot, hvalue⟩,
    conversion_resolve references_resolve_somewhere hroot hvalue⟩

end Convert

end ToolSchema
