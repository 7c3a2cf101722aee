import ToolSchema.Proofs.Building
import ToolSchema.Proofs.NestedResolution

/-!
# Nested calls of a conversion

`buildSchema` and `buildSlot` call each other, and themselves. `Convert.callsWithin` does the same
work, but gives up where more than a given number of these calls would be nested;
`Convert.schemaVia` and `Convert.slotVia` are the work of one call.

A call has less room (`Json.room`) than the call around it, or it is on the same node. Then it is
one of at most four: the slot of a union without a type, the slot of the node without the union, the
schema of a node with a type list, and the schema of the node with a single type.
-/

namespace ToolSchema

namespace Convert

open Json

/-- The calls that a conversion makes of itself; one that is not answered gives none. -/
structure Calls where
  schema : (inFlight : List String) → (node : Json) → (name : Label) → (description : Json) →
    Option (Traced (Schema Label))
  slot : (inFlight : List String) → (node name : Json) → (required : Bool) → (description : Json) →
    Option (Traced (Option (Slot (Schema Label))))

section Bodies

variable (calls : Calls) (root : Json) (inFlight : List String)

def branchVia (branch : Json) : Option (Traced (Option (Schema Label))) :=
  let chain := dereference root inFlight branch
  match chain.node with
  | .object found => do
    let built ← calls.schema (chain.followed ++ inFlight) (.object found) .generated .null
    return (built.map some).after chain.notice
  | _ => some (Traced.after chain.notice ⟨none, []⟩)

def unionVia (members : Members) (name : Label) (description : Json) :
    Option (Traced (Schema Label)) := do
  let branches ← members.branches.mapM (branchVia calls root inFlight)
  return (Traced.sequence branches).map
    (fun branches => .union name description (branches.filterMap id))

/-- What is no object under `items` stands for an object without members. -/
def arrayVia (members : Members) : Option (Traced (Schema Label)) := do
  let items : Json :=
    match members.lookup "items" with
    | some (.object items) => .object items
    | _ => .object []
  let element ← calls.schema inFlight items .generated .null
  let bounds := arrayBounds members
  return ⟨.array element.value bounds.value.1 bounds.value.2, element.trace ++ bounds.trace⟩

def fieldVia (required : List String) (property : String × Json) :
    Option (Traced (Option (Field (Schema Label)))) := do
  let slot ← calls.slot inFlight property.2 (.string property.1) (required.contains property.1)
    .null
  return slot.map (fun slot => slot.map (·.named property.1))

def objectVia (members : Members) (name : Label) (description : Json) :
    Option (Traced (Schema Label)) := do
  let fields ← members.properties.mapM (fieldVia calls inFlight members.requiredNames)
  return (Traced.sequence fields).map (fun fields => .object name description (fields.filterMap id))

def declaredVia (members : Members) (name : Label) (description : Json) :
    Option (Traced (Schema Label)) :=
  match members.declaredType with
  | some .boolean => some ⟨.leaf .boolean none, []⟩
  | some .array => arrayVia calls inFlight members
  | some .integer => some (buildLeaf .integer members name description)
  | some .number => some (buildLeaf .number members name description)
  | some .string => some (buildLeaf .string members name description)
  | some .anyOf => unionVia calls root inFlight members name description
  | some .object => objectVia calls inFlight members name description
  | some .null | none =>
    match narrowing members name description with
    | ⟨some narrowed, trace⟩ => some ⟨narrowed.schema, trace⟩
    | ⟨none, trace⟩ => do
      let built ← objectVia calls inFlight members name description
      return ⟨built.value, trace ++ built.trace⟩

def nodeVia (members : Members) (name : Label) (description : Json) :
    Option (Traced (Schema Label)) :=
  match members.typeList? with
  | some types =>
    match Members.concreteTypes types with
    | [] => objectVia calls inFlight members name description
    | [type] => calls.schema inFlight (.object (members.withType type)) name description
    | first :: second :: others => do
      let branches ← (first :: second :: others).mapM (fun type =>
        calls.schema inFlight (.object (members.withType type)) .generated description)
      return (Traced.sequence branches).map (.union name description)
  | none => declaredVia calls root inFlight members name description

/-- One call of `buildSchema`, with `calls` for the calls that it makes. -/
def schemaVia (node : Json) (name : Label) (description : Json) :
    Option (Traced (Schema Label)) := do
  let chain := dereference root inFlight node
  let built ← nodeVia calls root (chain.followed ++ inFlight) chain.node.members
    (titled chain.node.members name) (described chain.node.members description)
  return built.after chain.notice

def typedSlotVia (members : Members) (name : Json) (required : Bool) (description : Json) :
    Option (Traced (Option (Slot (Schema Label)))) :=
  match members.declaredType with
  | some .null => some ⟨none, []⟩
  | some .boolean => some ⟨slotOf description (.leaf .boolean none) required, []⟩
  | some .object => do
    let built ← calls.schema inFlight (.object members) .generated .null
    return built.map (slotOf description · required)
  | some .array => do
    let built ← arrayVia calls inFlight members
    return built.map (slotOf description · required)
  | some .integer => some (buildLeafSlot .integer members name required description)
  | some .number => some (buildLeafSlot .number members name required description)
  | some .string => some (buildLeafSlot .string members name required description)
  | some .anyOf => do
    let built ← unionVia calls root inFlight members (.given name) description
    return built.map (slotOf description · required)
  | none =>
    match members.lookup "enum", members.lookup "const" with
    | some values, _ =>
      some ((enumeration values (.given name) description).map (fun narrowed =>
        slotOf description narrowed.schema (required && !narrowed.admitsNull)))
    | none, some value =>
      some ((constant value).map (fun schema => schema.bind (slotOf description · required)))
    | none, none => do
      let built ← calls.schema inFlight (.object members) .generated .null
      return built.map (slotOf description · required)

def collapsedSlotVia (members : Members) (name : Json) (required : Bool) (description : Json) :
    Option (Traced (Option (Slot (Schema Label)))) :=
  match members.branches.find? (isConcreteBranch root inFlight) with
  | some branch =>
    calls.slot inFlight branch name (required && !anyNullBranch root inFlight members.branches)
      description
  | none =>
    if anyNullBranch root inFlight members.branches then some ⟨none, []⟩
    else calls.slot inFlight (.object (members.erase "anyOf")) name required description

def reducedSlotVia (members : Members) (name : Json) (required : Bool) (description : Json) :
    Option (Traced (Option (Slot (Schema Label)))) :=
  match members.typeList? with
  | some types =>
    match Members.concreteTypes types with
    | [] => some ⟨none, []⟩
    | type :: _ =>
      typedSlotVia calls root inFlight (members.withType type) name
        (required && !types.contains "null") description
  | none =>
    if members.isUntypedUnion then do
      let built ← collapsedSlotVia calls root inFlight members name required description
      return ⟨built.value, branchNotices root inFlight members.branches ++ built.trace⟩
    else typedSlotVia calls root inFlight members name required description

/-- One call of `buildSlot`, with `calls` for the calls that it makes. -/
def slotVia (node name : Json) (required : Bool) (description : Json) :
    Option (Traced (Option (Slot (Schema Label)))) :=
  let chain := dereference root inFlight node
  match chain.node with
  | .object members => do
    let built ← reducedSlotVia calls root (chain.followed ++ inFlight) members name required
      (described members description)
    return built.after chain.notice
  | _ => some (Traced.after chain.notice ⟨none, []⟩)

end Bodies

/-- Conversion with at most `limit` nested calls. -/
def callsWithin (root : Json) : (limit : Nat) → Calls
  | 0 => ⟨fun _ _ _ _ => none, fun _ _ _ _ _ => none⟩
  | limit + 1 => ⟨schemaVia (callsWithin root limit) root, slotVia (callsWithin root limit) root⟩

/-! ## Budgets -/

/-- The calls that the schema of a node may take: two on the node itself if it has a type list. -/
def schemaBudget (root : Json) (bound : Nat) (inFlight : List String) (node : Json) : Nat :=
  4 * room root bound inFlight node + (if node.members.typeList?.isSome then 2 else 1)

/-- The calls that the slot of a node may take: one more if the node is a union without a type. -/
def slotBudget (root : Json) (bound : Nat) (inFlight : List String) (node : Json) : Nat :=
  4 * room root bound inFlight node + (if node.members.isUntypedUnion then 4 else 3)

/-- The calls answer, and rightly, where the budget is at most `limit`. -/
structure Calls.Serve (calls : Calls) (root : Json) (bound limit : Nat) : Prop where
  schema : ∀ inFlight node name description, node.depth ≤ bound →
    schemaBudget root bound inFlight node ≤ limit →
      calls.schema inFlight node name description =
        some (buildSchema root inFlight node name description)
  slot : ∀ inFlight node name required description, node.depth ≤ bound →
    slotBudget root bound inFlight node ≤ limit →
      calls.slot inFlight node name required description =
        some (buildSlot root inFlight node name required description)

variable {root : Json} {bound limit : Nat} {calls : Calls} {inFlight : List String}

theorem schemaBudget_le (root : Json) (bound : Nat) (inFlight : List String) (node : Json) :
    schemaBudget root bound inFlight node ≤ 4 * room root bound inFlight node + 2 := by
  unfold schemaBudget
  split <;> omega

theorem slotBudget_le (root : Json) (bound : Nat) (inFlight : List String) (node : Json) :
    slotBudget root bound inFlight node ≤ 4 * room root bound inFlight node + 4 := by
  unfold slotBudget
  split <;> omega

/-- Below a node that has room, every call is answered. -/
theorem Calls.Serve.schemaBelow (hserve : calls.Serve root bound limit) {outer inner : List String}
    {node below : Json} (hroom : 4 * room root bound outer node ≤ limit)
    (hless : room root bound inner below < room root bound outer node)
    (hd : below.depth ≤ bound) (name : Label) (description : Json) :
    calls.schema inner below name description =
      some (buildSchema root inner below name description) := by
  have hbudget := schemaBudget_le root bound inner below
  exact hserve.schema inner below name description hd (by omega)

theorem Calls.Serve.slotBelow (hserve : calls.Serve root bound limit) {outer inner : List String}
    {node below : Json} (hroom : 4 * room root bound outer node ≤ limit)
    (hless : room root bound inner below < room root bound outer node)
    (hd : below.depth ≤ bound) (name : Json) (required : Bool) (description : Json) :
    calls.slot inner below name required description =
      some (buildSlot root inner below name required description) := by
  have hbudget := slotBudget_le root bound inner below
  exact hserve.slot inner below name required description hd (by omega)

/-! ## Parts -/

theorem depth_branch_lt {members : Members} {branch : Json} (hb : branch ∈ members.branches) :
    branch.depth < (Json.object members).depth := by
  obtain ⟨items, hi, hb⟩ := mem_branches hb
  exact Nat.lt_trans (depth_item_lt hb) (depth_under_lt (items?_eq_some hi))

theorem depth_property_lt {members : Members} {property : String × Json}
    (hp : property ∈ members.properties) : property.2.depth < (Json.object members).depth := by
  obtain ⟨properties, hv, hp⟩ := mem_properties hp
  exact Nat.lt_trans (depth_member_lt hp) (depth_under_lt hv)

/-- A node that declares a type has a member. -/
theorem depth_pos_of_declaredType {members : Members} {type : TypeName}
    (h : members.declaredType = some type) : 0 < (Json.object members).depth := by
  have hlookup : ∀ key : String, members.lookup key ≠ none → 0 < (Json.object members).depth := by
    intro key hv
    obtain ⟨value, hv⟩ := Option.ne_none_iff_exists'.mp hv
    exact Nat.lt_of_le_of_lt (Nat.zero_le _) (depth_under_lt hv)
  unfold Members.declaredType at h
  split at h
  · next name hn =>
    refine hlookup "type" (fun hv => ?_)
    rw [Members.string?, hv] at hn
    cases hn
  · split at h
    · next hu =>
      refine hlookup "anyOf" (fun hv => ?_)
      rw [Members.items?, hv] at hu
      simp at hu
    · cases h

section Parts

variable {members : Members} (hserve : calls.Serve root bound limit) (hroot : root.depth ≤ bound)
  (hd : (Json.object members).depth ≤ bound)
  (hroom : 4 * room root bound inFlight (.object members) ≤ limit)
include hserve hd hroom

include hroot in
theorem branchVia_eq {branch : Json} (hb : branch ∈ members.branches) :
    branchVia calls root inFlight branch = some (buildBranch root inFlight branch) := by
  have hbranch := depth_branch_lt hb
  have hless : room root bound inFlight branch < room root bound inFlight (.object members) :=
    room_lt (references_branch_subset hb) hbranch
  have hend := room_dereference_le inFlight hroot (show branch.depth ≤ bound by omega)
  have hnode : (dereference root inFlight branch).node.depth ≤ bound :=
    depth_dereference_le hroot (by omega)
  rw [branchVia, buildBranch]
  cases hn : (dereference root inFlight branch).node with
  | object found =>
    rw [hn] at hend hnode
    simp only [hserve.schemaBelow hroom (Nat.lt_of_le_of_lt hend hless) hnode,
      Option.bind_eq_bind, Option.bind_some, Option.pure_def]
  | _ => rfl

include hroot in
theorem unionVia_eq (name : Label) (description : Json) :
    unionVia calls root inFlight members name description =
      some (buildUnion root inFlight members name description) := by
  rw [unionVia, buildUnion_eq,
    mapM_of_forall (fun branch hb => branchVia_eq hserve hroot hd hroom hb)]
  rfl

theorem arrayVia_eq (hdepth : 0 < (Json.object members).depth) :
    arrayVia calls inFlight members = some (buildArray root inFlight members) := by
  have hempty : calls.schema inFlight (.object []) .generated .null = some ⟨unspecified, []⟩ := by
    have hless : room root bound inFlight (.object []) <
        room root bound inFlight (.object members) :=
      room_lt (fun _ hp => by simp [references, referencesOfMembers, Members.reference?] at hp)
        hdepth
    rw [hserve.schemaBelow hroom hless (Nat.zero_le _), buildSchema_of_members_nil rfl rfl]
  rw [arrayVia, buildArray_eq, buildItems]
  cases hv : members.lookup "items" with
  | none => simp only [hempty, Option.bind_eq_bind, Option.bind_some, Option.pure_def]
  | some value =>
    cases value with
    | object items =>
      have hless : room root bound inFlight (.object items) <
          room root bound inFlight (.object members) :=
        room_lt (references_lookup_members_subset hv) (depth_under_lt hv)
      have hitems := depth_under_lt hv
      simp only [hserve.schemaBelow hroom hless (show (Json.object items).depth ≤ bound by omega),
        Option.bind_eq_bind, Option.bind_some, Option.pure_def]
    | _ => simp only [hempty, Option.bind_eq_bind, Option.bind_some, Option.pure_def]

theorem objectVia_eq (name : Label) (description : Json) :
    objectVia calls inFlight members name description =
      some (buildObject root inFlight members name description) := by
  have hfield : ∀ property ∈ members.properties,
      fieldVia calls inFlight members.requiredNames property =
        some (buildField root inFlight members.requiredNames property) := by
    intro property hp
    have hproperty := depth_property_lt hp
    have hless : room root bound inFlight property.2 < room root bound inFlight (.object members) :=
      room_lt (references_property_subset hp) hproperty
    rw [fieldVia, hserve.slotBelow hroom hless (by omega)]
    rfl
  rw [objectVia, buildObject_eq, mapM_of_forall hfield]
  rfl

include hroot in
theorem declaredVia_eq (name : Label) (description : Json) :
    declaredVia calls root inFlight members name description =
      some (buildDeclared root inFlight members name description) := by
  have hobject := objectVia_eq hserve hd hroom name description
  rw [declaredVia, buildDeclared, hobject]
  cases ht : members.declaredType with
  | none => rcases narrowing members name description with ⟨_ | narrowed, trace⟩ <;> rfl
  | some type =>
    cases type with
    | array => exact arrayVia_eq hserve hd hroom (depth_pos_of_declaredType ht)
    | anyOf => exact unionVia_eq hserve hroot hd hroom name description
    | null => rcases narrowing members name description with ⟨_ | narrowed, trace⟩ <;> rfl
    | _ => rfl

end Parts

/-! ## The schema of a node -/

theorem depth_withType_le (members : Members) {types : List String} {type : String}
    (ht : members.typeList? = some types) :
    (Json.object (members.withType type)).depth ≤ (Json.object members).depth := by
  obtain ⟨items, hv, _⟩ := typeList?_lookup ht
  have hpos := depth_under_lt hv
  refine depth_overlay_le (Nat.le_refl _) (depth_object_le.mpr (fun member hm => ?_))
  rw [List.mem_singleton.mp hm]
  exact Nat.lt_of_le_of_lt (Nat.zero_le _) hpos

theorem schemaBudget_of_typeList?_none {members : Members} (ht : members.typeList? = none) :
    schemaBudget root bound inFlight (.object members) =
      4 * room root bound inFlight (.object members) + 1 := by
  have htypes : (Json.object members).members.typeList? = none := ht
  rw [schemaBudget, htypes]
  rfl

/-- A node with a single type in the place of its type list takes no more than one call. -/
theorem schemaBudget_withType_le (members : Members) {types : List String} (type : String)
    (ht : members.typeList? = some types) :
    schemaBudget root bound inFlight (.object (members.withType type)) ≤
      4 * room root bound inFlight (.object members) + 1 := by
  have hroom : room root bound inFlight (.object (members.withType type)) ≤
      room root bound inFlight (.object members) :=
    room_le (references_withType_subset members type) (depth_withType_le members ht)
  rw [schemaBudget_of_typeList?_none (Members.typeList?_withType members type)]
  omega

theorem nodeVia_eq {members : Members} (hserve : calls.Serve root bound limit)
    (hroot : root.depth ≤ bound) (hd : (Json.object members).depth ≤ bound)
    (hroom : 4 * room root bound inFlight (.object members) ≤ limit)
    (htyped : members.typeList?.isSome →
      4 * room root bound inFlight (.object members) + 1 ≤ limit)
    (name : Label) (description : Json) :
    nodeVia calls root inFlight members name description =
      some (buildNode root inFlight members name description) := by
  have hcall : ∀ types, members.typeList? = some types → ∀ type name description,
      calls.schema inFlight (.object (members.withType type)) name description =
        some (buildSchema root inFlight (.object (members.withType type)) name description) := by
    intro types ht type name description
    refine hserve.schema _ _ _ _ (Nat.le_trans (depth_withType_le members ht) hd) ?_
    exact Nat.le_trans (schemaBudget_withType_le members type ht) (htyped (by rw [ht]; rfl))
  rw [nodeVia, buildNode_eq]
  cases ht : members.typeList? with
  | none => exact declaredVia_eq hserve hroot hd hroom name description
  | some types =>
    simp only
    cases hc : Members.concreteTypes types with
    | nil => exact objectVia_eq hserve hd hroom name description
    | cons first others =>
      cases others with
      | nil => exact hcall types ht first name description
      | cons second others =>
        simp only [mapM_of_forall (fun type _ => hcall types ht type .generated description)]
        rfl

theorem depth_members_le (value : Json) : (Json.object value.members).depth ≤ value.depth := by
  cases value with
  | object members => exact Nat.le_refl _
  | _ => exact Nat.zero_le _

/-- With calls for all that is below the limit, the schema of a node is answered at the limit. -/
theorem schemaVia_eq (hserve : calls.Serve root bound limit) (hroot : root.depth ≤ bound)
    {node : Json} (hnode : node.depth ≤ bound)
    (hbudget : schemaBudget root bound inFlight node ≤ limit + 1) (name : Label)
    (description : Json) :
    schemaVia calls root inFlight node name description =
      some (buildSchema root inFlight node name description) := by
  have hend : (dereference root inFlight node).node.depth ≤ bound :=
    depth_dereference_le hroot hnode
  have hmembers : room root bound ((dereference root inFlight node).followed ++ inFlight)
      (.object (dereference root inFlight node).node.members) ≤
        room root bound ((dereference root inFlight node).followed ++ inFlight)
          (dereference root inFlight node).node :=
    room_le (references_members_subset _) (depth_members_le _)
  unfold schemaBudget at hbudget
  have hvia : ∀ name description,
      nodeVia calls root ((dereference root inFlight node).followed ++ inFlight)
        (dereference root inFlight node).node.members name description =
      some (buildNode root ((dereference root inFlight node).followed ++ inFlight)
        (dereference root inFlight node).node.members name description) := by
    rcases room_dereference inFlight hroot hnode with ⟨hf, hn⟩ | hlt
    · rw [hf, hn, List.nil_append] at hmembers ⊢
      refine nodeVia_eq hserve hroot (Nat.le_trans (depth_members_le _) hnode) ?_ (fun ht => ?_)
      · split at hbudget <;> omega
      · rw [if_pos ht] at hbudget
        omega
    · -- A pointer that was followed leaves room for all calls on one node.
      have hroom : 4 * room root bound ((dereference root inFlight node).followed ++ inFlight)
          (.object (dereference root inFlight node).node.members) + 1 ≤ limit := by
        split at hbudget <;> omega
      exact nodeVia_eq hserve hroot (Nat.le_trans (depth_members_le _) hend) (by omega)
        (fun _ => hroom)
  rw [schemaVia, buildSchema_eq]
  simp only [hvia, Option.bind_eq_bind, Option.bind_some, Option.pure_def]

/-! ## The slot of a node -/

theorem typedSlotVia_eq {members : Members} (hserve : calls.Serve root bound limit)
    (hroot : root.depth ≤ bound) (hd : (Json.object members).depth ≤ bound)
    (hbudget : schemaBudget root bound inFlight (.object members) ≤ limit) (name : Json)
    (required : Bool) (description : Json) :
    typedSlotVia calls root inFlight members name required description =
      some (buildTypedSlot root inFlight members name required description) := by
  have hroom : 4 * room root bound inFlight (.object members) ≤ limit :=
    Nat.le_trans (Nat.le_add_right _ _) hbudget
  have hschema := hserve.schema inFlight (.object members) .generated .null hd hbudget
  rw [typedSlotVia, buildTypedSlot, hschema]
  cases ht : members.declaredType with
  | none =>
    cases members.lookup "enum" with
    | none => cases members.lookup "const" <;> rfl
    | some values => cases members.lookup "const" <;> rfl
  | some type =>
    cases type with
    | array =>
      simp only [arrayVia_eq hserve hd hroom (depth_pos_of_declaredType ht), Option.bind_eq_bind,
        Option.bind_some, Option.pure_def]
    | anyOf =>
      simp only [unionVia_eq hserve hroot hd hroom, Option.bind_eq_bind, Option.bind_some,
        Option.pure_def]
    | _ => rfl

theorem collapsedSlotVia_eq {members : Members} (hserve : calls.Serve root bound limit)
    (hd : (Json.object members).depth ≤ bound)
    (hroom : 4 * room root bound inFlight (.object members) + 3 ≤ limit) (name : Json)
    (required : Bool) (description : Json) :
    collapsedSlotVia calls root inFlight members name required description =
      some (buildCollapsedSlot root inFlight members name required description) := by
  rw [collapsedSlotVia, buildCollapsedSlot]
  cases hb : members.branches.find? (isConcreteBranch root inFlight) with
  | some branch =>
    have hbranch := List.mem_of_find?_eq_some hb
    have hdepth := depth_branch_lt hbranch
    have hless : room root bound inFlight branch < room root bound inFlight (.object members) :=
      room_lt (references_branch_subset hbranch) hdepth
    exact hserve.slotBelow (by omega) hless (by omega) name _ description
  | none =>
    -- The room may stay the same here, but the rest is no union and saves a call.
    have hrest : room root bound inFlight (.object (members.erase "anyOf")) ≤
        room root bound inFlight (.object members) :=
      room_le (references_erase_subset (by decide)) (depth_erase_le members "anyOf")
    have hbudget : slotBudget root bound inFlight (.object (members.erase "anyOf")) ≤ limit := by
      have hunion : (Json.object (members.erase "anyOf")).members.isUntypedUnion = false :=
        Members.isUntypedUnion_erase members
      rw [slotBudget, hunion]
      simp only [Bool.false_eq_true, if_false]
      omega
    simp only
    split
    · rfl
    · exact hserve.slot _ _ _ _ _ (Nat.le_trans (depth_erase_le members "anyOf") hd) hbudget

theorem reducedSlotVia_eq {members : Members} (hserve : calls.Serve root bound limit)
    (hroot : root.depth ≤ bound) (hd : (Json.object members).depth ≤ bound)
    (hroom : 4 * room root bound inFlight (.object members) + 2 ≤ limit)
    (hunion : members.isUntypedUnion = true →
      4 * room root bound inFlight (.object members) + 3 ≤ limit)
    (name : Json) (required : Bool) (description : Json) :
    reducedSlotVia calls root inFlight members name required description =
      some (buildReducedSlot root inFlight members name required description) := by
  rw [reducedSlotVia, buildReducedSlot_eq]
  cases ht : members.typeList? with
  | some types =>
    simp only
    cases hc : Members.concreteTypes types with
    | nil => rfl
    | cons type others =>
      have hbudget : schemaBudget root bound inFlight (.object (members.withType type)) ≤ limit :=
        Nat.le_trans (schemaBudget_withType_le members type ht) (by omega)
      exact typedSlotVia_eq hserve hroot (Nat.le_trans (depth_withType_le members ht) hd) hbudget
        name _ description
  | none =>
    simp only
    split
    · next hu =>
      simp only [collapsedSlotVia_eq hserve hd (hunion hu), Option.bind_eq_bind, Option.bind_some,
        Option.pure_def]
    · have hbudget : schemaBudget root bound inFlight (.object members) ≤ limit := by
        rw [schemaBudget_of_typeList?_none ht]
        omega
      exact typedSlotVia_eq hserve hroot hd hbudget name required description

/-- With calls for all that is below the limit, the slot of a node is answered at the limit. -/
theorem slotVia_eq (hserve : calls.Serve root bound limit) (hroot : root.depth ≤ bound)
    {node : Json} (hnode : node.depth ≤ bound)
    (hbudget : slotBudget root bound inFlight node ≤ limit + 1) (name : Json) (required : Bool)
    (description : Json) :
    slotVia calls root inFlight node name required description =
      some (buildSlot root inFlight node name required description) := by
  unfold slotBudget at hbudget
  have hend : (dereference root inFlight node).node.depth ≤ bound :=
    depth_dereference_le hroot hnode
  have hvia : ∀ members, (dereference root inFlight node).node = .object members →
      ∀ description, reducedSlotVia calls root
          ((dereference root inFlight node).followed ++ inFlight) members name required
          description =
        some (buildReducedSlot root ((dereference root inFlight node).followed ++ inFlight) members
          name required description) := by
    intro members hm description
    rcases room_dereference inFlight hroot hnode with ⟨hf, hn⟩ | hlt
    · -- Without a step of the chain, the budget of the node has to do.
      rw [hn] at hm
      subst hm
      rw [hf, List.nil_append]
      refine reducedSlotVia_eq hserve hroot hnode ?_ (fun hu => ?_) name required description
      · split at hbudget <;> omega
      · have hunion : (Json.object members).members.isUntypedUnion = true := hu
        rw [if_pos hunion] at hbudget
        omega
    · rw [hm] at hlt hend
      have hroom : 4 * room root bound ((dereference root inFlight node).followed ++ inFlight)
          (.object members) + 3 ≤ limit := by
        split at hbudget <;> omega
      exact reducedSlotVia_eq hserve hroot hend (by omega) (fun _ => hroom) name required
        description
  rw [slotVia, buildSlot_eq]
  cases hn : (dereference root inFlight node).node with
  | object members =>
    simp only [hvia members hn, Option.bind_eq_bind, Option.bind_some, Option.pure_def]
  | _ => rfl

/-! ## Every call -/

/-- With at most `limit` nested calls, all that takes no more than `limit` calls is answered. -/
theorem serve_callsWithin (hroot : root.depth ≤ bound) : ∀ limit : Nat,
    (callsWithin root limit).Serve root bound limit
  | 0 => by
    -- No budget is zero.
    constructor
    · intro inFlight node name description _ hbudget
      unfold schemaBudget at hbudget
      split at hbudget <;> omega
    · intro inFlight node name required description _ hbudget
      unfold slotBudget at hbudget
      split at hbudget <;> omega
  | limit + 1 => by
    have hserve := serve_callsWithin hroot limit
    constructor
    · intro inFlight node name description hnode hbudget
      exact schemaVia_eq hserve hroot hnode hbudget name description
    · intro inFlight node name required description hnode hbudget
      exact slotVia_eq hserve hroot hnode hbudget name required description

/-- A limit to nested calls: one for each pointer to follow and each depth. -/
def callBound (root : Json) (inFlight : List String) (value : Json) : Nat :=
  (pending inFlight (root.references ++ value.references) + 1) * (max value.depth root.depth + 1)

/-- With enough nested calls every node is answered. -/
theorem answers_callsWithin {node : Json} {limit : Nat}
    (hlimit : 4 * callBound root inFlight node ≤ limit) :
    (∀ name description, (callsWithin root limit).schema inFlight node name description =
      some (buildSchema root inFlight node name description)) ∧
    ∀ name required description,
      (callsWithin root limit).slot inFlight node name required description =
        some (buildSlot root inFlight node name required description) := by
  have hnode : node.depth ≤ max node.depth root.depth := Nat.le_max_left _ _
  have hroom : room root (max node.depth root.depth) inFlight node <
    callBound root inFlight node := room_lt_mul hnode
  have hserve := serve_callsWithin (Nat.le_max_right node.depth root.depth) limit
  constructor
  · intro name description
    have hbudget := schemaBudget_le root (max node.depth root.depth) inFlight node
    exact hserve.schema inFlight node name description hnode (by omega)
  · intro name required description
    have hbudget := slotBudget_le root (max node.depth root.depth) inFlight node
    exact hserve.slot inFlight node name required description hnode (by omega)

/--
**Every document comes to an end, within bounds.** A chain follows each local pointer once at most,
and none that is in flight. A resolution nests no more calls than there are pointers to follow, and
none, each down to the greatest depth. A conversion nests at most four times as many.
-/
theorem nested_calls_bounded (root value : Json) (inFlight : List String) :
    ((dereference root inFlight value).followed.length ≤
        pending inFlight (root.references ++ value.references) ∧
      (dereference root inFlight value).followed.Nodup ∧
      ∀ pointer ∈ (dereference root inFlight value).followed,
        pointer ∉ inFlight ∧ pointer.toList.head? = some '#') ∧
    resolveWithin root (callBound root inFlight value) inFlight value =
      some (resolveFrom root inFlight value) ∧
    (∀ name description,
      (callsWithin root (4 * callBound root inFlight value)).schema inFlight value name
          description =
        some (buildSchema root inFlight value name description)) ∧
    ∀ name required description,
      (callsWithin root (4 * callBound root inFlight value)).slot inFlight value name required
          description =
        some (buildSlot root inFlight value name required description) := by
  have hroot : root.depth ≤ max value.depth root.depth := Nat.le_max_right _ _
  have hvalue : value.depth ≤ max value.depth root.depth := Nat.le_max_left _ _
  have hroom : room root (max value.depth root.depth) inFlight value <
    callBound root inFlight value := room_lt_mul hvalue
  have hserve := serve_callsWithin hroot (4 * callBound root inFlight value)
  refine ⟨?_, ?_, fun name description => ?_, fun name required description => ?_⟩
  · obtain ⟨hnodup, hfollowed⟩ := followed_dereference root inFlight value
    refine ⟨length_followed_le root inFlight value, hnodup, fun pointer hp => ?_⟩
    exact ⟨(hfollowed pointer hp).2.1, head?_of_isLocal (hfollowed pointer hp).2.2⟩
  · exact resolveWithin_eq hroot _ inFlight value hvalue hroom
  · have hbudget := schemaBudget_le root (max value.depth root.depth) inFlight value
    exact hserve.schema inFlight value name description hvalue (by omega)
  · have hbudget := slotBudget_le root (max value.depth root.depth) inFlight value
    exact hserve.slot inFlight value name required description hvalue (by omega)

end Convert

end ToolSchema
