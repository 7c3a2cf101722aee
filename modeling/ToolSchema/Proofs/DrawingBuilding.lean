import ToolSchema.Proofs.Enumerating
import ToolSchema.Proofs.Erasure
import ToolSchema.Proofs.NestedBuilding

/-!
# Building while names are drawn

`buildSchema` leaves the names of nodes open. A program may draw them while it builds instead: the
name of a node right before what is below it, and now and then a name that no node gets, where a
node turns out to be a leaf. `Convert.drawingWithin` is such a conversion. It builds what
`buildSchema` and `buildSlot` build, with names in the open places that were drawn, each for one
place only.

* `Convert.follow_drawingWithin` — the drawing conversion builds what is built without names
* `Convert.generated_names_distinct` — no two nodes have the same drawn name
-/

namespace ToolSchema

namespace Convert

open Json

/-! ## The drawing builders -/

/-- The calls that a drawing conversion makes of itself. -/
structure DrawingCalls where
  schema : (inFlight : List String) → (node : Json) → (name : Label) → (description : Json) →
    Drawing (Traced (Schema NodeName))
  slot : (inFlight : List String) → (node name : Json) → (required : Bool) → (description : Json) →
    Drawing (Traced (Option (Slot (Schema NodeName))))

/-- Constants with a name that is drawn first, also where they turn out to be without names. -/
def drawingConstants (name : Label) (built : Traced (Schema Label)) :
    Drawing (Traced (Schema NodeName)) := do
  let name ← name.draw
  return built.map (Schema.map (fun _ => name))

/-- A slot of constants that are given a name. -/
def givenSlot (name : Json) (built : Traced (Option (Slot (Schema Label)))) :
    Traced (Option (Slot (Schema NodeName))) :=
  built.map (fun slot => slot.map (fun slot =>
    ⟨slot.description, slot.schema.map (fun _ => .given name), slot.isOptional⟩))

/-- The slot of a node of a primitive type: nothing is drawn for it. -/
def drawingLeafSlot (kind : Primitive) (members : Members) (name : Json) (required : Bool)
    (description : Json) : Drawing (Traced (Option (Slot (Schema NodeName)))) :=
  return givenSlot name (buildLeafSlot kind members name required description)

/-- The slot of a schema with names. -/
def drawnSlotOf (description : Json) (required : Bool) (schema : Schema NodeName) :
    Option (Slot (Schema NodeName)) :=
  some ⟨description, schema, !required⟩

section Bodies

variable (calls : DrawingCalls) (root : Json) (inFlight : List String)

def drawingBranch (branch : Json) : Drawing (Traced (Option (Schema NodeName))) :=
  let chain := dereference root inFlight branch
  match chain.node with
  | .object found => do
    let built ← calls.schema (chain.followed ++ inFlight) (.object found) .generated .null
    return (built.map some).after chain.notice
  | _ => return Traced.after chain.notice ⟨none, []⟩

def drawingUnion (members : Members) (name : Label) (description : Json) :
    Drawing (Traced (Schema NodeName)) := do
  let name ← name.draw
  let branches ← Drawing.all (drawingBranch calls root inFlight) members.branches
  return branches.map (fun branches => .union name description (branches.filterMap id))

def drawingArray (members : Members) : Drawing (Traced (Schema NodeName)) := do
  let items : Json :=
    match members.lookup "items" with
    | some (.object items) => .object items
    | _ => .object []
  let element ← calls.schema inFlight items .generated .null
  let bounds := arrayBounds members
  return ⟨.array element.value bounds.value.1 bounds.value.2, element.trace ++ bounds.trace⟩

def drawingField (required : List String) (property : String × Json) :
    Drawing (Traced (Option (Field (Schema NodeName)))) := do
  let slot ← calls.slot inFlight property.2 (.string property.1) (required.contains property.1)
    .null
  return slot.map (fun slot => slot.map (·.named property.1))

def drawingObject (members : Members) (name : Label) (description : Json) :
    Drawing (Traced (Schema NodeName)) := do
  let name ← name.draw
  let fields ← Drawing.all (drawingField calls inFlight members.requiredNames) members.properties
  return fields.map (fun fields => .object name description (fields.filterMap id))

/-- What a node without a type is built as, by the constants that it lists. -/
def drawingNarrowed (members : Members) (name : Label) (description : Json) :
    (narrowed : Traced (Option Narrowing)) → Drawing (Traced (Schema NodeName))
  | ⟨some narrowed, trace⟩ => drawingConstants name ⟨narrowed.schema, trace⟩
  | ⟨none, trace⟩ => do
    let built ← drawingObject calls inFlight members name description
    return ⟨built.value, trace ++ built.trace⟩

def drawingDeclared (members : Members) (name : Label) (description : Json) :
    Drawing (Traced (Schema NodeName)) :=
  match members.declaredType with
  | some .boolean => return ⟨.leaf .boolean none, []⟩
  | some .array => drawingArray calls inFlight members
  | some .integer => drawingConstants name (buildLeaf .integer members name description)
  | some .number => drawingConstants name (buildLeaf .number members name description)
  | some .string => drawingConstants name (buildLeaf .string members name description)
  | some .anyOf => drawingUnion calls root inFlight members name description
  | some .object => drawingObject calls inFlight members name description
  | some .null | none =>
    drawingNarrowed calls inFlight members name description (narrowing members name description)

def drawingNode (members : Members) (name : Label) (description : Json) :
    Drawing (Traced (Schema NodeName)) :=
  match members.typeList? with
  | some types =>
    match Members.concreteTypes types with
    | [] => drawingObject calls inFlight members name description
    | [type] => calls.schema inFlight (.object (members.withType type)) name description
    | first :: second :: others => do
      let name ← name.draw
      let branches ← Drawing.all (fun type =>
        calls.schema inFlight (.object (members.withType type)) .generated description)
          (first :: second :: others)
      return branches.map (.union name description)
  | none => drawingDeclared calls root inFlight members name description

/-- One call for the schema of a node, with `calls` for the calls that it makes. -/
def drawingSchema (node : Json) (name : Label) (description : Json) :
    Drawing (Traced (Schema NodeName)) := do
  let chain := dereference root inFlight node
  let built ← drawingNode calls root (chain.followed ++ inFlight) chain.node.members
    (titled chain.node.members name) (described chain.node.members description)
  return built.after chain.notice

def drawingTypedSlot (members : Members) (name : Json) (required : Bool) (description : Json) :
    Drawing (Traced (Option (Slot (Schema NodeName)))) :=
  match members.declaredType with
  | some .null => return ⟨none, []⟩
  | some .boolean => return ⟨drawnSlotOf description required (.leaf .boolean none), []⟩
  | some .object => do
    let built ← calls.schema inFlight (.object members) .generated .null
    return built.map (drawnSlotOf description required)
  | some .array => do
    let built ← drawingArray calls inFlight members
    return built.map (drawnSlotOf description required)
  | some .integer => drawingLeafSlot .integer members name required description
  | some .number => drawingLeafSlot .number members name required description
  | some .string => drawingLeafSlot .string members name required description
  | some .anyOf => do
    let built ← drawingUnion calls root inFlight members (.given name) description
    return built.map (drawnSlotOf description required)
  | none =>
    match members.lookup "enum", members.lookup "const" with
    | some values, _ =>
      return givenSlot name ((enumeration values (.given name) description).map (fun narrowed =>
        slotOf description narrowed.schema (required && !narrowed.admitsNull)))
    | none, some value =>
      return givenSlot name ((constant value).map (fun schema =>
        schema.bind (slotOf description · required)))
    | none, none => do
      let built ← calls.schema inFlight (.object members) .generated .null
      return built.map (drawnSlotOf description required)

def drawingCollapsedSlot (members : Members) (name : Json) (required : Bool) (description : Json) :
    Drawing (Traced (Option (Slot (Schema NodeName)))) :=
  match members.branches.find? (isConcreteBranch root inFlight) with
  | some branch =>
    calls.slot inFlight branch name (required && !anyNullBranch root inFlight members.branches)
      description
  | none =>
    if anyNullBranch root inFlight members.branches then return ⟨none, []⟩
    else calls.slot inFlight (.object (members.erase "anyOf")) name required description

def drawingReducedSlot (members : Members) (name : Json) (required : Bool) (description : Json) :
    Drawing (Traced (Option (Slot (Schema NodeName)))) :=
  match members.typeList? with
  | some types =>
    match Members.concreteTypes types with
    | [] => return ⟨none, []⟩
    | type :: _ =>
      drawingTypedSlot calls root inFlight (members.withType type) name
        (required && !types.contains "null") description
  | none =>
    if members.isUntypedUnion then do
      let built ← drawingCollapsedSlot calls root inFlight members name required description
      return ⟨built.value, branchNotices root inFlight members.branches ++ built.trace⟩
    else drawingTypedSlot calls root inFlight members name required description

/-- One call for the slot of a node, with `calls` for the calls that it makes. -/
def drawingSlot (node name : Json) (required : Bool) (description : Json) :
    Drawing (Traced (Option (Slot (Schema NodeName)))) :=
  let chain := dereference root inFlight node
  match chain.node with
  | .object members => do
    let built ← drawingReducedSlot calls root (chain.followed ++ inFlight) members name required
      (described members description)
    return built.after chain.notice
  | _ => return Traced.after chain.notice ⟨none, []⟩

end Bodies

/-- A drawing conversion with at most `limit` nested calls. -/
def drawingWithin (root : Json) : (limit : Nat) → DrawingCalls
  | 0 => ⟨fun _ _ _ _ => failure, fun _ _ _ _ _ => failure⟩
  | limit + 1 =>
    ⟨drawingSchema (drawingWithin root limit) root, drawingSlot (drawingWithin root limit) root⟩

/-! ## Constants -/

theorem ofConstants_enumeration (values : Json) (name : Label) (description : Json) :
    (enumeration values name description).value.schema.OfConstants name := by
  rw [enumeration_eq]
  refine .union description (fun branch hb => ?_)
  obtain hb | hb := List.mem_append.mp hb
  · obtain ⟨text, -, rfl⟩ := List.mem_map.mp hb
    exact ⟨_, _, rfl⟩
  · obtain ⟨value, -, hvalue⟩ := List.mem_filterMap.mp hb
    unfold scalarConstant? at hvalue
    split at hvalue <;> cases hvalue <;> exact ⟨_, _, rfl⟩

theorem ofConstants_constant {value : Json} {schema : Schema Label} (name : Label)
    (h : (constant value).value = some schema) : schema.OfConstants name := by
  unfold constant at h
  split at h <;> cases h <;> exact .leaf _ _

theorem ofConstants_narrowing {members : Members} {name : Label} {description : Json}
    {narrowed : Narrowing} (h : (narrowing members name description).value = some narrowed) :
    narrowed.schema.OfConstants name := by
  unfold narrowing at h
  split at h
  · cases h
    exact ofConstants_enumeration _ name description
  · split at h
    · obtain ⟨schema, hschema, rfl⟩ := Option.map_eq_some_iff.mp h
      exact ofConstants_constant name hschema
    · cases h

theorem ofConstants_apply {members : Members} {name : Label} {description : Json}
    (kind : Primitive) (required : Bool) :
    (Narrowing.apply (narrowing members name description).value (.leaf kind none)
      required).1.OfConstants name := by
  cases hn : (narrowing members name description).value with
  | none => exact .leaf kind none
  | some narrowed => exact ofConstants_narrowing hn

theorem builds_drawingConstants {name : Label} {built : Traced (Schema Label)}
    (h : built.value.OfConstants name) :
    Builds Erasure.schema (drawingConstants name built) built := by
  refine ⟨name.demand, name.draws_draw.map ?_⟩
  rintro drawn _ ⟨rfl, rfl⟩
  exact ⟨rfl, h.map_label, h.drawn_map⟩

theorem builds_givenSlot {name : Json} {built : Traced (Option (Slot (Schema Label)))}
    (h : ∀ slot, built.value = some slot → slot.schema.OfConstants (.given name)) :
    Builds Erasure.slot.option (pure (givenSlot name built)) built := by
  obtain ⟨_ | slot, trace⟩ := built
  · exact builds_pure rfl rfl rfl
  · have hslot : slot.schema.OfConstants (NodeName.given name).label := h slot rfl
    refine builds_pure rfl ?_ (List.sublist_nil.mp hslot.drawn_map)
    exact congrArg (fun schema => some (⟨slot.description, schema, slot.isOptional⟩ : Slot _))
      hslot.map_label

theorem builds_drawingLeafSlot (kind : Primitive) (members : Members) (name : Json)
    (required : Bool) (description : Json) :
    Builds Erasure.slot.option (drawingLeafSlot kind members name required description)
      (buildLeafSlot kind members name required description) := by
  refine builds_givenSlot (fun slot hslot => ?_)
  cases hslot
  exact ofConstants_apply kind required

/-- The slot of what is built with names. -/
theorem builds_drawnSlot {program : Drawing (Traced (Schema NodeName))}
    {built : Traced (Schema Label)}
    (h : Builds Erasure.schema program built) (description : Json) (required : Bool) :
    Builds Erasure.slot.option (do return (← program).map (drawnSlotOf description required))
      (built.map (slotOf description · required)) :=
  h.map (f := drawnSlotOf description required) (g := (slotOf description · required)) id
    (fun _ => rfl) (fun _ => rfl)

/-! ## What is built -/

/-- What is answered without names is built with names. -/
structure DrawingCalls.Follow (calls : DrawingCalls) (via : Calls) : Prop where
  schema : ∀ inFlight node name description traced,
    via.schema inFlight node name description = some traced →
      Builds Erasure.schema (calls.schema inFlight node name description) traced
  slot : ∀ inFlight node name required description traced,
    via.slot inFlight node name required description = some traced →
      Builds Erasure.slot.option (calls.slot inFlight node name required description) traced

section Follow

variable {calls : DrawingCalls} {via : Calls} {root : Json} {inFlight : List String}
  {members : Members} {built : Traced (Schema Label)}
  {slot : Traced (Option (Slot (Schema Label)))} (follow : calls.Follow via)
include follow

theorem builds_drawingBranch {branch : Json} {traced : Traced (Option (Schema Label))}
    (h : branchVia via root inFlight branch = some traced) :
    Builds Erasure.schema.option (drawingBranch calls root inFlight branch) traced := by
  rw [branchVia] at h
  rw [drawingBranch]
  cases hn : (dereference root inFlight branch).node with
  | object found =>
    simp only [hn] at h ⊢
    obtain ⟨inner, hinner, h⟩ := Option.bind_eq_some_iff.mp h
    cases h
    exact (follow.schema _ _ _ _ _ hinner).map
      (((dereference root inFlight branch).notice.map Mark.notice).toList ++ ·)
      (fun _ => rfl) (fun _ => rfl)
  | _ =>
    simp only [hn] at h ⊢
    cases h
    exact builds_pure rfl rfl rfl

theorem builds_drawingUnion {name : Label} {description : Json}
    (h : unionVia via root inFlight members name description = some built) :
    Builds Erasure.schema (drawingUnion calls root inFlight members name description) built := by
  obtain ⟨branches, hb, h⟩ := Option.bind_eq_some_iff.mp h
  cases h
  have hbranches := Builds.all (f := drawingBranch calls root inFlight)
    (fun branch _ _ h => builds_drawingBranch follow h) hb
  -- The union draws its name before its branches do, and those that are left out drew none.
  refine hbranches.titled name
    (f := fun name branches => Schema.union name description (branches.filterMap id))
    (g := fun name branches => Schema.union name description (branches.filterMap id))
    (fun name branches => ?_) (fun name branches => ?_)
  · refine congrArg (Schema.union name.label description) ?_
    rw [Schema.mapBranches_eq_map]
    exact Erasure.schema.erase_filterMap branches
  · rw [← Erasure.drawn_filterMap]
    exact Schema.drawn_union name description _

theorem builds_drawingArray (h : arrayVia via inFlight members = some built) :
    Builds Erasure.schema (drawingArray calls inFlight members) built := by
  obtain ⟨element, helement, h⟩ := Option.bind_eq_some_iff.mp h
  cases h
  exact (follow.schema _ _ _ _ _ helement).map
    (f := (Schema.array · (arrayBounds members).value.1 (arrayBounds members).value.2))
    (g := (Schema.array · (arrayBounds members).value.1 (arrayBounds members).value.2))
    (· ++ (arrayBounds members).trace) (fun _ => rfl) (fun _ => rfl)

theorem builds_drawingField {required : List String} {property : String × Json}
    {traced : Traced (Option (Field (Schema Label)))}
    (h : fieldVia via inFlight required property = some traced) :
    Builds Erasure.field.option (drawingField calls inFlight required property) traced := by
  obtain ⟨inner, hinner, h⟩ := Option.bind_eq_some_iff.mp h
  cases h
  refine (follow.slot _ _ _ _ _ _ hinner).map (f := Option.map (·.named property.1))
    (g := Option.map (·.named property.1)) id (fun slot => ?_) (fun slot => ?_)
  · cases slot <;> rfl
  · cases slot <;> rfl

theorem builds_drawingObject {name : Label} {description : Json}
    (h : objectVia via inFlight members name description = some built) :
    Builds Erasure.schema (drawingObject calls inFlight members name description) built := by
  obtain ⟨fields, hf, h⟩ := Option.bind_eq_some_iff.mp h
  cases h
  have hfields := Builds.all (fun property _ _ h => builds_drawingField follow h) hf
  refine hfields.titled name
    (f := fun name fields => Schema.object name description (fields.filterMap id))
    (g := fun name fields => Schema.object name description (fields.filterMap id))
    (fun name fields => ?_) (fun name fields => ?_)
  · refine congrArg (Schema.object name.label description) ?_
    rw [Schema.mapFields_eq_map]
    exact Erasure.field.erase_filterMap fields
  · rw [← Erasure.drawn_filterMap]
    exact Schema.drawn_object name description _

/-- A node without a type, or with null for one, is built by its constants or else as an object. -/
theorem builds_drawingNarrowed {name : Label} {description : Json}
    (ht : members.declaredType = none ∨ members.declaredType = some .null)
    (h : declaredVia via root inFlight members name description = some built) :
    Builds Erasure.schema (drawingNarrowed calls inFlight members name description
      (narrowing members name description)) built := by
  have hconstants : ∀ narrowed, (narrowing members name description).value = some narrowed →
      narrowed.schema.OfConstants name := fun _ hnarrowed => ofConstants_narrowing hnarrowed
  rw [declaredVia] at h
  rcases hn : narrowing members name description with ⟨_ | narrowed, trace⟩
  · have hobject : ∃ object, objectVia via inFlight members name description = some object ∧
        built = ⟨object.value, trace ++ object.trace⟩ := by
      rcases ht with ht | ht <;> rw [ht, hn] at h
      all_goals
        obtain ⟨object, hobject, h⟩ := Option.bind_eq_some_iff.mp h
        cases h
        exact ⟨object, hobject, rfl⟩
    obtain ⟨object, hobject, rfl⟩ := hobject
    exact (builds_drawingObject follow hobject).map (f := id) (g := id) (trace ++ ·)
      (fun _ => rfl) (fun _ => rfl)
  · -- The name is drawn all the same where the constant is a leaf.
    rw [hn] at hconstants
    rcases ht with ht | ht <;> rw [ht, hn] at h
    all_goals
      cases h
      exact builds_drawingConstants (hconstants narrowed rfl)

theorem builds_drawingDeclared {name : Label} {description : Json}
    (h : declaredVia via root inFlight members name description = some built) :
    Builds Erasure.schema (drawingDeclared calls root inFlight members name description) built := by
  have hnarrowed := fun ht => builds_drawingNarrowed follow ht h
  rw [declaredVia] at h
  rw [drawingDeclared]
  cases ht : members.declaredType with
  | none => exact hnarrowed (.inl ht)
  | some type =>
    rw [ht] at h
    cases type with
    | null => exact hnarrowed (.inr ht)
    | array => exact builds_drawingArray follow h
    | anyOf => exact builds_drawingUnion follow h
    | object => exact builds_drawingObject follow h
    | boolean =>
      cases h
      exact builds_pure rfl rfl rfl
    | _ =>
      cases h
      exact builds_drawingConstants (ofConstants_apply _ _)

theorem builds_drawingNode {name : Label} {description : Json}
    (h : nodeVia via root inFlight members name description = some built) :
    Builds Erasure.schema (drawingNode calls root inFlight members name description) built := by
  rw [nodeVia] at h
  rw [drawingNode]
  cases ht : members.typeList? with
  | none =>
    rw [ht] at h
    exact builds_drawingDeclared follow h
  | some types =>
    simp only [ht] at h ⊢
    rcases hc : Members.concreteTypes types with _ | ⟨first, _ | ⟨second, others⟩⟩
    · rw [hc] at h
      exact builds_drawingObject follow h
    · rw [hc] at h
      exact follow.schema _ _ _ _ _ h
    · rw [hc] at h
      obtain ⟨branches, hb, h⟩ := Option.bind_eq_some_iff.mp h
      cases h
      have hbranches := Builds.all (fun type _ _ h => follow.schema _ _ _ _ _ h) hb
      refine hbranches.titled name (f := fun name => Schema.union name description)
        (g := fun name => Schema.union name description) (fun name branches => ?_)
        (fun name branches => Schema.drawn_union name description branches)
      exact congrArg (Schema.union name.label description) (Schema.mapBranches_eq_map _ _)

theorem builds_drawingSchema {node : Json} {name : Label} {description : Json}
    (h : schemaVia via root inFlight node name description = some built) :
    Builds Erasure.schema (drawingSchema calls root inFlight node name description) built := by
  obtain ⟨inner, hinner, h⟩ := Option.bind_eq_some_iff.mp h
  cases h
  exact (builds_drawingNode follow hinner).after _

theorem builds_drawingTypedSlot {name : Json} {required : Bool} {description : Json}
    (h : typedSlotVia via root inFlight members name required description = some slot) :
    Builds Erasure.slot.option
      (drawingTypedSlot calls root inFlight members name required description) slot := by
  rw [typedSlotVia] at h
  rw [drawingTypedSlot]
  cases ht : members.declaredType with
  | none =>
    simp only [ht] at h ⊢
    rcases he : members.lookup "enum" with _ | values <;> rw [he] at h
    · rcases hc : members.lookup "const" with _ | value <;> rw [hc] at h
      · obtain ⟨inner, hinner, h⟩ := Option.bind_eq_some_iff.mp h
        cases h
        exact builds_drawnSlot (follow.schema _ _ _ _ _ hinner) description required
      · cases h
        refine builds_givenSlot (fun slot hslot => ?_)
        obtain ⟨schema, hschema, hslot⟩ := Option.bind_eq_some_iff.mp hslot
        cases hslot
        exact ofConstants_constant _ hschema
    · cases h
      refine builds_givenSlot (fun slot hslot => ?_)
      cases hslot
      exact ofConstants_enumeration values _ description
  | some type =>
    rw [ht] at h
    cases type with
    | null =>
      cases h
      exact builds_pure rfl rfl rfl
    | boolean =>
      cases h
      exact builds_pure rfl rfl rfl
    | object =>
      obtain ⟨inner, hinner, h⟩ := Option.bind_eq_some_iff.mp h
      cases h
      exact builds_drawnSlot (follow.schema _ _ _ _ _ hinner) description required
    | array =>
      obtain ⟨inner, hinner, h⟩ := Option.bind_eq_some_iff.mp h
      cases h
      exact builds_drawnSlot (builds_drawingArray follow hinner) description required
    | anyOf =>
      obtain ⟨inner, hinner, h⟩ := Option.bind_eq_some_iff.mp h
      cases h
      exact builds_drawnSlot (builds_drawingUnion follow hinner) description required
    | _ =>
      cases h
      exact builds_drawingLeafSlot _ _ _ _ _

theorem builds_drawingCollapsedSlot {name : Json} {required : Bool} {description : Json}
    (h : collapsedSlotVia via root inFlight members name required description = some slot) :
    Builds Erasure.slot.option
      (drawingCollapsedSlot calls root inFlight members name required description) slot := by
  rw [collapsedSlotVia] at h
  rw [drawingCollapsedSlot]
  cases hb : members.branches.find? (isConcreteBranch root inFlight) with
  | some branch =>
    rw [hb] at h
    exact follow.slot _ _ _ _ _ _ h
  | none =>
    simp only [hb] at h ⊢
    split at h
    · next hnull =>
      cases h
      rw [if_pos hnull]
      exact builds_pure rfl rfl rfl
    · next hnull =>
      rw [if_neg hnull]
      exact follow.slot _ _ _ _ _ _ h

theorem builds_drawingReducedSlot {name : Json} {required : Bool} {description : Json}
    (h : reducedSlotVia via root inFlight members name required description = some slot) :
    Builds Erasure.slot.option
      (drawingReducedSlot calls root inFlight members name required description) slot := by
  rw [reducedSlotVia] at h
  rw [drawingReducedSlot]
  cases ht : members.typeList? with
  | some types =>
    simp only [ht] at h ⊢
    cases hc : Members.concreteTypes types with
    | nil =>
      rw [hc] at h
      cases h
      exact builds_pure rfl rfl rfl
    | cons type others =>
      rw [hc] at h
      exact builds_drawingTypedSlot follow h
  | none =>
    simp only [ht] at h ⊢
    split at h
    · next hu =>
      obtain ⟨inner, hinner, h⟩ := Option.bind_eq_some_iff.mp h
      cases h
      rw [if_pos hu]
      exact (builds_drawingCollapsedSlot follow hinner).map (f := id) (g := id)
        (branchNotices root inFlight members.branches ++ ·) (fun _ => rfl) (fun _ => rfl)
    · next hu =>
      rw [if_neg hu]
      exact builds_drawingTypedSlot follow h

theorem builds_drawingSlot {node name : Json} {required : Bool} {description : Json}
    (h : slotVia via root inFlight node name required description = some slot) :
    Builds Erasure.slot.option
      (drawingSlot calls root inFlight node name required description) slot := by
  rw [slotVia] at h
  rw [drawingSlot]
  cases hn : (dereference root inFlight node).node with
  | object members =>
    simp only [hn] at h ⊢
    obtain ⟨inner, hinner, h⟩ := Option.bind_eq_some_iff.mp h
    cases h
    exact (builds_drawingReducedSlot follow hinner).after _
  | _ =>
    simp only [hn] at h ⊢
    cases h
    exact builds_pure rfl rfl rfl

end Follow

/-- At every depth, a drawing conversion builds what the conversion of that depth answers. -/
theorem follow_drawingWithin (root : Json) : (limit : Nat) →
    (drawingWithin root limit).Follow (callsWithin root limit)
  | 0 => { schema := fun _ _ _ _ _ h => (nomatch h), slot := fun _ _ _ _ _ _ h => (nomatch h) }
  | limit + 1 =>
    have follow := follow_drawingWithin root limit
    ⟨fun _ _ _ _ _ h => builds_drawingSchema follow h,
      fun _ _ _ _ _ _ h => builds_drawingSlot follow h⟩

/-- **A drawing conversion builds what the definitions say**, where calls may be nested enough. -/
theorem builds_drawingWithin (root : Json) {inFlight : List String} {node : Json} {limit : Nat}
    (hlimit : 4 * callBound root inFlight node ≤ limit) :
    (∀ name description, Builds Erasure.schema
      ((drawingWithin root limit).schema inFlight node name description)
      (buildSchema root inFlight node name description)) ∧
    ∀ name required description, Builds Erasure.slot.option
      ((drawingWithin root limit).slot inFlight node name required description)
      (buildSlot root inFlight node name required description) := by
  obtain ⟨hschema, hslot⟩ := answers_callsWithin hlimit
  have follow := follow_drawingWithin root limit
  exact ⟨fun name description => follow.schema _ _ _ _ _ (hschema name description),
    fun name required description => follow.slot _ _ _ _ _ _ (hslot name required description)⟩

/--
**No two nodes have the same generated name.** A supply hands out the first occurrences of its
candidates, in order. A conversion that draws names while it builds needs some number of different
candidates, whichever they are and however often they are repeated. It builds with them what is
built without names, each open place with a drawn name of its own. The same holds where the names
are drawn afterwards, for the nodes that still have none.
-/
theorem generated_names_distinct (root node : Json) {limit : Nat}
    (hlimit : 4 * callBound root [] node ≤ limit) :
    (∀ (candidates : List String) (count : Nat),
      ((Supply.ofCandidates candidates).drawMany? count).map Prod.fst =
        if count ≤ candidates.eraseDups.length then some (candidates.eraseDups.take count)
        else none) ∧
    (∀ name description, BuildsApart Erasure.schema
      ((drawingWithin root limit).schema [] node name description)
      (buildSchema root [] node name description)) ∧
    (∀ name required description, BuildsApart Erasure.slot.option
      ((drawingWithin root limit).slot [] node name required description)
      (buildSlot root [] node name required description)) ∧
    ∀ (schema : Schema Label) (candidates : List String),
      schema.names.count .generated ≤ candidates.eraseDups.length →
        ∃ (tree : Schema NodeName) (rest : Supply),
          schema.nameFrom (.ofCandidates candidates) = some (tree.map NodeName.toJson, rest) ∧
          tree.map NodeName.label = schema ∧ tree.drawn.Nodup ∧
          tree.drawn = candidates.eraseDups.take (schema.names.count .generated) := by
  obtain ⟨hschema, hslot⟩ := builds_drawingWithin root hlimit
  refine ⟨Supply.map_drawMany?, fun name description => (hschema name description).apart,
    fun name required description => (hslot name required description).apart, ?_⟩
  intro schema candidates hleft
  rw [← Supply.fresh_ofCandidates] at hleft ⊢
  -- Names that are drawn afterwards are all for nodes, so none of them is passed over.
  obtain ⟨_, rest, hnamed, -, tree, hlabel, rfl, hdrawn⟩ := schema.draws_nameFrom.enough _ hleft
  refine ⟨tree, rest, hnamed, hlabel, ?_, hdrawn⟩
  rw [hdrawn]
  exact (List.take_sublist _ _).nodup (Supply.nodup_fresh _)

/-- Both sides of a crate are built from one definition; the number of a load is a leaf. -/
def crate : Json :=
  .object [
    ("definitions", .object [("side", .object [("type", .string "object")])]),
    ("properties", .object [
      ("left", .object [("$ref", .string "#/definitions/side")]),
      ("loads", .object [("type", .string "array"),
        ("items", .object [("type", .string "integer")])]),
      ("right", .object [("$ref", .string "#/definitions/side")])])]

/-- The third name that is drawn is for a load, and no node gets it. -/
theorem generated_names_distinct_crate :
    4 * callBound crate [] crate ≤ 60 ∧ ∃ tree rest,
      (drawingWithin crate 60).schema [] crate .generated .null
        (.ofCandidates ["a", "a", "b", "a", "c", "d", "b"]) = some (tree, rest) ∧
      tree.value.map NodeName.label = (buildSchema crate [] crate .generated .null).value ∧
      tree.value.drawn.Nodup ∧ tree.value.drawn = ["a", "b", "d"] := by
  have hlimit : 4 * callBound crate [] crate ≤ 60 := by decide
  have hdrawn : ((drawingWithin crate 60).schema [] crate .generated .null
      (.ofCandidates ["a", "a", "b", "a", "c", "d", "b"])).map (·.1.value.drawn) =
        some ["a", "b", "d"] := by
    decide +kernel
  obtain ⟨-, hschema, -, -⟩ := generated_names_distinct crate crate hlimit
  obtain ⟨count, hbuilds⟩ := hschema .generated .null
  obtain ⟨henough, hshort⟩ := hbuilds ["a", "a", "b", "a", "c", "d", "b"]
  -- With too few candidates the program would give none, and it gives a tree.
  have hcount : count ≤ ["a", "a", "b", "a", "c", "d", "b"].eraseDups.length := by
    refine Nat.le_of_not_lt (fun hless => ?_)
    rw [hshort hless] at hdrawn
    cases hdrawn
  obtain ⟨tree, rest, htree, -, hlabel, hnodup, -, -⟩ := henough hcount
  rw [htree] at hdrawn
  exact ⟨hlimit, tree, rest, htree, hlabel, hnodup, Option.some.inj hdrawn⟩

end Convert

end ToolSchema
