import ToolSchema.Proofs.NestedBuilding
import ToolSchema.Proofs.Stateful

/-!
# Building with the pointers in flight as a state

The builders of a conversion as programs that share one set of pointers in flight
(`Convert.statefulWithin`). Each of them leaves the set as it was (`keeps_statefulWithin`), also
where a value that no schema can hold stops it. Where calls may be nested deeply enough, they do
what `buildSchema` and `buildSlot` say (`performs_statefulWithin`).
-/

namespace ToolSchema

namespace Convert

open Json Stateful

/-- The calls that a stateful conversion makes of itself. -/
structure StatefulCalls where
  schema : (node : Json) → (name : Label) → (description : Json) → Stateful (Schema Label)
  slot : (node name : Json) → (required : Bool) → (description : Json) →
    Stateful (Option (Slot (Schema Label)))

section Bodies

variable (calls : StatefulCalls) (root : Json)

def statefulBranch (branch : Json) : Stateful (Option (Schema Label)) :=
  dereferenced root branch (fun node =>
    match node with
    | .object found => do return some (← calls.schema (.object found) .generated .null)
    | _ => pure none)

def statefulUnion (members : Members) (name : Label) (description : Json) :
    Stateful (Schema Label) := do
  let branches ← members.branches.mapM (statefulBranch calls root)
  return .union name description (branches.filterMap id)

def statefulArray (members : Members) : Stateful (Schema Label) := do
  let items : Json :=
    match members.lookup "items" with
    | some (.object items) => .object items
    | _ => .object []
  let element ← calls.schema items .generated .null
  let bounds ← perform (arrayBounds members)
  return .array element bounds.1 bounds.2

def statefulField (required : List String) (property : String × Json) :
    Stateful (Option (Field (Schema Label))) := do
  let slot ← calls.slot property.2 (.string property.1) (required.contains property.1) .null
  return slot.map (·.named property.1)

def statefulObject (members : Members) (name : Label) (description : Json) :
    Stateful (Schema Label) := do
  let fields ← members.properties.mapM (statefulField calls members.requiredNames)
  return .object name description (fields.filterMap id)

/-- What a node without a type is built as, by the constants that it lists. -/
def statefulNarrowed (members : Members) (name : Label) (description : Json) :
    (narrowed : Option Narrowing) → Stateful (Schema Label)
  | some narrowed => return narrowed.schema
  | none => statefulObject calls members name description

def statefulDeclared (members : Members) (name : Label) (description : Json) :
    Stateful (Schema Label) :=
  match members.declaredType with
  | some .boolean => pure (.leaf .boolean none)
  | some .array => statefulArray calls members
  | some .integer => perform (buildLeaf .integer members name description)
  | some .number => perform (buildLeaf .number members name description)
  | some .string => perform (buildLeaf .string members name description)
  | some .anyOf => statefulUnion calls root members name description
  | some .object => statefulObject calls members name description
  | some .null | none => do
    statefulNarrowed calls members name description
      (← perform (narrowing members name description))

def statefulNode (members : Members) (name : Label) (description : Json) :
    Stateful (Schema Label) :=
  match members.typeList? with
  | some types =>
    match Members.concreteTypes types with
    | [] => statefulObject calls members name description
    | [type] => calls.schema (.object (members.withType type)) name description
    | first :: second :: others => do
      let branches ← (first :: second :: others).mapM (fun type =>
        calls.schema (.object (members.withType type)) .generated description)
      return .union name description branches
  | none => statefulDeclared calls root members name description

/-- One call for the schema of a node, with `calls` for the calls that it makes. -/
def statefulSchema (node : Json) (name : Label) (description : Json) : Stateful (Schema Label) :=
  dereferenced root node (fun node =>
    statefulNode calls root node.members (titled node.members name)
      (described node.members description))

def statefulTypedSlot (members : Members) (name : Json) (required : Bool) (description : Json) :
    Stateful (Option (Slot (Schema Label))) :=
  match members.declaredType with
  | some .null => pure none
  | some .boolean => pure (slotOf description (.leaf .boolean none) required)
  | some .object => do
    return slotOf description (← calls.schema (.object members) .generated .null) required
  | some .array => do return slotOf description (← statefulArray calls members) required
  | some .integer => perform (buildLeafSlot .integer members name required description)
  | some .number => perform (buildLeafSlot .number members name required description)
  | some .string => perform (buildLeafSlot .string members name required description)
  | some .anyOf => do
    return slotOf description (← statefulUnion calls root members (.given name) description)
      required
  | none =>
    match members.lookup "enum", members.lookup "const" with
    | some values, _ => do
      let narrowed ← perform (enumeration values (.given name) description)
      return slotOf description narrowed.schema (required && !narrowed.admitsNull)
    | none, some value => do
      return (← perform (constant value)).bind (slotOf description · required)
    | none, none => do
      return slotOf description (← calls.schema (.object members) .generated .null) required

/-- The slot of a union that is collapsed to one of its branches: the types of the branches are
read, and reported on, before one of them is built. -/
def statefulChosenSlot (members : Members) (name : Json) (required : Bool) (description : Json)
    (inFlight : List String) : Stateful (Option (Slot (Schema Label))) := do
  perform ⟨(), branchNotices root inFlight members.branches⟩
  match members.branches.find? (isConcreteBranch root inFlight) with
  | some branch =>
    calls.slot branch name (required && !anyNullBranch root inFlight members.branches) description
  | none =>
    if anyNullBranch root inFlight members.branches then return none
    else calls.slot (.object (members.erase "anyOf")) name required description

def statefulCollapsedSlot (members : Members) (name : Json) (required : Bool) (description : Json) :
    Stateful (Option (Slot (Schema Label))) := do
  statefulChosenSlot calls root members name required description (← get).inFlight

def statefulReducedSlot (members : Members) (name : Json) (required : Bool) (description : Json) :
    Stateful (Option (Slot (Schema Label))) :=
  match members.typeList? with
  | some types =>
    match Members.concreteTypes types with
    | [] => pure none
    | type :: _ =>
      statefulTypedSlot calls root (members.withType type) name
        (required && !types.contains "null") description
  | none =>
    if members.isUntypedUnion then
      statefulCollapsedSlot calls root members name required description
    else statefulTypedSlot calls root members name required description

/-- One call for the slot of a node, with `calls` for the calls that it makes. -/
def statefulSlot (node name : Json) (required : Bool) (description : Json) :
    Stateful (Option (Slot (Schema Label))) :=
  dereferenced root node (fun node =>
    match node with
    | .object members =>
      statefulReducedSlot calls root members name required (described members description)
    | _ => pure none)

end Bodies

/-- A stateful conversion with at most `limit` nested calls. -/
def statefulWithin (root : Json) : (limit : Nat) → StatefulCalls
  | 0 => ⟨fun _ _ _ => throw .tooDeep, fun _ _ _ _ => throw .tooDeep⟩
  | limit + 1 =>
    ⟨statefulSchema (statefulWithin root limit) root, statefulSlot (statefulWithin root limit) root⟩

/-! ## What is in flight afterwards -/

/-- Each call leaves the pointers in flight as they were. -/
structure StatefulCalls.Keep (calls : StatefulCalls) : Prop where
  schema : ∀ node name description, Keeps (calls.schema node name description)
  slot : ∀ node name required description, Keeps (calls.slot node name required description)

variable {calls : StatefulCalls} {root : Json}

section Keep

variable (keep : calls.Keep)
include keep

theorem keeps_statefulBranch (branch : Json) : Keeps (statefulBranch calls root branch) := by
  refine keeps_dereferenced root branch (fun found => ?_)
  cases found with
  | object members => exact (keep.schema _ _ _).bind (fun _ => keeps_pure _)
  | _ => exact keeps_pure _

theorem keeps_statefulUnion (members : Members) (name : Label) (description : Json) :
    Keeps (statefulUnion calls root members name description) :=
  (Keeps.mapM (fun branch _ => keeps_statefulBranch keep branch)).bind (fun _ => keeps_pure _)

theorem keeps_statefulArray (members : Members) : Keeps (statefulArray calls members) :=
  (keep.schema _ _ _).bind (fun _ => (keeps_perform _).bind (fun _ => keeps_pure _))

theorem keeps_statefulObject (members : Members) (name : Label) (description : Json) :
    Keeps (statefulObject calls members name description) := by
  have hfield : ∀ property, Keeps (statefulField calls members.requiredNames property) :=
    fun property => (keep.slot _ _ _ _).bind (fun _ => keeps_pure _)
  exact (Keeps.mapM (fun property _ => hfield property)).bind (fun _ => keeps_pure _)

theorem keeps_statefulDeclared (members : Members) (name : Label) (description : Json) :
    Keeps (statefulDeclared calls root members name description) := by
  rw [statefulDeclared]
  split
  · exact keeps_pure _
  · exact keeps_statefulArray keep members
  · exact keeps_perform _
  · exact keeps_perform _
  · exact keeps_perform _
  · exact keeps_statefulUnion keep members name description
  · exact keeps_statefulObject keep members name description
  all_goals
    refine (keeps_perform _).bind (fun narrowed => ?_)
    cases narrowed with
    | some narrowed => exact keeps_pure _
    | none => exact keeps_statefulObject keep members name description

theorem keeps_statefulNode (members : Members) (name : Label) (description : Json) :
    Keeps (statefulNode calls root members name description) := by
  rw [statefulNode]
  split
  · split
    · exact keeps_statefulObject keep members name description
    · exact keep.schema _ _ _
    · exact (Keeps.mapM (fun type _ => keep.schema _ _ _)).bind (fun _ => keeps_pure _)
  · exact keeps_statefulDeclared keep members name description

theorem keeps_statefulTypedSlot (members : Members) (name : Json) (required : Bool)
    (description : Json) :
    Keeps (statefulTypedSlot calls root members name required description) := by
  rw [statefulTypedSlot]
  split
  · exact keeps_pure _
  · exact keeps_pure _
  · exact (keep.schema _ _ _).bind (fun _ => keeps_pure _)
  · exact (keeps_statefulArray keep members).bind (fun _ => keeps_pure _)
  · exact keeps_perform _
  · exact keeps_perform _
  · exact keeps_perform _
  · exact (keeps_statefulUnion keep members _ _).bind (fun _ => keeps_pure _)
  · split
    · exact (keeps_perform _).bind (fun _ => keeps_pure _)
    · exact (keeps_perform _).bind (fun _ => keeps_pure _)
    · exact (keep.schema _ _ _).bind (fun _ => keeps_pure _)

theorem keeps_statefulCollapsedSlot (members : Members) (name : Json) (required : Bool)
    (description : Json) :
    Keeps (statefulCollapsedSlot calls root members name required description) := by
  have hchosen : ∀ inFlight : List String,
      Keeps (statefulChosenSlot calls root members name required description inFlight) := by
    intro inFlight
    rw [statefulChosenSlot]
    refine (keeps_perform _).bind (fun _ => ?_)
    split
    · exact keep.slot _ _ _ _
    · split
      · exact keeps_pure _
      · exact keep.slot _ _ _ _
  intro flight
  exact hchosen flight.inFlight flight

theorem keeps_statefulReducedSlot (members : Members) (name : Json) (required : Bool)
    (description : Json) :
    Keeps (statefulReducedSlot calls root members name required description) := by
  rw [statefulReducedSlot]
  split
  · split
    · exact keeps_pure _
    · exact keeps_statefulTypedSlot keep _ _ _ _
  · split
    · exact keeps_statefulCollapsedSlot keep _ _ _ _
    · exact keeps_statefulTypedSlot keep _ _ _ _

theorem keeps_statefulSchema (node : Json) (name : Label) (description : Json) :
    Keeps (statefulSchema calls root node name description) := by
  rw [statefulSchema]
  exact keeps_dereferenced root node (fun found => keeps_statefulNode keep found.members _ _)

theorem keeps_statefulSlot (node name : Json) (required : Bool) (description : Json) :
    Keeps (statefulSlot calls root node name required description) := by
  rw [statefulSlot]
  refine keeps_dereferenced root node (fun found => ?_)
  cases found with
  | object members => exact keeps_statefulReducedSlot keep members name required _
  | _ => exact keeps_pure _

end Keep

/-- **Every call of a conversion leaves the pointers in flight as they were**, also if it stops. -/
theorem keeps_statefulWithin (root : Json) : (limit : Nat) → (statefulWithin root limit).Keep
  | 0 => ⟨fun _ _ _ => keeps_throw .tooDeep, fun _ _ _ _ => keeps_throw .tooDeep⟩
  | limit + 1 =>
    have keep := keeps_statefulWithin root limit
    ⟨keeps_statefulSchema keep, keeps_statefulSlot keep⟩

/-! ## What is built -/

/-- What is answered with the pointers as an argument is done with the pointers as a state. -/
structure StatefulCalls.Follow (calls : StatefulCalls) (via : Calls) : Prop where
  schema : ∀ inFlight node name description traced,
    via.schema inFlight node name description = some traced →
      Performs (calls.schema node name description) inFlight traced
  slot : ∀ inFlight node name required description traced,
    via.slot inFlight node name required description = some traced →
      Performs (calls.slot node name required description) inFlight traced

section Follow

variable {via : Calls} {inFlight : List String} {members : Members}
  {built : Traced (Schema Label)} {slot : Traced (Option (Slot (Schema Label)))}
  (follow : calls.Follow via)
include follow

theorem performs_statefulBranch {branch : Json} {traced : Traced (Option (Schema Label))}
    (h : branchVia via root inFlight branch = some traced) :
    Performs (statefulBranch calls root branch) inFlight traced := by
  rw [branchVia] at h
  rw [statefulBranch]
  cases hn : (dereference root inFlight branch).node with
  | object found =>
    simp only [hn] at h
    obtain ⟨inner, hinner, h⟩ := Option.bind_eq_some_iff.mp h
    cases h
    refine Performs.dereferenced ?_
    rw [hn]
    exact (follow.schema _ _ _ _ _ hinner).map some
  | _ =>
    simp only [hn] at h
    cases h
    refine Performs.dereferenced ?_
    rw [hn]
    exact performs_pure none

theorem performs_statefulUnion {name : Label} {description : Json}
    (h : unionVia via root inFlight members name description = some built) :
    Performs (statefulUnion calls root members name description) inFlight built := by
  obtain ⟨branches, hb, h⟩ := Option.bind_eq_some_iff.mp h
  cases h
  have hbranches := Performs.mapM (statefulBranch calls root) id
    (fun branch _ _ h => performs_statefulBranch follow h) hb
  rw [List.map_id] at hbranches
  exact hbranches.map (fun branches => Schema.union name description (branches.filterMap id))

theorem performs_statefulArray (h : arrayVia via inFlight members = some built) :
    Performs (statefulArray calls members) inFlight built := by
  obtain ⟨element, helement, h⟩ := Option.bind_eq_some_iff.mp h
  cases h
  exact (follow.schema _ _ _ _ _ helement).bind ((performs_perform (arrayBounds members)).map
    (fun bounds => Schema.array element.value bounds.1 bounds.2))

theorem performs_statefulField {required : List String} {property : String × Json}
    {traced : Traced (Option (Field (Schema Label)))}
    (h : fieldVia via inFlight required property = some traced) :
    Performs (statefulField calls required property) inFlight traced := by
  obtain ⟨inner, hinner, h⟩ := Option.bind_eq_some_iff.mp h
  cases h
  exact (follow.slot _ _ _ _ _ _ hinner).map (fun slot => slot.map (·.named property.1))

theorem performs_statefulObject {name : Label} {description : Json}
    (h : objectVia via inFlight members name description = some built) :
    Performs (statefulObject calls members name description) inFlight built := by
  obtain ⟨fields, hf, h⟩ := Option.bind_eq_some_iff.mp h
  cases h
  have hfields := Performs.mapM (statefulField calls members.requiredNames) id
    (fun property _ _ h => performs_statefulField follow h) hf
  rw [List.map_id] at hfields
  exact hfields.map (fun fields => Schema.object name description (fields.filterMap id))

/-- A node without a type, or with null for one, is built by its constants or else as an object. -/
theorem performs_statefulNarrowed {name : Label} {description : Json}
    (ht : members.declaredType = none ∨ members.declaredType = some .null)
    (h : declaredVia via root inFlight members name description = some built) :
    Performs (perform (narrowing members name description) >>=
      statefulNarrowed calls members name description) inFlight built := by
  rw [declaredVia] at h
  rcases hn : narrowing members name description with ⟨_ | narrowed, trace⟩
  · have hobject : ∃ object, objectVia via inFlight members name description = some object ∧
        built = ⟨object.value, trace ++ object.trace⟩ := by
      rcases ht with ht | ht <;> rw [ht, hn] at h
      all_goals
        obtain ⟨object, hobject, h⟩ := Option.bind_eq_some_iff.mp h
        cases h
        exact ⟨object, hobject, rfl⟩
    obtain ⟨object, hobject, rfl⟩ := hobject
    exact (performs_perform ⟨none, trace⟩).bind (performs_statefulObject follow hobject)
  · have hbuilt : built = ⟨narrowed.schema, trace⟩ := by
      rcases ht with ht | ht <;> rw [ht, hn] at h
      all_goals
        cases h
        rfl
    have hend : Performs (statefulNarrowed calls members name description (some narrowed)) inFlight
        ⟨narrowed.schema, []⟩ := performs_pure narrowed.schema
    have hboth := (performs_perform ⟨some narrowed, trace⟩).bind hend
    rw [List.append_nil] at hboth
    rwa [hbuilt]

theorem performs_statefulDeclared {name : Label} {description : Json}
    (h : declaredVia via root inFlight members name description = some built) :
    Performs (statefulDeclared calls root members name description) inFlight built := by
  have hnarrowed := fun ht => performs_statefulNarrowed follow ht h
  rw [declaredVia] at h
  rw [statefulDeclared]
  cases ht : members.declaredType with
  | none => exact hnarrowed (.inl ht)
  | some type =>
    rw [ht] at h
    cases type with
    | null => exact hnarrowed (.inr ht)
    | array => exact performs_statefulArray follow h
    | anyOf => exact performs_statefulUnion follow h
    | object => exact performs_statefulObject follow h
    | boolean =>
      cases h
      exact performs_pure _
    | _ =>
      cases h
      exact performs_perform _

theorem performs_statefulNode {name : Label} {description : Json}
    (h : nodeVia via root inFlight members name description = some built) :
    Performs (statefulNode calls root members name description) inFlight built := by
  rw [nodeVia] at h
  rw [statefulNode]
  cases ht : members.typeList? with
  | none =>
    rw [ht] at h
    exact performs_statefulDeclared follow h
  | some types =>
    simp only [ht] at h
    simp only
    rcases hc : Members.concreteTypes types with _ | ⟨first, _ | ⟨second, others⟩⟩
    · rw [hc] at h
      exact performs_statefulObject follow h
    · rw [hc] at h
      exact follow.schema _ _ _ _ _ h
    · rw [hc] at h
      obtain ⟨branches, hb, h⟩ := Option.bind_eq_some_iff.mp h
      cases h
      have hbranches := Performs.mapM
        (fun type => calls.schema (.object (members.withType type)) .generated description) id
        (fun type _ _ h => follow.schema _ _ _ _ _ h) hb
      rw [List.map_id] at hbranches
      exact hbranches.map (Schema.union name description)

theorem performs_statefulSchema {node : Json} {name : Label} {description : Json}
    (h : schemaVia via root inFlight node name description = some built) :
    Performs (statefulSchema calls root node name description) inFlight built := by
  obtain ⟨inner, hinner, h⟩ := Option.bind_eq_some_iff.mp h
  cases h
  exact Performs.dereferenced (performs_statefulNode follow hinner)

theorem performs_statefulTypedSlot {name : Json} {required : Bool} {description : Json}
    (h : typedSlotVia via root inFlight members name required description = some slot) :
    Performs (statefulTypedSlot calls root members name required description) inFlight slot := by
  rw [typedSlotVia] at h
  rw [statefulTypedSlot]
  cases ht : members.declaredType with
  | none =>
    simp only [ht] at h
    simp only
    rcases he : members.lookup "enum" with _ | values <;> rw [he] at h
    · rcases hc : members.lookup "const" with _ | value <;> rw [hc] at h
      · obtain ⟨inner, hinner, h⟩ := Option.bind_eq_some_iff.mp h
        cases h
        exact (follow.schema _ _ _ _ _ hinner).map (slotOf description · required)
      · cases h
        exact (performs_perform (constant value)).map _
    · cases h
      exact (performs_perform (enumeration values (.given name) description)).map _
  | some type =>
    rw [ht] at h
    cases type with
    | null =>
      cases h
      exact performs_pure none
    | boolean =>
      cases h
      exact performs_pure _
    | object =>
      obtain ⟨inner, hinner, h⟩ := Option.bind_eq_some_iff.mp h
      cases h
      exact (follow.schema _ _ _ _ _ hinner).map (slotOf description · required)
    | array =>
      obtain ⟨inner, hinner, h⟩ := Option.bind_eq_some_iff.mp h
      cases h
      exact (performs_statefulArray follow hinner).map (slotOf description · required)
    | anyOf =>
      obtain ⟨inner, hinner, h⟩ := Option.bind_eq_some_iff.mp h
      cases h
      exact (performs_statefulUnion follow hinner).map (slotOf description · required)
    | _ =>
      cases h
      exact performs_perform _

/-- What the branches report is reported first, also where one of them stops the program. -/
theorem performs_statefulCollapsedSlot {name : Json} {required : Bool} {description : Json}
    (h : collapsedSlotVia via root inFlight members name required description = some slot) :
    Performs (statefulCollapsedSlot calls root members name required description) inFlight
      ⟨slot.value, branchNotices root inFlight members.branches ++ slot.trace⟩ := by
  have hchosen : Performs (statefulChosenSlot calls root members name required description inFlight)
      inFlight ⟨slot.value, branchNotices root inFlight members.branches ++ slot.trace⟩ := by
    rw [collapsedSlotVia] at h
    rw [statefulChosenSlot]
    refine (performs_perform ⟨(), branchNotices root inFlight members.branches⟩).bind ?_
    cases hb : members.branches.find? (isConcreteBranch root inFlight) with
    | some branch =>
      rw [hb] at h
      exact follow.slot _ _ _ _ _ _ h
    | none =>
      simp only [hb] at h
      simp only
      split at h
      · next hnull =>
        cases h
        rw [if_pos hnull]
        exact performs_pure none
      · next hnull =>
        rw [if_neg hnull]
        exact follow.slot _ _ _ _ _ _ h
  intro log
  exact hchosen log

theorem performs_statefulReducedSlot {name : Json} {required : Bool} {description : Json}
    (h : reducedSlotVia via root inFlight members name required description = some slot) :
    Performs (statefulReducedSlot calls root members name required description) inFlight slot := by
  rw [reducedSlotVia] at h
  rw [statefulReducedSlot]
  cases ht : members.typeList? with
  | some types =>
    simp only [ht] at h
    simp only
    cases hc : Members.concreteTypes types with
    | nil =>
      rw [hc] at h
      cases h
      exact performs_pure none
    | cons type others =>
      rw [hc] at h
      exact performs_statefulTypedSlot follow h
  | none =>
    simp only [ht] at h
    simp only
    split at h
    · next hu =>
      obtain ⟨inner, hinner, h⟩ := Option.bind_eq_some_iff.mp h
      cases h
      rw [if_pos hu]
      exact performs_statefulCollapsedSlot follow hinner
    · next hu =>
      rw [if_neg hu]
      exact performs_statefulTypedSlot follow h

theorem performs_statefulSlot {node name : Json} {required : Bool} {description : Json}
    (h : slotVia via root inFlight node name required description = some slot) :
    Performs (statefulSlot calls root node name required description) inFlight slot := by
  rw [slotVia] at h
  rw [statefulSlot]
  cases hn : (dereference root inFlight node).node with
  | object members =>
    simp only [hn] at h
    obtain ⟨inner, hinner, h⟩ := Option.bind_eq_some_iff.mp h
    cases h
    refine Performs.dereferenced ?_
    rw [hn]
    exact performs_statefulReducedSlot follow hinner
  | _ =>
    simp only [hn] at h
    cases h
    refine Performs.dereferenced ?_
    rw [hn]
    exact performs_pure none

end Follow

/-- At every depth, a stateful conversion does what the conversion of that depth answers. -/
theorem follow_statefulWithin (root : Json) : (limit : Nat) →
    (statefulWithin root limit).Follow (callsWithin root limit)
  | 0 => { schema := fun _ _ _ _ _ h => (nomatch h), slot := fun _ _ _ _ _ _ h => (nomatch h) }
  | limit + 1 =>
    have follow := follow_statefulWithin root limit
    ⟨fun _ _ _ _ _ h => performs_statefulSchema follow h,
      fun _ _ _ _ _ _ h => performs_statefulSlot follow h⟩

/-- **A stateful conversion does what the definitions say**, where calls may be nested enough. -/
theorem performs_statefulWithin (root : Json) {inFlight : List String} {node : Json} {limit : Nat}
    (hlimit : 4 * callBound root inFlight node ≤ limit) :
    (∀ name description, Performs ((statefulWithin root limit).schema node name description)
      inFlight (buildSchema root inFlight node name description)) ∧
    ∀ name required description,
      Performs ((statefulWithin root limit).slot node name required description) inFlight
        (buildSlot root inFlight node name required description) := by
  obtain ⟨hschema, hslot⟩ := answers_callsWithin hlimit
  have follow := follow_statefulWithin root limit
  exact ⟨fun name description => follow.schema _ _ _ _ _ (hschema name description),
    fun name required description => follow.slot _ _ _ _ _ _ (hslot name required description)⟩

end Convert

end ToolSchema
