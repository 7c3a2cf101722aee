import ToolSchema.Convert.Constant
import ToolSchema.Convert.Descent

/-!
# Building a schema

`buildSchema` turns a node of a document into a schema and `buildSlot` turns it into what an object
has under the name of a field. The two differ: a node that admits null only is an object as a schema
but gives no field at all, and a field takes one branch of a union where a schema keeps them all.

Both first follow the references that the node may be. The pointers followed are in flight for all
that is built below, and for nothing else.

## Termination

Each step follows a reference, goes to a lighter value, or is a later kind of step on the same value
(`Convert.measure`). The ranks: `buildSlot` 6, `buildReducedSlot` 5, `buildTypedSlot` 4,
`buildSchema` 3, `buildNode` 2, `buildUnion`, `buildArray` and `buildObject` 1.
-/

namespace ToolSchema

namespace Convert

open Json

/-- The label of a node: its own title, unless it is empty, or else the name it is given. -/
def titled (members : Members) (name : Label) : Label :=
  match members.string? "title" with
  | some title => if title = "" then name else .given (.string title)
  | none => name

/-- The description that is given, or else the node's own. -/
def described (members : Members) (description : Json) : Json :=
  if description = .null then .ofString? (members.string? "description") else description

/-- What a node without any keyword is built as. -/
def unspecified : Schema Label := .object .generated .null []

/--
The bounds on the number of items. Bounds that are no integers or negative count as absent, and a
greatest number below the least is reported and dropped.
-/
def arrayBounds (members : Members) : Traced (Option Int × Option Int) :=
  match members.count? "minItems", members.count? "maxItems" with
  | some least, some greatest =>
    if greatest < least then ⟨(some least, none), [.notice (.invertedBounds least greatest)]⟩
    else ⟨(some least, some greatest), []⟩
  | least, greatest => ⟨(least, greatest), []⟩

/-- The type of the object that a branch leads to, and what was reported on the way. -/
def branchType (root : Json) (inFlight : List String) (branch : Json) : Option String :=
  (dereference root inFlight branch).node.members.string? "type"

/-- A branch that names a type other than null. -/
def isConcreteBranch (root : Json) (inFlight : List String) (branch : Json) : Bool :=
  match branchType root inFlight branch with
  | some type => type != "null"
  | none => false

/-- Some branch admits null. -/
def anyNullBranch (root : Json) (inFlight : List String) (branches : List Json) : Bool :=
  branches.any (fun branch => branchType root inFlight branch == some "null")

/-- What is reported while the types of branches are read. -/
def branchNotices (root : Json) (inFlight : List String) (branches : List Json) : List Mark :=
  branches.filterMap (fun branch =>
    (dereference root inFlight branch).notice.map Mark.notice)

/-- The schema of a node of a primitive type. -/
def buildLeaf (kind : Primitive) (members : Members) (name : Label)
    (description : Json) : Traced (Schema Label) :=
  (narrowing members name description).map (fun narrowed =>
    (Narrowing.apply narrowed (.leaf kind none) true).1)

/-- The slot of a schema, by its description and whether it is required. -/
def slotOf (description : Json) (schema : Schema Label) (required : Bool) :
    Option (Slot (Schema Label)) :=
  some ⟨description, schema, !required⟩

/-- The slot of a node of a primitive type. -/
def buildLeafSlot (kind : Primitive) (members : Members) (name : Json) (required : Bool)
    (description : Json) : Traced (Option (Slot (Schema Label))) :=
  (narrowing members (.given name) description).map (fun narrowed =>
    let applied := Narrowing.apply narrowed (.leaf kind none) required
    slotOf description applied.1 applied.2)

mutual

/--
The schema of a node. `name` labels it where it has no title, and `description` replaces its own.
-/
def buildSchema (root : Json) (inFlight : List String) (node : Json) (name : Label)
    (description : Json) : Traced (Schema Label) :=
  let chain := dereference root inFlight node
  (buildNode root (chain.followed ++ inFlight) chain.node.members
    (titled chain.node.members name) (described chain.node.members description)).after chain.notice
termination_by measure root inFlight node 3
decreasing_by
  exact lower_of_dereference (references_members_subset _) (weight_members_le _) (by decide)

/-- The schema of a node that is no reference. -/
def buildNode (root : Json) (inFlight : List String) (members : Members) (name : Label)
    (description : Json) : Traced (Schema Label) :=
  match _ : members.typeList? with
  | some types =>
    match _ : Members.concreteTypes types with
    | [] => buildObject root inFlight members name description
    | [type] =>
      buildSchema root inFlight (.object (members.withType type)) name description
    | first :: second :: others =>
      (Traced.sequence ((first :: second :: others).map (fun type =>
        buildSchema root inFlight (.object (members.withType type)) .generated description))).map
          (.union name description)
  | none =>
    match members.declaredType with
    | some .boolean => ⟨.leaf .boolean none, []⟩
    | some .array => buildArray root inFlight members
    | some .integer => buildLeaf .integer members name description
    | some .number => buildLeaf .number members name description
    | some .string => buildLeaf .string members name description
    | some .anyOf => buildUnion root inFlight members name description
    | some .object => buildObject root inFlight members name description
    | some .null | none =>
      match narrowing members name description with
      | ⟨some narrowed, trace⟩ => ⟨narrowed.schema, trace⟩
      | ⟨none, trace⟩ =>
        let built := buildObject root inFlight members name description
        ⟨built.value, trace ++ built.trace⟩
termination_by measure root inFlight (.object members) 2
decreasing_by
  · exact lower_of_rank (fun _ h => h) (Nat.le_refl _) (by decide)
  · exact lower_of_weight (references_withType_subset _ _)
      (weight_withType_lt ‹_› ‹_›)
  · exact lower_of_weight (references_withType_subset _ _)
      (weight_withType_lt ‹_› ‹_›)
  all_goals exact lower_of_rank (fun _ h => h) (Nat.le_refl _) (by decide)

/-- A union of the branches that lead to objects. -/
def buildUnion (root : Json) (inFlight : List String) (members : Members) (name : Label)
    (description : Json) : Traced (Schema Label) :=
  (Traced.sequence (members.branches.attach.map (fun ⟨branch, _⟩ =>
    match _ : (dereference root inFlight branch).node with
    | .object found =>
      ((buildSchema root ((dereference root inFlight branch).followed ++ inFlight)
        (.object found) .generated .null).map some).after
          (dereference root inFlight branch).notice
    | _ => Traced.after (dereference root inFlight branch).notice ⟨none, []⟩))).map
      (fun branches => .union name description (branches.filterMap id))
termination_by measure root inFlight (.object members) 1
decreasing_by exact lower_of_branch ‹_› ‹_›

/-- An array of what is under `items`. -/
def buildArray (root : Json) (inFlight : List String) (members : Members) :
    Traced (Schema Label) :=
  let element :=
    match _ : members.lookup "items" with
    | some (.object items) => buildSchema root inFlight (.object items) .generated .null
    | _ => ⟨unspecified, []⟩
  let bounds := arrayBounds members
  ⟨.array element.value bounds.value.1 bounds.value.2, element.trace ++ bounds.trace⟩
termination_by measure root inFlight (.object members) 1
decreasing_by exact lower_of_weight (references_lookup_members_subset ‹_›) (weight_lookup_lt ‹_›)

/-- An object of the fields under `properties`. -/
def buildObject (root : Json) (inFlight : List String) (members : Members) (name : Label)
    (description : Json) : Traced (Schema Label) :=
  (Traced.sequence (members.properties.attach.map (fun ⟨property, _⟩ =>
    (buildSlot root inFlight property.2 (.string property.1)
      (members.requiredNames.contains property.1) .null).map
        (fun slot => slot.map (·.named property.1))))).map
      (fun fields => .object name description (fields.filterMap id))
termination_by measure root inFlight (.object members) 1
decreasing_by exact lower_of_weight (references_property_subset ‹_›) (weight_property_lt ‹_›)

/-- The slot of a node, if it gives one. `description` replaces its own. -/
def buildSlot (root : Json) (inFlight : List String) (node : Json) (name : Json)
    (required : Bool) (description : Json) : Traced (Option (Slot (Schema Label))) :=
  match _ : (dereference root inFlight node).node with
  | .object members =>
    (buildReducedSlot root ((dereference root inFlight node).followed ++ inFlight) members name
      required (described members description)).after (dereference root inFlight node).notice
  | _ => Traced.after (dereference root inFlight node).notice ⟨none, []⟩
termination_by measure root inFlight node 6
decreasing_by exact lower_of_node ‹_› (by decide)

/--
The slot of a node that is no reference. A field takes one type of a type list and one branch of a
union, the first that is not null; null makes it optional.
-/
def buildReducedSlot (root : Json) (inFlight : List String) (members : Members) (name : Json)
    (required : Bool) (description : Json) : Traced (Option (Slot (Schema Label))) :=
  match _ : members.typeList? with
  | some types =>
    match _ : Members.concreteTypes types with
    | [] => ⟨none, []⟩
    | type :: _ =>
      buildTypedSlot root inFlight (members.withType type) name
        (required && !types.contains "null") description
  | none =>
    if _ : members.isUntypedUnion then
      let notices := branchNotices root inFlight members.branches
      let admitsNull := anyNullBranch root inFlight members.branches
      match _ : members.branches.find? (isConcreteBranch root inFlight) with
      | some branch =>
        let built := buildSlot root inFlight branch name (required && !admitsNull) description
        ⟨built.value, notices ++ built.trace⟩
      | none =>
        if admitsNull then ⟨none, notices⟩
        else
          let built := buildSlot root inFlight (.object (members.erase "anyOf")) name required
            description
          ⟨built.value, notices ++ built.trace⟩
    else buildTypedSlot root inFlight members name required description
termination_by measure root inFlight (.object members) 5
decreasing_by
  · exact lower_of_weight (references_withType_subset _ _)
      (weight_withType_lt ‹_› ‹_›)
  · exact lower_of_weight (references_branch_subset (List.mem_of_find?_eq_some ‹_›))
      (weight_branch_lt (List.mem_of_find?_eq_some ‹_›))
  · exact lower_of_weight (references_erase_subset (by decide))
      (weight_erase_lt (hasKey_of_isUntypedUnion ‹_›))
  · exact lower_of_rank (fun _ h => h) (Nat.le_refl _) (by decide)

/-- The slot of a node that declares at most one type. -/
def buildTypedSlot (root : Json) (inFlight : List String) (members : Members) (name : Json)
    (required : Bool) (description : Json) : Traced (Option (Slot (Schema Label))) :=
  match members.declaredType with
  | some .null => ⟨none, []⟩
  | some .boolean => ⟨slotOf description (.leaf .boolean none) required, []⟩
  | some .object =>
    (buildSchema root inFlight (.object members) .generated .null).map
      (slotOf description · required)
  | some .array =>
    (buildArray root inFlight members).map (slotOf description · required)
  | some .integer => buildLeafSlot .integer members name required description
  | some .number => buildLeafSlot .number members name required description
  | some .string => buildLeafSlot .string members name required description
  | some .anyOf =>
    (buildUnion root inFlight members (.given name) description).map
      (slotOf description · required)
  | none =>
    match members.lookup "enum", members.lookup "const" with
    | some values, _ =>
      (enumeration values (.given name) description).map (fun narrowed =>
        slotOf description narrowed.schema (required && !narrowed.admitsNull))
    | none, some value =>
      (constant value).map (fun schema => schema.bind (slotOf description · required))
    | none, none =>
      (buildSchema root inFlight (.object members) .generated .null).map
        (slotOf description · required)
termination_by measure root inFlight (.object members) 4
decreasing_by
  all_goals exact lower_of_rank (fun _ h => h) (Nat.le_refl _) (by decide)

end

end Convert

end ToolSchema
