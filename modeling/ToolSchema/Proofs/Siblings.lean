import ToolSchema.Proofs.Expressible
import ToolSchema.Proofs.StatefulBuilding

/-!
# Siblings do not disturb each other

What a resolution or a conversion puts in flight is gone when it ends (`Undisturbed`), so nothing of
it reaches what is built next. An object is therefore what its properties give one by one, each
converted on its own (`Convert.node_object`), and the field of a key depends on what stands under
this key and on whether it is required (`Convert.field?_eq`).

Names that are generated are still to be drawn where fields are compared, so that they are equal up
to these names.
-/

namespace ToolSchema

namespace Convert

open Json Stateful

variable {root : Json}

/-! ## What is in flight -/

/-- All programs with at most `limit` nested calls leave the pointers in flight as they were. -/
structure Undisturbed (root : Json) (limit : Nat) : Prop where
  resolution : ∀ value, Keeps (resolveStateful root limit value)
  schema : ∀ node name description,
    Keeps ((statefulWithin root limit).schema node name description)
  slot : ∀ node name required description,
    Keeps ((statefulWithin root limit).slot node name required description)
  typeList : ∀ members name description,
    Keeps (statefulNode (statefulWithin root limit) root members name description)
  union : ∀ members name description,
    Keeps (statefulUnion (statefulWithin root limit) root members name description)
  array : ∀ members, Keeps (statefulArray (statefulWithin root limit) members)
  object : ∀ members name description,
    Keeps (statefulObject (statefulWithin root limit) members name description)
  collapsed : ∀ members name required description,
    Keeps (statefulCollapsedSlot (statefulWithin root limit) root members name required description)

theorem undisturbed (root : Json) (limit : Nat) : Undisturbed root limit where
  resolution := keeps_resolveStateful root limit
  schema := (keeps_statefulWithin root limit).schema
  slot := (keeps_statefulWithin root limit).slot
  typeList := keeps_statefulNode (keeps_statefulWithin root limit)
  union := keeps_statefulUnion (keeps_statefulWithin root limit)
  array := keeps_statefulArray (keeps_statefulWithin root limit)
  object := keeps_statefulObject (keeps_statefulWithin root limit)
  collapsed := keeps_statefulCollapsedSlot (keeps_statefulWithin root limit)

theorem performs_resolution (root : Json) {inFlight : List String} {value : Json} {limit : Nat}
    (hlimit : callBound root inFlight value ≤ limit) :
    Performs (resolveStateful root limit value) inFlight
      (resolveFrom root inFlight value).traced := by
  have hvalue : value.depth ≤ max value.depth root.depth := Nat.le_max_left _ _
  have hroom : room root (max value.depth root.depth) inFlight value <
    callBound root inFlight value := room_lt_mul hvalue
  refine performs_resolveStateful root limit ?_
  exact resolveWithin_eq (Nat.le_max_right _ _) limit inFlight value hvalue (by omega)

/-! ## Properties one by one -/

/-- A property converted on its own, as a field. -/
def field (root : Json) (isRequired : Bool) (property : String × Json) :
    Except Fault (Option (Field (Schema Label)) × List Notice) :=
  (slot root property.2 (.string property.1) isRequired .null).map
    (fun built => (built.1.map (·.named property.1), built.2))

/-- The properties of an object one after another, each converted on its own. -/
def fields (root : Json) (members : Members) :
    Except Fault (List (Option (Field (Schema Label)) × List Notice)) :=
  members.properties.mapM (fun property =>
    field root (members.requiredNames.contains property.1) property)

theorem conclude_buildField (required : List String) (property : String × Json) :
    (buildField root [] required property).conclude =
      field root (required.contains property.1) property := by
  rw [buildField, Traced.conclude_map]
  rfl

/-- An object that is no reference says so by its type. -/
structure IsPlainObject (members : Members) : Prop where
  notReference : members.reference? = none
  typed : members.lookup "type" = some (.string "object")

/--
The schema of an object: the fields of its properties, in their order, and what they report. A
property that is refused refuses the object.
-/
theorem node_object {members : Members} (h : IsPlainObject members) (name : Label)
    (description : Json) :
    node root (.object members) name description =
      (fields root members).map (fun built =>
        (.object (titled members name) (described members description)
          (built.filterMap Prod.fst), built.flatMap Prod.snd)) := by
  rw [node, buildSchema_eq_declared h.notReference (typeList?_of_string h.typed), buildDeclared,
    declaredType_of_string h.typed]
  show (buildObject root [] members (titled members name)
    (described members description)).conclude = _
  rw [buildObject_eq, Traced.conclude_map, Traced.conclude_sequence_map]
  simp only [conclude_buildField]
  show ((fields root members).map _).map _ = _
  cases fields root members with
  | error fault => rfl
  | ok built =>
    have hfields : (built.map Prod.fst).filterMap id = built.filterMap Prod.fst := by
      rw [List.filterMap_map, Function.id_comp]
    simp only [Except.map, hfields]

/-! ## The field of a key -/

/-- The field of a property has its key as its name. -/
theorem name_of_field {isRequired : Bool} {property : String × Json}
    {built : Option (Field (Schema Label)) × List Notice}
    (h : field root isRequired property = .ok built) {found : Field (Schema Label)}
    (hf : built.1 = some found) : found.name = property.1 := by
  rw [field] at h
  cases hs : slot root property.2 (.string property.1) isRequired .null with
  | error fault =>
    rw [hs] at h
    cases h
  | ok slot =>
    rw [hs] at h
    cases h
    obtain ⟨inner, _, rfl⟩ := Option.map_eq_some_iff.mp hf
    rfl

/-- The fields of a name come from the properties under this key. -/
theorem filter_fields (key : String) {required : List String} {properties : Members}
    {built : List (Option (Field (Schema Label)) × List Notice)}
    (h : properties.mapM (fun property => field root (required.contains property.1) property) =
      .ok built) :
    ∃ own, (properties.filter (·.1 == key)).mapM (field root (required.contains key)) = .ok own ∧
      (built.filterMap Prod.fst).filter (·.name == key) = own.filterMap Prod.fst := by
  induction properties generalizing built with
  | nil =>
    cases h
    exact ⟨[], rfl, rfl⟩
  | cons property rest ih =>
    obtain ⟨first, others, hf, ho, rfl⟩ := List.forall₂_cons_left_iff.mp (mapM_eq_ok.mp h)
    obtain ⟨own, hown, hfilter⟩ := ih (mapM_eq_ok.mpr ho)
    by_cases hkey : property.1 = key
    · -- The property gives what it gives among those under the key.
      subst hkey
      refine ⟨first :: own, ?_, ?_⟩
      · rw [List.filter_cons, if_pos (beq_self_eq_true property.1), List.mapM_cons, hf, hown]
        rfl
      · rcases hfirst : first.1 with _ | found
        · rw [List.filterMap_cons_none hfirst, List.filterMap_cons_none hfirst, hfilter]
        · rw [List.filterMap_cons_some hfirst, List.filterMap_cons_some hfirst,
            List.filter_cons, if_pos (beq_iff_eq.mpr (name_of_field hf hfirst)), hfilter]
    · -- Neither the property nor its field counts.
      refine ⟨own, ?_, ?_⟩
      · rw [List.filter_cons, if_neg (fun h => hkey (beq_iff_eq.mp h)), hown]
      · rcases hfirst : first.1 with _ | found
        · rw [List.filterMap_cons_none hfirst, hfilter]
        · have hname := name_of_field hf hfirst
          rw [List.filterMap_cons_some hfirst,
            List.filter_cons, if_neg (fun h => hkey (hname ▸ beq_iff_eq.mp h)), hfilter]

/-- The field of a key is the first that the properties under it give. -/
theorem field?_of_node {members : Members} (h : IsPlainObject members) (key : String)
    {name : Label} {description : Json} {schema : Schema Label} {notices : List Notice}
    (hn : node root (.object members) name description = .ok (schema, notices)) :
    ∃ own, (members.properties.filter (·.1 == key)).mapM
        (field root (members.requiredNames.contains key)) = .ok own ∧
      schema.field? key = (own.filterMap Prod.fst).head? := by
  rw [node_object h] at hn
  cases hb : fields root members with
  | error fault =>
    rw [hb] at hn
    cases hn
  | ok built =>
    rw [hb] at hn
    cases hn
    obtain ⟨own, hown, hfilter⟩ := filter_fields key hb
    refine ⟨own, hown, ?_⟩
    rw [← hfilter, List.head?_filter]
    rfl

/-- Two objects with the same under a key have the same field of this name. -/
theorem field?_eq {members others : Members} (hm : IsPlainObject members)
    (ho : IsPlainObject others) {key : String}
    (hsame : members.properties.filter (·.1 == key) = others.properties.filter (·.1 == key))
    (hrequired : members.requiredNames.contains key = others.requiredNames.contains key)
    {name otherName : Label} {description otherDescription : Json} {schema other : Schema Label}
    {notices otherNotices : List Notice}
    (hn : node root (.object members) name description = .ok (schema, notices))
    (hn' : node root (.object others) otherName otherDescription = .ok (other, otherNotices)) :
    schema.field? key = other.field? key := by
  obtain ⟨own, hown, hfield⟩ := field?_of_node hm key hn
  obtain ⟨otherOwn, hother, hotherField⟩ := field?_of_node ho key hn'
  rw [hsame, hrequired, hother] at hown
  cases hown
  rw [hfield, hotherField]

/--
**Siblings are independent.** Every resolution and every step of a conversion leaves the pointers in
flight as they were, also if it is stopped (`Undisturbed`), and does what the definitions say. So an
object has the fields that its properties give one by one, in their order; and whatever the other
properties are, the field of a key stays the same, up to the names that are drawn for it.
-/
theorem siblings_independent (root : Json) :
    (∀ limit, Undisturbed root limit) ∧
    (∀ inFlight value limit, 4 * callBound root inFlight value ≤ limit →
      Performs (resolveStateful root limit value) inFlight
        (resolveFrom root inFlight value).traced ∧
      (∀ name description, Performs ((statefulWithin root limit).schema value name description)
        inFlight (buildSchema root inFlight value name description)) ∧
      ∀ name required description,
        Performs ((statefulWithin root limit).slot value name required description) inFlight
          (buildSlot root inFlight value name required description)) ∧
    (∀ members, IsPlainObject members → ∀ name description,
      node root (.object members) name description =
        (fields root members).map (fun built =>
          (.object (titled members name) (described members description)
            (built.filterMap Prod.fst), built.flatMap Prod.snd))) ∧
    ∀ members others, IsPlainObject members → IsPlainObject others → ∀ key,
      members.properties.filter (·.1 == key) = others.properties.filter (·.1 == key) →
      members.requiredNames.contains key = others.requiredNames.contains key →
      ∀ name otherName description otherDescription schema other notices otherNotices,
        node root (.object members) name description = .ok (schema, notices) →
        node root (.object others) otherName otherDescription = .ok (other, otherNotices) →
        schema.field? key = other.field? key ∧
        ∀ named otherNamed, schema.Drawn named → other.Drawn otherNamed →
          Option.Rel Schema.FieldDrawn (schema.field? key) (named.field? key) ∧
          Option.Rel Schema.FieldDrawn (schema.field? key) (otherNamed.field? key) := by
  refine ⟨undisturbed root, fun inFlight value limit hlimit => ?_,
    fun members hm name description => node_object hm name description, ?_⟩
  · obtain ⟨hschema, hslot⟩ := performs_statefulWithin root hlimit
    exact ⟨performs_resolution root (by omega), hschema, hslot⟩
  · intro members others hm ho key hsame hrequired name otherName description otherDescription
      schema other notices otherNotices hn hother
    have hfield := field?_eq hm ho hsame hrequired hn hother
    refine ⟨hfield, fun named otherNamed hdrawn hotherDrawn => ⟨hdrawn.field? key, ?_⟩⟩
    rw [hfield]
    exact hotherDrawn.field? key

/-- A document that defines what a flag is. -/
def mailbox : Json := .object [("$defs", .object [("flag", .object [("type", .string "boolean")])])]

def flag : Json := .object [("$ref", .string "#/$defs/flag")]

/-- A message with two flags, one of which it must have. -/
def message : Members := [("type", .string "object"),
  ("properties", .object [("read", flag), ("starred", flag)]),
  ("required", .array [.string "read"])]

/-- A message with the second flag only. -/
def draft : Members :=
  [("type", .string "object"), ("properties", .object [("starred", flag)])]

/-- Each use of the flag is followed to its definition. -/
theorem field_flag (isRequired : Bool) (key : String) :
    field mailbox isRequired (key, flag) =
      .ok (some ⟨key, .null, .leaf .boolean none, !isRequired⟩, []) := by
  have htarget : target mailbox [] [("$ref", .string "#/$defs/flag")] "#/$defs/flag" =
      .ok (.object [("type", .string "boolean")]) := by decide +kernel
  have hchain : dereference mailbox [] flag =
      ⟨.object [("type", .string "boolean")], ["#/$defs/flag"], none⟩ := by
    rw [flag, dereference_of_ok rfl htarget, dereference_of_reference?_none rfl]
  have hreduced : buildReducedSlot mailbox ["#/$defs/flag"] [("type", .string "boolean")]
      (.string key) isRequired .null = ⟨slotOf .null (.leaf .boolean none) isRequired, []⟩ := by
    rw [buildReducedSlot_eq]
    show buildTypedSlot mailbox ["#/$defs/flag"] [("type", .string "boolean")] (.string key)
      isRequired .null = _
    rw [buildTypedSlot]
    rfl
  rw [field, slot, buildSlot_eq, hchain]
  show ((buildReducedSlot mailbox ["#/$defs/flag"] [("type", .string "boolean")] (.string key)
    isRequired .null).after none).conclude.map _ = _
  rw [hreduced]
  rfl

theorem fields_message : fields mailbox message =
    .ok [(some ⟨"read", .null, .leaf .boolean none, false⟩, []),
      (some ⟨"starred", .null, .leaf .boolean none, true⟩, [])] := by
  show List.mapM _ [("read", flag), ("starred", flag)] = _
  simp only [List.mapM_cons, List.mapM_nil, field_flag]
  rfl

theorem fields_draft : fields mailbox draft =
    .ok [(some ⟨"starred", .null, .leaf .boolean none, true⟩, [])] := by
  show List.mapM _ [("starred", flag)] = _
  simp only [List.mapM_cons, List.mapM_nil, field_flag]
  rfl

theorem siblings_independent_message :
    (IsPlainObject message ∧ IsPlainObject draft) ∧
    Performs ((statefulWithin mailbox (4 * callBound mailbox [] (.object message))).schema
      (.object message) .generated .null) [] (buildSchema mailbox [] (.object message) .generated
        .null) ∧
    ∃ schema other, node mailbox (.object message) .generated .null = .ok (schema, []) ∧
      node mailbox (.object draft) .generated .null = .ok (other, []) ∧
      schema.field? "starred" = other.field? "starred" := by
  obtain ⟨_, hperforms, hnode, hfield⟩ := siblings_independent mailbox
  have hmessage : IsPlainObject message := ⟨rfl, rfl⟩
  have hdraft : IsPlainObject draft := ⟨rfl, rfl⟩
  have hschema := hnode message hmessage .generated .null
  have hother := hnode draft hdraft .generated .null
  rw [fields_message] at hschema
  rw [fields_draft] at hother
  refine ⟨⟨hmessage, hdraft⟩, ?_, _, _, hschema, hother, ?_⟩
  · exact (hperforms [] (.object message) _ (Nat.le_refl _)).2.1 .generated .null
  · exact (hfield message draft hmessage hdraft "starred" rfl rfl _ _ _ _ _ _ _ _ hschema hother).1

end Convert

end ToolSchema
