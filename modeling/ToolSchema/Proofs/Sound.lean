import ToolSchema.Proofs.Building
import ToolSchema.Proofs.Enumerating
import ToolSchema.Proofs.Everywhere
import ToolSchema.Proofs.Trace
import ToolSchema.Proofs.WellFormed

/-!
# Conversion gives well-formed schemas

Whatever values stand at the keywords of a document, and wherever its references lead, a conversion
ends with a schema, and the schema is well formed. The document has to be made of JSON values, with
no key twice in an object (`Json.IsDocument`); a reader gives no others.

The invariant (`Sound`, `SlotSound`) goes through all builders at once: the schema is well formed
and no value was met that no schema can hold.
-/

namespace ToolSchema

namespace Json

/-- A node of a JSON document: of one of the eight kinds, an object with distinct keys. -/
def IsProper : Json → Prop
  | .object members => (Members.keys members).Nodup
  | .record _ | .foreign => False
  | _ => True

instance : DecidablePred IsProper := fun value =>
  match value with
  | .object members => inferInstanceAs (Decidable (Members.keys members).Nodup)
  | .record _ | .foreign => inferInstanceAs (Decidable False)
  | .null | .bool _ | .int _ | .float _ | .string _ | .binary _ | .array _ =>
    inferInstanceAs (Decidable True)

/-- A JSON value of any kind and nesting. -/
def IsDocument (value : Json) : Prop := Everywhere IsProper value

instance : DecidablePred IsDocument := inferInstanceAs (DecidablePred (Everywhere IsProper))

theorem stable_isProper : Stable IsProper where
  int _ := trivial
  string _ := trivial
  empty := List.nodup_nil
  typed _ := List.nodup_cons.mpr ⟨List.not_mem_nil, List.nodup_nil⟩
  overlay low top hl ht := by
    show (Members.overlay low top).keys.Nodup
    rw [Members.keys_overlay, List.nodup_append]
    refine ⟨hl, List.Nodup.sublist List.filter_sublist ht, ?_⟩
    rintro key hk other ho rfl
    exact absurd hk (by simpa using (List.mem_filter.mp ho).2)
  erase members key h := by
    show (List.map Prod.fst (members.filter _)).Nodup
    exact List.Nodup.sublist (List.filter_sublist.map _) h

/-- A JSON value has a kind. -/
theorem IsProper.kind? {value : Json} (h : value.IsProper) : ∃ kind, value.kind? = some kind := by
  cases value with
  | record _ => exact h.elim
  | foreign => exact h.elim
  | _ => exact ⟨_, rfl⟩

end Json

namespace Convert

open Json

/-! ## Constants -/

theorem unsupportedMark?_of_isProper {value : Json} (h : value.IsProper) :
    unsupportedMark? value = none := by
  obtain ⟨kind, hk⟩ := h.kind?
  rw [unsupportedMark?, hk]

/-- The leaf of a scalar under `enum` has the scalar's kind. -/
theorem wellFormed_scalarConstant? {value : Json} {schema : Schema Label}
    (h : scalarConstant? value = some schema) (inField : Bool) :
    schema.WellFormed Label.IsName inField := by
  cases value <;> simp only [scalarConstant?, Option.some.injEq, reduceCtorEq] at h <;> subst h
  · exact .leaf (fun c hc => by cases hc; exact .bool _)
  · exact .leaf (fun c hc => by cases hc; exact .int _)
  · exact .leaf (fun c hc => by cases hc; exact .float _)

theorem wellFormed_stringConstant (value : String) (inField : Bool) :
    (Schema.stringConstant value).WellFormed Label.IsName inField :=
  .leaf (fun c hc => by cases hc; exact .string _)

theorem enumeration_supported {values : Json} (name : Label) (description : Json)
    (h : values.IsDocument) : (enumeration values name description).unsupported = [] := by
  have hitems : ∀ item ∈ values.items, unsupportedMark? item = none := by
    intro item hi
    cases values with
    | array items => exact unsupportedMark?_of_isProper (h.item hi).self
    | _ => exact (List.not_mem_nil hi).elim
  rw [Traced.unsupported, enumeration_eq, List.filterMap_eq_nil_iff.mpr hitems]
  rfl

/-- The name of an enumeration matters only outside of fields. -/
theorem wellFormed_enumeration {values : Json} {name : Label} {description : Json}
    {inField : Bool} (hname : inField = false → name.IsName) :
    (enumeration values name description).value.schema.WellFormed Label.IsName inField := by
  rw [enumeration_eq]
  refine .union hname (fun branch hb => ?_)
  rcases List.mem_append.mp hb with hb | hb
  · obtain ⟨text, _, rfl⟩ := List.mem_map.mp hb
    exact wellFormed_stringConstant text false
  · obtain ⟨value, _, hv⟩ := List.mem_filterMap.mp hb
    exact wellFormed_scalarConstant? hv false

theorem constant_supported {value : Json} (h : value.IsDocument) :
    (constant value).unsupported = [] := by
  have htrace : (constant value).trace = (unsupportedMark? value).toList := rfl
  rw [Traced.unsupported, htrace, unsupportedMark?_of_isProper h.self]
  rfl

theorem wellFormed_constant {value : Json} {schema : Schema Label}
    (h : (constant value).value = some schema) (inField : Bool) :
    schema.WellFormed Label.IsName inField := by
  cases value <;> simp only [constant, Option.some.injEq, reduceCtorEq] at h <;> subst h
  · exact .leaf (fun c hc => by cases hc; exact .intPoint _)
  · exact .leaf (fun c hc => by cases hc; exact .floatPoint _)
  · exact wellFormed_stringConstant _ inField

theorem narrowing_supported {members : Members} (name : Label) (description : Json)
    (h : (Json.object members).IsDocument) :
    (narrowing members name description).unsupported = [] := by
  rw [narrowing]
  split
  · next values he =>
    exact enumeration_supported name description (h.under he)
  · split
    · next value hc => exact constant_supported (h.under hc)
    · rfl

theorem wellFormed_narrowing {members : Members} {name : Label} {description : Json}
    {narrowed : Narrowing} {inField : Bool} (hname : inField = false → name.IsName)
    (h : (narrowing members name description).value = some narrowed) :
    narrowed.schema.WellFormed Label.IsName inField := by
  rw [narrowing] at h
  split at h
  · next values he =>
    cases h
    exact wellFormed_enumeration hname
  · split at h
    · next value hc =>
      obtain ⟨schema, hs, rfl⟩ := Option.map_eq_some_iff.mp h
      exact wellFormed_constant hs inField
    · cases h

/-! ## The invariant of the builders -/

/-- The invariant of the builders of schemas. -/
structure Sound (inField : Bool) (built : Traced (Schema Label)) : Prop where
  supported : built.unsupported = []
  wellFormed : built.value.WellFormed Label.IsName inField

/-- The invariant of the builders of slots. -/
structure SlotSound (built : Traced (Option (Slot (Schema Label)))) : Prop where
  supported : built.unsupported = []
  wellFormed : ∀ slot, built.value = some slot → slot.schema.WellFormed Label.IsName true

variable {root : Json}

/-- What is shown of the schema of a node. -/
abbrev SchemaSound (root : Json) (inFlight : List String) (node : Json) (name : Label)
    (description : Json) : Prop :=
  node.IsDocument → name.IsName → Sound false (buildSchema root inFlight node name description)

/-- What is shown of the slot of a node. -/
abbrev NodeSlotSound (root : Json) (inFlight : List String) (node : Json) (name : Json)
    (required : Bool) (description : Json) : Prop :=
  node.IsDocument → SlotSound (buildSlot root inFlight node name required description)

theorem isName_titled (members : Members) {name : Label} (h : name.IsName) :
    (titled members name).IsName := by
  rw [titled]
  split
  · next title _ =>
    split
    · exact h
    · next ht => exact ⟨title, ht, rfl⟩
  · exact h

theorem Sound.after {inField : Bool} {built : Traced (Schema Label)} (h : Sound inField built)
    (notice : Option Notice) : Sound inField (built.after notice) :=
  ⟨by rw [Traced.unsupported_after]; exact h.supported, h.wellFormed⟩

theorem SlotSound.after {built : Traced (Option (Slot (Schema Label)))} (h : SlotSound built)
    (notice : Option Notice) : SlotSound (built.after notice) :=
  ⟨by rw [Traced.unsupported_after]; exact h.supported, h.wellFormed⟩

/-- No slot is a sound slot. -/
theorem slotSound_none : SlotSound ⟨none, []⟩ := ⟨rfl, fun _ h => by cases h⟩

/-- A sound schema in a slot. -/
theorem Sound.slotOf {inField : Bool} {built : Traced (Schema Label)} (h : Sound inField built)
    (hfield : built.value.WellFormed Label.IsName true) (description : Json) (required : Bool) :
    SlotSound (built.map (slotOf description · required)) := by
  refine ⟨h.supported, fun slot hs => ?_⟩
  cases hs
  exact hfield

theorem sound_leaf {kind : Primitive} {members : Members} {name : Label} {description : Json}
    (h : (Json.object members).IsDocument) (hname : name.IsName) :
    Sound false (buildLeaf kind members name description) := by
  refine ⟨narrowing_supported _ _ h, ?_⟩
  rw [buildLeaf, Traced.value_map]
  cases hn : (narrowing members name description).value with
  | none => exact .leaf (fun c hc => by cases hc)
  | some narrowed => exact wellFormed_narrowing (fun _ => hname) hn

theorem slotSound_leafSlot {kind : Primitive} {members : Members} {name : Json} {required : Bool}
    {description : Json} (h : (Json.object members).IsDocument) :
    SlotSound (buildLeafSlot kind members name required description) := by
  refine ⟨narrowing_supported _ _ h, fun slot hs => ?_⟩
  rw [buildLeafSlot, Traced.value_map] at hs
  cases hs
  cases hn : (narrowing members (.given name) description).value with
  | none => exact .leaf (fun c hc => by cases hc)
  | some narrowed => exact wellFormed_narrowing (fun hf => by cases hf) hn

theorem boundsFit_arrayBounds (members : Members) :
    BoundsFit (arrayBounds members).value.1 (arrayBounds members).value.2 := by
  have hcount : ∀ {key n}, members.count? key = some n → 0 ≤ n := by
    intro key n h
    rw [Members.count?, Option.filter_eq_some_iff] at h
    exact of_decide_eq_true h.2
  unfold arrayBounds
  split
  · next least greatest hl hg =>
    split
    · refine ⟨fun m hm => ?_, nofun, nofun⟩
      cases hm
      exact hcount hl
    · next hle =>
      refine ⟨fun m hm => ?_, fun n hn => ?_, fun m n hm hn => ?_⟩
      · cases hm
        exact hcount hl
      · cases hn
        exact hcount hg
      · cases hm
        cases hn
        exact Int.not_lt.mp hle
  · next least greatest hnone =>
    exact ⟨fun m hm => hcount hm, fun n hn => hcount hn,
      fun m n hm hn => (hnone m n hm hn).elim⟩

theorem arrayBounds_supported (members : Members) : (arrayBounds members).unsupported = [] := by
  unfold arrayBounds
  split
  · split <;> rfl
  · rfl

/-- Fields that keep the names of their properties keep their order, too. -/
theorem names_filterMap_sublist {properties : Members}
    {f : String × Json → Option (Field (Schema Label))}
    (h : ∀ property ∈ properties, ∀ field, f property = some field → field.name = property.1) :
    ((properties.filterMap f).map Field.name).Sublist properties.keys := by
  induction properties with
  | nil => exact List.Sublist.slnil
  | cons property rest ih =>
    have hrest := ih (fun other ho => h other (List.mem_cons_of_mem _ ho))
    cases hf : f property with
    | none =>
      rw [List.filterMap_cons_none hf]
      exact hrest.cons _
    | some field =>
      rw [List.filterMap_cons_some hf, List.map_cons, h property List.mem_cons_self field hf]
      exact hrest.cons_cons _

section Parts

variable {inFlight : List String} {members : Members}
  (h : (Json.object members).IsDocument)
  (parts : PartsHold root (SchemaSound root) (NodeSlotSound root) inFlight members)

include h parts

theorem sound_items : Sound false (buildItems root inFlight members) := by
  rw [buildItems]
  split
  · next items hi => exact parts.items items hi .generated .null (h.under hi) trivial
  · exact ⟨rfl, .object trivial List.nodup_nil (fun _ hf => (List.not_mem_nil hf).elim)⟩

theorem sound_array : Sound false (buildArray root inFlight members) := by
  have hitems := sound_items h parts
  rw [buildArray_eq]
  constructor
  · exact Traced.unsupported_append_eq_nil.mpr
      ⟨hitems.supported, arrayBounds_supported members⟩
  · exact .array hitems.wellFormed (boundsFit_arrayBounds members)

theorem sound_branch (hroot : root.IsDocument) {branch : Json} (hb : branch ∈ members.branches) :
    (buildBranch root inFlight branch).unsupported = [] ∧
      ∀ schema, (buildBranch root inFlight branch).value = some schema →
        schema.WellFormed Label.IsName false := by
  rw [buildBranch]
  split
  · next found hn =>
    have hfound : (Json.object found).IsDocument :=
      hn ▸ hroot.dereference stable_isProper (h.branch hb)
    have hs := parts.branch branch hb found hn .generated .null hfound trivial
    refine ⟨by rw [Traced.unsupported_after]; exact hs.supported, fun schema hv => ?_⟩
    cases hv
    exact hs.wellFormed
  · exact ⟨Traced.unsupported_after _ _, fun schema hv => by cases hv⟩

theorem sound_union (hroot : root.IsDocument) {name : Label} {description : Json} {inField : Bool}
    (hname : inField = false → name.IsName) :
    Sound inField (buildUnion root inFlight members name description) := by
  constructor
  · rw [buildUnion_eq]
    exact Traced.unsupported_sequence_map_eq_nil
      (fun branch hb => (sound_branch h parts hroot hb).1)
  · rw [value_buildUnion]
    refine .union hname (fun schema hs => ?_)
    obtain ⟨branch, hb, hv⟩ := List.mem_filterMap.mp hs
    exact (sound_branch h parts hroot hb).2 schema hv

theorem sound_field {property : String × Json} (hp : property ∈ members.properties)
    (required : List String) :
    (buildField root inFlight required property).unsupported = [] ∧
      ∀ field, (buildField root inFlight required property).value = some field →
        field.name = property.1 ∧ field.schema.WellFormed Label.IsName true := by
  have hs := parts.property property hp (.string property.1) (required.contains property.1) .null
    (h.property hp)
  refine ⟨hs.supported, fun field hf => ?_⟩
  obtain ⟨slot, hv, rfl⟩ := Option.map_eq_some_iff.mp hf
  exact ⟨rfl, hs.wellFormed slot hv⟩

omit parts in
theorem nodup_properties : members.properties.keys.Nodup := by
  rw [Members.properties]
  cases hv : members.lookup "properties" with
  | none => exact List.nodup_nil
  | some value =>
    have hproper := (h.under hv).self
    cases value with
    | object properties => exact hproper
    | _ => exact List.nodup_nil

theorem sound_object {name : Label} {description : Json} {inField : Bool} (hname : name.IsName) :
    Sound inField (buildObject root inFlight members name description) := by
  constructor
  · rw [buildObject_eq]
    exact Traced.unsupported_sequence_map_eq_nil
      (fun property hp => (sound_field h parts hp members.requiredNames).1)
  · rw [value_buildObject]
    refine .object hname ?_ (fun field hf => ?_)
    · -- Fields keep the order of the properties, whose keys are distinct.
      have hnames := names_filterMap_sublist
        (fun property hp field hf => ((sound_field h parts hp members.requiredNames).2 field hf).1)
      exact List.Nodup.sublist hnames (nodup_properties h)
    · obtain ⟨property, hp, hv⟩ := List.mem_filterMap.mp hf
      exact ((sound_field h parts hp _).2 field hv).2

theorem sound_declared (hroot : root.IsDocument) {name : Label} {description : Json}
    (hname : name.IsName) : Sound false (buildDeclared root inFlight members name description) := by
  have hnarrowed : ∀ {kept trace},
      narrowing members name description = ⟨kept, trace⟩ →
        (Traced.mk (α := Schema Label) unspecified trace).unsupported = [] := by
    intro kept trace hn
    have hs := narrowing_supported name description h
    rw [hn] at hs
    exact hs
  rw [buildDeclared]
  split
  · exact ⟨rfl, .leaf (fun c hc => by cases hc)⟩
  · exact sound_array h parts
  · exact sound_leaf h hname
  · exact sound_leaf h hname
  · exact sound_leaf h hname
  · exact sound_union h parts hroot (fun _ => hname)
  · exact sound_object h parts hname
  -- `null` and no type at all are built alike.
  all_goals
    split
    · next narrowed trace hn =>
      exact ⟨hnarrowed hn, wellFormed_narrowing (fun _ => hname) (by rw [hn])⟩
    · next trace hn =>
      have hobject : Sound false (buildObject root inFlight members name description) :=
        sound_object h parts hname
      exact ⟨Traced.unsupported_append_eq_nil.mpr ⟨hnarrowed hn, hobject.supported⟩,
        hobject.wellFormed⟩

theorem sound_typedSlot (hroot : root.IsDocument) {name : Json} {required : Bool}
    {description : Json}
    (hschema : Sound false (buildSchema root inFlight (.object members) .generated .null)) :
    SlotSound (buildTypedSlot root inFlight members name required description) := by
  have hunion : Sound true (buildUnion root inFlight members (.given name) description) :=
    sound_union h parts hroot (fun hf => by cases hf)
  have harray := sound_array h parts
  rw [buildTypedSlot]
  split
  · exact slotSound_none
  · refine ⟨rfl, fun slot hs => ?_⟩
    cases hs
    exact .leaf (fun c hc => by cases hc)
  · exact hschema.slotOf hschema.wellFormed.inField description required
  · exact harray.slotOf harray.wellFormed.inField description required
  · exact slotSound_leafSlot h
  · exact slotSound_leafSlot h
  · exact slotSound_leafSlot h
  · exact hunion.slotOf hunion.wellFormed description required
  · split
    · next values he =>
      refine ⟨enumeration_supported (.given name) description (h.under he),
        fun slot hs => ?_⟩
      cases hs
      exact wellFormed_enumeration (fun hf => by cases hf)
    · next value hc =>
      refine ⟨constant_supported (h.under hc), fun slot hs => ?_⟩
      obtain ⟨schema, hv, hs⟩ := Option.bind_eq_some_iff.mp hs
      cases hs
      exact wellFormed_constant hv true
    · exact hschema.slotOf hschema.wellFormed.inField description required

end Parts

/-- The invariant passes from what a node calls to the schema of the node. -/
theorem schemaSound_of_calls (hroot : root.IsDocument) {inFlight : List String} {node : Json}
    {name : Label} {description : Json}
    (calls : SchemaCalls root (SchemaSound root) (NodeSlotSound root)
      ((dereference root inFlight node).followed ++ inFlight)
      (dereference root inFlight node).node.members) :
    SchemaSound root inFlight node name description := by
  intro hnode hname
  have h : (Json.object (dereference root inFlight node).node.members).IsDocument :=
    (hroot.dereference stable_isProper hnode).ofMembers stable_isProper
  have htitled := isName_titled (dereference root inFlight node).node.members hname
  rw [buildSchema_eq]
  refine Sound.after ?_ _
  -- A type list gives an object, one node or a union of nodes.
  rw [buildNode_eq]
  split
  · next types ht =>
    split
    · exact sound_object h calls.parts htitled
    · next type hc =>
      exact calls.typed types ht type (by rw [hc]; exact List.mem_cons_self) _ _
        (h.withType stable_isProper type) htitled
    · next first second others hc =>
      have hbranch : ∀ type ∈ first :: second :: others,
          Sound false (buildSchema root ((dereference root inFlight node).followed ++ inFlight)
            (.object ((dereference root inFlight node).node.members.withType type)) .generated
            (described (dereference root inFlight node).node.members description)) :=
        fun type hm => calls.typed types ht type (by rw [hc]; exact hm) _ _
          (h.withType stable_isProper type) trivial
      constructor
      · exact Traced.unsupported_sequence_map_eq_nil
          (fun type hm => (hbranch type hm).supported)
      · refine .union (fun _ => htitled) (fun schema hs => ?_)
        rw [Traced.value_sequence, List.map_map] at hs
        obtain ⟨type, hm, rfl⟩ := List.mem_map.mp hs
        exact (hbranch type hm).wellFormed
  · exact sound_declared h calls.parts hroot htitled

theorem branchNotices_supported {α : Type} {inFlight : List String} {branches : List Json}
    (value : α) : (Traced.mk value (branchNotices root inFlight branches)).unsupported = [] := by
  refine Traced.unsupported_notices value (fun mark hm => ?_)
  obtain ⟨branch, _, hb⟩ := List.mem_filterMap.mp hm
  obtain ⟨notice, _, rfl⟩ := Option.map_eq_some_iff.mp hb
  exact ⟨notice, rfl⟩

theorem slotSound_collapsed {inFlight : List String} {members : Members} {name : Json}
    {required : Bool} {description : Json} (h : (Json.object members).IsDocument)
    (calls : SlotCalls root (SchemaSound root) (NodeSlotSound root) inFlight members)
    (hu : members.isUntypedUnion = true) :
    SlotSound (buildCollapsedSlot root inFlight members name required description) := by
  rw [buildCollapsedSlot]
  split
  · next branch hb =>
    have hbranch := List.mem_of_find?_eq_some hb
    exact calls.chosen branch hbranch _ _ _ (h.branch hbranch)
  · split
    · exact slotSound_none
    · exact calls.rest hu _ _ _ (h.erase stable_isProper "anyOf")

/-- The invariant passes from what a node calls to the slot of the node. -/
theorem nodeSlotSound_of_calls (hroot : root.IsDocument) {inFlight : List String} {node name : Json}
    {required : Bool} {description : Json}
    (calls : ∀ members, (dereference root inFlight node).node = .object members →
      SlotCalls root (SchemaSound root) (NodeSlotSound root)
        ((dereference root inFlight node).followed ++ inFlight) members) :
    NodeSlotSound root inFlight node name required description := by
  intro hnode
  rw [buildSlot_eq]
  split
  · next members hn =>
    have h : (Json.object members).IsDocument := hn ▸ hroot.dereference stable_isProper hnode
    have hcalls := calls members hn
    have htyped : ∀ {reduced required description}, Reduced members reduced →
        (Json.object reduced).IsDocument →
        SlotSound (buildTypedSlot root ((dereference root inFlight node).followed ++ inFlight)
          reduced name required description) :=
      fun hr hd => sound_typedSlot hd (hcalls.parts _ hr) hroot (hcalls.schema _ hr _ _ hd trivial)
    refine SlotSound.after ?_ _
    rw [buildReducedSlot_eq]
    split
    · next types ht =>
      split
      · exact slotSound_none
      · next type others hc =>
        exact htyped (.typed ht (by rw [hc]; exact List.mem_cons_self))
          (h.withType stable_isProper type)
    · split
      · next hu =>
        have hcollapsed : SlotSound (buildCollapsedSlot root
            ((dereference root inFlight node).followed ++ inFlight) members name required
            (described members description)) := slotSound_collapsed h hcalls hu
        refine ⟨?_, hcollapsed.wellFormed⟩
        rw [Traced.unsupported_append_eq_nil]
        exact ⟨branchNotices_supported _, hcollapsed.supported⟩
      · exact htyped .same h
  · exact SlotSound.after slotSound_none _

/-! ## Every conversion -/

/-- The schema of every node is sound, and so is its slot. -/
theorem sound_build (hroot : root.IsDocument) :
    (∀ inFlight node name description, SchemaSound root inFlight node name description) ∧
      ∀ inFlight node name required description,
        NodeSlotSound root inFlight node name required description :=
  build_induction (fun _ _ _ _ calls => schemaSound_of_calls hroot calls)
    (fun _ _ _ _ _ calls => nodeSlotSound_of_calls hroot calls)

end Convert

end ToolSchema
