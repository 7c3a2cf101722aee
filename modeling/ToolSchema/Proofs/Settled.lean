import ToolSchema.Convert.Build
import ToolSchema.Proofs.Resolving

/-!
# Settled values

A value is settled if, with certain pointers in flight, its resolution leaves no reference, and if
references stand only where conversion follows them (`Json.IsPlain`). This goes from a reference to
its target, whose pointer is in flight from there on, and from a node to its parts.

A settled node and the resolved node say the same under each keyword: the very same value where the
value is read as it is, and the resolved parts under `properties` and `anyOf`.
-/

namespace ToolSchema

/-- The keywords of which conversion reads the value as it is. -/
def literalKeys : List String :=
  ["type", "title", "description", "required", "enum", "const", "minItems", "maxItems"]

/-- The keywords of which conversion goes through the value without following it. -/
def containerKeys : List String := ["properties", "anyOf"]

/-- No reference stands where conversion would not follow it. -/
def Members.IsPlain (members : Members) : Prop :=
  (∀ key ∈ literalKeys, ∀ value ∈ members.lookup key, value.references = []) ∧
    ∀ key ∈ containerKeys, ∀ value ∈ members.lookup key, value.reference? = none

namespace Json

def IsPlain : Json → Prop
  | .object members => Members.IsPlain members
  | _ => True

instance (members : Members) : Decidable members.IsPlain :=
  inferInstanceAs (Decidable (_ ∧ _))

instance : DecidablePred IsPlain := fun value =>
  match value with
  | .object members => inferInstanceAs (Decidable (Members.IsPlain members))
  | .null | .bool _ | .int _ | .float _ | .string _ | .binary _ | .array _ | .record _ | .foreign =>
    inferInstanceAs (Decidable True)

theorem stable_isPlain : Stable IsPlain where
  int _ := trivial
  string _ := trivial
  empty := ⟨fun _ _ _ hv => (nomatch hv), fun _ _ _ hv => (nomatch hv)⟩
  typed type := by
    have hvalue : ∀ {key : String} {value : Json},
        value ∈ List.lookup key [("type", Json.string type)] → value = .string type := by
      intro key value hv
      have hm : (key, value) = ("type", Json.string type) :=
        List.mem_singleton.mp (mem_of_lookup hv)
      cases hm
      rfl
    exact ⟨fun _ _ _ hv => by rw [hvalue hv]; rfl, fun _ _ _ hv => by rw [hvalue hv]; rfl⟩
  overlay low top hl ht := by
    have hvalue : ∀ {key : String} {value : Json}, value ∈ (low.overlay top).lookup key →
        value ∈ top.lookup key ∨ value ∈ low.lookup key := by
      intro key value hv
      rw [Members.lookup_overlay, Option.mem_def, Option.or_eq_some_iff] at hv
      exact hv.imp id And.right
    exact ⟨fun key hk value hv => (hvalue hv).elim (ht.1 key hk value) (hl.1 key hk value),
      fun key hk value hv => (hvalue hv).elim (ht.2 key hk value) (hl.2 key hk value)⟩
  erase members key h := by
    have hvalue : ∀ {other : String} {value : Json}, value ∈ (members.erase key).lookup other →
        value ∈ members.lookup other := by
      intro other value hv
      rw [Members.lookup_erase] at hv
      split at hv
      · cases hv
      · exact hv
    exact ⟨fun other hk value hv => h.1 other hk value (hvalue hv),
      fun other hk value hv => h.2 other hk value (hvalue hv)⟩

end Json

namespace Convert

open Json

variable {root : Json} {inFlight : List String}

/-! ## Settled values -/

/-- With these pointers in flight, resolution replaces all references, and all are where it may. -/
structure Settled (root : Json) (inFlight : List String) (value : Json) : Prop where
  resolves : (resolved root inFlight value).references = []
  plain : Everywhere IsPlain value

theorem reference?_of_references_nil {value : Json} (h : value.references = []) :
    value.reference? = none := by
  cases value with
  | object members => exact (references_object_eq_nil.mp h).1
  | _ => rfl

theorem Settled.notice {value : Json} (h : Settled root inFlight value) :
    (dereference root inFlight value).notice = none := by
  cases hn : (dereference root inFlight value).notice with
  | none => rfl
  | some notice => exact absurd h.resolves (references_resolved_ne_nil hn)

/-- The end of a chain is settled with the pointers of the chain in flight. -/
theorem Settled.dereference {value : Json} (hroot : Everywhere IsPlain root)
    (h : Settled root inFlight value) :
    Settled root ((Json.dereference root inFlight value).followed ++ inFlight)
      (Json.dereference root inFlight value).node :=
  ⟨resolved_dereference inFlight value h.notice ▸ h.resolves,
    hroot.dereference stable_isPlain h.plain⟩

theorem Settled.item {items : List Json} (h : Settled root inFlight (.array items)) {item : Json}
    (hi : item ∈ items) : Settled root inFlight item := by
  have hitems := resolved_array root inFlight items ▸ h.resolves
  exact ⟨references_array_eq_nil.mp hitems _ (List.mem_map_of_mem hi), h.plain.item hi⟩

theorem Settled.isPlain {members : Members} (h : Settled root inFlight (.object members)) :
    members.IsPlain :=
  h.plain.self

/-- The resolved members of a settled object have no references. -/
theorem Settled.members {members : Members} (h : Settled root inFlight (.object members))
    (hr : members.reference? = none) :
    (Json.object (members.mapValues (resolved root inFlight))).references = [] := by
  rw [← resolved_object hr]
  exact h.resolves

theorem Settled.member {members : Members} (h : Settled root inFlight (.object members))
    (hr : members.reference? = none) {member : String × Json} (hm : member ∈ members) :
    Settled root inFlight member.2 :=
  ⟨(references_object_eq_nil.mp (h.members hr)).2 _ (List.mem_map_of_mem hm),
    (everywhere_object.mp h.plain).2 member hm⟩

theorem Settled.under {members : Members} (h : Settled root inFlight (.object members))
    (hr : members.reference? = none) {key : String} {value : Json}
    (hv : members.lookup key = some value) : Settled root inFlight value :=
  h.member hr (mem_of_lookup hv)

theorem Settled.branch {members : Members} (h : Settled root inFlight (.object members))
    (hr : members.reference? = none) {branch : Json} (hb : branch ∈ members.branches) :
    Settled root inFlight branch := by
  obtain ⟨items, hi, hb⟩ := mem_branches hb
  exact (h.under hr (items?_eq_some hi)).item hb

theorem Settled.property {members : Members} (h : Settled root inFlight (.object members))
    (hr : members.reference? = none) {property : String × Json}
    (hp : property ∈ members.properties) : Settled root inFlight property.2 := by
  obtain ⟨properties, hv, hp⟩ := mem_properties hp
  exact (h.under hr hv).member (h.isPlain.2 "properties" (by decide) _ hv) hp

theorem resolved_string (text : String) : resolved root inFlight (.string text) = .string text :=
  resolved_of_references_nil rfl

theorem Settled.withType {members : Members} (h : Settled root inFlight (.object members))
    (hr : members.reference? = none) (type : String) :
    Settled root inFlight (.object (members.withType type)) := by
  refine ⟨?_, h.plain.withType stable_isPlain type⟩
  rw [resolved_object ((Members.reference?_withType members type).trans hr),
    Members.mapValues_withType (resolved_string type)]
  -- A changed node has no references but those of the node, and this one has none.
  refine List.eq_nil_of_subset_nil ?_
  rw [← h.members hr]
  exact references_withType_subset _ type

theorem Settled.erase {members : Members} (h : Settled root inFlight (.object members))
    (hr : members.reference? = none) : Settled root inFlight (.object (members.erase "anyOf")) := by
  refine ⟨?_, h.plain.erase stable_isPlain "anyOf"⟩
  rw [resolved_object ((Members.reference?_erase_anyOf members).trans hr), Members.mapValues_erase]
  refine List.eq_nil_of_subset_nil ?_
  rw [← h.members hr]
  exact references_erase_subset (by decide)

/-! ## Reading the keywords -/

theorem items?_resolved {value : Json} (h : value.reference? = none) :
    (resolved root inFlight value).items? = value.items?.map (·.map (resolved root inFlight)) := by
  cases value with
  | object members => rw [resolved_object (show Members.reference? members = none from h)]; rfl
  | array items => rw [resolved_array]; rfl
  | _ => rw [resolved_of_leaf (by simp) (by simp)]; rfl

theorem members?_resolved {value : Json} (h : value.reference? = none) :
    (resolved root inFlight value).members? =
      value.members?.map (·.mapValues (resolved root inFlight)) := by
  cases value with
  | object members => rw [resolved_object (show Members.reference? members = none from h)]; rfl
  | array items => rw [resolved_array]; rfl
  | _ => rw [resolved_of_leaf (by simp) (by simp)]; rfl

theorem members_resolved {value : Json} (h : value.reference? = none) :
    (resolved root inFlight value).members =
      value.members.mapValues (resolved root inFlight) := by
  rw [Json.members, Json.members, members?_resolved h]
  cases value.members? <;> rfl

section Reading

variable {members : Members} (h : members.IsPlain)
include h

/-- The value of a literal keyword is what it was. -/
theorem lookup_literal {key : String} (hk : key ∈ literalKeys) :
    (members.mapValues (resolved root inFlight)).lookup key = members.lookup key := by
  rw [Members.lookup_mapValues]
  cases hv : members.lookup key with
  | none => rfl
  | some value => rw [Option.map_some, resolved_of_references_nil (h.1 key hk value hv)]

theorem items?_anyOf :
    (members.mapValues (resolved root inFlight)).items? "anyOf" =
      (members.items? "anyOf").map (·.map (resolved root inFlight)) := by
  rw [Members.items?, Members.items?, Members.lookup_mapValues]
  cases hv : members.lookup "anyOf" with
  | none => rfl
  | some value => exact items?_resolved (h.2 "anyOf" (by decide) value hv)

theorem branches_mapValues :
    Members.branches (members.mapValues (resolved root inFlight)) =
      members.branches.map (resolved root inFlight) := by
  rw [Members.branches, Members.branches, items?_anyOf h]
  cases members.items? "anyOf" <;> rfl

theorem properties_mapValues :
    Members.properties (members.mapValues (resolved root inFlight)) =
      members.properties.mapValues (resolved root inFlight) := by
  rw [Members.properties, Members.properties, Members.lookup_mapValues]
  cases hv : members.lookup "properties" with
  | none => rfl
  | some value =>
    show (resolved root inFlight value).members?.getD [] = (value.members?.getD []).mapValues _
    rw [members?_resolved (h.2 "properties" (by decide) value hv)]
    cases value.members? <;> rfl

theorem isUntypedUnion_mapValues :
    Members.isUntypedUnion (members.mapValues (resolved root inFlight)) =
      members.isUntypedUnion := by
  rw [Members.isUntypedUnion, Members.isUntypedUnion, items?_anyOf h, Members.hasKey_mapValues,
    Option.isSome_map]

theorem declaredType_mapValues :
    Members.declaredType (members.mapValues (resolved root inFlight)) = members.declaredType := by
  rw [Members.declaredType, Members.declaredType, Members.string?, lookup_literal h (by decide),
    items?_anyOf h, Members.hasKey_mapValues, Option.isSome_map]
  rfl

theorem typeList?_mapValues :
    Members.typeList? (members.mapValues (resolved root inFlight)) = members.typeList? := by
  rw [Members.typeList?, Members.items?, lookup_literal h (by decide)]
  rfl

theorem requiredNames_mapValues :
    Members.requiredNames (members.mapValues (resolved root inFlight)) =
      members.requiredNames := by
  rw [Members.requiredNames, Members.items?, lookup_literal h (by decide)]
  rfl

theorem arrayBounds_mapValues :
    arrayBounds (members.mapValues (resolved root inFlight)) = arrayBounds members := by
  rw [arrayBounds, arrayBounds, Members.count?, Members.count?, lookup_literal h (by decide),
    lookup_literal h (by decide)]
  rfl

theorem narrowing_mapValues (name : Label) (description : Json) :
    narrowing (members.mapValues (resolved root inFlight)) name description =
      narrowing members name description := by
  rw [narrowing, narrowing, lookup_literal h (by decide), lookup_literal h (by decide)]

theorem titled_mapValues (name : Label) :
    titled (members.mapValues (resolved root inFlight)) name = titled members name := by
  rw [titled, titled, Members.string?, lookup_literal h (by decide)]
  rfl

theorem described_mapValues (description : Json) :
    described (members.mapValues (resolved root inFlight)) description =
      described members description := by
  rw [described, described, Members.string?, lookup_literal h (by decide)]
  rfl

end Reading

end Convert

end ToolSchema
