import Mathlib.Data.List.Basic
import ToolSchema.Proofs.Everywhere

/-!
# Resolution, part by part

`Json.resolved` is what a resolution puts in the place of a value. At a node that is no reference it
goes member by member and item by item; at a reference it goes where a dereference goes, if the
chain ends at an object or a value that is no reference.

* `Json.resolve_induction` — the induction that goes with it
* `Json.resolveFrom_congr` — only the pointers in flight count, not their order
* `Json.resolveFrom_dereference` — resolution of a chain is resolution of its end
* `Json.resolve_eq_dereference` — resolution is dereference at each level
-/

namespace ToolSchema

namespace Members

/-- The members with other values under their keys. -/
def mapValues (f : Json → Json) (members : Members) : Members :=
  members.map (fun member => (member.1, f member.2))

theorem mapValues_congr {f g : Json → Json} {members : Members}
    (h : ∀ member ∈ members, f member.2 = g member.2) :
    members.mapValues f = members.mapValues g :=
  List.map_congr_left (fun member hm => by rw [h member hm])

theorem lookup_mapValues (f : Json → Json) (members : Members) (key : String) :
    (members.mapValues f).lookup key = (members.lookup key).map f :=
  lookup_map_value members (fun _ value => f value) key

theorem hasKey_mapValues (f : Json → Json) (members : Members) (key : String) :
    (members.mapValues f).hasKey key = members.hasKey key := by
  rw [hasKey, mapValues, List.any_map]
  rfl

theorem mapValues_erase (f : Json → Json) (members : Members) (key : String) :
    (members.erase key).mapValues f = (members.mapValues f).erase key := by
  rw [erase, erase, mapValues, mapValues, List.filter_map]
  rfl

theorem mapValues_overlay (f : Json → Json) (low top : Members) :
    (low.overlay top).mapValues f = (low.mapValues f).overlay (top.mapValues f) := by
  have hold : ∀ member : String × Json, f ((top.lookup member.1).getD member.2) =
      ((top.mapValues f).lookup member.1).getD (f member.2) := by
    intro member
    rw [lookup_mapValues]
    cases top.lookup member.1 <;> rfl
  simp only [overlay, mapValues, List.map_append, List.map_map, List.filter_map]
  congr 1
  · exact List.map_congr_left (fun member _ => by simpa [mapValues] using hold member)
  · congr 1
    refine List.filter_congr (fun member _ => ?_)
    simp [List.any_map, Function.comp_def]

/-- A change of values goes with a change of the type, unless it changes texts. -/
theorem mapValues_withType {f : Json → Json} {type : String} (hf : f (.string type) = .string type)
    (members : Members) :
    (members.withType type).mapValues f = (members.mapValues f).withType type := by
  rw [withType, withType, put, put, mapValues_overlay]
  simp [mapValues, hf]

end Members

namespace Json

variable {root : Json}

/-! ## Equations -/

theorem resolveItems_eq (root : Json) (inFlight : List String) (items : List Json) :
    resolveItems root inFlight items =
      ⟨items.map (fun item => (resolveFrom root inFlight item).value),
        items.flatMap (fun item => (resolveFrom root inFlight item).notices)⟩ := by
  induction items with
  | nil =>
    rw [resolveItems]
    rfl
  | cons item rest ih =>
    rw [resolveItems, ih]
    rfl

theorem resolveMembers_eq (root : Json) (inFlight : List String) (members : Members) :
    resolveMembers root inFlight members =
      ⟨members.mapValues (fun value => (resolveFrom root inFlight value).value),
        members.flatMap (fun member => (resolveFrom root inFlight member.2).notices)⟩ := by
  induction members with
  | nil =>
    rw [resolveMembers]
    rfl
  | cons member rest ih =>
    obtain ⟨key, value⟩ := member
    rw [resolveMembers, ih]
    rfl

theorem resolveFrom_array (root : Json) (inFlight : List String) (items : List Json) :
    resolveFrom root inFlight (.array items) =
      ⟨.array (items.map (fun item => (resolveFrom root inFlight item).value)),
        items.flatMap (fun item => (resolveFrom root inFlight item).notices)⟩ := by
  rw [resolveFrom, resolveItems_eq]

/-- An object that is no reference is resolved member by member. -/
theorem resolveFrom_object {inFlight : List String} {members : Members}
    (h : members.reference? = none) :
    resolveFrom root inFlight (.object members) =
      ⟨.object (members.mapValues (fun value => (resolveFrom root inFlight value).value)),
        members.flatMap (fun member => (resolveFrom root inFlight member.2).notices)⟩ := by
  rw [resolveFrom]
  split
  · simp only [resolveMembers_eq]
  · simp_all

/-- A reference that cannot be followed stays. -/
theorem resolveFrom_of_error {inFlight : List String} {members : Members} {pointer : String}
    {notice : Notice} (hr : members.reference? = some pointer)
    (ht : target root inFlight members pointer = .error notice) :
    resolveFrom root inFlight (.object members) = ⟨.object members, [notice]⟩ := by
  rw [resolveFrom]
  split
  · simp_all
  · next found hr' =>
    rw [hr] at hr'
    cases hr'
    split <;> simp_all

theorem resolveFrom_of_ok {inFlight : List String} {members : Members} {pointer : String}
    {found : Json} (hr : members.reference? = some pointer)
    (ht : target root inFlight members pointer = .ok found) :
    resolveFrom root inFlight (.object members) = resolveFrom root (pointer :: inFlight) found := by
  rw [resolveFrom]
  split
  · simp_all
  · next found hr' =>
    rw [hr] at hr'
    cases hr'
    split
    · simp_all
    · next found' ht' =>
      rw [ht] at ht'
      cases ht'
      rfl

/-- A value without parts stays. -/
theorem resolveFrom_of_leaf {inFlight : List String} {value : Json}
    (hobject : ∀ members, value ≠ .object members) (harray : ∀ items, value ≠ .array items) :
    resolveFrom root inFlight value = ⟨value, []⟩ := by
  cases value with
  | object members => exact absurd rfl (hobject members)
  | array items => exact absurd rfl (harray items)
  | _ => rw [resolveFrom] <;> simp

/-! ## The resolved value -/

/-- What a resolution puts in the place of a value. -/
def resolved (root : Json) (inFlight : List String) (value : Json) : Json :=
  (resolveFrom root inFlight value).value

theorem resolved_array (root : Json) (inFlight : List String) (items : List Json) :
    resolved root inFlight (.array items) = .array (items.map (resolved root inFlight)) := by
  rw [resolved, resolveFrom_array]
  rfl

theorem resolved_object {inFlight : List String} {members : Members}
    (h : members.reference? = none) :
    resolved root inFlight (.object members) =
      .object (members.mapValues (resolved root inFlight)) := by
  rw [resolved, resolveFrom_object h]
  rfl

theorem resolved_of_error {inFlight : List String} {members : Members} {pointer : String}
    {notice : Notice} (hr : members.reference? = some pointer)
    (ht : target root inFlight members pointer = .error notice) :
    resolved root inFlight (.object members) = .object members := by
  rw [resolved, resolveFrom_of_error hr ht]

theorem resolved_of_ok {inFlight : List String} {members : Members} {pointer : String}
    {found : Json} (hr : members.reference? = some pointer)
    (ht : target root inFlight members pointer = .ok found) :
    resolved root inFlight (.object members) = resolved root (pointer :: inFlight) found := by
  rw [resolved, resolveFrom_of_ok hr ht, resolved]

theorem resolved_of_leaf {inFlight : List String} {value : Json}
    (hobject : ∀ members, value ≠ .object members) (harray : ∀ items, value ≠ .array items) :
    resolved root inFlight value = value := by
  rw [resolved, resolveFrom_of_leaf hobject harray]

/-! ## Induction -/

/-- Induction along a resolution: parts of a node first, and the target before the reference. -/
theorem resolve_induction (root : Json) {motive : List String → Json → Prop}
    (object : ∀ inFlight members, Members.reference? members = none →
      (∀ member ∈ members, motive inFlight member.2) → motive inFlight (.object members))
    (error : ∀ inFlight members pointer notice, Members.reference? members = some pointer →
      target root inFlight members pointer = .error notice → motive inFlight (.object members))
    (ok : ∀ inFlight members pointer found, Members.reference? members = some pointer →
      target root inFlight members pointer = .ok found → motive (pointer :: inFlight) found →
        motive inFlight (.object members))
    (array : ∀ inFlight items, (∀ item ∈ items, motive inFlight item) →
      motive inFlight (.array items))
    (leaf : ∀ inFlight value, (∀ members, value ≠ Json.object members) →
      (∀ items, value ≠ Json.array items) → motive inFlight value)
    (inFlight : List String) (value : Json) : motive inFlight value := by
  refine resolveFrom.induct root motive (fun inFlight items => ∀ item ∈ items, motive inFlight item)
    (fun inFlight members => ∀ member ∈ members, motive inFlight member.2)
    object (fun inFlight members pointer hr notice => error inFlight members pointer notice hr)
    (fun inFlight members pointer hr found => ok inFlight members pointer found hr) array leaf
    ?_ ?_ ?_ ?_ inFlight value
  · exact fun _ item hi => (List.not_mem_nil hi).elim
  · exact fun _ item rest hitem hrest => List.forall_mem_cons.mpr ⟨hitem, hrest⟩
  · exact fun _ member hm => (List.not_mem_nil hm).elim
  · exact fun _ key value rest hvalue hrest => List.forall_mem_cons.mpr ⟨hvalue, hrest⟩

/-! ## Pointers in flight -/

theorem target_congr {inFlight inFlight' : List String} {members : Members} {pointer : String}
    (h : ∀ p, p ∈ inFlight ↔ p ∈ inFlight') :
    target root inFlight members pointer = target root inFlight' members pointer := by
  simp only [target, h]

/-- **Resolution asks which pointers are in flight**, and nothing about their order. -/
theorem resolveFrom_congr {inFlight inFlight' : List String} (value : Json)
    (h : ∀ p, p ∈ inFlight ↔ p ∈ inFlight') :
    resolveFrom root inFlight value = resolveFrom root inFlight' value := by
  -- Both lists grow along a chain, so the second one has to stay open.
  induction inFlight, value using resolve_induction root generalizing inFlight' with
  | object inFlight members hr ih =>
    have hmember : ∀ member ∈ members,
        resolveFrom root inFlight member.2 = resolveFrom root inFlight' member.2 :=
      fun member hm => ih member hm h
    have hvalues : members.mapValues (fun value => (resolveFrom root inFlight value).value) =
        members.mapValues (fun value => (resolveFrom root inFlight' value).value) :=
      Members.mapValues_congr (fun member hm => congrArg Resolved.value (hmember member hm))
    rw [resolveFrom_object hr, resolveFrom_object hr, hvalues,
      List.flatMap_congr (fun member hm => congrArg Resolved.notices (hmember member hm))]
  | error inFlight members pointer notice hr ht =>
    rw [resolveFrom_of_error hr ht, resolveFrom_of_error hr (target_congr h ▸ ht)]
  | ok inFlight members pointer found hr ht ih =>
    rw [resolveFrom_of_ok hr ht, resolveFrom_of_ok hr (target_congr h ▸ ht)]
    exact ih (fun p => by rw [List.mem_cons, List.mem_cons, h p])
  | array inFlight items ih =>
    have hitem : ∀ item ∈ items, resolveFrom root inFlight item = resolveFrom root inFlight' item :=
      fun item hi => ih item hi h
    rw [resolveFrom_array, resolveFrom_array,
      List.map_congr_left (fun item hi => congrArg Resolved.value (hitem item hi)),
      List.flatMap_congr (fun item hi => congrArg Resolved.notices (hitem item hi))]
  | leaf inFlight value hobject harray =>
    rw [resolveFrom_of_leaf hobject harray, resolveFrom_of_leaf hobject harray]

/-! ## Values without references -/

theorem referencesOfMembers_eq_nil {members : Members} :
    referencesOfMembers members = [] ↔ ∀ member ∈ members, member.2.references = [] := by
  induction members with
  | nil => simp [referencesOfMembers]
  | cons member rest ih =>
    obtain ⟨key, value⟩ := member
    rw [referencesOfMembers, List.append_eq_nil_iff, ih, List.forall_mem_cons]

theorem referencesOfItems_eq_nil {items : List Json} :
    referencesOfItems items = [] ↔ ∀ item ∈ items, item.references = [] := by
  induction items with
  | nil => simp [referencesOfItems]
  | cons item rest ih =>
    rw [referencesOfItems, List.append_eq_nil_iff, ih, List.forall_mem_cons]

theorem references_array_eq_nil {items : List Json} :
    (Json.array items).references = [] ↔ ∀ item ∈ items, item.references = [] := by
  rw [references, referencesOfItems_eq_nil]

theorem references_object_eq_nil {members : Members} :
    (Json.object members).references = [] ↔
      members.reference? = none ∧ ∀ member ∈ members, member.2.references = [] := by
  rw [references, List.append_eq_nil_iff, Option.toList_eq_nil_iff, referencesOfMembers_eq_nil]

mutual

/-- The pointers of a value are those of its nodes. -/
theorem mem_references {pointer : String} : (value : Json) →
    (pointer ∈ value.references ↔ ∃ node ∈ value.preorder, node.reference? = some pointer)
  | .array items => by
    have hself : (Json.array items).reference? = none := rfl
    rw [references, preorder, mem_references_items items]
    simp [hself]
  | .object members => by
    have hself : (Json.object members).reference? = Members.reference? members := rfl
    rw [references, preorder, List.mem_append, mem_references_members members]
    simp [hself]
  | .null | .bool _ | .int _ | .float _ | .string _ | .binary _ | .record _ | .foreign => by
    simp [references, preorder, reference?, members?]

theorem mem_references_items {pointer : String} : (items : List Json) →
    (pointer ∈ referencesOfItems items ↔
      ∃ node ∈ preorderOfItems items, node.reference? = some pointer)
  | [] => by simp [referencesOfItems, preorderOfItems]
  | item :: rest => by
    rw [referencesOfItems, preorderOfItems, List.mem_append, mem_references item,
      mem_references_items rest]
    simp [or_and_right, exists_or]

theorem mem_references_members {pointer : String} : (members : List (String × Json)) →
    (pointer ∈ referencesOfMembers members ↔
      ∃ node ∈ preorderOfMembers members, node.reference? = some pointer)
  | [] => by simp [referencesOfMembers, preorderOfMembers]
  | (key, value) :: rest => by
    rw [referencesOfMembers, preorderOfMembers, List.mem_append, mem_references value,
      mem_references_members rest]
    simp [or_and_right, exists_or]

end

/-- A walk finds no reference in a value without any. -/
theorem hasReferences_eq_false {value : Json} :
    value.hasReferences = false ↔ value.references = [] := by
  rw [hasReferences, walk_eq_preorder, List.any_eq_false, List.eq_nil_iff_forall_not_mem]
  constructor
  · intro hnode pointer hp
    obtain ⟨node, hn, hr⟩ := (mem_references value).mp hp
    exact hnode node hn (by rw [isReference, hr]; rfl)
  · intro hnone node hn hreference
    obtain ⟨pointer, hr⟩ := Option.isSome_iff_exists.mp hreference
    exact hnone pointer ((mem_references value).mpr ⟨node, hn, hr⟩)

/-- A value without references is resolved to itself, and nothing is reported. -/
theorem resolveFrom_of_references_nil {inFlight : List String} {value : Json}
    (h : value.references = []) : resolveFrom root inFlight value = ⟨value, []⟩ := by
  induction inFlight, value using resolve_induction root with
  | object inFlight members hr ih =>
    obtain ⟨_, hmembers⟩ := references_object_eq_nil.mp h
    have hmember : ∀ member ∈ members, resolveFrom root inFlight member.2 = ⟨member.2, []⟩ :=
      fun member hm => ih member hm (hmembers member hm)
    have hvalues : members.mapValues (fun value => (resolveFrom root inFlight value).value) =
        members.mapValues id :=
      Members.mapValues_congr (fun member hm => congrArg Resolved.value (hmember member hm))
    have hnotices :
        members.flatMap (fun member => (resolveFrom root inFlight member.2).notices) = [] :=
      List.flatMap_eq_nil_iff.mpr (fun member hm => congrArg Resolved.notices (hmember member hm))
    rw [resolveFrom_object hr, hvalues, hnotices]
    exact congrArg (Resolved.mk · _) (congrArg Json.object (List.map_id members))
  | error inFlight members pointer notice hr ht =>
    rw [(references_object_eq_nil.mp h).1] at hr
    cases hr
  | ok inFlight members pointer found hr ht ih =>
    rw [(references_object_eq_nil.mp h).1] at hr
    cases hr
  | array inFlight items ih =>
    have hitem : ∀ item ∈ items, resolveFrom root inFlight item = ⟨item, []⟩ :=
      fun item hi => ih item hi (references_array_eq_nil.mp h item hi)
    have hvalues : items.map (fun item => (resolveFrom root inFlight item).value) = items.map id :=
      List.map_congr_left (fun item hi => congrArg Resolved.value (hitem item hi))
    have hnotices : items.flatMap (fun item => (resolveFrom root inFlight item).notices) = [] :=
      List.flatMap_eq_nil_iff.mpr (fun item hi => congrArg Resolved.notices (hitem item hi))
    rw [resolveFrom_array, hvalues, hnotices, List.map_id]
  | leaf inFlight value hobject harray => exact resolveFrom_of_leaf hobject harray

theorem resolved_of_references_nil {inFlight : List String} {value : Json}
    (h : value.references = []) : resolved root inFlight value = value := by
  rw [resolved, resolveFrom_of_references_nil h]

/-- Leaving a value without references alone is no exception from resolving it. -/
theorem resolve_none (root value : Json) :
    resolve root none value = resolveFrom root [] value := by
  rw [resolve]
  split
  · rfl
  · next href =>
    rw [Bool.not_eq_true, hasReferences_eq_false] at href
    exact (resolveFrom_of_references_nil href).symm

/-! ## Chains -/

/-- What is no object is no reference. -/
theorem reference?_of_not_object {value : Json} (hobject : ∀ members, value ≠ .object members) :
    value.reference? = none := by
  cases value with
  | object members => exact absurd rfl (hobject members)
  | _ => rfl

/-- What is no reference is no chain. -/
theorem dereference_of_not_reference {inFlight : List String} {value : Json}
    (h : value.reference? = none) : dereference root inFlight value = ⟨value, [], none⟩ := by
  cases value with
  | object members => exact dereference_of_reference?_none h
  | _ =>
    rw [dereference]
    simp

/-- A chain ends at a reference exactly if there is a reason why it ends. -/
theorem isSome_reference?_dereference (root : Json) (inFlight : List String) (value : Json) :
    (dereference root inFlight value).node.reference?.isSome =
      (dereference root inFlight value).notice.isSome := by
  fun_induction dereference root inFlight value with
  | case1 inFlight members hr => exact congrArg Option.isSome hr
  | case2 inFlight members pointer hr notice ht => exact congrArg Option.isSome hr
  | case3 inFlight members pointer hr found ht chain ih => exact ih
  | case4 inFlight value hobject =>
    cases value with
    | object members => exact absurd rfl (hobject members)
    | _ => rfl

/-- A chain that was followed to its end ends at what is no reference. -/
theorem reference?_dereference {inFlight : List String} {value : Json}
    (h : (dereference root inFlight value).notice = none) :
    (dereference root inFlight value).node.reference? = none := by
  rw [← Option.isNone_iff_eq_none, ← Option.not_isSome, isSome_reference?_dereference, h]
  rfl

/-- A chain depends on which pointers are in flight, and not on their order. -/
theorem dereference_congr {inFlight inFlight' : List String} (value : Json)
    (h : ∀ p, p ∈ inFlight ↔ p ∈ inFlight') :
    dereference root inFlight value = dereference root inFlight' value := by
  induction inFlight, value using dereference.induct root generalizing inFlight' with
  | case1 inFlight members hr =>
    rw [dereference_of_reference?_none hr, dereference_of_reference?_none hr]
  | case2 inFlight members pointer hr notice ht =>
    rw [dereference_of_error hr ht, dereference_of_error hr (target_congr h ▸ ht)]
  | case3 inFlight members pointer hr found ht ih =>
    have hrest : dereference root (pointer :: inFlight) found =
        dereference root (pointer :: inFlight') found :=
      ih (fun p => by rw [List.mem_cons, List.mem_cons, h p])
    rw [dereference_of_ok hr ht, dereference_of_ok hr (target_congr h ▸ ht), hrest]
  | case4 inFlight value hobject =>
    have hr : value.reference? = none := reference?_of_not_object hobject
    rw [dereference_of_not_reference hr, dereference_of_not_reference hr]

/-- The pointers of a chain come before those in flight, whichever was followed first. -/
theorem mem_followed_append (pointer : String) (followed inFlight : List String) (p : String) :
    p ∈ followed ++ pointer :: inFlight ↔ p ∈ pointer :: followed ++ inFlight := by
  simp only [List.cons_append, List.mem_append, List.mem_cons]
  exact or_left_comm

/-- The end of a chain is followed no further while the pointers of the chain are in flight. -/
theorem dereference_dereference (root : Json) (inFlight : List String) (value : Json) :
    dereference root ((dereference root inFlight value).followed ++ inFlight)
        (dereference root inFlight value).node =
      ⟨(dereference root inFlight value).node, [], (dereference root inFlight value).notice⟩ := by
  fun_induction dereference root inFlight value with
  | case1 inFlight members hr => exact dereference_of_reference?_none hr
  | case2 inFlight members pointer hr notice ht => exact dereference_of_error hr ht
  | case3 inFlight members pointer hr found ht chain ih =>
    rw [← dereference_congr chain.node (mem_followed_append pointer chain.followed inFlight)]
    exact ih
  | case4 inFlight value hobject =>
    exact dereference_of_not_reference (reference?_of_not_object hobject)

/-- Resolving a chain is resolving its end, with the pointers of the chain in flight. -/
theorem resolveFrom_dereference (inFlight : List String) (value : Json)
    (h : (dereference root inFlight value).notice = none) :
    resolveFrom root inFlight value =
      resolveFrom root ((dereference root inFlight value).followed ++ inFlight)
        (dereference root inFlight value).node := by
  fun_induction dereference root inFlight value with
  | case3 inFlight members pointer hr found ht chain ih =>
    -- The pointer went in flight first, and stands behind the rest of the chain.
    rw [resolveFrom_of_ok hr ht, ih h]
    exact resolveFrom_congr _ (mem_followed_append pointer chain.followed inFlight)
  | case2 => cases h
  | _ => rfl

/-- A chain that ends at a reference is replaced by it, whatever stands next to its `$ref`. -/
theorem resolveFrom_of_notice {inFlight : List String} {value : Json} {notice : Notice}
    (h : (dereference root inFlight value).notice = some notice) :
    resolveFrom root inFlight value = ⟨(dereference root inFlight value).node, [notice]⟩ := by
  fun_induction dereference root inFlight value with
  | case2 inFlight members pointer hr other ht =>
    cases h
    exact resolveFrom_of_error hr ht
  | case3 inFlight members pointer hr found ht chain ih =>
    rw [resolveFrom_of_ok hr ht]
    exact ih h
  | _ => cases h

theorem resolved_dereference (inFlight : List String) (value : Json)
    (h : (dereference root inFlight value).notice = none) :
    resolved root inFlight value =
      resolved root ((dereference root inFlight value).followed ++ inFlight)
        (dereference root inFlight value).node := by
  rw [resolved, resolveFrom_dereference inFlight value h, resolved]

/-- A chain that ends at a reference leaves this reference in the resolved value. -/
theorem references_resolved_ne_nil {inFlight : List String} {value : Json} {notice : Notice}
    (h : (dereference root inFlight value).notice = some notice) :
    (resolved root inFlight value).references ≠ [] := by
  have hend := isSome_reference?_dereference root inFlight value
  rw [resolved, resolveFrom_of_notice h]
  rw [h] at hend
  intro hnil
  cases hnode : (dereference root inFlight value).node with
  | object members =>
    rw [hnode] at hend hnil
    rw [show (Json.object members).reference? = none from
      (references_object_eq_nil.mp hnil).1] at hend
    cases hend
  | _ =>
    rw [hnode] at hend
    cases hend

/-! ## Node by node -/

/-- The value with other values in the place of those directly below it; keys and order stay. -/
def mapChildren (f : Json → Json) : Json → Json
  | .array items => .array (items.map f)
  | .object members => .object (Members.mapValues f members)
  | value => value

/-- What is no reference is resolved child by child. -/
theorem resolveFrom_of_not_reference {inFlight : List String} {value : Json}
    (h : value.reference? = none) :
    resolveFrom root inFlight value =
      ⟨value.mapChildren (fun child => (resolveFrom root inFlight child).value),
        value.children.flatMap (fun child => (resolveFrom root inFlight child).notices)⟩ := by
  cases value with
  | object members =>
    rw [resolveFrom_object h, children, List.flatMap_map]
    rfl
  | array items => rw [resolveFrom_array, mapChildren, children]
  | _ => exact resolveFrom_of_leaf (by simp) (by simp)

/--
**Resolution is dereference, level by level.** A chain that ends at a reference is replaced by this
reference as it stands, and the reason is reported. Any other chain is replaced by its end, with
each child resolved while the pointers of the chain are in flight too.
-/
theorem resolve_eq_dereference (root value : Json) (inFlight : List String) :
    let chain := dereference root inFlight value
    let below := resolve root (some (chain.followed ++ inFlight))
    chain.node.isReference = chain.notice.isSome ∧
    resolve root (some inFlight) value =
      if chain.node.isReference then ⟨chain.node, chain.notice.toList⟩
      else ⟨chain.node.mapChildren (fun child => (below child).value),
        chain.node.children.flatMap (fun child => (below child).notices)⟩ := by
  intro chain below
  have hend : chain.node.isReference = chain.notice.isSome :=
    isSome_reference?_dereference root inFlight value
  refine ⟨hend, ?_⟩
  show resolveFrom root inFlight value = _
  rw [hend]
  cases hn : chain.notice with
  | some notice => exact resolveFrom_of_notice hn
  | none =>
    exact (resolveFrom_dereference inFlight value hn).trans
      (resolveFrom_of_not_reference (reference?_dereference hn))

end Json

end ToolSchema
