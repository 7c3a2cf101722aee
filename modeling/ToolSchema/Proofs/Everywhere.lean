import ToolSchema.Convert.Descent

/-!
# What holds at every node of a value

`Json.Everywhere p value` says that `p` holds of every node of a value. A property that overlays
keep (`Json.Stable`) goes with every reference that is followed: from the document and the node to
the target, and to the end of a chain.

* `Json.walk_eq_preorder` — the nodes of a value are those that a walk visits
* `Json.Everywhere.lookup` — down a pointer
* `Json.Everywhere.dereference` — along a chain of references
* `Json.Everywhere.withType`, `Json.Everywhere.erase` — to a changed node
-/

namespace ToolSchema

namespace Json

/-- `p` holds of every node of the value. -/
def Everywhere (p : Json → Prop) (value : Json) : Prop := ∀ node ∈ value.preorder, p node

instance {p : Json → Prop} [DecidablePred p] : DecidablePred (Everywhere p) := fun value =>
  inferInstanceAs (Decidable (∀ node ∈ value.preorder, p node))

variable {p : Json → Prop}

/-! ## Walks -/

theorem preorderOfItems_append (front back : List Json) :
    preorderOfItems (front ++ back) = preorderOfItems front ++ preorderOfItems back := by
  induction front with
  | nil => rfl
  | cons item rest ih => rw [List.cons_append, preorderOfItems, preorderOfItems, ih,
      List.append_assoc]

theorem preorderOfItems_values (members : Members) :
    preorderOfItems (members.map Prod.snd) = preorderOfMembers members := by
  induction members with
  | nil => rfl
  | cons member rest ih => rw [List.map_cons, preorderOfItems, preorderOfMembers, ih]

theorem preorder_eq (value : Json) : value.preorder = value :: preorderOfItems value.children := by
  cases value <;> simp only [preorder, children, preorderOfItems, preorderOfItems_values]

theorem walkFrom_eq (stack : List Json) : walkFrom stack = preorderOfItems stack := by
  induction stack using walkFrom.induct with
  | case1 => rw [walkFrom, preorderOfItems]
  | case2 top below ih =>
    rw [walkFrom, ih, preorderOfItems_append, preorderOfItems, preorder_eq, List.cons_append]

/-- A walk with a stack visits the nodes in order. -/
theorem walk_eq_preorder (value : Json) : value.walk = value.preorder := by
  rw [walk, walkFrom_eq, preorderOfItems, preorderOfItems, List.append_nil]

/-! ## Nodes of parts -/

theorem self_mem_preorder (value : Json) : value ∈ value.preorder := by
  cases value <;> simp [preorder]

theorem mem_preorderOfItems {node : Json} {items : List Json} :
    node ∈ preorderOfItems items ↔ ∃ item ∈ items, node ∈ item.preorder := by
  induction items with
  | nil => simp [preorderOfItems]
  | cons item rest ih => simp [preorderOfItems, ih]

theorem mem_preorderOfMembers {node : Json} {members : Members} :
    node ∈ preorderOfMembers members ↔ ∃ member ∈ members, node ∈ member.2.preorder := by
  induction members with
  | nil => simp [preorderOfMembers]
  | cons member rest ih =>
    obtain ⟨key, value⟩ := member
    simp [preorderOfMembers, ih]

theorem Everywhere.self {value : Json} (h : Everywhere p value) : p value :=
  h value (self_mem_preorder value)

theorem everywhere_array {items : List Json} :
    Everywhere p (.array items) ↔ p (.array items) ∧ ∀ item ∈ items, Everywhere p item := by
  simp only [Everywhere, preorder, List.mem_cons, mem_preorderOfItems]
  constructor
  · intro h
    exact ⟨h _ (.inl rfl), fun item hi node hn => h node (.inr ⟨item, hi, hn⟩)⟩
  · rintro ⟨h, hitems⟩ node (rfl | ⟨item, hi, hn⟩)
    · exact h
    · exact hitems item hi node hn

theorem everywhere_object {members : Members} :
    Everywhere p (.object members) ↔
      p (.object members) ∧ ∀ member ∈ members, Everywhere p member.2 := by
  simp only [Everywhere, preorder, List.mem_cons, mem_preorderOfMembers]
  constructor
  · intro h
    exact ⟨h _ (.inl rfl), fun member hm node hn => h node (.inr ⟨member, hm, hn⟩)⟩
  · rintro ⟨h, hmembers⟩ node (rfl | ⟨member, hm, hn⟩)
    · exact h
    · exact hmembers member hm node hn

/-- A value without parts is its own only node. -/
theorem everywhere_of_leaf {value : Json} (hnode : value.preorder = [value]) (h : p value) :
    Everywhere p value := by
  intro node hn
  rw [hnode, List.mem_singleton] at hn
  rwa [hn]

/-! ## Going down -/

theorem Everywhere.item {items : List Json} (h : Everywhere p (.array items)) {item : Json}
    (hi : item ∈ items) : Everywhere p item :=
  (everywhere_array.mp h).2 item hi

theorem Everywhere.under {members : Members} (h : Everywhere p (.object members)) {key : String}
    {value : Json} (hv : members.lookup key = some value) : Everywhere p value :=
  (everywhere_object.mp h).2 _ (mem_of_lookup hv)

theorem Everywhere.branch {members : Members} (h : Everywhere p (.object members)) {branch : Json}
    (hb : branch ∈ members.branches) : Everywhere p branch := by
  obtain ⟨items, hi, hb⟩ := Convert.mem_branches hb
  exact (h.under (Convert.items?_eq_some hi)).item hb

theorem Everywhere.property {members : Members} (h : Everywhere p (.object members))
    {property : String × Json} (hp : property ∈ members.properties) :
    Everywhere p property.2 := by
  obtain ⟨properties, hv, hp⟩ := Convert.mem_properties hp
  exact (everywhere_object.mp (h.under hv)).2 property hp

/-! ## Following references -/

/-- What a property has to allow so that it goes along with references and changed nodes. -/
structure Stable (p : Json → Prop) : Prop where
  /-- A byte of a byte string is an integer. -/
  int : ∀ n, p (.int n)
  string : ∀ text, p (.string text)
  empty : p (.object [])
  typed : ∀ type, p (.object [("type", .string type)])
  overlay : ∀ low top : Members, p (.object low) → p (.object top) → p (.object (low.overlay top))
  erase : ∀ (members : Members) (key : String), p (.object members) →
    p (.object (members.erase key))

theorem Everywhere.child? {value below : Json} {token : String} (hint : ∀ n, p (.int n))
    (h : Everywhere p value) (hc : value.child? token = some below) : Everywhere p below := by
  cases value with
  | object members => exact h.under hc
  | array items =>
    simp only [Json.child?, Option.bind_eq_some_iff] at hc
    obtain ⟨index, _, hc⟩ := hc
    exact h.item (List.mem_of_getElem? hc)
  | binary bytes =>
    simp only [Json.child?, Option.bind_eq_some_iff, Option.map_eq_some_iff] at hc
    obtain ⟨_, _, byte, _, rfl⟩ := hc
    exact everywhere_of_leaf rfl (hint _)
  | _ => simp [Json.child?] at hc

theorem Everywhere.follow {tokens : List String} {value found : Json} (hint : ∀ n, p (.int n))
    (h : Everywhere p value) (hf : value.follow tokens = some found) : Everywhere p found := by
  induction tokens generalizing value with
  | nil =>
    simp only [Json.follow, Option.some.injEq] at hf
    rwa [← hf]
  | cons token rest ih =>
    simp only [Json.follow, Option.bind_eq_some_iff] at hf
    obtain ⟨below, hb, hf⟩ := hf
    exact ih (h.child? hint hb) hf

theorem Everywhere.lookup {root found : Json} {pointer : String} (hint : ∀ n, p (.int n))
    (h : Everywhere p root) (hl : root.lookup pointer = some found) : Everywhere p found := by
  simp only [Json.lookup, Option.bind_eq_some_iff] at hl
  obtain ⟨_, _, hf⟩ := hl
  exact h.follow hint hf

theorem Everywhere.overlay {low top : Members} (hp : Stable p) (hl : Everywhere p (.object low))
    (ht : Everywhere p (.object top)) : Everywhere p (.object (low.overlay top)) := by
  refine everywhere_object.mpr ⟨hp.overlay low top hl.self ht.self, fun member hm => ?_⟩
  rcases mem_of_mem_overlay hm with hm | hm
  · exact (everywhere_object.mp hl).2 member hm
  · exact (everywhere_object.mp ht).2 member hm

theorem Everywhere.erase {members : Members} (hp : Stable p) (h : Everywhere p (.object members))
    (key : String) : Everywhere p (.object (members.erase key)) :=
  everywhere_object.mpr ⟨hp.erase members key h.self,
    fun member hm => (everywhere_object.mp h).2 member (List.mem_filter.mp hm).1⟩

theorem Everywhere.withType {members : Members} (hp : Stable p)
    (h : Everywhere p (.object members)) (type : String) :
    Everywhere p (.object (members.withType type)) := by
  refine h.overlay hp (everywhere_object.mpr ⟨hp.typed type, fun member hm => ?_⟩)
  rw [List.mem_singleton.mp hm]
  exact everywhere_of_leaf rfl (hp.string type)

theorem Everywhere.target {root found : Json} {inFlight : List String} {reference : Members}
    {pointer : String} (hp : Stable p) (hroot : Everywhere p root)
    (h : Everywhere p (.object reference))
    (ht : Json.target root inFlight reference pointer = .ok found) : Everywhere p found := by
  obtain ⟨-, -, below, hl, rfl⟩ := target_eq_ok.mp ht
  have hbelow := hroot.lookup hp.int hl
  cases below with
  | object members => exact hbelow.overlay hp (h.erase hp referenceKey)
  | _ => exact hbelow

theorem Everywhere.dereference {root value : Json} {inFlight : List String} (hp : Stable p)
    (hroot : Everywhere p root) (h : Everywhere p value) :
    Everywhere p (Json.dereference root inFlight value).node := by
  fun_induction Json.dereference root inFlight value with
  | case3 inFlight members pointer hr found ht chain ih => exact ih (hroot.target hp h ht)
  | _ => exact h

/-- What is read off a node that is no object is read off an empty one. -/
theorem Everywhere.ofMembers {value : Json} (hp : Stable p) (h : Everywhere p value) :
    Everywhere p (.object value.members) := by
  cases value with
  | object members => exact h
  | _ => exact everywhere_of_leaf rfl hp.empty

end Json

/-! ## Keys of changed members -/

namespace Members

theorem lookup_of_not_hasKey {members : Members} {key : String} (h : members.hasKey key = false) :
    members.lookup key = none := by
  cases hv : members.lookup key with
  | none => rfl
  | some value =>
    rw [Convert.hasKey_of_lookup hv] at h
    cases h

theorem not_hasKey_of_lookup {members : Members} {key : String}
    (h : members.lookup key = none) : members.hasKey key = false := by
  unfold hasKey
  rw [List.any_eq_false]
  intro member hm hk
  have hother := List.lookup_eq_none_iff.mp h member hm
  simp_all

theorem lookup_of_string? {members : Members} {key text : String}
    (h : members.string? key = some text) : members.lookup key = some (.string text) := by
  obtain ⟨value, hv, ht⟩ := Option.bind_eq_some_iff.mp h
  cases value <;> cases ht
  exact hv

/-- Members that keep their keys have under a key what becomes of the value under it. -/
theorem lookup_map_value (members : Members) (f : String → Json → Json) (key : String) :
    (members.map (fun member => (member.1, f member.1 member.2))).lookup key =
      (members.lookup key).map (f key) := by
  induction members with
  | nil => rfl
  | cons member rest ih =>
    obtain ⟨name, value⟩ := member
    simp only [List.map_cons, List.lookup_cons]
    split
    · next hk =>
      rw [beq_iff_eq] at hk
      subst hk
      rfl
    · exact ih

/-- Leaving out members of other keys does not change what is under a key. -/
theorem lookup_filter_of_keep {members : Members} {key : String} {keep : String × Json → Bool}
    (hkeep : ∀ value, keep (key, value) = true) :
    (members.filter keep).lookup key = members.lookup key := by
  induction members with
  | nil => rfl
  | cons member rest ih =>
    obtain ⟨name, value⟩ := member
    by_cases hk : key = name
    · subst hk
      rw [List.filter_cons_of_pos (hkeep value)]
      simp only [List.lookup_cons, beq_self_eq_true]
    · rw [List.filter_cons, List.lookup_cons, beq_eq_false_iff_ne.mpr hk, ← ih]
      split
      · rw [List.lookup_cons, beq_eq_false_iff_ne.mpr hk]
      · rfl

/-- Under each key an overlay has what the upper members have, or else what the lower ones have. -/
theorem lookup_overlay (low top : Members) (key : String) :
    (low.overlay top).lookup key = (top.lookup key).or (low.lookup key) := by
  rw [overlay, List.lookup_append,
    lookup_map_value low (fun key value => (top.lookup key).getD value) key]
  -- A key of the lower members is not among the new ones of the upper members.
  cases hl : low.lookup key with
  | some old => cases top.lookup key <;> rfl
  | none =>
    rw [Option.map_none, Option.none_or, Option.or_none]
    refine lookup_filter_of_keep (fun value => ?_)
    rw [List.lookup_eq_none_iff] at hl
    rw [Bool.not_eq_true', List.any_eq_false]
    intro member hm hk
    exact absurd (hl member hm) (by rw [beq_iff_eq] at hk; simp [hk])

theorem lookup_put_self (members : Members) (key : String) (value : Json) :
    (members.put key value).lookup key = some value := by
  rw [put, lookup_overlay]
  simp

theorem lookup_put_of_ne {members : Members} {key other : String} {value : Json}
    (h : other ≠ key) : (members.put key value).lookup other = members.lookup other := by
  rw [put, lookup_overlay]
  simp [List.lookup_cons, beq_eq_false_iff_ne.mpr h]

theorem lookup_erase (members : Members) (key other : String) :
    (members.erase key).lookup other = if other = key then none else members.lookup other := by
  split
  · next h => rw [h, Json.lookup_erase_self]
  · next h => rw [Convert.lookup_erase_of_ne h]

theorem reference?_withType (members : Members) (type : String) :
    (members.withType type).reference? = members.reference? := by
  rw [reference?, withType, lookup_put_of_ne (by decide)]
  rfl

/-- A single type in the place of a type list leaves no type list. -/
theorem typeList?_withType (members : Members) (type : String) :
    (members.withType type).typeList? = none := by
  rw [typeList?, items?, withType, lookup_put_self]
  rfl

theorem string?_withType (members : Members) (type : String) :
    (members.withType type).string? "type" = some type := by
  rw [string?, withType, lookup_put_self]
  rfl

theorem properties_withType (members : Members) (type : String) :
    (members.withType type).properties = members.properties := by
  rw [properties, withType, lookup_put_of_ne (by decide)]
  rfl

theorem reference?_erase_anyOf (members : Members) :
    (members.erase "anyOf").reference? = members.reference? := by
  rw [reference?, lookup_erase, if_neg (by decide)]
  rfl

/-- Without its branches a node is no union. -/
theorem isUntypedUnion_erase (members : Members) :
    (members.erase "anyOf").isUntypedUnion = false := by
  rw [isUntypedUnion, items?, Json.lookup_erase_self]
  exact Bool.and_false _

/-- The keys of an overlay are those of the lower members, then the new ones of the upper ones. -/
theorem keys_overlay (low top : Members) :
    (low.overlay top).keys = low.keys ++ top.keys.filter (· ∉ low.keys) := by
  simp only [overlay, keys, List.map_append, List.map_map, List.filter_map]
  congr 2
  refine List.filter_congr (fun member _ => ?_)
  rw [Bool.eq_iff_iff, Bool.not_eq_true', List.any_eq_false]
  simp only [Function.comp_apply, decide_eq_true_eq, List.mem_map, not_exists, not_and, beq_iff_eq]

end Members

end ToolSchema
