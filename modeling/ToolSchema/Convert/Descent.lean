import ToolSchema.Convert.Keyword
import ToolSchema.Reference.Resolve

/-!
# How building a schema descends

A step of building goes below a reference that was followed, to a smaller value, or to a later kind
of step on the same value. The measure is the number of pointers not in flight, then the weight of
the value, then the rank of the step. The lemmas here say that each step lowers it; also the steps
that change a node, by putting one type for a list or by dropping `anyOf`, make it lighter.
-/

namespace ToolSchema

namespace Convert

open Json

/-- What building descends by: pointers not in flight, weight of the value, rank of the step. -/
abbrev measure (root : Json) (inFlight : List String) (value : Json) (rank : Nat) :
    Nat × Nat × Nat :=
  (pending inFlight (root.references ++ value.references), value.weight, rank)

/-- The order of measures. -/
abbrev Lower : Nat × Nat × Nat → Nat × Nat × Nat → Prop :=
  Prod.Lex (· < ·) (Prod.Lex (· < ·) (· < ·))

theorem lower_of_weight {root value below : Json} {inFlight : List String} {rank rank' : Nat}
    (hr : below.references ⊆ value.references) (hw : below.weight < value.weight) :
    Lower (measure root inFlight below rank') (measure root inFlight value rank) :=
  Prod.Lex.right' _ (pending_le_of_subset hr) (.left _ _ hw)

theorem lower_of_rank {root value below : Json} {inFlight : List String} {rank rank' : Nat}
    (hr : below.references ⊆ value.references) (hw : below.weight ≤ value.weight)
    (h : rank' < rank) :
    Lower (measure root inFlight below rank') (measure root inFlight value rank) :=
  Prod.Lex.right' _ (pending_le_of_subset hr) (Prod.Lex.right' _ hw h)

/-- Below a chain of references the measure is lower, or it stays and the rank decides. -/
theorem lower_of_dereference {root value below : Json} {inFlight : List String} {rank rank' : Nat}
    (hr : below.references ⊆ (dereference root inFlight value).node.references)
    (hw : below.weight ≤ (dereference root inFlight value).node.weight) (h : rank' < rank) :
    Lower (measure root ((dereference root inFlight value).followed ++ inFlight) below rank')
      (measure root inFlight value rank) := by
  rcases pending_dereference root value inFlight with hf | hlt
  · have hnode := dereference_of_followed_nil hf
    rw [hnode] at hr hw
    rw [hf]
    exact lower_of_rank hr hw h
  · exact .left _ _ (Nat.lt_of_le_of_lt (pending_le_of_subset hr) hlt)

/-- Building the node at the end of a chain descends. -/
theorem lower_of_node {root value below : Json} {inFlight : List String} {rank rank' : Nat}
    (hn : (dereference root inFlight value).node = below) (h : rank' < rank) :
    Lower (measure root ((dereference root inFlight value).followed ++ inFlight) below rank')
      (measure root inFlight value rank) :=
  lower_of_dereference (hn ▸ fun _ hp => hp) (hn ▸ Nat.le_refl _) h

/-! ## Members of a value -/

theorem references_members_subset (value : Json) :
    (Json.object value.members).references ⊆ value.references := by
  cases value <;>
    simp [members, members?, references, Members.reference?, referencesOfMembers]

theorem weight_members_le (value : Json) : (Json.object value.members).weight ≤ value.weight := by
  cases value <;> simp [members, members?, weight, weightOfMembers]

theorem references_lookup_members_subset {members : Members} {key : String} {value : Json}
    (h : members.lookup key = some value) :
    value.references ⊆ (Json.object members).references :=
  fun _ hp => referencesOfMembers_subset (references_member_subset (mem_of_lookup h) hp)

theorem weight_lookup_lt {members : Members} {key : String} {value : Json}
    (h : members.lookup key = some value) : value.weight < (Json.object members).weight := by
  have := weight_le_weightOfMembers (mem_of_lookup h)
  rw [weight]
  omega

theorem items?_eq_some {members : Members} {key : String} {items : List Json}
    (h : members.items? key = some items) : members.lookup key = some (.array items) := by
  simp only [Members.items?, Option.bind_eq_some_iff] at h
  obtain ⟨value, hv, hi⟩ := h
  cases value <;> simp_all [Json.items?]

theorem references_item_of_items? {members : Members} {key : String} {items : List Json}
    {item : Json} (h : members.items? key = some items) (hi : item ∈ items) :
    item.references ⊆ (Json.object members).references :=
  fun _ hp => references_lookup_members_subset (items?_eq_some h) (references_item_subset hi hp)

theorem weight_item_of_items? {members : Members} {key : String} {items : List Json}
    {item : Json} (h : members.items? key = some items) (hi : item ∈ items) :
    item.weight < (Json.object members).weight := by
  have h₁ := weight_lookup_lt (items?_eq_some h)
  have h₂ := weight_le_weightOfItems hi
  rw [weight] at h₁
  omega

theorem mem_branches {members : Members} {branch : Json} (h : branch ∈ members.branches) :
    ∃ items, members.items? "anyOf" = some items ∧ branch ∈ items := by
  rw [Members.branches] at h
  cases hi : members.items? "anyOf" with
  | none => simp [hi] at h
  | some items => exact ⟨items, rfl, by simpa [hi] using h⟩

theorem references_branch_subset {members : Members} {branch : Json}
    (h : branch ∈ members.branches) : branch.references ⊆ (Json.object members).references := by
  obtain ⟨_, hi, hb⟩ := mem_branches h
  exact references_item_of_items? hi hb

theorem weight_branch_lt {members : Members} {branch : Json} (h : branch ∈ members.branches) :
    branch.weight < (Json.object members).weight := by
  obtain ⟨_, hi, hb⟩ := mem_branches h
  exact weight_item_of_items? hi hb

/-- Building a branch of a union descends, also where the branch leads elsewhere. -/
theorem lower_of_branch {root branch : Json} {inFlight : List String} {members found : Members}
    {rank rank' : Nat} (hb : branch ∈ members.branches)
    (hn : (dereference root inFlight branch).node = .object found) :
    Lower
      (measure root ((dereference root inFlight branch).followed ++ inFlight) (.object found) rank)
      (measure root inFlight (.object members) rank') := by
  have hr := references_branch_subset hb
  have hw := weight_branch_lt hb
  rcases pending_dereference root branch inFlight with hf | hlt
  · have hnode := dereference_of_followed_nil hf
    rw [hn] at hnode
    subst hnode
    rw [hf]
    exact lower_of_weight hr hw
  · rw [hn] at hlt
    exact .left _ _ (Nat.lt_of_lt_of_le hlt (pending_le_of_subset hr))

theorem mem_properties {members : Members} {property : String × Json}
    (h : property ∈ members.properties) :
    ∃ properties, members.lookup "properties" = some (.object properties) ∧
      property ∈ properties := by
  rw [Members.properties] at h
  cases hv : members.lookup "properties" with
  | none => simp [hv] at h
  | some value => cases value <;> simp_all [members?]

theorem references_property_subset {members : Members} {property : String × Json}
    (h : property ∈ members.properties) :
    property.2.references ⊆ (Json.object members).references := by
  obtain ⟨properties, hv, hp⟩ := mem_properties h
  exact fun _ hr => references_lookup_members_subset hv
    (referencesOfMembers_subset
      (references_member_subset (show (property.1, property.2) ∈ properties from hp) hr))

theorem weight_property_lt {members : Members} {property : String × Json}
    (h : property ∈ members.properties) : property.2.weight < (Json.object members).weight := by
  obtain ⟨properties, hv, hp⟩ := mem_properties h
  have h₁ := weight_lookup_lt hv
  have h₂ := weight_le_weightOfMembers (show (property.1, property.2) ∈ properties from hp)
  rw [weight] at h₁
  omega

/-! ## Changed nodes -/

/-- Putting a value under a key that is there changes that member only. -/
theorem put_eq_map {members : Members} {key : String} {value old : Json}
    (h : members.lookup key = some old) :
    members.put key value =
      members.map (fun member => (member.1, if member.1 == key then value else member.2)) := by
  have hany : members.any (·.1 == key) = true :=
    List.any_eq_true.mpr ⟨_, mem_of_lookup h, by simp⟩
  simp only [Members.put, Members.overlay, List.filter_cons, hany, Bool.not_true,
    Bool.false_eq_true, if_false, List.filter_nil, List.append_nil]
  refine List.map_congr_left (fun member _ => ?_)
  simp only [List.lookup_cons, List.lookup_nil]
  split <;> simp_all

theorem weightOfMembers_light_le (members : Members) (key : String) {value : Json}
    (hlight : value.weight = 1) :
    weightOfMembers
        (members.map (fun member => (member.1, if member.1 == key then value else member.2))) ≤
      weightOfMembers members := by
  induction members with
  | nil => simp [weightOfMembers]
  | cons member rest ih =>
    obtain ⟨name, first⟩ := member
    have := first.weight_pos
    simp only [List.map_cons, weightOfMembers]
    split <;> omega

/-- A value of one node in the place of a heavier one makes the members lighter. -/
theorem weightOfMembers_put_lt {members : Members} {key : String} {value old : Json}
    (hold : members.lookup key = some old) (hlight : value.weight = 1) (hheavy : 1 < old.weight) :
    weightOfMembers (members.put key value) < weightOfMembers members := by
  rw [put_eq_map hold]
  induction members with
  | nil => simp at hold
  | cons member rest ih =>
    obtain ⟨name, first⟩ := member
    simp only [List.map_cons, weightOfMembers]
    rw [List.lookup_cons] at hold
    split at hold
    · next hk =>
      cases hold
      have := weightOfMembers_light_le rest key hlight
      rw [if_pos (by rw [beq_iff_eq] at hk ⊢; exact hk.symm)]
      omega
    · next hk =>
      have := ih hold
      rw [if_neg (by rw [beq_eq_false_iff_ne] at hk; rw [beq_iff_eq]; exact fun h => hk h.symm)]
      omega

theorem references_withType_subset (members : Members) (type : String) :
    (Json.object (members.withType type)).references ⊆ (Json.object members).references := by
  intro pointer hp
  rw [mem_references_object] at hp ⊢
  rcases hp with hp | ⟨member, hm, hp⟩
  · refine .inl ?_
    rwa [Members.reference?, Members.withType, Members.put, lookup_overlay_of_none] at hp
    simp [referenceKey]
  · rcases mem_of_mem_overlay hm with hm | hm
    · exact .inr ⟨_, hm, hp⟩
    · rw [List.mem_singleton.mp hm] at hp
      simp [references] at hp

theorem typeList?_lookup {members : Members} {types : List String}
    (h : members.typeList? = some types) :
    ∃ items, members.lookup "type" = some (.array items) ∧ types = items.filterMap string? := by
  simp only [Members.typeList?, Option.map_eq_some_iff] at h
  obtain ⟨items, hi, rfl⟩ := h
  exact ⟨items, items?_eq_some hi, rfl⟩

/-- One type in the place of a type list that names a type makes the node lighter. -/
theorem weight_withType_lt {members : Members} {types : List String} {type : String}
    (h : members.typeList? = some types) {first : String} {others : List String}
    (hc : Members.concreteTypes types = first :: others) :
    (Json.object (members.withType type)).weight < (Json.object members).weight := by
  obtain ⟨items, hl, rfl⟩ := typeList?_lookup h
  have hheavy : 1 < (Json.array items).weight := by
    cases items with
    | nil => simp [Members.concreteTypes] at hc
    | cons item rest =>
      have := item.weight_pos
      simp only [weight, weightOfItems]
      omega
  have := weightOfMembers_put_lt hl (show (Json.string type).weight = 1 by simp [weight]) hheavy
  simp only [weight, Members.withType]
  omega

theorem lookup_erase_of_ne {members : Members} {key other : String} (h : other ≠ key) :
    (members.erase key).lookup other = members.lookup other := by
  induction members with
  | nil => rfl
  | cons member rest ih =>
    obtain ⟨name, value⟩ := member
    by_cases hn : name = key
    · subst hn
      simpa [Members.erase, List.lookup_cons, beq_eq_false_iff_ne.mpr h] using ih
    · simp only [Members.erase, List.filter_cons, bne_iff_ne, ne_eq, hn, not_false_eq_true,
        if_true, List.lookup_cons]
      split
      · rfl
      · exact ih

theorem references_erase_subset {members : Members} {key : String} (h : referenceKey ≠ key) :
    (Json.object (members.erase key)).references ⊆ (Json.object members).references := by
  intro pointer hp
  rw [mem_references_object] at hp ⊢
  rcases hp with hp | ⟨member, hm, hp⟩
  · rw [Members.reference?, lookup_erase_of_ne h] at hp
    exact .inl hp
  · exact .inr ⟨_, (List.mem_filter.mp hm).1, hp⟩

theorem weightOfMembers_erase_le (members : Members) (key : String) :
    weightOfMembers (members.erase key) ≤ weightOfMembers members := by
  induction members with
  | nil => exact Nat.le_refl _
  | cons member rest ih =>
    obtain ⟨name, value⟩ := member
    simp only [Members.erase, List.filter_cons, weightOfMembers] at ih ⊢
    split
    · simp only [weightOfMembers]
      omega
    · omega

theorem weight_erase_lt {members : Members} {key : String} (h : members.hasKey key = true) :
    (Json.object (members.erase key)).weight < (Json.object members).weight := by
  simp only [weight]
  induction members with
  | nil => simp [Members.hasKey] at h
  | cons member rest ih =>
    obtain ⟨name, value⟩ := member
    by_cases hn : name = key
    · have := weightOfMembers_erase_le rest key
      have := value.weight_pos
      simp only [Members.erase, List.filter_cons, bne_iff_ne, ne_eq, hn, not_true_eq_false,
        if_false, weightOfMembers] at this ⊢
      simp only [Members.erase] at *
      omega
    · have := ih (by simpa [Members.hasKey, hn] using h)
      simp only [Members.erase, List.filter_cons, bne_iff_ne, ne_eq, hn, not_false_eq_true,
        if_true, weightOfMembers] at this ⊢
      omega

theorem hasKey_of_lookup {members : Members} {key : String} {value : Json}
    (h : members.lookup key = some value) : members.hasKey key = true :=
  List.any_eq_true.mpr ⟨_, mem_of_lookup h, by simp⟩

theorem hasKey_of_isUntypedUnion {members : Members} (h : members.isUntypedUnion = true) :
    members.hasKey "anyOf" = true := by
  simp only [Members.isUntypedUnion, Bool.and_eq_true, Option.isSome_iff_exists] at h
  obtain ⟨_, items, hi⟩ := h
  exact hasKey_of_lookup (items?_eq_some hi)

end Convert

end ToolSchema
