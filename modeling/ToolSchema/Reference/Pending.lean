import ToolSchema.Reference

/-!
# Pointers not yet in flight

Following a reference puts its pointer in flight, and what it leads to holds no pointers but those
of the document and of the reference itself. So the number of distinct pointers that are not in
flight falls with every reference that is followed, and never rises on the way down. Recursions that
follow references end by this number.

* `pending_lt_of_target`: following a reference lowers the number.
* `pending_mono`: going down does not raise it.
-/

namespace ToolSchema

namespace Json

/-! ## Membership -/

theorem mem_of_lookup {members : Members} {key : String} {value : Json}
    (h : members.lookup key = some value) : (key, value) ∈ members := by
  obtain ⟨front, back, rfl, _⟩ := List.lookup_eq_some_iff.mp h
  simp

theorem mem_referencesOfItems {pointer : String} {items : List Json} :
    pointer ∈ referencesOfItems items ↔ ∃ item ∈ items, pointer ∈ item.references := by
  induction items with
  | nil => simp [referencesOfItems]
  | cons item rest ih => simp [referencesOfItems, ih]

theorem mem_referencesOfMembers {pointer : String} {members : Members} :
    pointer ∈ referencesOfMembers members ↔
      ∃ member ∈ members, pointer ∈ member.2.references := by
  induction members with
  | nil => simp [referencesOfMembers]
  | cons member rest ih =>
    obtain ⟨key, value⟩ := member
    simp [referencesOfMembers, ih]

theorem mem_references_object {pointer : String} {members : Members} :
    pointer ∈ (Json.object members).references ↔
      Members.reference? members = some pointer ∨
        ∃ member ∈ members, pointer ∈ member.2.references := by
  simp [references, mem_referencesOfMembers]

theorem references_item_subset {item : Json} {items : List Json} (h : item ∈ items) :
    item.references ⊆ (Json.array items).references := by
  intro pointer hp
  rw [references, mem_referencesOfItems]
  exact ⟨item, h, hp⟩

theorem references_member_subset {key : String} {value : Json} {members : Members}
    (h : (key, value) ∈ members) : value.references ⊆ referencesOfMembers members := by
  intro pointer hp
  exact mem_referencesOfMembers.mpr ⟨_, h, hp⟩

theorem referencesOfMembers_subset {members : Members} :
    referencesOfMembers members ⊆ (Json.object members).references := by
  intro pointer hp
  rw [references]
  exact List.mem_append_right _ hp

theorem referencesOfItems_subset {items : List Json} :
    referencesOfItems items ⊆ (Json.array items).references := by
  intro pointer hp
  rw [references]
  exact hp

/-! Lists of items and of members lose references and weight with every step. -/

theorem references_head_subset {item : Json} {rest : List Json} :
    item.references ⊆ referencesOfItems (item :: rest) :=
  List.subset_append_left _ _

theorem references_tail_subset {item : Json} {rest : List Json} :
    referencesOfItems rest ⊆ referencesOfItems (item :: rest) :=
  List.subset_append_right _ _

theorem references_headMember_subset {key : String} {value : Json} {rest : Members} :
    value.references ⊆ referencesOfMembers ((key, value) :: rest) :=
  List.subset_append_left _ _

theorem references_tailMembers_subset {key : String} {value : Json} {rest : Members} :
    referencesOfMembers rest ⊆ referencesOfMembers ((key, value) :: rest) :=
  List.subset_append_right _ _

theorem weight_head_le {item : Json} {rest : List Json} :
    item.weight ≤ weightOfItems (item :: rest) :=
  Nat.le_add_right _ _

theorem weight_tail_lt {item : Json} {rest : List Json} :
    weightOfItems rest < weightOfItems (item :: rest) := by
  have := item.weight_pos
  rw [weightOfItems]
  omega

theorem weight_headMember_le {key : String} {value : Json} {rest : Members} :
    value.weight ≤ weightOfMembers ((key, value) :: rest) :=
  Nat.le_add_right _ _

theorem weight_tailMembers_lt {key : String} {value : Json} {rest : Members} :
    weightOfMembers rest < weightOfMembers ((key, value) :: rest) := by
  have := value.weight_pos
  rw [weightOfMembers]
  omega

/-- A value one token below another holds none but its references. -/
theorem references_child_subset {value below : Json} {token : String}
    (h : value.child? token = some below) : below.references ⊆ value.references := by
  cases value with
  | object members =>
    exact fun p hp => referencesOfMembers_subset (references_member_subset (mem_of_lookup h) hp)
  | array items =>
    simp only [child?, Option.bind_eq_some_iff] at h
    obtain ⟨index, _, h⟩ := h
    exact references_item_subset (List.mem_of_getElem? h)
  | binary bytes =>
    simp only [child?, Option.bind_eq_some_iff, Option.map_eq_some_iff] at h
    obtain ⟨_, _, _, _, rfl⟩ := h
    simp [references]
  | _ => simp [child?] at h

theorem references_follow_subset {tokens : List String} {value found : Json}
    (h : value.follow tokens = some found) : found.references ⊆ value.references := by
  induction tokens generalizing value with
  | nil =>
    simp only [follow, Option.some.injEq] at h
    rw [h]
    exact fun _ hp => hp
  | cons token rest ih =>
    simp only [follow, Option.bind_eq_some_iff] at h
    obtain ⟨below, hb, h⟩ := h
    exact fun p hp => references_child_subset hb (ih h hp)

/-- What a pointer names holds none but the references of the document. -/
theorem references_lookup_subset {root found : Json} {pointer : String}
    (h : root.lookup pointer = some found) : found.references ⊆ root.references := by
  simp only [lookup, Option.bind_eq_some_iff] at h
  obtain ⟨_, _, h⟩ := h
  exact references_follow_subset h

/-! ## Overlays -/

theorem mem_of_mem_overlay {low top : Members} {member : String × Json}
    (h : member ∈ low.overlay top) : member ∈ low ∨ member ∈ top := by
  simp only [Members.overlay, List.mem_append, List.mem_map, List.mem_filter] at h
  rcases h with ⟨old, hold, rfl⟩ | ⟨h, _⟩
  · cases hl : top.lookup old.1 with
    | none => exact .inl (by simpa [hl] using hold)
    | some new => exact .inr (by simpa [hl] using mem_of_lookup hl)
  · exact .inr h

theorem lookup_append_of_none {front back : Members} {key : String}
    (h : back.lookup key = none) : (front ++ back).lookup key = front.lookup key := by
  induction front with
  | nil => simpa using h
  | cons member rest ih =>
    obtain ⟨name, value⟩ := member
    simp only [List.cons_append, List.lookup_cons, ih]

theorem lookup_filter_of_lookup_none {members : Members} {key : String}
    (keep : String × Json → Bool) (h : members.lookup key = none) :
    (members.filter keep).lookup key = none := by
  rw [List.lookup_eq_none_iff] at h ⊢
  exact fun p hp => h p (List.mem_filter.mp hp).1

theorem lookup_erase_self (members : Members) (key : String) :
    (members.erase key).lookup key = none := by
  rw [List.lookup_eq_none_iff]
  intro p hp
  simp only [Members.erase, List.mem_filter, bne_iff_ne, ne_eq] at hp
  rw [bne_iff_ne]
  exact fun h => hp.2 h.symm

/-- Under a key that the upper members lack, an overlay has what the lower members have. -/
theorem lookup_overlay_of_none {low top : Members} {key : String}
    (h : top.lookup key = none) : (low.overlay top).lookup key = low.lookup key := by
  rw [Members.overlay, lookup_append_of_none (lookup_filter_of_lookup_none _ h)]
  induction low with
  | nil => rfl
  | cons member rest ih =>
    obtain ⟨name, value⟩ := member
    simp only [List.map_cons, List.lookup_cons]
    split
    · next hk =>
      rw [beq_iff_eq] at hk
      subst hk
      simp [h]
    · exact ih

/-- The keys next to `$ref` do not decide whether the target is itself a reference. -/
theorem reference?_overlay_erase (low top : Members) :
    Members.reference? (low.overlay (top.erase referenceKey)) = low.reference? := by
  rw [Members.reference?, Members.reference?, lookup_overlay_of_none (lookup_erase_self _ _)]

theorem references_overlaid_subset (found : Json) (reference : Members) :
    (overlaid found reference).references ⊆
      found.references ++ (Json.object reference).references := by
  intro pointer hp
  rw [List.mem_append]
  cases found with
  | object members =>
    rw [overlaid, mem_references_object] at hp
    rcases hp with hp | ⟨member, hmember, hp⟩
    · rw [reference?_overlay_erase] at hp
      exact .inl (mem_references_object.mpr (.inl hp))
    · rcases mem_of_mem_overlay hmember with hm | hm
      · exact .inl (mem_references_object.mpr (.inr ⟨_, hm, hp⟩))
      · exact .inr (mem_references_object.mpr (.inr ⟨_, (List.mem_filter.mp hm).1, hp⟩))
  | _ => exact .inl hp

section Target

variable {root found : Json} {inFlight : List String} {reference : Members} {pointer : String}

/-- A reference is followed if its pointer is local, names something and is not in flight. -/
theorem target_eq_ok : target root inFlight reference pointer = .ok found ↔
    pointer ∉ inFlight ∧ Pointer.isLocal pointer = true ∧
      ∃ below, root.lookup pointer = some below ∧ overlaid below reference = found := by
  unfold target
  by_cases hin : pointer ∈ inFlight
  · simp [hin]
  by_cases hlocal : Pointer.isLocal pointer = true
  · rw [if_neg hin, hlocal]
    cases root.lookup pointer <;> simp [hin]
  · simp [hin, hlocal]

/-- What a reference leads to holds none but the references of the document and its own. -/
theorem references_target_subset (h : target root inFlight reference pointer = .ok found) :
    found.references ⊆ root.references ++ (Json.object reference).references := by
  obtain ⟨-, -, below, hl, rfl⟩ := target_eq_ok.mp h
  intro p hp
  rcases List.mem_append.mp (references_overlaid_subset below reference hp) with hp | hp
  · exact List.mem_append_left _ (references_lookup_subset hl hp)
  · exact List.mem_append_right _ hp

theorem not_mem_inFlight_of_target (h : target root inFlight reference pointer = .ok found) :
    pointer ∉ inFlight :=
  (target_eq_ok.mp h).1

end Target

end Json

/-! ## Counting -/

theorem nodup_eraseDups (pointers : List String) : pointers.eraseDups.Nodup := by
  match pointers with
  | [] => simp
  | pointer :: rest =>
    rw [List.eraseDups_cons, List.nodup_cons]
    refine ⟨?_, nodup_eraseDups _⟩
    rw [List.mem_eraseDups, List.mem_filter]
    simp
termination_by pointers.length
decreasing_by
  have := List.length_filter_le (fun other => !other == pointer) rest
  simp
  omega

/-- The number of distinct pointers in a list that are not in flight. -/
def pending (inFlight pointers : List String) : Nat :=
  ((pointers.filter (fun pointer => pointer ∉ inFlight)).eraseDups).length

theorem mem_pending {inFlight pointers : List String} {pointer : String} :
    pointer ∈ (pointers.filter (fun pointer => pointer ∉ inFlight)).eraseDups ↔
      pointer ∈ pointers ∧ pointer ∉ inFlight := by
  rw [List.mem_eraseDups, List.mem_filter, decide_eq_true_eq]

theorem pending_mono {inFlight inFlight' pointers pointers' : List String}
    (hf : inFlight ⊆ inFlight') (hp : pointers' ⊆ pointers) :
    pending inFlight' pointers' ≤ pending inFlight pointers := by
  refine (nodup_eraseDups _).length_le_of_subset ?_
  intro pointer h
  rw [mem_pending] at h ⊢
  exact ⟨hp h.1, fun hm => h.2 (hf hm)⟩

theorem pending_lt {inFlight inFlight' pointers pointers' : List String} {pointer : String}
    (hf : inFlight ⊆ inFlight') (hp : pointers' ⊆ pointers) (hin : pointer ∈ pointers)
    (hold : pointer ∉ inFlight) (hnew : pointer ∈ inFlight') :
    pending inFlight' pointers' < pending inFlight pointers := by
  have hsub : pointer :: (pointers'.filter (fun pointer => pointer ∉ inFlight')).eraseDups ⊆
      (pointers.filter (fun pointer => pointer ∉ inFlight)).eraseDups := by
    intro other h
    rw [mem_pending]
    rcases List.mem_cons.mp h with rfl | h
    · exact ⟨hin, hold⟩
    · rw [mem_pending] at h
      exact ⟨hp h.1, fun hm => h.2 (hf hm)⟩
  have hnodup :
      (pointer :: (pointers'.filter (fun pointer => pointer ∉ inFlight')).eraseDups).Nodup := by
    rw [List.nodup_cons, mem_pending]
    exact ⟨fun h => h.2 hnew, nodup_eraseDups _⟩
  exact hnodup.length_le_of_subset hsub

/-- Going down from one value to another does not raise the number. -/
theorem pending_le_of_subset {root : Json} {inFlight pointers pointers' : List String}
    (h : pointers' ⊆ pointers) :
    pending inFlight (root.references ++ pointers') ≤
      pending inFlight (root.references ++ pointers) := by
  refine pending_mono (fun _ hp => hp) ?_
  intro p hp
  rcases List.mem_append.mp hp with hp | hp
  · exact List.mem_append_left _ hp
  · exact List.mem_append_right _ (h hp)

/-- Following a reference lowers the number of pointers that are not in flight. -/
theorem pending_lt_of_target {root found : Json} {inFlight : List String} {reference : Members}
    {pointer : String} (hr : reference.reference? = some pointer)
    (h : Json.target root inFlight reference pointer = .ok found) :
    pending (pointer :: inFlight) (root.references ++ found.references) <
      pending inFlight (root.references ++ (Json.object reference).references) := by
  refine pending_lt (List.subset_cons_self _ _) ?_ ?_ (Json.not_mem_inFlight_of_target h)
    List.mem_cons_self
  · intro p hp
    rcases List.mem_append.mp hp with hp | hp
    · exact List.mem_append_left _ hp
    · exact Json.references_target_subset h hp
  · exact List.mem_append_right _ (Json.mem_references_object.mpr (.inl hr))

end ToolSchema
