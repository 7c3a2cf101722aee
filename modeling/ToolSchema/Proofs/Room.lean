import ToolSchema.Proofs.Resolving

/-!
# Room for nested calls

How far a value can lead: below a value the depth falls, and behind a reference the number of
pointers that are not in flight does. `Json.room` puts both into one number, for documents and
values up to a given depth. Going below a value and following its references makes it smaller.

* `Json.followed_dereference` — what a chain of references follows
* `Json.room_lt`, `Json.room_target`, `Json.room_dereference` — the room gets smaller
-/

namespace ToolSchema

namespace Json

variable {root : Json} {inFlight : List String} {bound : Nat}

/-! ## Depth -/

theorem depth_array_le {items : List Json} :
    (Json.array items).depth ≤ bound ↔ ∀ item ∈ items, item.depth < bound := by
  rw [depth]
  induction items with
  | nil => simp [depthBelowItems]
  | cons item rest ih => rw [depthBelowItems, Nat.max_le, ih, List.forall_mem_cons, Nat.succ_le_iff]

theorem depth_object_le {members : Members} :
    (Json.object members).depth ≤ bound ↔ ∀ member ∈ members, member.2.depth < bound := by
  rw [depth]
  induction members with
  | nil => simp [depthBelowMembers]
  | cons member rest ih =>
    obtain ⟨key, value⟩ := member
    rw [depthBelowMembers, Nat.max_le, ih, List.forall_mem_cons, Nat.succ_le_iff]

theorem depth_item_lt {items : List Json} {item : Json} (h : item ∈ items) :
    item.depth < (Json.array items).depth :=
  depth_array_le.mp (Nat.le_refl _) item h

theorem depth_member_lt {members : Members} {member : String × Json} (h : member ∈ members) :
    member.2.depth < (Json.object members).depth :=
  depth_object_le.mp (Nat.le_refl _) member h

theorem depth_under_lt {members : Members} {key : String} {value : Json}
    (h : members.lookup key = some value) : value.depth < (Json.object members).depth :=
  depth_member_lt (mem_of_lookup h)

theorem depth_child?_le {value below : Json} {token : String}
    (h : value.child? token = some below) : below.depth ≤ value.depth := by
  cases value with
  | object members => exact Nat.le_of_lt (depth_under_lt h)
  | array items =>
    simp only [child?, Option.bind_eq_some_iff] at h
    obtain ⟨index, _, h⟩ := h
    exact Nat.le_of_lt (depth_item_lt (List.mem_of_getElem? h))
  | binary bytes =>
    simp only [child?, Option.bind_eq_some_iff, Option.map_eq_some_iff] at h
    obtain ⟨_, _, byte, _, rfl⟩ := h
    exact Nat.le_refl _
  | _ => simp [child?] at h

theorem depth_follow_le {tokens : List String} {value found : Json}
    (h : value.follow tokens = some found) : found.depth ≤ value.depth := by
  induction tokens generalizing value with
  | nil =>
    simp only [follow, Option.some.injEq] at h
    exact h ▸ Nat.le_refl _
  | cons token rest ih =>
    simp only [follow, Option.bind_eq_some_iff] at h
    obtain ⟨below, hb, h⟩ := h
    exact Nat.le_trans (ih h) (depth_child?_le hb)

theorem depth_overlay_le {low top : Members} (hl : (Json.object low).depth ≤ bound)
    (ht : (Json.object top).depth ≤ bound) : (Json.object (low.overlay top)).depth ≤ bound := by
  rw [depth_object_le] at hl ht ⊢
  intro member hm
  rcases mem_of_mem_overlay hm with hm | hm
  · exact hl member hm
  · exact ht member hm

theorem depth_erase_le (members : Members) (key : String) :
    (Json.object (members.erase key)).depth ≤ (Json.object members).depth :=
  depth_object_le.mpr (fun _ hm => depth_member_lt (List.mem_filter.mp hm).1)

/-- A reference leads no deeper than the document and the reference itself. -/
theorem depth_target_le {found : Json} {reference : Members} {pointer : String}
    (hroot : root.depth ≤ bound) (h : (Json.object reference).depth ≤ bound)
    (ht : target root inFlight reference pointer = .ok found) : found.depth ≤ bound := by
  obtain ⟨-, -, below, hl, rfl⟩ := target_eq_ok.mp ht
  simp only [Json.lookup, Option.bind_eq_some_iff] at hl
  obtain ⟨_, _, hl⟩ := hl
  have hbelow := Nat.le_trans (depth_follow_le hl) hroot
  cases below with
  | object members =>
    exact depth_overlay_le hbelow (Nat.le_trans (depth_erase_le reference referenceKey) h)
  | _ => exact hbelow

theorem depth_dereference_le {value : Json} (hroot : root.depth ≤ bound)
    (h : value.depth ≤ bound) : (dereference root inFlight value).node.depth ≤ bound := by
  fun_induction dereference root inFlight value with
  | case3 inFlight members pointer hr found ht chain ih => exact ih (depth_target_le hroot h ht)
  | _ => exact h

/-! ## Chains -/

theorem head?_of_isLocal {pointer : String} (h : Pointer.isLocal pointer = true) :
    pointer.toList.head? = some '#' := by
  rw [Pointer.isLocal, Pointer.fragment?] at h
  split at h
  · next fragment hp => rw [hp, List.head?_cons]
  · cases h

/-- A chain follows local pointers of the document and the value, each once, none in flight. -/
theorem followed_dereference (root : Json) (inFlight : List String) (value : Json) :
    (dereference root inFlight value).followed.Nodup ∧
      ∀ pointer ∈ (dereference root inFlight value).followed,
        pointer ∈ root.references ++ value.references ∧ pointer ∉ inFlight ∧
          Pointer.isLocal pointer = true := by
  fun_induction dereference root inFlight value with
  | case3 inFlight members pointer hr found ht chain ih =>
    -- The rest of the chain has this pointer in flight, so it does not follow it again.
    obtain ⟨hnodup, hfollowed⟩ := ih
    refine ⟨List.nodup_cons.mpr ⟨fun hm => ?_, hnodup⟩, List.forall_mem_cons.mpr ⟨?_, ?_⟩⟩
    · exact (hfollowed pointer hm).2.1 List.mem_cons_self
    · obtain ⟨hnew, hlocal, _⟩ := target_eq_ok.mp ht
      exact ⟨List.mem_append_right _ (mem_references_object.mpr (.inl hr)), hnew, hlocal⟩
    · intro other ho
      obtain ⟨hmem, hnew, hlocal⟩ := hfollowed other ho
      refine ⟨?_, fun hin => hnew (List.mem_cons_of_mem _ hin), hlocal⟩
      rcases List.mem_append.mp hmem with hm | hm
      · exact List.mem_append_left _ hm
      · exact references_target_subset ht hm
  | _ => exact ⟨List.nodup_nil, fun _ hp => (List.not_mem_nil hp).elim⟩

/-- A chain has no more steps than there are pointers to follow. -/
theorem length_followed_le (root : Json) (inFlight : List String) (value : Json) :
    (dereference root inFlight value).followed.length ≤
      pending inFlight (root.references ++ value.references) := by
  obtain ⟨hnodup, hfollowed⟩ := followed_dereference root inFlight value
  refine hnodup.length_le_of_subset (fun pointer hp => ?_)
  exact mem_pending.mpr ⟨(hfollowed pointer hp).1, (hfollowed pointer hp).2.1⟩

/-! ## Room -/

/-- The room below a value: pointers that can be followed, each down to the bound, and the depth. -/
def room (root : Json) (bound : Nat) (inFlight : List String) (value : Json) : Nat :=
  pending inFlight (root.references ++ value.references) * (bound + 1) + value.depth

theorem room_le {value below : Json} (hr : below.references ⊆ value.references)
    (hd : below.depth ≤ value.depth) :
    room root bound inFlight below ≤ room root bound inFlight value :=
  Nat.add_le_add (Nat.mul_le_mul_right _ (pending_le_of_subset hr)) hd

/-- Below a value there is less room. -/
theorem room_lt {value below : Json} (hr : below.references ⊆ value.references)
    (hd : below.depth < value.depth) :
    room root bound inFlight below < room root bound inFlight value :=
  Nat.add_lt_add_of_le_of_lt (Nat.mul_le_mul_right _ (pending_le_of_subset hr)) hd

/-- One pointer less to follow makes up for any depth. -/
theorem room_lt_of_pending {value below : Json} {inFlight' : List String}
    (hp : pending inFlight' (root.references ++ below.references) <
      pending inFlight (root.references ++ value.references)) (hd : below.depth ≤ bound) :
    room root bound inFlight' below < room root bound inFlight value := by
  -- The depth below is at most `bound`, and a pointer counts for `bound + 1`.
  have hmul := Nat.mul_le_mul_right (bound + 1) (Nat.succ_le_of_lt hp)
  rw [Nat.succ_mul] at hmul
  unfold room
  omega

/-- Behind a reference there is less room. -/
theorem room_target {found : Json} {reference : Members} {pointer : String}
    (hroot : root.depth ≤ bound) (h : (Json.object reference).depth ≤ bound)
    (hr : reference.reference? = some pointer)
    (ht : target root inFlight reference pointer = .ok found) :
    room root bound (pointer :: inFlight) found < room root bound inFlight (.object reference) :=
  room_lt_of_pending (pending_lt_of_target hr ht) (depth_target_le hroot h ht)

/-- At the end of a chain there is less room, unless the chain has no step. -/
theorem room_dereference (inFlight : List String) {value : Json} (hroot : root.depth ≤ bound)
    (h : value.depth ≤ bound) :
    ((dereference root inFlight value).followed = [] ∧
      (dereference root inFlight value).node = value) ∨
    room root bound ((dereference root inFlight value).followed ++ inFlight)
        (dereference root inFlight value).node < room root bound inFlight value := by
  rcases pending_dereference root value inFlight with hf | hlt
  · exact .inl ⟨hf, dereference_of_followed_nil hf⟩
  · exact .inr (room_lt_of_pending hlt (depth_dereference_le hroot h))

theorem room_dereference_le (inFlight : List String) {value : Json} (hroot : root.depth ≤ bound)
    (h : value.depth ≤ bound) :
    room root bound ((dereference root inFlight value).followed ++ inFlight)
        (dereference root inFlight value).node ≤ room root bound inFlight value := by
  rcases room_dereference inFlight hroot h with ⟨hf, hn⟩ | hlt
  · rw [hf, hn]
    exact Nat.le_refl _
  · exact Nat.le_of_lt hlt

/-- No value up to the bound has more room. -/
theorem room_lt_mul {value : Json} (h : value.depth ≤ bound) :
    room root bound inFlight value <
      (pending inFlight (root.references ++ value.references) + 1) * (bound + 1) := by
  rw [Nat.succ_mul, room]
  omega

end Json

end ToolSchema
