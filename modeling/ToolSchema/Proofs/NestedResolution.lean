import ToolSchema.Proofs.Room

/-!
# Nested calls of a resolution

A resolution calls itself, below a value and behind references. `Json.resolveWithin` does the same
work, but gives up where more than a given number of calls would be nested; `Json.resolveVia` is the
work of one call. Each call has less room (`Json.room`) than the call around it, so that the room of
a value bounds the number.
-/

namespace ToolSchema

theorem mapM_of_forall {α β : Type} {f : α → Option β} {g : α → β} {items : List α}
    (h : ∀ item ∈ items, f item = some (g item)) : items.mapM f = some (items.map g) := by
  induction items with
  | nil => rfl
  | cons item rest ih =>
    rw [List.forall_mem_cons] at h
    rw [List.mapM_cons, h.1, ih h.2]
    rfl

namespace Json

/-- One call of a resolution, with `call` for the calls that it makes. -/
def resolveVia (call : List String → Json → Option (Resolved Json)) (root : Json)
    (inFlight : List String) (value : Json) : Option (Resolved Json) :=
  match value with
  | .object members =>
    match Members.reference? members with
    | none => do
      let below ← members.mapM (fun member =>
        (call inFlight member.2).map (fun resolved => (member.1, resolved)))
      return ⟨.object (below.map (fun member => (member.1, member.2.value))),
        below.flatMap (fun member => member.2.notices)⟩
    | some pointer =>
      match target root inFlight members pointer with
      | .error notice => some ⟨.object members, [notice]⟩
      | .ok found => call (pointer :: inFlight) found
  | .array items => do
    let below ← items.mapM (call inFlight)
    return ⟨.array (below.map Resolved.value), below.flatMap Resolved.notices⟩
  | value => some ⟨value, []⟩

/-- Resolution with at most `limit` nested calls. -/
def resolveWithin (root : Json) : (limit : Nat) → (inFlight : List String) → (value : Json) →
    Option (Resolved Json)
  | 0, _, _ => none
  | limit + 1, inFlight, value => resolveVia (resolveWithin root limit) root inFlight value

variable {root : Json} {bound : Nat}

/-- With room for the calls below it, a call gives the resolution of its value. -/
theorem resolveVia_eq {call : List String → Json → Option (Resolved Json)} {inFlight : List String}
    {value : Json} (hroot : root.depth ≤ bound) (hvalue : value.depth ≤ bound)
    (hcall : ∀ inFlight' below, below.depth ≤ bound →
      room root bound inFlight' below < room root bound inFlight value →
        call inFlight' below = some (resolveFrom root inFlight' below)) :
    resolveVia call root inFlight value = some (resolveFrom root inFlight value) := by
  cases value with
  | object members =>
    cases hr : Members.reference? members with
    | none =>
      have hmember : ∀ member ∈ members,
          (call inFlight member.2).map (fun resolved => (member.1, resolved)) =
            some (member.1, resolveFrom root inFlight member.2) := by
        intro member hm
        have hd := depth_member_lt hm
        have hsub : member.2.references ⊆ (Json.object members).references :=
          fun _ hp => mem_references_object.mpr (.inr ⟨member, hm, hp⟩)
        rw [hcall inFlight member.2 (by omega) (room_lt hsub hd), Option.map_some]
      rw [resolveFrom_object hr]
      simp only [resolveVia, hr, mapM_of_forall hmember, Option.bind_eq_bind, Option.bind_some,
        Option.pure_def, List.map_map, List.flatMap_map]
      rfl
    | some pointer =>
      cases ht : target root inFlight members pointer with
      | error notice =>
        rw [resolveFrom_of_error hr ht]
        simp only [resolveVia, hr, ht]
      | ok found =>
        rw [resolveFrom_of_ok hr ht]
        simp only [resolveVia, hr, ht]
        exact hcall _ found (depth_target_le hroot hvalue ht) (room_target hroot hvalue hr ht)
  | array items =>
    have hitem : ∀ item ∈ items, call inFlight item = some (resolveFrom root inFlight item) := by
      intro item hi
      have hd := depth_item_lt hi
      exact hcall inFlight item (by omega) (room_lt (references_item_subset hi) hd)
    rw [resolveFrom_array]
    simp only [resolveVia, mapM_of_forall hitem, Option.bind_eq_bind, Option.bind_some,
      Option.pure_def, List.map_map, List.flatMap_map]
    rfl
  | _ =>
    rw [resolveFrom_of_leaf (by simp) (by simp)]
    rfl

/-- Resolution nests no more calls than the value has room. -/
theorem resolveWithin_eq (hroot : root.depth ≤ bound) : ∀ (limit : Nat) (inFlight : List String)
    (value : Json), value.depth ≤ bound → room root bound inFlight value < limit →
      resolveWithin root limit inFlight value = some (resolveFrom root inFlight value)
  | 0, _, _, _, hlt => (Nat.not_lt_zero _ hlt).elim
  | limit + 1, inFlight, value, hvalue, hlt => by
    -- What is called has less room than `value`, so less than `limit`.
    rw [resolveWithin]
    refine resolveVia_eq hroot hvalue (fun inFlight' below hbelow hless => ?_)
    exact resolveWithin_eq hroot limit inFlight' below hbelow (by omega)

end Json

end ToolSchema
