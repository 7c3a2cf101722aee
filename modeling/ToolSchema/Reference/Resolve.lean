import ToolSchema.Reference.Pending

/-!
# Resolving references

`Json.dereference` follows the chain of references that starts at one node and leaves what is below
the last target alone. `Json.resolve` replaces every reference of a value, also those that a target
brings in. Both leave a reference that cannot be followed as it is and say why.

The pointers in flight are an argument, not a state: the caller decides below which node a pointer
counts as being followed, and nothing has to be taken back.

## Termination

A followed reference lowers the number of pointers that are not in flight; the other steps of
`resolve` go to a smaller value and do not raise that number.
-/

namespace ToolSchema

/-! ## One node -/

/-- Where a chain of references ends. -/
structure Dereferenced where
  node : Json
  /-- The pointers that were followed, in order. -/
  followed : List String
  /-- Why the chain ends at a reference, if it does. -/
  notice : Option Notice
  deriving DecidableEq, Repr

namespace Json

/-- Follows the chain of references that starts at `value`. -/
def dereference (root : Json) (inFlight : List String) (value : Json) : Dereferenced :=
  match value with
  | .object members =>
    match _ : Members.reference? members with
    | none => ⟨.object members, [], none⟩
    | some pointer =>
      match _ : target root inFlight members pointer with
      | .error notice => ⟨.object members, [], some notice⟩
      | .ok found =>
        let chain := dereference root (pointer :: inFlight) found
        { chain with followed := pointer :: chain.followed }
  | value => ⟨value, [], none⟩
termination_by pending inFlight (root.references ++ value.references)
decreasing_by exact pending_lt_of_target ‹_› ‹_›

theorem dereference_of_reference?_none {root : Json} {inFlight : List String} {members : Members}
    (h : members.reference? = none) :
    dereference root inFlight (.object members) = ⟨.object members, [], none⟩ := by
  rw [dereference]
  split
  · rfl
  · simp_all

theorem dereference_of_error {root : Json} {inFlight : List String} {members : Members}
    {pointer : String} {notice : Notice} (hr : members.reference? = some pointer)
    (ht : target root inFlight members pointer = .error notice) :
    dereference root inFlight (.object members) = ⟨.object members, [], some notice⟩ := by
  rw [dereference]
  split
  · simp_all
  · next found hr' =>
    rw [hr] at hr'
    cases hr'
    split
    · simp_all
    · simp_all

theorem dereference_of_ok {root found : Json} {inFlight : List String} {members : Members}
    {pointer : String} (hr : members.reference? = some pointer)
    (ht : target root inFlight members pointer = .ok found) :
    dereference root inFlight (.object members) =
      { dereference root (pointer :: inFlight) found with
        followed := pointer :: (dereference root (pointer :: inFlight) found).followed } := by
  rw [dereference]
  split
  · simp_all
  · next found hr' =>
    rw [hr] at hr'
    cases hr'
    split
    · simp_all
    · simp_all

/-- Nothing but a followed reference changes the node. -/
theorem dereference_of_followed_nil {root value : Json} {inFlight : List String}
    (h : (dereference root inFlight value).followed = []) :
    (dereference root inFlight value).node = value := by
  fun_cases dereference root inFlight value with
  | case3 => simp_all [dereference_of_ok]
  | _ => simp_all [dereference_of_reference?_none, dereference_of_error]

/--
Below the end of a chain there are no more pointers to follow than at its start, and there are
fewer if the chain has a step.
-/
theorem pending_dereference (root value : Json) (inFlight : List String) :
    (dereference root inFlight value).followed = [] ∨
      pending ((dereference root inFlight value).followed ++ inFlight)
          (root.references ++ (dereference root inFlight value).node.references) <
        pending inFlight (root.references ++ value.references) := by
  fun_induction dereference root inFlight value with
  | case1 => exact .inl rfl
  | case2 => exact .inl rfl
  | case3 inFlight members pointer hr found ht chain ih =>
    refine .inr ?_
    have hlt := pending_lt_of_target hr ht
    have hle : pending ((pointer :: chain.followed) ++ inFlight)
        (root.references ++ chain.node.references) ≤
          pending (pointer :: inFlight) (root.references ++ found.references) := by
      rcases ih with ih | ih
      · have hnode : chain.node = found := dereference_of_followed_nil ih
        rw [hnode]
        refine pending_mono ?_ (fun _ h => h)
        intro p hp
        simp only [List.cons_append, List.mem_cons, List.mem_append] at hp ⊢
        rcases hp with hp | hp
        · exact .inl hp
        · exact .inr (.inr hp)
      · refine Nat.le_trans (pending_mono ?_ (fun _ h => h)) (Nat.le_of_lt ih)
        intro p hp
        simp only [List.cons_append, List.mem_cons, List.mem_append] at hp ⊢
        rcases hp with hp | hp | hp
        · exact .inr (.inl hp)
        · exact .inl hp
        · exact .inr (.inr hp)
    exact Nat.lt_of_le_of_lt hle hlt
  | case4 => exact .inl rfl

/-! ## A whole value -/

end Json

/-- A value whose references are replaced, with what was reported on the way. -/
structure Resolved (α : Type) where
  value : α
  notices : List Notice
  deriving DecidableEq, Repr

namespace Json

mutual

/-- Replaces every reference in `value` by what it leads to, whatever the value holds. -/
def resolveFrom (root : Json) (inFlight : List String) (value : Json) : Resolved Json :=
  match value with
  | .object members =>
    match _ : Members.reference? members with
    | none =>
      let below := resolveMembers root inFlight members
      ⟨.object below.value, below.notices⟩
    | some pointer =>
      match _ : target root inFlight members pointer with
      | .error notice => ⟨.object members, [notice]⟩
      | .ok found => resolveFrom root (pointer :: inFlight) found
  | .array items =>
    let below := resolveItems root inFlight items
    ⟨.array below.value, below.notices⟩
  | value => ⟨value, []⟩
termination_by (pending inFlight (root.references ++ value.references), value.weight, 0)
decreasing_by
  · exact Prod.Lex.right' _ (pending_le_of_subset referencesOfMembers_subset)
      (.left _ _ (by simp [weight]))
  · exact .left _ _ (pending_lt_of_target ‹_› ‹_›)
  · exact Prod.Lex.right' _ (pending_le_of_subset referencesOfItems_subset)
      (.left _ _ (by simp [weight]))

def resolveItems (root : Json) (inFlight : List String) (items : List Json) :
    Resolved (List Json) :=
  match items with
  | [] => ⟨[], []⟩
  | item :: rest =>
    let first := resolveFrom root inFlight item
    let others := resolveItems root inFlight rest
    ⟨first.value :: others.value, first.notices ++ others.notices⟩
termination_by
  (pending inFlight (root.references ++ referencesOfItems items), weightOfItems items, 1)
decreasing_by
  · exact Prod.Lex.right' _ (pending_le_of_subset references_head_subset)
      (Prod.Lex.right' _ weight_head_le Nat.zero_lt_one)
  · exact Prod.Lex.right' _ (pending_le_of_subset references_tail_subset)
      (.left _ _ weight_tail_lt)

def resolveMembers (root : Json) (inFlight : List String) (members : List (String × Json)) :
    Resolved (List (String × Json)) :=
  match members with
  | [] => ⟨[], []⟩
  | (key, value) :: rest =>
    let first := resolveFrom root inFlight value
    let others := resolveMembers root inFlight rest
    ⟨(key, first.value) :: others.value, first.notices ++ others.notices⟩
termination_by
  (pending inFlight (root.references ++ referencesOfMembers members), weightOfMembers members, 1)
decreasing_by
  · exact Prod.Lex.right' _ (pending_le_of_subset references_headMember_subset)
      (Prod.Lex.right' _ weight_headMember_le Nat.zero_lt_one)
  · exact Prod.Lex.right' _ (pending_le_of_subset references_tailMembers_subset)
      (.left _ _ weight_tailMembers_lt)

end

/--
Replaces every reference in `value`. Without a set of pointers in flight, a value without references
comes back as it is; otherwise none is in flight at first.
-/
def resolve (root : Json) (inFlight : Option (List String)) (value : Json) : Resolved Json :=
  match inFlight with
  | some inFlight => resolveFrom root inFlight value
  | none => if value.hasReferences then resolveFrom root [] value else ⟨value, []⟩

/--
Resolution hands back the value itself and no copy: a value without references that is resolved on
its own, a value that is no container, or a reference that cannot be followed.
-/
def isLeftAlone (root : Json) (inFlight : Option (List String)) (value : Json) : Bool :=
  (inFlight.isNone && !value.hasReferences) ||
    match value with
    | .array _ => false
    | .object members =>
      match Members.reference? members with
      | none => false
      | some pointer => (target root (inFlight.getD []) members pointer).toOption.isNone
    | _ => true

end Json

end ToolSchema
