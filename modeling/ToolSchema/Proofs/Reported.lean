import ToolSchema.Proofs.Idempotence
import ToolSchema.Proofs.NestedResolution

/-!
# What a resolution reports

Each outermost reference that is left in a resolved value was reported once, at the time when it was
met, and nothing else was. The reports come in the order of the references in the result, a node
before what is below it.

A place in the result is named by the way to it, child by child. The same way leads through the
value that is resolved, along the references that are followed on it (`Json.followedTo`). Whether a
reference is circular depends on these pointers and on those in flight at the start.

* `Json.places` — the outermost references of a value, each with the way to it
* `Json.reason?` — why a reference is left, if it is
* `Json.notices_resolve` — what is reported are the reasons of the references that are left
-/

namespace ToolSchema

namespace Json

variable {root : Json} {inFlight : List String}

/-! ## Places -/

/-- Where a reference stands in a value: which child of which child, from the top. -/
structure Place where
  path : List Nat
  pointer : String
  deriving DecidableEq, Repr

/-- The place in a value of what has this place in the child of this index. -/
def Place.inChild (place : Place) (index : Nat) : Place := ⟨index :: place.path, place.pointer⟩

mutual

/-- The references that stand below no other reference, a node before what is below it. -/
def places : Json → List Place
  | .array items => placesOfItems 0 items
  | .object members =>
    match Members.reference? members with
    | some pointer => [⟨[], pointer⟩]
    | none => placesOfMembers 0 members
  | _ => []

def placesOfItems (index : Nat) : List Json → List Place
  | [] => []
  | item :: rest => item.places.map (·.inChild index) ++ placesOfItems (index + 1) rest

def placesOfMembers (index : Nat) : List (String × Json) → List Place
  | [] => []
  | (_, value) :: rest => value.places.map (·.inChild index) ++ placesOfMembers (index + 1) rest

end

theorem placesOfItems_eq (index : Nat) (items : List Json) :
    placesOfItems index items =
      (items.zipIdx index).flatMap (fun child => child.1.places.map (·.inChild child.2)) := by
  induction items generalizing index with
  | nil => rfl
  | cons item rest ih => rw [placesOfItems, ih, List.zipIdx_cons, List.flatMap_cons]

theorem placesOfMembers_eq (index : Nat) (members : Members) :
    placesOfMembers index members = placesOfItems index (members.map Prod.snd) := by
  induction members generalizing index with
  | nil => rfl
  | cons member rest ih => rw [placesOfMembers, ih, List.map_cons, placesOfItems]

/-- What is no reference has the places of its children. -/
theorem places_of_not_reference {value : Json} (h : value.reference? = none) :
    value.places =
      value.children.zipIdx.flatMap (fun child => child.1.places.map (·.inChild child.2)) := by
  cases value with
  | object members =>
    have hr : Members.reference? members = none := h
    rw [places, hr, ← placesOfItems_eq]
    exact placesOfMembers_eq 0 members
  | array items => exact placesOfItems_eq 0 items
  | _ => rfl

theorem places_reference {members : Members} {pointer : String}
    (h : members.reference? = some pointer) : (Json.object members).places = [⟨[], pointer⟩] := by
  rw [places, h]

/-! ## The way to a place -/

/--
The pointers that are followed, in order, from a value down to a place of what it is resolved to:
those of its own chain, then those on the way from the child that the chain ends above.
-/
def followedTo (root : Json) (inFlight : List String) (value : Json) :
    (path : List Nat) → List String
  | [] => (dereference root inFlight value).followed
  | index :: rest =>
    let chain := dereference root inFlight value
    chain.followed ++
      match chain.node.children[index]? with
      | some child => followedTo root (chain.followed ++ inFlight) child rest
      | none => []

theorem followedTo_congr {inFlight' : List String} {path : List Nat} {value : Json}
    (h : ∀ p, p ∈ inFlight ↔ p ∈ inFlight') :
    followedTo root inFlight value path = followedTo root inFlight' value path := by
  induction path generalizing value inFlight inFlight' with
  | nil => rw [followedTo, followedTo, dereference_congr value h]
  | cons index rest ih =>
    rw [followedTo, followedTo, dereference_congr value h]
    cases (dereference root inFlight' value).node.children[index]? with
    | none => rfl
    | some child =>
      have hbelow : ∀ p, p ∈ (dereference root inFlight' value).followed ++ inFlight ↔
          p ∈ (dereference root inFlight' value).followed ++ inFlight' :=
        fun p => by rw [List.mem_append, List.mem_append, h p]
      exact congrArg _ (ih hbelow)

/-- Below a reference that is followed, its pointer comes first and is in flight. -/
theorem followedTo_of_ok {members : Members} {pointer : String} {found : Json}
    (hr : members.reference? = some pointer)
    (ht : target root inFlight members pointer = .ok found) (path : List Nat) :
    followedTo root inFlight (.object members) path =
      pointer :: followedTo root (pointer :: inFlight) found path := by
  cases path with
  | nil => rw [followedTo, followedTo, dereference_of_ok hr ht]
  | cons index rest =>
    rw [followedTo, followedTo, dereference_of_ok hr ht, List.cons_append]
    cases (dereference root (pointer :: inFlight) found).node.children[index]? with
    | none => rfl
    | some child =>
      -- The two lists of pointers in flight differ in their order only.
      refine congrArg (pointer :: _ ++ ·) (followedTo_congr (fun p => ?_))
      exact (mem_followed_append pointer _ inFlight p).symm

/-- Through what is no reference the way goes on from the child. -/
theorem followedTo_child {value child : Json} {index : Nat} (hr : value.reference? = none)
    (hc : value.children[index]? = some child) (rest : List Nat) :
    followedTo root inFlight value (index :: rest) = followedTo root inFlight child rest := by
  rw [followedTo, dereference_of_not_reference hr]
  simp only [hc, List.nil_append]

/-! ## Reasons -/

/--
Why a reference with this pointer is left: the pointer is in flight, or else it is not local, or
else it names nothing. Without a reason the reference can be followed.
-/
def reason? (root : Json) (inFlight : List String) (pointer : String) : Option Notice :=
  if pointer ∈ inFlight then some (.circular pointer)
  else if !Pointer.isLocal pointer then some (.nonLocal pointer)
  else if (root.lookup pointer).isNone then some (.dangling pointer)
  else none

theorem reason?_congr {inFlight' : List String} {pointer : String}
    (h : ∀ p, p ∈ inFlight ↔ p ∈ inFlight') :
    reason? root inFlight pointer = reason? root inFlight' pointer := by
  simp only [reason?, h]

/-- A reference that is not followed has the reason that is reported. -/
theorem reason?_of_error {members : Members} {pointer : String} {notice : Notice}
    (ht : target root inFlight members pointer = .error notice) :
    reason? root inFlight pointer = some notice := by
  unfold target at ht
  unfold reason?
  split at ht
  · next hin =>
    cases ht
    rw [if_pos hin]
  · next hin =>
    rw [if_neg hin]
    split at ht
    · next hlocal =>
      cases ht
      rw [if_pos hlocal]
    · next hlocal =>
      rw [if_neg hlocal]
      split at ht
      · next hl =>
        cases ht
        rw [hl]
        rfl
      · cases ht

/-- Why the references that are left in a resolved value are left, in order. -/
def reasons (root : Json) (inFlight : List String) (value : Json) : List (Option Notice) :=
  (resolved root inFlight value).places.map (fun place =>
    reason? root (inFlight ++ followedTo root inFlight value place.path) place.pointer)

theorem children_mapChildren (f : Json → Json) (value : Json) :
    (value.mapChildren f).children = value.children.map f := by
  cases value with
  | object members => simp [mapChildren, children, Members.mapValues]
  | _ => rfl

/-- The reasons in what was no reference and became none are those in its children. -/
theorem reasons_of_not_reference {value : Json} (hr : value.reference? = none)
    (hresolved : (resolved root inFlight value).reference? = none) :
    reasons root inFlight value = value.children.flatMap (reasons root inFlight) := by
  have hvalue : resolved root inFlight value = value.mapChildren (resolved root inFlight) := by
    rw [resolved, resolveFrom_of_not_reference hr]
    rfl
  have hchild : ∀ child ∈ value.children.zipIdx,
      ((resolved root inFlight child.1).places.map (·.inChild child.2)).map (fun place =>
        reason? root (inFlight ++ followedTo root inFlight value place.path) place.pointer) =
      reasons root inFlight child.1 := by
    rintro ⟨child, index⟩ hm
    have hc : value.children[index]? = some child := List.mem_zipIdx_iff_getElem?.mp hm
    rw [List.map_map]
    refine List.map_congr_left (fun place _ => ?_)
    rw [Function.comp_apply, Place.inChild, followedTo_child hr hc]
  rw [reasons, places_of_not_reference hresolved, hvalue, children_mapChildren, List.zipIdx_map,
    List.flatMap_map, List.map_flatMap]
  refine (List.flatMap_congr hchild).trans ?_
  rw [← List.flatMap_map Prod.fst (reasons root inFlight), List.zipIdx_map_fst]

/-- Reasons and reports agree in a node if they agree in its children. -/
theorem map_notices_of_children {value : Json} (hr : value.reference? = none)
    (hresolved : (resolved root inFlight value).reference? = none)
    (h : ∀ child ∈ value.children,
      (resolveFrom root inFlight child).notices.map some = reasons root inFlight child) :
    (resolveFrom root inFlight value).notices.map some = reasons root inFlight value := by
  rw [reasons_of_not_reference hr hresolved, resolveFrom_of_not_reference hr, List.map_flatMap]
  exact List.flatMap_congr h

/-- What is reported while a value is resolved are the reasons of the references that are left. -/
theorem map_notices_resolveFrom (hroot : Everywhere IsPlainlyKeyed root) {value : Json}
    (hvalue : Everywhere IsPlainlyKeyed value) :
    (resolveFrom root inFlight value).notices.map some = reasons root inFlight value := by
  induction inFlight, value using resolve_induction root with
  | object inFlight members hr ih =>
    refine map_notices_of_children hr ?_ (fun child hc => ?_)
    · rw [resolved_object hr]
      exact reference?_mapValues_resolved hr hvalue.self
    · obtain ⟨member, hm, rfl⟩ := List.mem_map.mp hc
      exact ih member hm ((everywhere_object.mp hvalue).2 member hm)
  | error inFlight members pointer notice hr ht =>
    have hfollowed : followedTo root inFlight (.object members) [] = [] := by
      rw [followedTo, dereference_of_error hr ht]
    rw [resolveFrom_of_error hr ht, reasons, resolved_of_error hr ht, places_reference hr]
    simp only [List.map_cons, List.map_nil, hfollowed, List.append_nil, reason?_of_error ht]
  | ok inFlight members pointer found hr ht ih =>
    rw [resolveFrom_of_ok hr ht, ih (hroot.target stable_isPlainlyKeyed hvalue ht), reasons,
      reasons, resolved_of_ok hr ht]
    -- The pointer is in flight below the target; seen from here it was followed on the way.
    refine List.map_congr_left (fun place _ => ?_)
    rw [followedTo_of_ok hr ht]
    exact (reason?_congr (fun p => List.perm_middle.mem_iff)).symm
  | array inFlight items ih =>
    refine map_notices_of_children rfl ?_ (fun child hc => ih child hc (hvalue.item hc))
    rw [resolved_array]
    rfl
  | leaf inFlight value hobject harray =>
    rw [resolveFrom_of_leaf hobject harray, reasons, resolved_of_leaf hobject harray]
    cases value with
    | object members => exact absurd rfl (hobject members)
    | array items => exact absurd rfl (harray items)
    | _ => rfl

/--
**Every reference that is left is reported once, for the right reason.** If no reference stands
directly under a `$ref`, neither in the document nor in the value, then the reports are the reasons
of the outermost references in the result, one for each and in their order. A reference is circular
if its pointer is in flight from the start or was followed on the way to its place.
-/
theorem notices_resolve {root value : Json} (hroot : Everywhere IsPlainlyKeyed root)
    (hvalue : Everywhere IsPlainlyKeyed value) (inFlight : Option (List String)) :
    let given := inFlight.getD []
    let result := resolve root inFlight value
    result.notices.map some = result.value.places.map (fun place =>
      reason? root (given ++ followedTo root given value place.path) place.pointer) := by
  cases inFlight with
  | none =>
    rw [resolve_none]
    exact map_notices_resolveFrom hroot hvalue
  | some inFlight => exact map_notices_resolveFrom hroot hvalue

/-- Parts of machines, in a unit that is described elsewhere. -/
def machinery : Json := .object [("$defs", .object [
  ("part", .object [("properties", .object [
    ("inner", .object [("$ref", .string "#/$defs/part")]),
    ("unit", .object [("$ref", .string "#/$defs/unit")])])]),
  ("unit", .object [("$ref", .string "units.json")])])]

/-- A part, something that is not there, and a unit. -/
def assembly : Json := .object [("items", .array [
  .object [("$ref", .string "#/$defs/part")],
  .object [("$ref", .string "#/$defs/bolt"), ("title", .string "Bolt")],
  .object [("$ref", .string "#/$defs/unit")]])]

theorem resolve_assembly : resolve machinery none assembly = ⟨
    .object [("items", .array [
      .object [("properties", .object [
        ("inner", .object [("$ref", .string "#/$defs/part")]),
        ("unit", .object [("$ref", .string "units.json")])])],
      .object [("$ref", .string "#/$defs/bolt"), ("title", .string "Bolt")],
      .object [("$ref", .string "units.json")]])],
    [.circular "#/$defs/part", .nonLocal "units.json", .dangling "#/$defs/bolt",
      .nonLocal "units.json"]⟩ := by
  have hdepth : machinery.depth ≤ 6 := by decide +kernel
  have hwithin : resolveWithin machinery 40 [] assembly =
      some (resolveFrom machinery [] assembly) :=
    resolveWithin_eq hdepth 40 [] assembly (by decide +kernel) (by decide +kernel)
  rw [resolve_none]
  refine Option.some.inj (hwithin.symm.trans ?_)
  decide +kernel

theorem notices_resolve_assembly :
    (Everywhere IsPlainlyKeyed machinery ∧ Everywhere IsPlainlyKeyed assembly) ∧
    (resolve machinery none assembly).notices.map some =
      (resolve machinery none assembly).value.places.map (fun place =>
        reason? machinery ([] ++ followedTo machinery [] assembly place.path) place.pointer) ∧
    (resolve machinery none assembly).value.places.map Place.path =
      [[0, 0, 0, 0], [0, 0, 0, 1], [0, 1], [0, 2]] := by
  have hroot : Everywhere IsPlainlyKeyed machinery := by decide
  have hvalue : Everywhere IsPlainlyKeyed assembly := by decide
  refine ⟨⟨hroot, hvalue⟩, notices_resolve hroot hvalue none, ?_⟩
  rw [resolve_assembly]
  rfl

end Json

end ToolSchema
