import ToolSchema.Proofs.Resolving

/-!
# Walks and the way around a resolution

A walk is done with a stack, a resolution by recursion. The walk decides whether a value has to be
resolved at all, so both have to agree on what a reference is and where one can stand.

* `Json.walkFrom_eq_flatMap` — what is pending on the stack is walked through from its top down
* `Json.walk_eq` — a walk visits a value and then its children, one after the other
* `Json.mem_walk` — it visits what is within the value, however deep
* `Json.walk_finds_references` — where it finds no reference, there is nothing to resolve
-/

namespace ToolSchema

theorem Members.reference?_eq_some_iff {members : Members} {pointer : String} :
    members.reference? = some pointer ↔ members.lookup referenceKey = some (.string pointer) := by
  constructor
  · intro hp
    exact lookup_of_string? hp
  · intro hv
    rw [reference?, hv]
    rfl

namespace Json

/-- The node is the value itself, or stands at some depth below it. -/
inductive IsWithin (node : Json) : Json → Prop where
  | self : IsWithin node node
  | under {value child : Json} (hc : child ∈ value.children) (h : IsWithin node child) :
      IsWithin node value

/-! ## Walks by recursion -/

theorem preorderOfItems_eq_flatMap (items : List Json) :
    preorderOfItems items = items.flatMap walk := by
  induction items with
  | nil => rfl
  | cons item rest ih => rw [preorderOfItems, ih, List.flatMap_cons, walk_eq_preorder]

/-- What is pending on a stack is walked through from its top down. -/
theorem walkFrom_eq_flatMap (stack : List Json) : walkFrom stack = stack.flatMap walk := by
  rw [walkFrom_eq, preorderOfItems_eq_flatMap]

/-- A walk visits the value, and then walks through its children in order. -/
theorem walk_eq (value : Json) : value.walk = value :: value.children.flatMap walk := by
  rw [walk, walkFrom, List.append_nil, walkFrom_eq_flatMap]

theorem weight_child_lt {value child : Json} (h : child ∈ value.children) :
    child.weight < value.weight :=
  Nat.lt_of_le_of_lt (weight_le_weightOfItems h) (weightOfItems_children value)

theorem isWithin_of_mem_walk {node value : Json} (h : node ∈ value.walk) :
    IsWithin node value := by
  rw [walk_eq, List.mem_cons, List.mem_flatMap] at h
  rcases h with rfl | ⟨child, hc, h⟩
  · exact .self
  · have hlt := weight_child_lt hc
    exact .under hc (isWithin_of_mem_walk h)
termination_by value.weight

theorem mem_walk {node value : Json} : node ∈ value.walk ↔ IsWithin node value := by
  refine ⟨isWithin_of_mem_walk, fun h => ?_⟩
  induction h with
  | self =>
    rw [walk_eq]
    exact List.mem_cons_self
  | under hc _ ih =>
    rw [walk_eq]
    exact List.mem_cons_of_mem _ (List.mem_flatMap.mpr ⟨_, hc, ih⟩)

/-! ## References -/

/-- A reference is an object with a text under `$ref`; any other value under it makes none. -/
theorem isReference_iff {node : Json} :
    node.isReference = true ↔ ∃ members pointer, node = .object members ∧
      members.lookup referenceKey = some (.string pointer) := by
  rw [isReference, Option.isSome_iff_exists]
  constructor
  · rintro ⟨pointer, hp⟩
    cases node with
    | object members => exact ⟨members, pointer, rfl, Members.reference?_eq_some_iff.mp hp⟩
    | _ => cases hp
  · rintro ⟨members, pointer, rfl, hv⟩
    exact ⟨pointer, Members.reference?_eq_some_iff.mpr hv⟩

theorem hasReferences_iff {value : Json} :
    value.hasReferences = true ↔ ∃ members pointer, IsWithin (.object members) value ∧
      members.lookup referenceKey = some (.string pointer) := by
  rw [hasReferences, List.any_eq_true]
  constructor
  · rintro ⟨node, hn, hr⟩
    obtain ⟨members, pointer, rfl, hv⟩ := isReference_iff.mp hr
    exact ⟨members, pointer, mem_walk.mp hn, hv⟩
  · rintro ⟨members, pointer, hwithin, hv⟩
    exact ⟨.object members, mem_walk.mpr hwithin, isReference_iff.mpr ⟨members, pointer, rfl, hv⟩⟩

/--
**A walk finds what a resolution would follow.** It visits a value and then its children, one after
the other. A value has references exactly if an object within it has a text under `$ref`. Where no
object has, a full resolution gives the same value back and reports nothing, whatever the document
and the pointers in flight, so that nothing is lost by leaving such a value alone.
-/
theorem walk_finds_references (value : Json) :
    value.walk = value :: value.children.flatMap walk ∧
    (value.hasReferences = true ↔ ∃ members pointer, IsWithin (.object members) value ∧
      members.lookup referenceKey = some (.string pointer)) ∧
    ∀ root : Json,
      (value.hasReferences = false →
        ∀ inFlight, resolveFrom root inFlight value = ⟨value, []⟩) ∧
      resolve root none value = resolveFrom root [] value := by
  refine ⟨walk_eq value, hasReferences_iff, fun root => ⟨fun h inFlight => ?_, ?_⟩⟩
  · exact resolveFrom_of_references_nil (hasReferences_eq_false.mp h)
  · exact resolve_none root value

/-- A node that says nothing under `$ref`, below another one. -/
def unreferring : Json := .object [
  ("$ref", .int 5),
  ("items", .array [.object [("title", .string "#/$defs/item"), ("$ref", .array [.string "#"])]])]

theorem walk_finds_references_unreferring : unreferring.hasReferences = false ∧
    unreferring.walk = unreferring :: unreferring.children.flatMap walk ∧
    ∀ inFlight, resolveFrom unreferring inFlight unreferring = ⟨unreferring, []⟩ := by
  have hnone : unreferring.hasReferences = false := hasReferences_eq_false.mpr rfl
  obtain ⟨hwalk, -, hresolve⟩ := walk_finds_references unreferring
  exact ⟨hnone, hwalk, (hresolve unreferring).1 hnone⟩

end Json

end ToolSchema
