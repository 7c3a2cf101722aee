import ToolSchema.Chat.Stream
import ToolSchema.Proofs.Everywhere
import ToolSchema.Service.Http

/-!
# Writable values

A value is writable if a JSON text can hold it: there are no bytes in it, and nothing without a
kind. In an event it is sent as it is, in a response without the numbers that are not finite.

* `Json.IsWritable` — writable values
* `Json.unwritable?_eq_none` — what an event can hold
* `Json.IsWritable.exists_writable` — what a response can hold
-/

namespace ToolSchema

namespace Json

/-- A node that a JSON text can hold. -/
def IsWritableNode : Json → Prop
  | .binary _ | .record _ | .foreign => False
  | _ => True

instance : DecidablePred IsWritableNode := fun value =>
  match value with
  | .binary _ | .record _ | .foreign => inferInstanceAs (Decidable False)
  | .null | .bool _ | .int _ | .float _ | .string _ | .array _ | .object _ =>
    inferInstanceAs (Decidable True)

/-- A value that a JSON text can hold. -/
def IsWritable (value : Json) : Prop := Everywhere IsWritableNode value

instance : DecidablePred IsWritable := inferInstanceAs (DecidablePred (Everywhere IsWritableNode))

/-! ## Sending -/

/-- Writable values, and no others, can be sent in an event. -/
theorem unwritable?_eq_none {value : Json} : value.unwritable? = none ↔ value.IsWritable := by
  rw [unwritable?, Option.map_eq_none_iff, List.find?_eq_none, walk_eq_preorder, IsWritable,
    Everywhere]
  refine forall₂_congr (fun node _ => ?_)
  cases node <;> simp [IsWritableNode]

theorem isWritable_array {items : List Json} :
    (Json.array items).IsWritable ↔ ∀ item ∈ items, item.IsWritable :=
  everywhere_array.trans (and_iff_right trivial)

theorem isWritable_object {members : Members} :
    (Json.object members).IsWritable ↔ ∀ member ∈ members, member.2.IsWritable :=
  everywhere_object.trans (and_iff_right trivial)

theorem isWritable_null : Json.null.IsWritable := everywhere_of_leaf rfl trivial

theorem isWritable_string (text : String) : (Json.string text).IsWritable :=
  everywhere_of_leaf rfl trivial

/-- A node that is no infinite number and none that is undefined. -/
def IsFiniteNode : Json → Prop
  | .float number => number.isFinite = true
  | _ => True

/-- All numbers in the value are finite. -/
def HasFiniteNumbers (value : Json) : Prop := Everywhere IsFiniteNode value

mutual

/-- A writable value can be sent in a response, unchanged if its numbers are finite. -/
theorem IsWritable.exists_writable : (value : Json) → value.IsWritable →
    ∃ sent, value.writable? = some sent ∧ (value.HasFiniteNumbers → sent = value)
  | .array items, h => by
    obtain ⟨sent, hsent, hsame⟩ := exists_writableItems items (isWritable_array.mp h)
    refine ⟨.array sent, by rw [writable?, hsent, Option.map_some], fun hfinite => ?_⟩
    rw [hsame (everywhere_array.mp hfinite).2]
  | .object members, h => by
    obtain ⟨sent, hsent, hsame⟩ := exists_writableMembers members (isWritable_object.mp h)
    refine ⟨.object sent, by rw [writable?, hsent, Option.map_some], fun hfinite => ?_⟩
    rw [hsame (everywhere_object.mp hfinite).2]
  | .float number, _ => ⟨_, rfl, fun hfinite => if_pos hfinite.self⟩
  | .null, _ | .bool _, _ | .int _, _ | .string _, _ => ⟨_, rfl, fun _ => rfl⟩
  | .binary _, h | .record _, h | .foreign, h => absurd h.self id

theorem exists_writableItems : (items : List Json) → (∀ item ∈ items, item.IsWritable) →
    ∃ sent, writableItems? items = some sent ∧
      ((∀ item ∈ items, item.HasFiniteNumbers) → sent = items)
  | [], _ => ⟨[], rfl, fun _ => rfl⟩
  | item :: rest, h => by
    rw [List.forall_mem_cons] at h
    obtain ⟨first, hfirst, hsame⟩ := IsWritable.exists_writable item h.1
    obtain ⟨others, hothers, hrest⟩ := exists_writableItems rest h.2
    refine ⟨first :: others, by rw [writableItems?, hfirst, hothers]; rfl, fun hfinite => ?_⟩
    rw [List.forall_mem_cons] at hfinite
    rw [hsame hfinite.1, hrest hfinite.2]

theorem exists_writableMembers : (members : List (String × Json)) →
    (∀ member ∈ members, member.2.IsWritable) →
    ∃ sent, writableMembers? members = some sent ∧
      ((∀ member ∈ members, member.2.HasFiniteNumbers) → sent = members)
  | [], _ => ⟨[], rfl, fun _ => rfl⟩
  | (key, value) :: rest, h => by
    rw [List.forall_mem_cons] at h
    obtain ⟨first, hfirst, hsame⟩ := IsWritable.exists_writable value h.1
    obtain ⟨others, hothers, hrest⟩ := exists_writableMembers rest h.2
    refine ⟨(key, first) :: others, by rw [writableMembers?, hfirst, hothers]; rfl,
      fun hfinite => ?_⟩
    rw [List.forall_mem_cons] at hfinite
    rw [hsame hfinite.1, hrest hfinite.2]

end

/-! ## Parts of writable values -/

theorem IsWritable.orElse {value other : Json} (h : value.IsWritable) (hother : other.IsWritable) :
    (value.orElse other).IsWritable := by
  rw [Json.orElse]
  split <;> assumption

/-- A writable value yields writable values. -/
theorem IsWritable.elements {value : Json} (h : value.IsWritable) {elements : List Json}
    (helements : value.elements = .ok elements) : ∀ element ∈ elements, element.IsWritable := by
  cases value with
  | array items =>
    cases helements
    exact isWritable_array.mp h
  | object members =>
    cases helements
    exact List.forall_mem_map.mpr (fun _ _ => isWritable_string _)
  | string text =>
    cases helements
    exact List.forall_mem_map.mpr (fun _ _ => isWritable_string _)
  | binary bytes => exact absurd h.self id
  | _ => cases helements

end Json

end ToolSchema
