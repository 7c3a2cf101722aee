import Mathlib.Data.List.Forall2
import ToolSchema.Proofs.Validity
import ToolSchema.Convert.Build
import ToolSchema.Proofs.Everywhere
import ToolSchema.Schema.Document

/-!
# Documents up to the order of keys

JSON does not tell objects apart by the order of their members. `Json.Reordered` is sameness but for
this order. A description that is put over a node is the one place where a document and its
conversion put a member into different places (`perm_described`).
-/

namespace ToolSchema

namespace Json

mutual

/-- The values are the same but for the order of members in objects. -/
inductive Reordered : Json → Json → Prop where
  | refl (value : Json) : Reordered value value
  | array {items others : List Json} (parts : List.Forall₂ Reordered items others) :
      Reordered (.array items) (.array others)
  | object {members left right others : Members} (hl : members.Perm left)
      (parts : ReorderedMembers left right) (hr : right.Perm others) :
      Reordered (.object members) (.object others)

/-- The same keys in the same order, over values that are the same but for the order in them. -/
inductive ReorderedMembers : Members → Members → Prop where
  | nil : ReorderedMembers [] []
  | cons {key : String} {value other : Json} {members others : Members}
      (hv : Reordered value other) (rest : ReorderedMembers members others) :
      ReorderedMembers ((key, value) :: members) ((key, other) :: others)

end

theorem ReorderedMembers.refl : (members : Members) → ReorderedMembers members members
  | [] => .nil
  | (_, value) :: rest => .cons (.refl value) (refl rest)

theorem ReorderedMembers.append {left right others others' : Members} :
    ReorderedMembers left right → ReorderedMembers others others' →
      ReorderedMembers (left ++ others) (right ++ others')
  | .nil, h => h
  | .cons hv rest, h => .cons hv (rest.append h)

theorem ReorderedMembers.hasKey {left right : Members} {key : String}
    (h : ReorderedMembers left right) : left.hasKey key = right.hasKey key := by
  cases h with
  | nil => rfl
  | cons _ rest =>
    rw [Members.hasKey, Members.hasKey, List.any_cons, List.any_cons]
    exact congrArg _ rest.hasKey

/-- A text, or null in the place of one. -/
def IsDescription (value : Json) : Prop := ∃ text : Option String, value = .ofString? text

theorem IsDescription.orElse {description own : Json} (hd : description.IsDescription)
    (hown : own.IsDescription) : (description.orElse own).IsDescription := by
  rw [Json.orElse]
  split
  · exact hd
  · exact hown

end Json

open Json

/-! ## Putting a description over a node -/

namespace Members

variable {members front back : Members} {key : String}

theorem hasKey_append (front back : Members) (key : String) :
    (front ++ back).hasKey key = (front.hasKey key || back.hasKey key) := by
  rw [hasKey, List.any_append]
  rfl

/-- Members that lack a key are not changed under it. -/
theorem map_replace (h : members.hasKey key = false) (value : Json) :
    members.map (fun member => (member.1, (List.lookup member.1 [(key, value)]).getD member.2)) =
      members := by
  refine (List.map_congr_left (fun member hm => ?_)).trans (List.map_id _)
  have hne : member.1 ≠ key := by
    intro hk
    rw [hasKey, List.any_eq_false] at h
    exact h member hm (beq_iff_eq.mpr hk)
  rw [List.lookup_cons, beq_eq_false_iff_ne.mpr hne]
  rfl

/-- A new key stands behind the others. -/
theorem put_of_not_hasKey (h : members.hasKey key = false) (value : Json) :
    members.put key value = members ++ [(key, value)] := by
  rw [put, overlay, map_replace h]
  rw [hasKey] at h
  simp only [List.filter_cons, h, Bool.not_false, if_true, List.filter_nil]

/-- A key that is there keeps its place. -/
theorem put_at (hf : front.hasKey key = false) (hb : back.hasKey key = false) (old value : Json) :
    (front ++ (key, old) :: back).put key value = front ++ (key, value) :: back := by
  have hthere : (front ++ (key, old) :: back).any (·.1 == key) = true := by
    rw [List.any_append, List.any_cons, beq_self_eq_true, Bool.true_or, Bool.or_true]
  rw [put, overlay, List.map_append, List.map_cons, map_replace hf, map_replace hb]
  simp only [List.filter_cons, hthere, Bool.not_true, List.filter_nil]
  simp

/-- Nothing but the description is changed. -/
theorem lookup_described_of_ne (members : Members) (description : Json) {key : String}
    (h : key ≠ "description") :
    (members.described description).lookup key = members.lookup key := by
  rw [described]
  split
  · exact lookup_put_of_ne h
  · rfl

theorem Only.described {keys : List String} (h : members.Only keys) (description : Json) :
    (members.described description).Only keys := by
  intro member hm
  rw [Members.described] at hm
  split at hm
  · rcases mem_of_mem_overlay hm with hm | hm
    · exact h member hm
    · rw [List.mem_singleton.mp hm]
      exact List.mem_cons_of_mem _ List.mem_cons_self
  · exact h member hm

section Described

variable (hf : front.hasKey "description" = false) (hb : back.hasKey "description" = false)
include hf hb

/-- A node with a description put over its own has one of the two, at one place or the other. -/
theorem perm_described (own description : Json) :
    ((front ++ (descriptionMember own ++ back)).described description).Perm
      (front ++ (descriptionMember (description.orElse own) ++ back)) := by
  rw [described, orElse]
  split
  · next hd =>
    rw [descriptionMember, descriptionMember, if_pos hd]
    split
    · rw [List.singleton_append, put_at hf hb]
      rfl
    · have hkey : (front ++ back).hasKey "description" = false := by
        rw [hasKey_append, hf, hb]
        rfl
      -- The description comes last where the node has none.
      rw [List.nil_append, put_of_not_hasKey hkey, List.append_assoc]
      exact List.Perm.append_left _ List.perm_append_comm
  · rfl

/-- Such a node has under `description` what is shown of the two. -/
theorem lookup_described (own description : Json) :
    ((front ++ (descriptionMember own ++ back)).described description).lookup "description" =
      (descriptionMember (description.orElse own)).lookup "description" := by
  have hfront : front.lookup "description" = none := lookup_of_not_hasKey hf
  have hback : back.lookup "description" = none := lookup_of_not_hasKey hb
  rw [described, orElse]
  split
  · next hd => rw [lookup_put_self, descriptionMember, if_pos hd, List.lookup_cons_self]
  · rw [List.lookup_append, List.lookup_append, hfront, hback, Option.none_or, Option.or_none]

/-- What is read as the description of a node is what it shows. -/
theorem descriptionMember_described {own description : Json} (hown : own.IsDescription)
    (hd : description.IsDescription) :
    descriptionMember (Convert.described
        ((front ++ (descriptionMember own ++ back)).described description) .null) =
      descriptionMember (description.orElse own) := by
  obtain ⟨text, ht⟩ := hd.orElse hown
  rw [Convert.described, if_pos rfl, Members.string?, lookup_described hf hb, ht]
  by_cases h : (Json.ofString? text).isTruthy = true
  · have hshown : descriptionMember (Json.ofString? text) =
        [("description", Json.ofString? text)] := if_pos h
    rw [hshown, List.lookup_cons_self]
    -- A description that is shown is a text, and read as this text.
    cases text with
    | none => cases h
    | some text => exact hshown
  · have hshown : descriptionMember (Json.ofString? text) = [] := if_neg h
    rw [hshown]
    rfl

variable (front back)

/-- A node whose other members are the same is the same with the description that is read of it. -/
theorem reordered_read (own description : Json) (hown : own.IsDescription)
    (hd : description.IsDescription) {front' back' : Members}
    (hfront : ReorderedMembers front' front) (hback : ReorderedMembers back' back) :
    Reordered
      (.object (front' ++ (descriptionMember (Convert.described
        ((front ++ (descriptionMember own ++ back)).described description) .null) ++ back')))
      (.object ((front ++ (descriptionMember own ++ back)).described description)) := by
  rw [descriptionMember_described hf hb hown hd]
  exact .object (.refl _) (hfront.append ((ReorderedMembers.refl _).append hback))
    (perm_described hf hb own description).symm

/-- This holds also where the description is put over the node, which may show it before. -/
theorem reordered_put (own : Json) {description own' : Json} (hown : own.IsDescription)
    (hd : description.IsDescription) {front' back' : Members}
    (hfront : ReorderedMembers front' front) (hback : ReorderedMembers back' back)
    (hown' : own' = Convert.described
      ((front ++ (descriptionMember own ++ back)).described description) .null ∨ own' = .null) :
    Reordered
      (.object ((front' ++ (descriptionMember own' ++ back')).described (Convert.described
        ((front ++ (descriptionMember own ++ back)).described description) .null)))
      (.object ((front ++ (descriptionMember own ++ back)).described description)) := by
  have hread := descriptionMember_described hf hb hown hd
  generalize Convert.described _ .null = read at hread hown' ⊢
  have hshown : descriptionMember (read.orElse own') =
      descriptionMember (description.orElse own) := by
    rw [← hread, Json.orElse]
    split
    · rfl
    · next h =>
      rcases hown' with rfl | rfl
      · rfl
      · exact (if_neg h).symm
  have hput := perm_described (hfront.hasKey.trans hf) (hback.hasKey.trans hb) own' read
  rw [hshown] at hput
  exact .object hput (hfront.append ((ReorderedMembers.refl _).append hback))
    (perm_described hf hb own description).symm

end Described

end Members

end ToolSchema
