import Mathlib.Data.List.Forall2
import ToolSchema.Convert.Constant

/-!
# What a trace holds

The values without a schema that a trace records, part by part. `Traced.conclude_eq_ok` says that a
conversion ends well exactly if there are none. `Traced.Alike` is for results that differ in their
notices only, and `Traced.Each` for any property of what is recorded. `mapM_eq_ok` is for lists in
general whose items may fail.
-/

namespace ToolSchema

/-- A list goes through if each of its items does, one by one. -/
theorem mapM_eq_ok {α β ε : Type} {f : α → Except ε β} {items : List α} {results : List β} :
    items.mapM f = .ok results ↔
      List.Forall₂ (fun item result => f item = .ok result) items results := by
  induction items generalizing results with
  | nil =>
    rw [List.forall₂_nil_left_iff]
    exact ⟨fun h => by cases h; rfl, fun h => by rw [h]; rfl⟩
  | cons item rest ih =>
    rw [List.mapM_cons, List.forall₂_cons_left_iff]
    constructor
    · intro h
      cases hf : f item with
      | error fault =>
        rw [hf] at h
        cases h
      | ok first =>
        cases ho : rest.mapM f with
        | error fault =>
          rw [hf, ho] at h
          cases h
        | ok others =>
          rw [hf, ho] at h
          cases h
          exact ⟨first, others, rfl, ih.mp ho, rfl⟩
    · rintro ⟨first, others, hf, ho, rfl⟩
      rw [hf, ih.mpr ho]
      rfl

namespace Traced

variable {α β : Type}

@[simp] theorem value_map (f : α → β) (traced : Traced α) :
    (traced.map f).value = f traced.value := rfl

@[simp] theorem value_sequence (results : List (Traced α)) :
    (sequence results).value = results.map Traced.value := rfl

@[simp] theorem unsupported_after (notice : Option Notice) (traced : Traced α) :
    (traced.after notice).unsupported = traced.unsupported := by
  cases notice <;> rfl

/-- A trace records what its parts record. -/
theorem unsupported_append_eq_nil {value : α} {front back : List Mark} :
    (Traced.mk value (front ++ back)).unsupported = [] ↔
      (Traced.mk value front).unsupported = [] ∧ (Traced.mk value back).unsupported = [] := by
  simp only [unsupported, List.filterMap_append, List.append_eq_nil_iff]

/-- Nothing counts that is recorded in front without a value that has no schema. -/
theorem unsupported_append {value : α} {front back : List Mark}
    (h : (Traced.mk value front).unsupported = []) :
    (Traced.mk value (front ++ back)).unsupported = (Traced.mk value back).unsupported := by
  unfold unsupported at *
  rw [List.filterMap_append, h, List.nil_append]

theorem unsupported_sequence (results : List (Traced α)) :
    (sequence results).unsupported = results.flatMap Traced.unsupported := by
  simp only [unsupported, sequence, List.filterMap_flatMap]
  rfl

theorem unsupported_sequence_map_eq_nil {items : List β} {f : β → Traced α}
    (h : ∀ item ∈ items, (f item).unsupported = []) :
    (sequence (items.map f)).unsupported = [] := by
  rw [unsupported_sequence, List.flatMap_eq_nil_iff]
  intro result hr
  obtain ⟨item, hi, rfl⟩ := List.mem_map.mp hr
  exact h item hi

/-- Notices are no values without a schema. -/
theorem unsupported_notices (value : α) {marks : List Mark}
    (h : ∀ mark ∈ marks, ∃ notice, mark = .notice notice) :
    (Traced.mk value marks).unsupported = [] := by
  simp only [unsupported, List.filterMap_eq_nil_iff]
  intro mark hm
  obtain ⟨notice, rfl⟩ := h mark hm
  rfl

/-- A conversion ends well if it met no value that no schema can hold. -/
theorem conclude_eq_ok {traced : Traced α} (h : traced.unsupported = []) :
    traced.conclude = .ok (traced.value, traced.notices) := by
  rw [conclude, h]

/-! ## Conclusions -/

theorem value_of_conclude {traced : Traced α} {value : α} {notices : List Notice}
    (h : traced.conclude = .ok (value, notices)) : traced.value = value := by
  rw [conclude] at h
  split at h
  · cases h
    rfl
  · cases h

theorem conclude_map (f : α → β) (traced : Traced α) :
    (traced.map f).conclude = traced.conclude.map (fun built => (f built.1, built.2)) := by
  have hunsupported : (traced.map f).unsupported = traced.unsupported := rfl
  rw [conclude, conclude, hunsupported]
  cases traced.unsupported <;> rfl

/-- What comes first is refused first. -/
theorem conclude_append (value : α) (first : Traced β) (back : List Mark) :
    (Traced.mk value (first.trace ++ back)).conclude =
      first.conclude.bind (fun built => (Traced.mk value back).conclude.map (fun rest =>
        (rest.1, built.2 ++ rest.2))) := by
  simp only [conclude, unsupported, notices, List.filterMap_append]
  cases hu : first.trace.filterMap _ with
  | nil =>
    simp only [List.nil_append, Except.bind]
    cases back.filterMap _ <;> rfl
  | cons typeName others => rfl

/-- Results one after another are concluded one after another. -/
theorem conclude_sequence_map (items : List β) (f : β → Traced α) :
    (sequence (items.map f)).conclude =
      (items.mapM (fun item => (f item).conclude)).map (fun built =>
        (built.map Prod.fst, built.flatMap Prod.snd)) := by
  induction items with
  | nil => rfl
  | cons item rest ih =>
    have hsequence : (Traced.mk ((f item).value :: (sequence (rest.map f)).value)
        (sequence (rest.map f)).trace).conclude =
          (sequence (rest.map f)).conclude.map (fun built =>
            ((f item).value :: built.1, built.2)) := conclude_map _ _
    rw [List.mapM_cons]
    show (Traced.mk ((f item).value :: (sequence (rest.map f)).value)
      ((f item).trace ++ (sequence (rest.map f)).trace)).conclude = _
    rw [conclude_append, hsequence, ih]
    cases hf : (f item).conclude with
    | error fault => rfl
    | ok built =>
      obtain ⟨value, notices⟩ := built
      have hvalue : value = (f item).value := by
        rw [conclude] at hf
        split at hf
        · cases hf
          rfl
        · cases hf
      subst hvalue
      cases rest.mapM (fun item => (f item).conclude) <;> rfl

/-- Where two results are alike and refuse alike, their conclusions are alike. -/
theorem map_conclude_congr {γ : Type} {f : α → γ} {g : β → γ} {left : Traced α}
    {right : Traced β} (hv : f left.value = g right.value)
    (hu : left.unsupported = right.unsupported) :
    left.conclude.map (fun built => f built.1) = right.conclude.map (fun built => g built.1) := by
  rw [conclude, conclude, hu]
  cases right.unsupported with
  | nil => exact congrArg Except.ok hv
  | cons typeName others => rfl

/-- Without their notices, results one after another are concluded one by one. -/
theorem map_fst_conclude_sequence_map (items : List β) (f : β → Traced α) :
    (sequence (items.map f)).conclude.map Prod.fst =
      items.mapM (fun item => (f item).conclude.map Prod.fst) := by
  rw [conclude_sequence_map]
  induction items with
  | nil => rfl
  | cons item rest ih =>
    rw [List.mapM_cons, List.mapM_cons, ← ih]
    cases (f item).conclude with
    | error fault => rfl
    | ok built => cases rest.mapM (fun item => (f item).conclude) <;> rfl

/-! ## Results that differ in their notices -/

/-- The same value, and the same values without a schema; the notices may differ. -/
structure Alike (left right : Traced α) : Prop where
  value : left.value = right.value
  unsupported : left.unsupported = right.unsupported

theorem Alike.refl (traced : Traced α) : Alike traced traced := ⟨rfl, rfl⟩

theorem Alike.symm {left right : Traced α} (h : Alike left right) : Alike right left :=
  ⟨h.value.symm, h.unsupported.symm⟩

theorem Alike.trans {left middle right : Traced α} (h : Alike left middle)
    (h' : Alike middle right) : Alike left right :=
  ⟨h.value.trans h'.value, h.unsupported.trans h'.unsupported⟩

theorem alike_after (notice : Option Notice) (traced : Traced α) :
    Alike (traced.after notice) traced :=
  ⟨rfl, unsupported_after notice traced⟩

theorem Alike.map {left right : Traced α} (h : Alike left right) (f : α → β) :
    Alike (left.map f) (right.map f) :=
  ⟨congrArg f h.value, h.unsupported⟩

theorem alike_sequence_map {items : List β} {f g : β → Traced α}
    (h : ∀ item ∈ items, Alike (f item) (g item)) :
    Alike (sequence (items.map f)) (sequence (items.map g)) := by
  constructor
  · simp only [value_sequence, List.map_map]
    exact List.map_congr_left (fun item hi => (h item hi).value)
  · simp only [unsupported_sequence, List.flatMap_map]
    exact List.flatMap_congr (fun item hi => (h item hi).unsupported)

/-- Results that are alike are concluded alike, but for their notices. -/
theorem Alike.conclude {left right : Traced α} (h : Alike left right) :
    left.conclude.map Prod.fst = right.conclude.map Prod.fst :=
  map_conclude_congr (f := id) (g := id) h.value h.unsupported

/-! ## Properties of all that is recorded -/

variable {p : Mark → Prop}

/-- `p` holds of all that is recorded. -/
def Each (p : Mark → Prop) (traced : Traced α) : Prop := ∀ mark ∈ traced.trace, p mark

theorem each_nil (value : α) : Each p ⟨value, []⟩ := fun _ h => (List.not_mem_nil h).elim

theorem Each.map {traced : Traced α} (h : traced.Each p) (f : α → β) : (traced.map f).Each p := h

theorem Each.after {traced : Traced α} (h : traced.Each p) {notice : Option Notice}
    (hn : ∀ found, notice = some found → p (.notice found)) : (traced.after notice).Each p := by
  intro mark hm
  cases notice with
  | none => exact h mark hm
  | some found =>
    rcases List.mem_cons.mp hm with rfl | hm
    · exact hn found rfl
    · exact h mark hm

theorem Each.append {front back : List Mark} (hf : ∀ mark ∈ front, p mark)
    (hb : ∀ mark ∈ back, p mark) (value : α) : Each p ⟨value, front ++ back⟩ := by
  intro mark hm
  rcases List.mem_append.mp hm with hm | hm
  · exact hf mark hm
  · exact hb mark hm

theorem each_sequence_map {items : List β} {f : β → Traced α}
    (h : ∀ item ∈ items, (f item).Each p) : (sequence (items.map f)).Each p := by
  intro mark hm
  obtain ⟨result, hr, hm⟩ := List.mem_flatMap.mp hm
  obtain ⟨item, hi, rfl⟩ := List.mem_map.mp hr
  exact h item hi mark hm

theorem mem_notices {traced : Traced α} {notice : Notice} :
    notice ∈ traced.notices ↔ .notice notice ∈ traced.trace := by
  rw [notices, List.mem_filterMap]
  constructor
  · rintro ⟨mark, hm, hmark⟩
    cases mark with
    | notice found =>
      cases hmark
      exact hm
    | unsupported typeName => cases hmark
  · intro hm
    exact ⟨_, hm, rfl⟩

/-- What holds of all that is recorded holds of the notices. -/
theorem Each.notice {traced : Traced α} (h : traced.Each p) {notice : Notice}
    (hn : notice ∈ traced.notices) : p (.notice notice) :=
  h _ (mem_notices.mp hn)

end Traced

end ToolSchema
