import ToolSchema.Convert.Constant
import ToolSchema.Proofs.Rendering
import ToolSchema.Proofs.WellFormed

/-!
# The members of an enumeration

An `enum` becomes a union with one branch for each text under it and then one for each boolean or
number, in their order. Nothing of a member is changed, and nothing else becomes a branch.

Members that are all texts are their branches at once, and others are gone through one by one.
`Convert.enumeration_eq` says what comes out of both, so that no later proof has to choose a way.

`Convert.enumeration_members` — a union of texts alone is written as one `enum` again, and any
other one as `anyOf`, whichever way the union was built.
-/

namespace ToolSchema

namespace Json

def isText (value : Json) : Bool := value.kind? == some .string

/-- A boolean, an integer or a floating point number. -/
def isScalar (value : Json) : Bool :=
  value.kind? == some .bool || value.kind? == some .int || value.kind? == some .float

theorem items_array (list : List Json) : (array list).items = list := rfl

theorem filterMap_string?_texts (texts : List String) :
    (texts.map Json.string).filterMap string? = texts := by
  rw [List.filterMap_map]
  exact List.filterMap_some

theorem map_string_filterMap_string? (items : List Json) :
    (items.filterMap string?).map Json.string = items.filter isText := by
  induction items with
  | nil => rfl
  | cons item rest ih =>
    cases item with
    | string text => exact congrArg (Json.string text :: ·) ih
    | _ => exact ih

/-- There are as many texts as members only where each member is a text. -/
theorem exists_texts {items : List Json} (h : (items.filterMap string?).length = items.length) :
    ∃ texts : List String, items = texts.map .string := by
  refine ⟨items.filterMap string?, ?_⟩
  rw [map_string_filterMap_string?, eq_comm, List.filter_eq_self]
  rw [List.length_filterMap_eq_countP, List.countP_eq_length] at h
  intro item hi
  have htext := h item hi
  cases item with
  | string text => rfl
  | _ => cases htext

end Json

namespace Convert

open Json

/-! ## Both ways to the union -/

/-- Each member adds its leaf, its null or its mark to what is there. -/
theorem foldl_add (items : List Json) (gathered : Gathered) :
    items.foldl Gathered.add gathered =
      ⟨gathered.branches ++ items.filterMap scalarConstant?,
        gathered.admitsNull || items.contains .null,
        gathered.marks ++ items.filterMap unsupportedMark?⟩ := by
  induction items generalizing gathered with
  | nil => simp
  | cons item rest ih =>
    rw [List.foldl_cons, ih]
    cases item <;>
      simp [Gathered.add, scalarConstant?, unsupportedMark?, kind?, List.filterMap_cons]

theorem enumerationOneByOne_eq (items : List Json) (name : Label) (description : Json) :
    enumerationOneByOne items name description =
      ⟨⟨.union name description ((items.filterMap string?).map Schema.stringConstant ++
          items.filterMap scalarConstant?), items.contains .null⟩,
        items.filterMap unsupportedMark?⟩ := by
  simp [enumerationOneByOne, foldl_add]

/-- Going through texts one by one changes nothing. -/
theorem enumerationOneByOne_texts (texts : List String) (name : Label) (description : Json) :
    enumerationOneByOne (texts.map .string) name description =
      enumerationOfTexts texts name description := by
  have hscalars : (texts.map Json.string).filterMap scalarConstant? = [] := by
    rw [List.filterMap_eq_nil_iff]
    simp [scalarConstant?]
  have hmarks : (texts.map Json.string).filterMap unsupportedMark? = [] := by
    rw [List.filterMap_eq_nil_iff]
    simp [unsupportedMark?, kind?]
  rw [enumerationOneByOne_eq, filterMap_string?_texts, hscalars, hmarks]
  simp [enumerationOfTexts]

/-- Members that are all texts could also be gone through one by one. -/
theorem enumeration_oneByOne (values : Json) (name : Label) (description : Json) :
    enumeration values name description = enumerationOneByOne values.items name description := by
  by_cases h : (values.items.filterMap string?).length = values.items.length
  · obtain ⟨texts, htexts⟩ := exists_texts h
    rw [enumeration, if_pos h, htexts, filterMap_string?_texts, enumerationOneByOne_texts]
  · rw [enumeration, if_neg h]

theorem enumeration_eq (values : Json) (name : Label) (description : Json) :
    enumeration values name description =
      ⟨⟨.union name description ((values.items.filterMap string?).map Schema.stringConstant ++
          values.items.filterMap scalarConstant?), values.items.contains .null⟩,
        values.items.filterMap unsupportedMark?⟩ := by
  rw [enumeration_oneByOne, enumerationOneByOne_eq]

/-! ## Branches -/

/-- The leaf that admits this value only, of the kind that the value has. -/
inductive Pins (item : Json) : Schema Label → Prop where
  | leaf {kind : Primitive} (fits : (Constraint.fixed item).Fits kind) :
    Pins item (.leaf kind (some (.fixed item)))

theorem forall₂_stringConstants (items : List Json) :
    List.Forall₂ Pins (items.filter isText)
      ((items.filterMap string?).map Schema.stringConstant) := by
  induction items with
  | nil => exact .nil
  | cons item rest ih =>
    cases item with
    | string text => exact .cons (.leaf (.string text)) ih
    | _ => exact ih

theorem forall₂_scalarConstants (items : List Json) :
    List.Forall₂ Pins (items.filter isScalar) (items.filterMap scalarConstant?) := by
  induction items with
  | nil => exact .nil
  | cons item rest ih =>
    cases item with
    | bool value => exact .cons (.leaf (.bool value)) ih
    | int value => exact .cons (.leaf (.int value)) ih
    | float value => exact .cons (.leaf (.float value)) ih
    | _ => exact ih

/-- The leaf of a boolean or number is no string constant. -/
theorem constant?_scalarConstant? {item : Json} {leaf : Schema Label}
    (h : scalarConstant? item = some leaf) : leaf.constant? = none := by
  unfold scalarConstant? at h
  split at h <;> cases h <;> rfl

theorem unsupportedMark?_eq_none_iff {item : Json} :
    unsupportedMark? item = none ↔ item.kind?.isSome := by
  unfold unsupportedMark?
  split <;> simp [*]

/-! ## Documents -/

/-- There are texts under the `enum`, and neither booleans nor numbers. -/
def TextsAlone (items : List Json) : Prop :=
  (∃ item ∈ items, item.isText) ∧ ∀ item ∈ items, ¬item.isScalar

theorem filterMap_scalarConstant?_eq_nil_iff {items : List Json} :
    items.filterMap scalarConstant? = [] ↔ ∀ item ∈ items, ¬item.isScalar := by
  rw [List.filterMap_eq_nil_iff]
  refine forall₂_congr (fun item _ => ?_)
  cases item <;> simp [scalarConstant?, isScalar, kind?]

theorem filterMap_string?_ne_nil_iff {items : List Json} :
    items.filterMap string? ≠ [] ↔ ∃ item ∈ items, item.isText := by
  have hnil : items.filterMap string? = [] ↔ items.filter isText = [] := by
    rw [← map_string_filterMap_string?, List.map_eq_nil_iff]
  rw [Ne, hnil, List.filter_eq_nil_iff]
  push Not
  rfl

/-- One text with these values, as an enumeration is written that has nothing else. -/
def documentOfTexts (items : List Json) (description : Json) : Json :=
  .object ([("type", .string "string"), ("enum", .array (items.filter isText))] ++
    descriptionMember description)

/-- The documents of branches side by side. -/
def documentOfBranches (write : Label → Json) (branches : List (Schema Label))
    (description : Json) : Json :=
  .object ([("anyOf", .array (branches.map (Schema.document write)))] ++
    descriptionMember description)

theorem document_textsAlone {items : List Json} (h : TextsAlone items) (write : Label → Json)
    (name : Label) (description : Json) :
    (enumeration (.array items) name description).value.schema.document write =
      documentOfTexts items description := by
  obtain ⟨htexts, hscalars⟩ := h
  rw [← filterMap_string?_ne_nil_iff] at htexts
  rw [← filterMap_scalarConstant?_eq_nil_iff] at hscalars
  rw [enumeration_eq, items_array, hscalars, List.append_nil, Schema.document,
    Schema.documentMembers_texts htexts, map_string_filterMap_string?]
  rfl

/-- With a boolean or number among them, or with none at all, not all branches are texts. -/
theorem document_not_textsAlone {items : List Json} (h : ¬TextsAlone items) (write : Label → Json)
    (name : Label) (description : Json) :
    (enumeration (.array items) name description).value.schema.document write =
      documentOfBranches write ((items.filterMap string?).map Schema.stringConstant ++
        items.filterMap scalarConstant?) description := by
  rw [enumeration_eq, items_array, Schema.document, Schema.documentMembers_anyOf ?_,
    Schema.documentBranches_eq_map]
  · rfl
  · rw [TextsAlone, ← filterMap_string?_ne_nil_iff, ← filterMap_scalarConstant?_eq_nil_iff] at h
    cases hscalars : items.filterMap scalarConstant? with
    | nil =>
      left
      have htexts : items.filterMap string? = [] := by
        by_contra htexts
        exact h ⟨htexts, hscalars⟩
      rw [htexts]
      rfl
    | cons leaf rest =>
      right
      obtain ⟨item, -, hleaf⟩ := List.mem_filterMap.mp (hscalars ▸ List.mem_cons_self)
      exact Schema.constants?_eq_none_of_mem (List.mem_append_right _ List.mem_cons_self)
        (constant?_scalarConstant? hleaf)

/--
**An enumeration has the members under it as its branches**, texts first and then booleans and
numbers. Nothing is lost, doubled or given another kind; null only admits leaving a field out, and
a list of values of any kind is no failure. One by one the members give the same as all at once.
The document names the texts where there is nothing else, and lists the branches otherwise.
-/
theorem enumeration_members (items : List Json) (name : Label) (description : Json) :
    ∃ branches : List (Schema Label),
      (enumeration (.array items) name description).value.schema =
        .union name description branches ∧
      List.Forall₂ Pins (items.filter isText ++ items.filter isScalar) branches ∧
      ((enumeration (.array items) name description).value.admitsNull = true ↔ .null ∈ items) ∧
      ((enumeration (.array items) name description).trace = [] ↔
        ∀ item ∈ items, item.kind?.isSome) ∧
      enumerationOneByOne items name description = enumeration (.array items) name description ∧
      ∀ write : Label → Json,
        ((enumeration (.array items) name description).value.schema.document write =
          documentOfTexts items description ↔ TextsAlone items) ∧
        ((enumeration (.array items) name description).value.schema.document write =
          documentOfBranches write branches description ↔ ¬TextsAlone items) := by
  refine ⟨(items.filterMap string?).map Schema.stringConstant ++ items.filterMap scalarConstant?,
    ?schema, ?branches, ?null, ?trace, ?ways, fun write => ?documents⟩
  case schema => rw [enumeration_eq, items_array]
  case branches =>
    exact List.rel_append (forall₂_stringConstants items) (forall₂_scalarConstants items)
  case null =>
    rw [enumeration_eq, items_array]
    exact List.contains_iff_mem
  case trace =>
    rw [enumeration_eq, items_array, List.filterMap_eq_nil_iff]
    exact forall₂_congr (fun item _ => unsupportedMark?_eq_none_iff)
  case ways => exact (enumeration_oneByOne (.array items) name description).symm
  case documents =>
    -- The two forms start with different members, so no document is of both.
    have hforms : documentOfTexts items description ≠ documentOfBranches write
        ((items.filterMap string?).map Schema.stringConstant ++ items.filterMap scalarConstant?)
        description := by
      simp [documentOfTexts, documentOfBranches]
    by_cases h : TextsAlone items
    · rw [document_textsAlone h]
      exact ⟨iff_of_true rfl h, iff_of_false hforms (not_not_intro h)⟩
    · rw [document_not_textsAlone h]
      exact ⟨iff_of_false hforms.symm h, iff_of_true rfl h⟩

/-- A null in between leaves no branch, and `true` is no number. -/
example :
    (enumeration (.array [.bool true, .string "red", .null, .int 1, .string "red"]) .generated
      .null).value =
    ⟨.union .generated .null [Schema.stringConstant "red", Schema.stringConstant "red",
      .leaf .boolean (some (.fixed (.bool true))), .leaf .integer (some (.fixed (.int 1)))],
      true⟩ := rfl

end Convert

end ToolSchema
