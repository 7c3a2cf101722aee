import Mathlib.Data.List.Nodup
import ToolSchema.Proofs.Drawing
import ToolSchema.Proofs.Expressible
import ToolSchema.Proofs.Reordered

/-!
# Reading a rendered schema

A rendered schema is a document, and can be converted again. For schemas that the converter could
have built, rendering the result gives the same document but for the order of keys: a string
constant comes back as a union of one, a description of a field as that of its schema, and what is
required as what is not optional.

`Convert.Reread` has one statement for the schema of a rendered node and one for its slot, where the
description of the field was put over the node.
-/

namespace ToolSchema

open Json

namespace Schema

/-- No union, unless it has string constants only. -/
def FitsField : Schema Json → Prop
  | .union _ _ branches => branches ≠ [] ∧ ∀ branch ∈ branches, ∃ text, branch = stringConstant text
  | _ => True

/-- A schema whose rendering says all of it. -/
inductive Rereadable : Schema Json → Prop where
  | leaf (kind : Primitive) : Rereadable (.leaf kind none)
  | constant (text : String) : Rereadable (stringConstant text)
  | object {name description : Json} {fields : List (Field (Schema Json))} (named : IsText name)
      (described : description.IsDescription) (distinct : (fields.map Field.name).Nodup)
      (parts : ∀ field ∈ fields, Rereadable field.schema)
      (fits : ∀ field ∈ fields, field.schema.FitsField)
      (descriptions : ∀ field ∈ fields, field.description.IsDescription) :
      Rereadable (.object name description fields)
  | array {element : Schema Json} {least greatest : Option Int} (part : Rereadable element)
      (bounds : BoundsFit least greatest) : Rereadable (.array element least greatest)
  | union {name description : Json} {branches : List (Schema Json)}
      (described : description.IsDescription) (parts : ∀ branch ∈ branches, Rereadable branch) :
      Rereadable (.union name description branches)

end Schema

namespace Convert

variable {root : Json} {inFlight : List String}

/-- Built in silence, and rendered as the node but for the order of keys. -/
structure Restored (node : Members) (built : Traced (Schema Label)) : Prop where
  silent : built.trace = []
  rendered : ∀ named, built.value.Drawn named →
    named.constant? = none ∧ Reordered (named.document id) (.object node)

/-- Built in silence, and rendered under its description as the node but for the order of keys. -/
structure RestoredSlot (node : Members) (required : Bool)
    (built : Traced (Option (Slot (Schema Label)))) : Prop where
  silent : built.trace = []
  rendered : ∃ slot, built.value = some slot ∧ slot.isOptional = !required ∧
    ∀ named, slot.schema.Drawn named →
      Reordered (.object ((named.documentMembers id).described slot.description)) (.object node)

/-- The rendered schema is restored where it is read, also under the description of a field. -/
structure Reread (given : Schema Json) : Prop where
  plain : Members.reference? (given.documentMembers id) = none
  schema : ∀ root inFlight name,
    Restored (given.documentMembers id) (buildSchema root inFlight (given.document id) name .null)
  slot : given.FitsField → ∀ root inFlight (description : Json) name required,
    description.IsDescription →
    RestoredSlot ((given.documentMembers id).described description) required
      (buildSlot root inFlight (.object ((given.documentMembers id).described description)) name
        required .null)

/-! ## Leaves -/

section Leaf

variable {members : Members} {kind : Primitive} (only : members.Only ["type"])
  (type : members.lookup "type" = some (.string kind.name))
include only type

theorem buildSchema_of_leaf (name : Label) (description : Json) :
    buildSchema root inFlight (.object members) name description = ⟨.leaf kind none, []⟩ := by
  rw [buildSchema_eq_declared (reference?_of_only only (by decide)) (typeList?_of_string type),
    buildDeclared_of_type only type]

theorem buildSlot_of_leaf (name : Json) (required : Bool) (description : Json) :
    buildSlot root inFlight (.object members) name required description =
      ⟨slotOf (described members description) (.leaf kind none) required, []⟩ := by
  rw [buildSlot_eq_typed (reference?_of_only only (by decide)) (typeList?_of_string type)
    (only.hasKey (by decide)), buildTypedSlot_of_type only type]

end Leaf

theorem reread_leaf (kind : Primitive) : Reread (.leaf kind none) := by
  have only : Members.Only [("type", .string kind.name)] ["type"] := by simp [Members.Only]
  refine ⟨reference?_of_only only (by decide), fun root inFlight name => ?_,
    fun _ root inFlight description name required hd => ?_⟩
  · have hbuilt : buildSchema root inFlight (Schema.document id (.leaf kind none)) name .null =
        ⟨.leaf kind none, []⟩ := buildSchema_of_leaf only rfl name .null
    rw [hbuilt]
    refine ⟨rfl, fun named hn => ?_⟩
    obtain rfl := hn.leaf
    exact ⟨by cases kind <;> rfl, .refl _⟩
  · show RestoredSlot (Members.described [("type", .string kind.name)] description) required
      (buildSlot root inFlight
        (.object (Members.described [("type", .string kind.name)] description)) name required .null)
    rw [buildSlot_of_leaf (only.described description)
      (Members.lookup_described_of_ne _ description (by decide))]
    refine ⟨rfl, _, rfl, rfl, fun named hn => ?_⟩
    obtain rfl := hn.leaf
    exact Members.reordered_put [("type", .string kind.name)] [] rfl rfl .null ⟨none, rfl⟩ hd
      (.refl _) .nil (.inr rfl)

/-! ## String constants -/

theorem enumeration_texts (texts : List String) (name : Label) (description : Json) :
    enumeration (.array (texts.map .string)) name description =
      ⟨⟨.union name description (texts.map Schema.stringConstant), false⟩, []⟩ := by
  rw [enumeration_oneByOne]
  exact enumerationOneByOne_texts texts name description

section Texts

variable {members : Members} {texts : List String} (only : members.Only ["type", "enum"])
  (type : members.lookup "type" = some (.string "string"))
  (enum : members.lookup "enum" = some (.array (texts.map .string)))
include only type enum

theorem buildSchema_of_texts (name : Label) (description : Json) :
    buildSchema root inFlight (.object members) name description =
      ⟨.union (titled members name) (described members description)
        (texts.map Schema.stringConstant), []⟩ := by
  rw [buildSchema_eq_declared (reference?_of_only only (by decide)) (typeList?_of_string type),
    buildDeclared, declaredType_of_string type]
  show buildLeaf .string members _ _ = _
  rw [buildLeaf, narrowing_of_enum enum, enumeration_texts]
  rfl

theorem buildSlot_of_texts (name : Json) (required : Bool) (description : Json) :
    buildSlot root inFlight (.object members) name required description =
      ⟨slotOf (described members description)
        (.union (.given name) (described members description) (texts.map Schema.stringConstant))
        required, []⟩ := by
  rw [buildSlot_eq_typed (reference?_of_only only (by decide)) (typeList?_of_string type)
    (only.hasKey (by decide)), buildTypedSlot, declaredType_of_string type]
  show buildLeafSlot .string members name required _ = _
  rw [buildLeafSlot, narrowing_of_enum enum, enumeration_texts]
  simp only [Traced.map, Narrowing.apply, Bool.not_false, Bool.and_true]

end Texts

/-- String constants have no names to draw. -/
theorem drawn_texts : (texts : List String) → {named : List (Schema Json)} →
    List.Forall₂ Schema.Drawn (texts.map Schema.stringConstant) named →
      named = texts.map Schema.stringConstant
  | [], _, .nil => rfl
  | text :: rest, _, .cons hn ho => by
    rw [hn.leaf, drawn_texts rest ho]
    rfl

/-- A string constant and a union of some are written alike. -/
theorem reread_texts {given : Schema Json} (texts : List String) (own : Json)
    (hdocument : given.documentMembers id =
      [("type", .string "string"), ("enum", .array (texts.map .string))] ++
        (descriptionMember own ++ []))
    (hne : texts ≠ []) (hown : own.IsDescription) : Reread given := by
  have htexts : Members.Only [("type", .string "string"), ("enum", .array (texts.map .string))]
      ["type", "enum"] := by
    simp [Members.Only]
  have hempty : Members.Only [] ["type", "enum"] := fun _ hm => (List.not_mem_nil hm).elim
  have only := htexts.append ((Schema.only_descriptionMember own _).append hempty)
  have hwritten : ∀ name shown : Json,
      Schema.documentMembers id (.union name shown (texts.map Schema.stringConstant)) =
        [("type", .string "string"), ("enum", .array (texts.map .string))] ++
          (descriptionMember shown ++ []) := by
    intro name shown
    rw [Schema.documentMembers_texts hne, List.append_nil]
  constructor
  · rw [hdocument]
    exact reference?_of_only only (by decide)
  · intro root inFlight name
    rw [Schema.document, hdocument, buildSchema_of_texts only rfl rfl]
    refine ⟨rfl, fun named hn => ?_⟩
    obtain ⟨drawn, branches, hb, rfl⟩ := hn.union
    rw [drawn_texts texts hb, Schema.document, hwritten]
    exact ⟨rfl, Members.reordered_read _ [] rfl rfl own .null hown ⟨none, rfl⟩ (.refl _) .nil⟩
  · intro _ root inFlight description name required hd
    rw [hdocument, buildSlot_of_texts (only.described description)
      (Members.lookup_described_of_ne _ description (by decide))
      (Members.lookup_described_of_ne _ description (by decide))]
    refine ⟨rfl, _, rfl, rfl, fun named hn => ?_⟩
    obtain ⟨drawn, branches, hb, rfl⟩ := hn.union
    rw [drawn_texts texts hb, hwritten]
    exact Members.reordered_put _ [] rfl rfl own hown hd (.refl _) .nil (.inl rfl)

/-! ## Arrays -/

section Array

variable {members element : Members} {least greatest : Option Int}
  (only : members.Only ["type", "items", "minItems", "maxItems"])
  (type : members.lookup "type" = some (.string "array"))
  (items : members.lookup "items" = some (.object element))
  (hleast : members.lookup "minItems" = least.map .int)
  (hgreatest : members.lookup "maxItems" = greatest.map .int)
  (bounds : BoundsFit least greatest)

theorem count?_eq_bound {key : String} {bound : Option Int}
    (h : members.lookup key = bound.map .int) (hnat : ∀ n, bound = some n → 0 ≤ n) :
    members.count? key = bound := by
  rw [Members.count?, h]
  cases bound with
  | none => rfl
  | some n => simp [Json.int?, Option.filter, hnat n rfl]

include items hleast hgreatest bounds in
theorem buildArray_of_bounds : buildArray root inFlight members =
    ⟨.array (buildSchema root inFlight (.object element) .generated .null).value least greatest,
      (buildSchema root inFlight (.object element) .generated .null).trace⟩ := by
  have hbounds : arrayBounds members = ⟨(least, greatest), []⟩ := by
    rw [arrayBounds, count?_eq_bound hleast bounds.leastNat,
      count?_eq_bound hgreatest bounds.greatestNat]
    split
    · next m n =>
      rw [if_neg (Int.not_lt.mpr (bounds.ordered m n rfl rfl))]
    · rfl
  rw [buildArray_eq, hbounds, buildItems, items, List.append_nil]

include only type items hleast hgreatest bounds

theorem buildSchema_of_array (name : Label) (description : Json) :
    buildSchema root inFlight (.object members) name description =
      ⟨.array (buildSchema root inFlight (.object element) .generated .null).value least greatest,
        (buildSchema root inFlight (.object element) .generated .null).trace⟩ := by
  rw [buildSchema_eq_declared (reference?_of_only only (by decide)) (typeList?_of_string type),
    buildDeclared, declaredType_of_string type]
  exact buildArray_of_bounds items hleast hgreatest bounds

theorem buildSlot_of_array (name : Json) (required : Bool) (description : Json) :
    buildSlot root inFlight (.object members) name required description =
      ⟨slotOf (described members description)
        (.array (buildSchema root inFlight (.object element) .generated .null).value least greatest)
        required, (buildSchema root inFlight (.object element) .generated .null).trace⟩ := by
  rw [buildSlot_eq_typed (reference?_of_only only (by decide)) (typeList?_of_string type)
    (only.hasKey (by decide)), buildTypedSlot, declaredType_of_string type]
  show (buildArray root inFlight members).map _ = _
  rw [buildArray_of_bounds items hleast hgreatest bounds]
  rfl

end Array

theorem reread_array {element : Schema Json} {least greatest : Option Int} (part : Reread element)
    (bounds : BoundsFit least greatest) : Reread (.array element least greatest) := by
  have only := Schema.only_documentArray id element least greatest
  have hleast := Schema.lookup_minItems_documentArray id element least greatest
  have hgreatest := Schema.lookup_maxItems_documentArray id element least greatest
  have hbuilt := fun root inFlight => part.schema root inFlight .generated
  have hkey : Members.hasKey ((least.map (fun n => ("minItems", Json.int n))).toList ++
      (greatest.map (fun n => ("maxItems", Json.int n))).toList) "description" = false := by
    cases least <;> cases greatest <;> rfl
  -- The node that is read holds the document of the element, and the node that is written a
  -- document that is the same but for the order of keys.
  have hparts : ∀ {root inFlight namedElement},
      (buildSchema root inFlight (element.document id) .generated .null).value.Drawn namedElement →
      ReorderedMembers (("items", .object (namedElement.documentMembers id)) ::
        ((least.map (fun n => ("minItems", Json.int n))).toList ++
          (greatest.map (fun n => ("maxItems", Json.int n))).toList))
        (("items", .object (element.documentMembers id)) ::
        ((least.map (fun n => ("minItems", Json.int n))).toList ++
          (greatest.map (fun n => ("maxItems", Json.int n))).toList)) :=
    fun hn => .cons ((hbuilt _ _).rendered _ hn).2 (.refl _)
  refine ⟨reference?_of_only only (by decide), fun root inFlight name => ?_,
    fun _ root inFlight description name required hd => ?_⟩
  · rw [Schema.document, buildSchema_of_array only rfl rfl hleast hgreatest bounds]
    refine ⟨(hbuilt root inFlight).silent, fun named hn => ?_⟩
    obtain ⟨namedElement, he, rfl⟩ := hn.array
    exact ⟨rfl, .object (.refl _) (.cons (.refl _) (hparts he)) (.refl _)⟩
  · rw [buildSlot_of_array (only.described description)
      (Members.lookup_described_of_ne _ description (by decide))
      (Members.lookup_described_of_ne _ description (by decide))
      ((Members.lookup_described_of_ne _ description (by decide)).trans hleast)
      ((Members.lookup_described_of_ne _ description (by decide)).trans hgreatest) bounds]
    refine ⟨(hbuilt root inFlight).silent, _, rfl, rfl, fun named hn => ?_⟩
    obtain ⟨namedElement, he, rfl⟩ := hn.array
    exact Members.reordered_put [("type", .string "array")] _ rfl
      (by rw [Members.hasKey, List.any_cons]; exact hkey) .null ⟨none, rfl⟩ hd (.refl _) (hparts he)
      (.inr rfl)

/-! ## Unions -/

section Union

variable {branches : List (Schema Json)} (parts : ∀ branch ∈ branches, Reread branch)
include parts

theorem buildUnion_of_branches {members : Members}
    (anyOf : members.lookup "anyOf" = some (.array (Schema.documentBranches id branches)))
    (name : Label) (description : Json) :
    buildUnion root inFlight members name description =
      ⟨.union name description (branches.map (fun branch =>
        (buildSchema root inFlight (branch.document id) .generated .null).value)), []⟩ := by
  have hbranches : members.branches = branches.map (Schema.document id) := by
    rw [Members.branches, Members.items?, anyOf, Schema.documentBranches_eq_map]
    rfl
  have hbranch : ∀ branch ∈ branches, (buildBranch root inFlight ∘ Schema.document id) branch =
      ⟨some (buildSchema root inFlight (branch.document id) .generated .null).value, []⟩ := by
    intro branch hb
    have hsilent := ((parts branch hb).schema root inFlight .generated).silent
    rw [Function.comp_apply, buildBranch, Schema.document,
      dereference_of_reference?_none (parts branch hb).plain]
    show Traced.mk _ (buildSchema root inFlight (branch.document id) .generated .null).trace = _
    rw [hsilent]
    rfl
  rw [buildUnion_eq, hbranches, List.map_map, List.map_congr_left hbranch]
  simp [Traced.sequence, Traced.map, List.filterMap_map, Function.comp_def]

omit parts in
/-- Branches that are no string constants are not written as an enumeration. -/
theorem constants?_eq_none {named : List (Schema Json)}
    (h : ∀ branch ∈ named, branch.constant? = none) :
    named = [] ∨ Schema.constants? named = none := by
  cases named with
  | nil => exact .inl rfl
  | cons branch rest =>
    exact .inr (Schema.constants?_eq_none_of_mem List.mem_cons_self (h branch List.mem_cons_self))

theorem rendered_branches {named : List (Schema Json)}
    (h : List.Forall₂ Schema.Drawn (branches.map (fun branch =>
      (buildSchema root inFlight (branch.document id) .generated .null).value)) named) :
    List.Forall₂ Reordered (Schema.documentBranches id named)
        (Schema.documentBranches id branches) ∧
      ∀ branch ∈ named, branch.constant? = none := by
  induction branches generalizing named with
  | nil =>
    cases h
    exact ⟨.nil, fun _ hb => (List.not_mem_nil hb).elim⟩
  | cons branch rest ih =>
    obtain ⟨hbranch, hrest⟩ := List.forall_mem_cons.mp parts
    cases h with
    | cons hn hothers =>
      obtain ⟨hconstant, hreordered⟩ := (hbranch.schema root inFlight .generated).rendered _ hn
      obtain ⟨hparts, hconstants⟩ := ih hrest hothers
      exact ⟨.cons hreordered hparts, List.forall_mem_cons.mpr ⟨hconstant, hconstants⟩⟩

/-- A union with a branch that is no string constant, or without branches. -/
theorem reread_anyOf {name description : Json} (hd : description.IsDescription)
    (fits : ¬Schema.FitsField (.union name description branches))
    (hconstants : branches = [] ∨ Schema.constants? branches = none) :
    Reread (.union name description branches) := by
  have hanyOf : Members.Only [("anyOf", .array (Schema.documentBranches id branches))]
      ["anyOf"] := by
    simp [Members.Only]
  have hempty : Members.Only [] ["anyOf"] := fun _ hm => (List.not_mem_nil hm).elim
  have only := hanyOf.append ((Schema.only_descriptionMember description _).append hempty)
  have hwritten : ∀ {name shown : Json} {branches : List (Schema Json)},
      branches = [] ∨ Schema.constants? branches = none →
      Schema.documentMembers id (.union name shown branches) =
        [("anyOf", .array (Schema.documentBranches id branches))] ++
          (descriptionMember shown ++ []) := by
    intro name shown branches h
    rw [Schema.documentMembers_anyOf h, List.append_nil]
  refine ⟨?_, fun root inFlight label => ?_, fun h => absurd h fits⟩
  · rw [hwritten hconstants]
    exact reference?_of_only only (by decide)
  · rw [Schema.document, hwritten hconstants]
    have htype : List.lookup "type" ([("anyOf", .array (Schema.documentBranches id branches))] ++
        (descriptionMember description ++ [])) = none := only.lookup (by decide)
    have hlist : Members.typeList? ([("anyOf", .array (Schema.documentBranches id branches))] ++
        (descriptionMember description ++ [])) = none := by
      rw [Members.typeList?, Members.items?, htype]
      rfl
    have hdeclared : Members.declaredType
        ([("anyOf", .array (Schema.documentBranches id branches))] ++
          (descriptionMember description ++ [])) = some .anyOf := by
      rw [Members.declaredType, Members.string?, htype, only.hasKey (by decide)]
      rfl
    rw [buildSchema_eq_declared (reference?_of_only only (by decide)) hlist, buildDeclared,
      hdeclared]
    show Restored _ (buildUnion root inFlight _ _ _)
    rw [buildUnion_of_branches parts rfl]
    refine ⟨rfl, fun named hn => ?_⟩
    obtain ⟨drawn, namedBranches, hb, rfl⟩ := hn.union
    obtain ⟨hparts, hnone⟩ := rendered_branches parts hb
    rw [Schema.document, hwritten (constants?_eq_none hnone)]
    exact ⟨rfl, Members.reordered_read _ [] rfl rfl description .null hd ⟨none, rfl⟩
      (.cons (.array hparts) .nil) .nil⟩

end Union

/-! ## Objects -/

/-- The fields of an object are built in silence, and rendered as they were. -/
theorem exists_fields (root : Json) (inFlight : List String) {required : List String}
    {fields : List (Field (Schema Json))}
    (parts : ∀ field ∈ fields, Reread field.schema)
    (fits : ∀ field ∈ fields, field.schema.FitsField)
    (descriptions : ∀ field ∈ fields, field.description.IsDescription)
    (hrequired : ∀ field ∈ fields, required.contains field.name = !field.isOptional) :
    ∃ built : List (Field (Schema Label)),
      Traced.sequence ((Schema.documentFields id fields).map (buildField root inFlight required)) =
        ⟨built.map some, []⟩ ∧
      ∀ named, List.Forall₂ Schema.FieldDrawn built named →
        ReorderedMembers (Schema.documentFields id named) (Schema.documentFields id fields) ∧
        Schema.requiredNames named = Schema.requiredNames fields := by
  induction fields with
  | nil =>
    refine ⟨[], rfl, fun named h => ?_⟩
    cases h
    exact ⟨.nil, rfl⟩
  | cons field rest ih =>
    obtain ⟨name, description, schema, isOptional⟩ := field
    rw [List.forall_mem_cons] at parts fits descriptions hrequired
    obtain ⟨built, hbuilt, hnamed⟩ := ih parts.2 fits.2 descriptions.2 hrequired.2
    obtain ⟨hsilent, slot, hslot, hoptional, hrendered⟩ := parts.1.slot fits.1 root inFlight
      description (.string name) (required.contains name) descriptions.1
    have hfield : buildField root inFlight required
        (name, .object ((schema.documentMembers id).described description)) =
          ⟨some (slot.named name), []⟩ := by
      rw [buildField, Traced.map, hsilent, hslot]
      rfl
    refine ⟨slot.named name :: built, ?_, fun named h => ?_⟩
    · rw [Traced.sequence, Traced.mk.injEq] at hbuilt
      rw [Schema.documentFields, Traced.sequence, List.map_cons, hfield, List.map_cons,
        List.flatMap_cons, hbuilt.1, hbuilt.2]
      rfl
    · cases h with
      | cons hfirst hothers =>
        obtain ⟨namedSchema, hdrawn, rfl⟩ := hfirst
        obtain ⟨hfields, hnames⟩ := hnamed _ hothers
        refine ⟨.cons (hrendered _ hdrawn) hfields, ?_⟩
        have hsame : slot.isOptional = isOptional := by
          rw [hoptional, hrequired.1, Bool.not_not]
        rw [Schema.requiredNames] at hnames ⊢
        rw [Slot.named, hsame, Schema.requiredNames, List.filter_cons, List.filter_cons]
        split
        · rw [List.map_cons, List.map_cons, hnames, Schema.requiredNames]
        · exact hnames

/-- The names of fields tell which of them are required. -/
theorem contains_requiredNames {fields : List (Field (Schema Json))}
    (distinct : (fields.map Field.name).Nodup) {field : Field (Schema Json)} (hf : field ∈ fields) :
    (Schema.requiredNames fields).contains field.name = !field.isOptional := by
  rw [Bool.eq_iff_iff, List.contains_iff_mem, Schema.requiredNames, List.mem_map]
  constructor
  · rintro ⟨other, ho, hname⟩
    obtain ⟨hother, hrequired⟩ := List.mem_filter.mp ho
    rwa [← List.inj_on_of_nodup_map distinct hother hf hname]
  · exact fun h => ⟨field, List.mem_filter.mpr ⟨hf, h⟩, rfl⟩

section Object

variable {name description : Json} {fields : List (Field (Schema Json))} (named : IsText name)
  (distinct : (fields.map Field.name).Nodup) (parts : ∀ field ∈ fields, Reread field.schema)
  (fits : ∀ field ∈ fields, field.schema.FitsField)
  (descriptions : ∀ field ∈ fields, field.description.IsDescription)
include named distinct parts fits descriptions

theorem exists_buildSchema_of_object (root : Json) (inFlight : List String) (given : Json)
    (label : Label) :
    ∃ built : List (Field (Schema Label)),
      buildSchema root inFlight (.object ((Schema.documentMembers id
          (.object name description fields)).described given)) label .null =
        ⟨.object (.given name) (described ((Schema.documentMembers id
          (.object name description fields)).described given) .null) built, []⟩ ∧
      ∀ named, List.Forall₂ Schema.FieldDrawn built named →
        ReorderedMembers (Schema.documentFields id named) (Schema.documentFields id fields) ∧
        Schema.requiredNames named = Schema.requiredNames fields := by
  have only := (Schema.only_documentObject id name description fields).described given
  have hread := fun {key : String} (hk : key ≠ "description") =>
    Members.lookup_described_of_ne (Schema.documentMembers id (.object name description fields))
      given hk
  generalize (Schema.documentMembers id (.object name description fields)).described given = node
    at only hread ⊢
  have htype : node.lookup "type" = some (.string "object") := hread (by decide)
  have htitle : titled node label = .given name := by
    obtain ⟨text, hne, rfl⟩ := named
    rw [titled, Members.string?, hread (by decide)]
    show (if text = "" then label else .given (.string text)) = _
    rw [if_neg hne]
  have hproperties : node.properties = Schema.documentFields id fields := by
    rw [Members.properties, hread (by decide), Schema.lookup_properties_documentObject]
    rfl
  have hrequired : node.requiredNames = Schema.requiredNames fields := by
    rw [Members.requiredNames, Members.items?, hread (by decide),
      Schema.lookup_required_documentObject]
    simp [Json.items?, List.filterMap_map, Function.comp_def, Json.string?]
  obtain ⟨built, hbuilt, hnamed⟩ := exists_fields root inFlight parts fits descriptions
    (fun field hf => contains_requiredNames distinct hf)
  refine ⟨built, ?_, hnamed⟩
  rw [buildSchema_eq_declared (reference?_of_only only (by decide)) (typeList?_of_string htype),
    buildDeclared, declaredType_of_string htype]
  show buildObject root inFlight node _ _ = _
  rw [buildObject_eq, hproperties, hrequired, hbuilt, htitle]
  simp [Traced.map]

theorem reread_object (hd : description.IsDescription) :
    Reread (.object name description fields) := by
  have only := Schema.only_documentObject id name description fields
  -- What stands behind the description, for the fields that were built.
  have hback : ∀ {built : List (Field (Schema Label))} {namedFields : List (Field (Schema Json))},
      (∀ named, List.Forall₂ Schema.FieldDrawn built named →
        ReorderedMembers (Schema.documentFields id named) (Schema.documentFields id fields) ∧
        Schema.requiredNames named = Schema.requiredNames fields) →
      List.Forall₂ Schema.FieldDrawn built namedFields →
      ReorderedMembers
        [("properties", .object (Schema.documentFields id namedFields)),
          ("required", .array ((Schema.requiredNames namedFields).map .string))]
        [("properties", .object (Schema.documentFields id fields)),
          ("required", .array ((Schema.requiredNames fields).map .string))] := by
    intro built namedFields hnamed hf
    obtain ⟨hfields, hnames⟩ := hnamed _ hf
    rw [hnames]
    exact .cons (.object (.refl _) hfields (.refl _)) (.refl _)
  refine ⟨reference?_of_only only (by decide), fun root inFlight label => ?_,
    fun _ root inFlight given label required hgiven => ?_⟩
  · obtain ⟨built, hbuilt, hnamed⟩ := exists_buildSchema_of_object named distinct parts fits
      descriptions root inFlight .null label
    change buildSchema root inFlight (Schema.document id (.object name description fields)) label
      .null = _ at hbuilt
    rw [hbuilt]
    refine ⟨rfl, fun drawn hn => ?_⟩
    obtain ⟨namedFields, hf, rfl⟩ := hn.object
    exact ⟨rfl, Members.reordered_read [("type", .string "object"), ("title", name)] _ rfl rfl
      description .null hd ⟨none, rfl⟩ (.refl _) (hback hnamed hf)⟩
  · obtain ⟨built, hbuilt, hnamed⟩ := exists_buildSchema_of_object named distinct parts fits
      descriptions root inFlight given .generated
    have honly := only.described given
    have htype : ((Schema.documentMembers id (.object name description fields)).described
        given).lookup "type" = some (.string "object") :=
      Members.lookup_described_of_ne _ given (by decide)
    rw [buildSlot_eq_typed (reference?_of_only honly (by decide)) (typeList?_of_string htype)
      (honly.hasKey (by decide)), buildTypedSlot, declaredType_of_string htype]
    show RestoredSlot _ required ((buildSchema root inFlight _ .generated .null).map _)
    rw [hbuilt]
    refine ⟨rfl, _, rfl, rfl, fun drawn hn => ?_⟩
    obtain ⟨namedFields, hf, rfl⟩ := hn.object
    exact Members.reordered_put [("type", .string "object"), ("title", name)] _ rfl rfl description
      hd hgiven (.refl _) (hback hnamed hf) (.inl rfl)

end Object

/-! ## Every schema -/

/-- What is written as an enumeration is a list of string constants. -/
theorem eq_texts_of_constants? {branches : List (Schema Json)}
    (h : ∀ branch ∈ branches, ∃ text, branch = Schema.stringConstant text) :
    ∃ texts : List String, branches = texts.map Schema.stringConstant := by
  induction branches with
  | nil => exact ⟨[], rfl⟩
  | cons branch rest ih =>
    rw [List.forall_mem_cons] at h
    obtain ⟨text, rfl⟩ := h.1
    obtain ⟨texts, rfl⟩ := ih h.2
    exact ⟨text :: texts, rfl⟩

/-- A rereadable schema with a constant value is a string constant. -/
theorem eq_stringConstant {given : Schema Json} (h : given.Rereadable)
    (hc : given.constant?.isSome) : ∃ text, given = Schema.stringConstant text := by
  cases h with
  | constant text => exact ⟨text, rfl⟩
  | leaf kind => cases kind <;> cases hc
  | _ => cases hc

/-- **A rendered schema is read again as it was**, on its own and as that of a field. -/
theorem reread {given : Schema Json} (h : given.Rereadable) : Reread given := by
  induction h with
  | leaf kind => exact reread_leaf kind
  | constant text =>
    exact reread_texts [text] .null rfl (List.cons_ne_nil _ _) ⟨none, rfl⟩
  | object named described distinct parts fits descriptions ih =>
    exact reread_object named distinct ih fits descriptions described
  | array part bounds ih => exact reread_array ih bounds
  | @union name description branches hd parts ih =>
    by_cases hfits : Schema.FitsField (.union name description branches)
    · obtain ⟨texts, rfl⟩ := eq_texts_of_constants? hfits.2
      have hne : texts ≠ [] := fun h => hfits.1 (by rw [h]; rfl)
      have hdocument : Schema.documentMembers id
          (.union name description (texts.map Schema.stringConstant)) =
            [("type", .string "string"), ("enum", .array (texts.map .string))] ++
              (descriptionMember description ++ []) := by
        rw [List.append_nil]
        exact Schema.documentMembers_texts hne name description
      exact reread_texts texts description hdocument hne hd
    · refine reread_anyOf ih hd hfits ?_
      by_cases hnil : branches = []
      · exact .inl hnil
      · refine .inr (Option.eq_none_iff_forall_ne_some.mpr (fun values hv => hfits ⟨hnil, ?_⟩))
        intro branch hb
        exact eq_stringConstant (parts branch hb) (Schema.isSome_constant? hv branch hb)

/--
**Converting a rendered schema and rendering the result gives the same document**, but for the order
of keys, whichever names are drawn, and nothing is reported.
-/
theorem conversion_document {given : Schema Json} (h : given.Rereadable) (name : Option String) :
    ∃ schema, document (given.document id) (.ofName? name) = .ok (schema, []) ∧
      ∀ supply : Supply, schema.names.count .generated ≤ supply.left →
        ∃ named rest, schema.nameFrom supply = some (named, rest) ∧
          Reordered (named.document id) (given.document id) := by
  have hbuilt := (reread h).schema (given.document id) [] (.ofName? name)
  change Restored _ (buildSchema (given.document id) [] (given.document id) (.ofName? name) .null)
    at hbuilt
  rw [document, node]
  generalize buildSchema _ _ _ _ _ = built at hbuilt ⊢
  obtain ⟨schema, trace⟩ := built
  obtain rfl : trace = [] := hbuilt.silent
  refine ⟨schema, rfl, fun supply hleft => ?_⟩
  obtain ⟨named, rest, hn, _⟩ := Schema.exists_nameFrom schema supply hleft
  exact ⟨named, rest, hn, (hbuilt.rendered named ⟨supply, rest, hn⟩).2⟩

/-- A parcel: how it is sent, and what is in it. -/
def parcel : Schema Json := .object (.string "Parcel") (.string "A parcel") [
  ⟨"speed", .string "How it is sent", .union .null (.string "Speed")
    [.stringConstant "slow", .stringConstant "fast"], true⟩,
  ⟨"sender", .string "Who sends it", .object (.string "Person") .null
    [⟨"name", .null, .leaf .string none, false⟩], false⟩,
  ⟨"content", .null, .array (.union .null .null
    [.leaf .number none, .stringConstant "unknown"]) (some 1) none, false⟩]

theorem rereadable_parcel : parcel.Rereadable := by
  have hnone : Json.IsDescription .null := ⟨none, rfl⟩
  have htext : ∀ text, Json.IsDescription (.string text) := fun text => ⟨some text, rfl⟩
  have hspeed : Schema.Rereadable (.union .null (.string "Speed")
      [.stringConstant "slow", .stringConstant "fast"]) := by
    refine .union (htext _) ?_
    simpa using ⟨.constant "slow", .constant "fast"⟩
  have hsender : Schema.Rereadable (.object (.string "Person") .null
      [⟨"name", .null, .leaf .string none, false⟩]) := by
    refine .object ⟨"Person", by decide, rfl⟩ hnone (by decide) ?_ ?_ ?_
    · simpa using .leaf .string
    · simp [Schema.FitsField]
    · simpa using hnone
  have hcontent : Schema.Rereadable (.array (.union .null .null
      [.leaf .number none, .stringConstant "unknown"]) (some 1) none) := by
    refine .array (.union hnone ?_) ⟨by simp, by simp, by simp⟩
    simpa using ⟨.leaf .number, .constant "unknown"⟩
  refine .object ⟨"Parcel", by decide, rfl⟩ (htext _) (by decide) ?_ ?_ ?_
  · simpa using ⟨hspeed, hsender, hcontent⟩
  · simp [Schema.FitsField]
  · simpa using ⟨htext _, htext _, hnone⟩

theorem conversion_document_parcel : parcel.Rereadable ∧
    ∃ schema, document (parcel.document id) (.ofName? none) = .ok (schema, []) ∧
      ∀ supply : Supply, schema.names.count .generated ≤ supply.left →
        ∃ named rest, schema.nameFrom supply = some (named, rest) ∧
          Reordered (named.document id) (parcel.document id) :=
  ⟨rereadable_parcel, conversion_document rereadable_parcel none⟩

end Convert

end ToolSchema
