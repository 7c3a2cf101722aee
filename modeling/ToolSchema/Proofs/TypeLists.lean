import ToolSchema.Proofs.Chains
import ToolSchema.Proofs.SlotSchema

/-!
# Type lists

A node may list several types. The list is read at the end of the references of the node. Putting
one type in the place of the list, at the node itself, comes to the same as putting it there: what
is put over a reference comes out on top of what the reference leads to, however long the chain is
and wherever it ends (`Json.dereference_withMember`).

So a node with a type list is the same schema as with its only type, or a union of the schemas with
its types, and it is the same slot as with the first of them (`Convert.type_list_members`).
-/

namespace ToolSchema

namespace Members

theorem overlay_put (low top : Members) (key : String) (value : Json) :
    low.overlay (top.put key value) = (low.overlay top).put key value := by
  unfold put
  rw [overlay_assoc]

theorem erase_put {members : Members} {key other : String} (h : other ≠ key) (value : Json) :
    (members.put key value).erase other = (members.erase other).put key value := by
  unfold put
  apply erase_overlay
  simp [List.lookup_cons, beq_eq_false_iff_ne.mpr h]

theorem string?_withType_of_ne {members : Members} {key : String} (h : key ≠ "type")
    (type : String) : (members.withType type).string? key = members.string? key := by
  unfold string? withType
  rw [lookup_put_of_ne h]

theorem requiredNames_withType (members : Members) (type : String) :
    (members.withType type).requiredNames = members.requiredNames := by
  unfold requiredNames items? withType
  rw [lookup_put_of_ne (by decide)]

end Members

namespace Json

/-! ## Members put over a reference -/

/-- The value with something under a key, if it is an object. -/
def withMember (value : Json) (key : String) (member : Json) : Json :=
  match value with
  | .object members => .object (Members.put members key member)
  | _ => value

variable {root : Json} {inFlight : List String} {key : String}

theorem overlaid_put (h : referenceKey ≠ key) (target : Json) (reference : Members)
    (member : Json) :
    overlaid target (reference.put key member) =
      (overlaid target reference).withMember key member := by
  cases target with
  | object members =>
    simp only [overlaid, withMember]
    rw [Members.erase_put h, Members.overlay_put]
  | _ => rfl

theorem target_put (h : referenceKey ≠ key) (members : Members) (member : Json)
    (pointer : String) :
    target root inFlight (members.put key member) pointer =
      (target root inFlight members pointer).map (fun found => found.withMember key member) := by
  unfold target
  split
  · rfl
  · split
    · rfl
    · cases root.lookup pointer with
      | none => rfl
      | some found => exact congrArg Except.ok (overlaid_put h found members member)

/--
What is put over a node before its references are followed comes out on top of where they lead. The
same pointers are followed, and the chain ends for the same reason.
-/
theorem dereference_withMember (h : referenceKey ≠ key) (value member : Json) :
    dereference root inFlight (value.withMember key member) =
      { dereference root inFlight value with
        node := (dereference root inFlight value).node.withMember key member } := by
  have hreference : ∀ members : Members,
      (members.put key member).reference? = members.reference? := by
    intro members
    unfold Members.reference?
    rw [Members.lookup_put_of_ne h]
  fun_induction dereference root inFlight value with
  | case1 inFlight members hr =>
    exact dereference_of_reference?_none ((hreference members).trans hr)
  | case2 inFlight members pointer hr notice ht =>
    have htarget : target root inFlight (Members.put members key member) pointer =
        .error notice := by
      rw [target_put h, ht]
      rfl
    exact dereference_of_error ((hreference members).trans hr) htarget
  | case3 inFlight members pointer hr found ht chain ih =>
    have htarget : target root inFlight (Members.put members key member) pointer =
        .ok (found.withMember key member) := by
      rw [target_put h, ht]
      rfl
    show dereference root inFlight (.object (Members.put members key member)) = _
    rw [dereference_of_ok ((hreference members).trans hr) htarget, ih]
  | case4 inFlight value hobject =>
    have hsame : value.withMember key member = value := by
      cases value with
      | object members => exact absurd rfl (hobject members)
      | _ => rfl
    rw [hsame, dereference_of_not_reference (reference?_of_not_object hobject)]

/-- What stands next to a `$ref` is found again where the reference leads, if this is an object. -/
theorem lookup_dereference (h : key ≠ referenceKey) {value member : Json} {found : Members}
    (hm : value.members.lookup key = some member)
    (hn : (dereference root inFlight value).node = .object found) :
    found.lookup key = some member := by
  fun_induction dereference root inFlight value with
  | case1 inFlight members hr =>
    cases hn
    exact hm
  | case2 inFlight members pointer hr notice ht =>
    cases hn
    exact hm
  | case3 inFlight members pointer hr next ht chain ih =>
    obtain ⟨-, -, below, -, rfl⟩ := target_eq_ok.mp ht
    refine ih ?_ hn
    cases below with
    | object low =>
      show (Members.overlay low (Members.erase members referenceKey)).lookup key = some member
      rw [Members.lookup_overlay, Members.lookup_erase, if_neg h,
        show members.lookup key = some member from hm]
      rfl
    | _ =>
      -- A chain does not come back from a value that is no object.
      simp [chain, overlaid, dereference] at hn
  | case4 inFlight value hobject => exact absurd hn (hobject found)

end Json

namespace Convert

open Json

variable {root : Json} {inFlight : List String}

/-! ## Nodes with one of their types -/

theorem titled_withType (members : Members) (type : String) (name : Label) :
    titled (members.withType type) name = titled members name := by
  unfold titled
  rw [Members.string?_withType_of_ne (by decide)]

theorem described_withType (members : Members) (type : String) (description : Json) :
    described (members.withType type) description = described members description := by
  unfold described
  rw [Members.string?_withType_of_ne (by decide)]

theorem buildObject_withType (members : Members) (type : String) (name : Label)
    (description : Json) :
    buildObject root inFlight (members.withType type) name description =
      buildObject root inFlight members name description := by
  rw [buildObject_eq, buildObject_eq, Members.properties_withType, Members.requiredNames_withType]

/-- A node with a single type is built by this type. -/
theorem buildNode_withType (members : Members) (type : String) (name : Label)
    (description : Json) :
    buildNode root inFlight (members.withType type) name description =
      buildDeclared root inFlight (members.withType type) name description := by
  rw [buildNode_eq, Members.typeList?_withType]

section TypeList

variable {members found : Members}
  (hn : (dereference root inFlight (.object members)).node = .object found)
include hn

theorem dereference_withType (type : String) :
    dereference root inFlight (.object (members.withType type)) =
      { dereference root inFlight (.object members) with
        node := .object (found.withType type) } := by
  have hkey : referenceKey ≠ "type" := by decide
  calc dereference root inFlight ((Json.object members).withMember "type" (.string type))
      = { dereference root inFlight (.object members) with
          node := (dereference root inFlight (.object members)).node.withMember "type"
            (.string type) } := dereference_withMember hkey (.object members) (.string type)
    _ = { dereference root inFlight (.object members) with
          node := .object (found.withType type) } := by
      rw [hn]
      rfl

/-- A single type put over a node is the single type of what the node leads to. -/
theorem buildSchema_withType (type : String) (name : Label) (description : Json) :
    buildSchema root inFlight (.object (members.withType type)) name description =
      (buildDeclared root ((dereference root inFlight (.object members)).followed ++ inFlight)
        (found.withType type) (titled found name) (described found description)).after
          (dereference root inFlight (.object members)).notice := by
  rw [buildSchema_eq, dereference_withType hn]
  show (buildNode root _ (found.withType type) (titled (found.withType type) name)
    (described (found.withType type) description)).after _ = _
  rw [titled_withType, described_withType, buildNode_withType]

theorem buildSlot_withType (type : String) (name : Json) (required : Bool) (description : Json) :
    buildSlot root inFlight (.object (members.withType type)) name required description =
      (buildTypedSlot root ((dereference root inFlight (.object members)).followed ++ inFlight)
        (found.withType type) name required (described found description)).after
          (dereference root inFlight (.object members)).notice := by
  have hsingle : (found.withType type).isUntypedUnion = false := by
    have hkey : (found.withType type).hasKey "type" = true :=
      hasKey_of_lookup (Members.lookup_put_self found "type" (.string type))
    simp [Members.isUntypedUnion, hkey]
  rw [buildSlot_eq, dereference_withType hn]
  show (buildReducedSlot root _ (found.withType type) name required
    (described (found.withType type) description)).after _ = _
  rw [described_withType, buildReducedSlot_eq, Members.typeList?_withType, hsingle]
  rfl

/--
A schema built below a node, from what the node leads to with one of its types, is the schema of the
node with this type. It is followed no further there, and only its notice comes again.
-/
theorem alike_withType (type : String) {name other : Label} {description : Json}
    (hname : titled found other = titled found name) :
    Traced.Alike
      (buildSchema root ((dereference root inFlight (.object members)).followed ++ inFlight)
        (.object (found.withType type)) other (described found description))
      (buildSchema root inFlight (.object (members.withType type)) name description) := by
  have hend : AtEnd root ((dereference root inFlight (.object members)).followed ++ inFlight)
      (found.withType type) :=
    (atEnd_dereference hn).congr (Members.reference?_withType found type)
  rw [hend.buildSchema, buildSchema_withType hn, titled_withType, described_withType,
    described_described, hname, buildNode_withType]
  exact (Traced.alike_after _ _).trans (Traced.alike_after _ _).symm

variable {types : List String} (ht : members.typeList? = some types)
include ht

/-- The type list of a node is still there at the end of its references. -/
theorem typeList?_dereference : found.typeList? = some types := by
  obtain ⟨items, hl, rfl⟩ := typeList?_lookup ht
  have hfound := lookup_dereference (by decide) hl hn
  rw [Members.typeList?, Members.items?, hfound]
  rfl

theorem buildSchema_of_typeList (name : Label) (description : Json) :
    buildSchema root inFlight (.object members) name description =
      (match Members.concreteTypes types with
        | [] =>
          buildObject root ((dereference root inFlight (.object members)).followed ++ inFlight)
            found (titled found name) (described found description)
        | [type] =>
          buildSchema root ((dereference root inFlight (.object members)).followed ++ inFlight)
            (.object (found.withType type)) (titled found name) (described found description)
        | first :: second :: others =>
          (Traced.sequence ((first :: second :: others).map (fun type =>
            buildSchema root ((dereference root inFlight (.object members)).followed ++ inFlight)
              (.object (found.withType type)) .generated (described found description)))).map
                (.union (titled found name) (described found description))).after
          (dereference root inFlight (.object members)).notice := by
  have hnode := buildNode_eq root
    ((dereference root inFlight (.object members)).followed ++ inFlight) found (titled found name)
    (described found description)
  rw [typeList?_dereference hn ht] at hnode
  rw [buildSchema_eq, hn]
  exact congrArg (Traced.after (dereference root inFlight (.object members)).notice) hnode

/-- A list without types other than null says that a node is an object. -/
theorem buildSchema_of_no_types (hc : Members.concreteTypes types = []) (name : Label)
    (description : Json) :
    buildSchema root inFlight (.object members) name description =
      buildSchema root inFlight (.object (members.withType "object")) name description := by
  have hdeclared : (found.withType "object").declaredType = some .object :=
    declaredType_of_string (Members.lookup_put_self found "type" _)
  rw [buildSchema_of_typeList hn ht, hc, buildSchema_withType hn, buildDeclared, hdeclared]
  simp only [buildObject_withType]

theorem alike_of_one_type {type : String} (hc : Members.concreteTypes types = [type])
    (name : Label) (description : Json) :
    Traced.Alike (buildSchema root inFlight (.object members) name description)
      (buildSchema root inFlight (.object (members.withType type)) name description) := by
  rw [buildSchema_of_typeList hn ht, hc]
  exact (Traced.alike_after _ _).trans (alike_withType hn type (titled_titled found name))

theorem alike_of_types (hc : 1 < (Members.concreteTypes types).length) (name : Label)
    (description : Json) :
    Traced.Alike (buildSchema root inFlight (.object members) name description)
      ((Traced.sequence ((Members.concreteTypes types).map (fun type =>
        buildSchema root inFlight (.object (members.withType type)) .generated description))).map
          (.union (titled found name) (described found description))) := by
  rw [buildSchema_of_typeList hn ht]
  match h : Members.concreteTypes types with
  | [] => simp [h] at hc
  | [type] => simp [h] at hc
  | first :: second :: others =>
    refine (Traced.alike_after _ _).trans (Traced.Alike.map ?_ _)
    apply Traced.alike_sequence_map
    intro type _
    exact alike_withType hn type rfl

/-- A slot takes the first type of a list, and null in the list makes it optional. -/
theorem alike_slot_of_types (name : Json) (required : Bool) (description : Json) :
    Traced.Alike (buildSlot root inFlight (.object members) name required description)
      (match Members.concreteTypes types with
        | [] => ⟨none, []⟩
        | first :: _ => buildSlot root inFlight (.object (members.withType first)) name
          (required && !types.contains "null") description) := by
  rw [buildSlot_eq, hn]
  show Traced.Alike (Traced.after _ (buildReducedSlot root _ found name required
    (described found description))) _
  rw [buildReducedSlot_eq, typeList?_dereference hn ht]
  dsimp only
  cases Members.concreteTypes types with
  | nil => exact Traced.alike_after _ _
  | cons first others =>
    dsimp only
    rw [buildSlot_withType hn]
    exact .refl _

end TypeList

/--
**A type list means its members.** Let a node list types of its own, and let its references, if it
is one, lead to an object. Types other than null count, in their order. As a schema, a node without
any is an object, a node with one is what it is with this type alone, and a node with more is the
union of what it is with each of them, where the union takes the name and each branch the
description. As a field, a node without any gives none, and otherwise it is what it is with the
first type, optional if null is in the list. What cannot be converted with one of the types that
count cannot be converted with the list either.
-/
theorem type_list_members {root : Json} {members found : Members} {types : List String}
    (ht : members.typeList? = some types)
    (hn : (dereference root [] (.object members)).node = .object found) :
    (Members.concreteTypes types = [] → ∀ name description,
      node root (.object members) name description =
        node root (.object (members.withType "object")) name description) ∧
    (∀ type, Members.concreteTypes types = [type] → ∀ name description,
      (node root (.object members) name description).map Prod.fst =
        (node root (.object (members.withType type)) name description).map Prod.fst) ∧
    (1 < (Members.concreteTypes types).length → ∀ name description,
      (node root (.object members) name description).map Prod.fst =
        ((Members.concreteTypes types).mapM (fun type =>
          (node root (.object (members.withType type)) .generated description).map Prod.fst)).map
            (.union (titled found name) (described found description))) ∧
    ∀ name required description,
      (slot root (.object members) name required description).map Prod.fst =
        match Members.concreteTypes types with
        | [] => .ok none
        | first :: _ => (slot root (.object (members.withType first)) name
          (required && !types.contains "null") description).map Prod.fst := by
  refine ⟨?_, ?_, ?_, ?_⟩
  · intro hc name description
    exact congrArg Traced.conclude (buildSchema_of_no_types hn ht hc name description)
  · intro type hc name description
    exact (alike_of_one_type hn ht hc name description).conclude
  · intro hc name description
    have hunion := (alike_of_types hn ht hc name description).conclude
    rw [node, hunion]
    simp only [node]
    rw [← Traced.map_fst_conclude_sequence_map, Traced.conclude_map]
    cases (Traced.sequence _).conclude <;> rfl
  · intro name required description
    rw [slot, (alike_slot_of_types hn ht name required description).conclude]
    cases Members.concreteTypes types with
    | nil => rfl
    | cons first others => rfl

/-- A badge has a code, which is a text or a number, or nothing. -/
def badgeCode : Members := [("$ref", .string "#/$defs/code"),
  ("type", .array [.null, .string "string", .string "null", .string "integer"])]

/-- A code is some text with a title. -/
def badges : Json := .object [("$defs", .object [
  ("code", .object [("$ref", .string "#/$defs/text"), ("title", .string "Code")]),
  ("text", .object [("type", .string "string"), ("description", .string "Any text")])])]

/-- What the code of a badge refers to, with the types of the code itself. -/
def badgeCodeMembers : Members := [
  ("type", .array [.null, .string "string", .string "null", .string "integer"]),
  ("description", .string "Any text"), ("title", .string "Code")]

theorem dereference_badgeCode :
    (dereference badges [] (.object badgeCode)).node = .object badgeCodeMembers := by
  have hcode : target badges [] badgeCode "#/$defs/code" = .ok (.object [
      ("$ref", .string "#/$defs/text"), ("title", .string "Code"),
      ("type", .array [.null, .string "string", .string "null", .string "integer"])]) := by
    decide +kernel
  have htext : target badges ["#/$defs/code"] [("$ref", .string "#/$defs/text"),
      ("title", .string "Code"),
      ("type", .array [.null, .string "string", .string "null", .string "integer"])]
      "#/$defs/text" = .ok (.object badgeCodeMembers) := by
    decide +kernel
  rw [dereference_of_ok rfl hcode, dereference_of_ok rfl htext,
    dereference_of_reference?_none rfl]

theorem type_list_members_badge :
    (badgeCode.typeList? = some ["string", "null", "integer"] ∧
      (dereference badges [] (.object badgeCode)).node = .object badgeCodeMembers ∧
      1 < (Members.concreteTypes ["string", "null", "integer"]).length) ∧
    (node badges (.object badgeCode) .generated .null).map Prod.fst =
      (["string", "integer"].mapM (fun type =>
        (node badges (.object (badgeCode.withType type)) .generated .null).map Prod.fst)).map
          (.union (.given (.string "Code")) (.string "Any text")) ∧
    (slot badges (.object badgeCode) (.string "code") true .null).map Prod.fst =
      (slot badges (.object (badgeCode.withType "string")) (.string "code") false .null).map
        Prod.fst := by
  have htypes : badgeCode.typeList? = some ["string", "null", "integer"] := rfl
  have hmany : 1 < (Members.concreteTypes ["string", "null", "integer"]).length := by decide
  obtain ⟨-, -, hunion, hslot⟩ := type_list_members htypes dereference_badgeCode
  exact ⟨⟨htypes, dereference_badgeCode, hmany⟩, hunion hmany .generated .null,
    hslot (.string "code") true .null⟩

end Convert

end ToolSchema
