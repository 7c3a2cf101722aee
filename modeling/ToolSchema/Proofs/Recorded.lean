import ToolSchema.Proofs.Building
import ToolSchema.Proofs.Enumerating

/-!
# What is recorded while a schema is built

All that building records comes from one of three places: a chain of references that ends at a
reference, the bounds of an array, and the values under `enum` and `const`. `Convert.Carries` says
of an invariant of nodes, and of a property of records, that the invariant goes down with the
builders and gives the property at these places. Then the property holds of all that is recorded
(`Convert.Carries.recorded`).
-/

namespace ToolSchema

namespace Convert

open Json

/-- Building hands `I` on, and where `I` holds, `p` holds of what is recorded. -/
structure Carries (root : Json) (I : List String → Json → Prop) (p : Mark → Prop) : Prop where
  node : ∀ {inFlight value}, I inFlight value →
    I ((dereference root inFlight value).followed ++ inFlight)
      (dereference root inFlight value).node
  item : ∀ {inFlight items item}, I inFlight (.array items) → item ∈ items → I inFlight item
  member : ∀ {inFlight} {members : Members} {member}, I inFlight (.object members) →
    member ∈ members → I inFlight member.2
  withType : ∀ {inFlight} {members : Members}, I inFlight (.object members) →
    ∀ type, I inFlight (.object (members.withType type))
  erase : ∀ {inFlight} {members : Members}, I inFlight (.object members) →
    I inFlight (.object (members.erase "anyOf"))
  ofMembers : ∀ {inFlight value}, I inFlight value → I inFlight (.object value.members)
  notice : ∀ {inFlight value notice}, I inFlight value →
    (dereference root inFlight value).notice = some notice → p (.notice notice)
  bounds : ∀ least greatest, p (.notice (.invertedBounds least greatest))
  constant : ∀ {inFlight value mark}, I inFlight value → unsupportedMark? value = some mark → p mark

namespace Carries

variable {root : Json} {I : List String → Json → Prop} {p : Mark → Prop}
  (carries : Carries root I p) {inFlight : List String} {members : Members}
include carries

/-! ## Parts of a node -/

theorem under (h : I inFlight (.object members)) {key : String} {value : Json}
    (hv : members.lookup key = some value) : I inFlight value :=
  carries.member h (mem_of_lookup hv)

theorem branch (h : I inFlight (.object members)) {branch : Json} (hb : branch ∈ members.branches) :
    I inFlight branch := by
  obtain ⟨items, hi, hb⟩ := mem_branches hb
  exact carries.item (carries.under h (items?_eq_some hi)) hb

theorem property (h : I inFlight (.object members)) {property : String × Json}
    (hp : property ∈ members.properties) : I inFlight property.2 := by
  obtain ⟨properties, hv, hp⟩ := mem_properties hp
  exact carries.member (carries.under h hv) hp

/-! ## Constants and bounds -/

theorem each_enumeration {values : Json} (h : I inFlight values) (name : Label)
    (description : Json) : (enumeration values name description).Each p := by
  intro mark hm
  rw [enumeration_eq] at hm
  obtain ⟨item, hi, hmark⟩ := List.mem_filterMap.mp hm
  cases values with
  | array items => exact carries.constant (carries.item h hi) hmark
  | _ => exact (List.not_mem_nil hi).elim

theorem each_constant {value : Json} (h : I inFlight value) : (Convert.constant value).Each p := by
  intro mark hm
  exact carries.constant h (Option.mem_toList.mp hm)

theorem each_narrowing (h : I inFlight (.object members)) (name : Label) (description : Json) :
    (narrowing members name description).Each p := by
  rw [narrowing]
  split
  · next values he => exact (carries.each_enumeration (carries.under h he) name description).map _
  · split
    · next value hc => exact (carries.each_constant (carries.under h hc)).map _
    · exact Traced.each_nil _

theorem each_arrayBounds (members : Members) : (arrayBounds members).Each p := by
  unfold arrayBounds
  split
  · next least greatest _ _ =>
    split
    · intro mark hm
      rw [List.mem_singleton.mp hm]
      exact carries.bounds least greatest
    · exact Traced.each_nil _
  · exact Traced.each_nil _

/-! ## The builders -/

section Parts

variable (h : I inFlight (.object members))
  (parts : PartsHold root
    (fun inFlight node name description =>
      I inFlight node → (buildSchema root inFlight node name description).Each p)
    (fun inFlight node name required description =>
      I inFlight node → (buildSlot root inFlight node name required description).Each p)
    inFlight members)
include h parts

theorem each_branch {branch : Json} (hb : branch ∈ members.branches) :
    (buildBranch root inFlight branch).Each p := by
  have hbranch := carries.branch h hb
  have hend := carries.node hbranch
  rw [buildBranch]
  split
  · next found hn =>
    rw [hn] at hend
    have hfound := parts.branch branch hb found hn .generated .null hend
    exact (hfound.map some).after (fun notice => carries.notice hbranch)
  · exact (Traced.each_nil _).after (fun notice => carries.notice hbranch)

theorem each_union (name : Label) (description : Json) :
    (buildUnion root inFlight members name description).Each p := by
  rw [buildUnion_eq]
  have hbranches := Traced.each_sequence_map (fun branch hb => carries.each_branch h parts hb)
  exact hbranches.map _

theorem each_array : (buildArray root inFlight members).Each p := by
  have hitems : (buildItems root inFlight members).Each p := by
    rw [buildItems]
    split
    · next items hi => exact parts.items items hi .generated .null (carries.under h hi)
    · exact Traced.each_nil _
  rw [buildArray_eq]
  exact .append hitems (carries.each_arrayBounds members) _

theorem each_object (name : Label) (description : Json) :
    (buildObject root inFlight members name description).Each p := by
  have hfield : ∀ property ∈ members.properties,
      (buildField root inFlight members.requiredNames property).Each p := by
    intro property hp
    have hslot := parts.property property hp (.string property.1)
      (members.requiredNames.contains property.1) .null (carries.property h hp)
    exact hslot.map _
  rw [buildObject_eq]
  exact (Traced.each_sequence_map hfield).map _

theorem each_declared (name : Label) (description : Json) :
    (buildDeclared root inFlight members name description).Each p := by
  have hnarrowing := carries.each_narrowing h name description
  have hobject := carries.each_object h parts name description
  rw [buildDeclared]
  split
  · exact Traced.each_nil _
  · exact carries.each_array h parts
  · exact hnarrowing.map _
  · exact hnarrowing.map _
  · exact hnarrowing.map _
  · exact carries.each_union h parts name description
  · exact hobject
  all_goals
    split
    · next narrowed trace hn =>
      rw [hn] at hnarrowing
      exact hnarrowing
    · next trace hn =>
      rw [hn] at hnarrowing
      exact .append hnarrowing hobject _

theorem each_typedSlot
    (hschema : (buildSchema root inFlight (.object members) .generated .null).Each p) (name : Json)
    (required : Bool) (description : Json) :
    (buildTypedSlot root inFlight members name required description).Each p := by
  have hnarrowing := carries.each_narrowing h (.given name) description
  rw [buildTypedSlot]
  split
  · exact Traced.each_nil _
  · exact Traced.each_nil _
  · exact hschema.map _
  · exact (carries.each_array h parts).map _
  · exact hnarrowing.map _
  · exact hnarrowing.map _
  · exact hnarrowing.map _
  · exact (carries.each_union h parts (.given name) description).map _
  · split
    · next values he =>
      exact (carries.each_enumeration (carries.under h he) (.given name) description).map _
    · next value hc => exact (carries.each_constant (carries.under h hc)).map _
    · exact hschema.map _

end Parts

/-- What is recorded for the schema of a node, from what its parts record. -/
theorem each_schema_of_calls {node : Json} {name : Label} {description : Json}
    (calls : SchemaCalls root
      (fun inFlight node name description =>
        I inFlight node → (buildSchema root inFlight node name description).Each p)
      (fun inFlight node name required description =>
        I inFlight node → (buildSlot root inFlight node name required description).Each p)
      ((dereference root inFlight node).followed ++ inFlight)
      (dereference root inFlight node).node.members)
    (hnode : I inFlight node) : (buildSchema root inFlight node name description).Each p := by
  have h := carries.ofMembers (carries.node hnode)
  rw [buildSchema_eq]
  refine Traced.Each.after ?_ (fun notice => carries.notice hnode)
  rw [buildNode_eq]
  split
  · next types ht =>
    split
    · exact carries.each_object h calls.parts _ _
    · next type hc =>
      exact calls.typed types ht type (by rw [hc]; exact List.mem_cons_self) _ _
        (carries.withType h type)
    · next first second others hc =>
      have hbranches := Traced.each_sequence_map (fun type hm =>
        calls.typed types ht type (by rw [hc]; exact hm) .generated
          (described (dereference root inFlight node).node.members description)
          (carries.withType h type))
      exact hbranches.map _
  · exact carries.each_declared h calls.parts _ _

theorem mem_branchNotices (h : I inFlight (.object members)) :
    ∀ mark ∈ branchNotices root inFlight members.branches, p mark := by
  intro mark hm
  obtain ⟨branch, hb, hmark⟩ := List.mem_filterMap.mp hm
  obtain ⟨notice, hn, rfl⟩ := Option.map_eq_some_iff.mp hmark
  exact carries.notice (carries.branch h hb) hn

/-- What is recorded for the slot of a node, from what its parts record. -/
theorem each_slot_of_calls {node name : Json} {required : Bool} {description : Json}
    (calls : ∀ members, (dereference root inFlight node).node = .object members →
      SlotCalls root
        (fun inFlight node name description =>
          I inFlight node → (buildSchema root inFlight node name description).Each p)
        (fun inFlight node name required description =>
          I inFlight node → (buildSlot root inFlight node name required description).Each p)
        ((dereference root inFlight node).followed ++ inFlight) members)
    (hnode : I inFlight node) :
    (buildSlot root inFlight node name required description).Each p := by
  have hnotice : ∀ notice, (dereference root inFlight node).notice = some notice →
      p (.notice notice) := fun notice => carries.notice hnode
  have hend := carries.node hnode
  rw [buildSlot_eq]
  split
  · next members hn =>
    rw [hn] at hend
    have hcalls := calls members hn
    have htyped : ∀ {reduced required description}, Reduced members reduced →
        I ((dereference root inFlight node).followed ++ inFlight) (.object reduced) →
        (buildTypedSlot root ((dereference root inFlight node).followed ++ inFlight) reduced name
          required description).Each p :=
      fun hr hI => carries.each_typedSlot hI (hcalls.parts _ hr) (hcalls.schema _ hr _ _ hI) _ _ _
    refine Traced.Each.after ?_ hnotice
    rw [buildReducedSlot_eq]
    split
    · next types ht =>
      split
      · exact Traced.each_nil _
      · next type others hc =>
        exact htyped (.typed ht (by rw [hc]; exact List.mem_cons_self)) (carries.withType hend type)
    · split
      · next hu =>
        have hcollapsed : (buildCollapsedSlot root
            ((dereference root inFlight node).followed ++ inFlight) members name required
            (described members description)).Each p := by
          rw [buildCollapsedSlot]
          split
          · next branch hb =>
            have hbranch := List.mem_of_find?_eq_some hb
            exact hcalls.chosen branch hbranch _ _ _ (carries.branch hend hbranch)
          · split
            · exact Traced.each_nil _
            · exact hcalls.rest hu _ _ _ (carries.erase hend)
        exact .append (carries.mem_branchNotices hend) hcollapsed _
      · exact htyped .same hend
  · exact (Traced.each_nil _).after hnotice

/-- **Where the invariant holds, the property holds of all that building records.** -/
theorem recorded :
    (∀ inFlight node name description, I inFlight node →
      (buildSchema root inFlight node name description).Each p) ∧
    ∀ inFlight node name required description, I inFlight node →
      (buildSlot root inFlight node name required description).Each p :=
  build_induction (fun _ _ _ _ calls => carries.each_schema_of_calls calls)
    (fun _ _ _ _ _ calls => carries.each_slot_of_calls calls)

end Carries

end Convert

end ToolSchema
