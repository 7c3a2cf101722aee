import ToolSchema.Proofs.Resolving

/-!
# Resolving twice

What a resolution leaves in place are the references that it cannot follow, with all that stands
next to them and below. A reference that was left because its pointer was in flight can be followed
later on. Where there was none of this kind, every other reference leads nowhere from any place of
the document, so that a second resolution changes nothing.

A value that is put under a `$ref` could turn an object into a reference. This takes a reference
directly under the `$ref`, since only a reference is replaced by a value of another kind.

* `Json.outermost` — the references of a value that stand below no other reference
* `Json.reference?_mapValues_resolved` — resolution makes no reference out of another object
* `Json.leadsNowhere_of_outermost` — what is left without a circle leads nowhere
* `Json.resolve_idempotent` — the second resolution changes nothing
-/

namespace ToolSchema

namespace Json

variable {root : Json} {inFlight : List String}

/-! ## Outermost references -/

mutual

/-- The pointers of the references in a value that stand below no other reference. -/
def outermost : Json → List String
  | .array items => outermostOfItems items
  | .object members =>
    match Members.reference? members with
    | some pointer => [pointer]
    | none => outermostOfMembers members
  | _ => []

def outermostOfItems : List Json → List String
  | [] => []
  | item :: rest => item.outermost ++ outermostOfItems rest

def outermostOfMembers : List (String × Json) → List String
  | [] => []
  | (_, value) :: rest => value.outermost ++ outermostOfMembers rest

end

theorem mem_outermost_array {pointer : String} {items : List Json} :
    pointer ∈ (Json.array items).outermost ↔ ∃ item ∈ items, pointer ∈ item.outermost := by
  rw [outermost]
  induction items with
  | nil => simp [outermostOfItems]
  | cons item rest ih => simp [outermostOfItems, ih]

theorem mem_outermost_object {pointer : String} {members : Members}
    (h : members.reference? = none) :
    pointer ∈ (Json.object members).outermost ↔
      ∃ member ∈ members, pointer ∈ member.2.outermost := by
  have hmembers : ∀ below : Members, pointer ∈ outermostOfMembers below ↔
      ∃ member ∈ below, pointer ∈ member.2.outermost := by
    intro below
    induction below with
    | nil => simp [outermostOfMembers]
    | cons member rest ih =>
      obtain ⟨key, value⟩ := member
      simp [outermostOfMembers, ih]
  rw [outermost, h]
  exact hmembers members

theorem outermost_reference {pointer : String} {members : Members}
    (h : members.reference? = some pointer) : (Json.object members).outermost = [pointer] := by
  rw [outermost, h]

theorem outermost_of_leaf {value : Json} (hobject : ∀ members, value ≠ .object members)
    (harray : ∀ items, value ≠ .array items) : value.outermost = [] := by
  cases value with
  | object members => exact absurd rfl (hobject members)
  | array items => exact absurd rfl (harray items)
  | _ => rfl

/-! ## References that lead nowhere -/

/-- No reference with this pointer can be followed: it is not local, or it names nothing. -/
def LeadsNowhere (root : Json) (pointer : String) : Prop :=
  Pointer.isLocal pointer = false ∨ root.lookup pointer = none

/-- A reference that is left for another reason than a circle leads nowhere. -/
theorem leadsNowhere_of_error {members : Members} {pointer : String} {notice : Notice}
    (ht : target root inFlight members pointer = .error notice)
    (hn : ∀ other, notice ≠ .circular other) : LeadsNowhere root pointer := by
  unfold target at ht
  split at ht
  · cases ht
    exact absurd rfl (hn pointer)
  · split at ht
    · next hlocal => exact .inl (by simpa using hlocal)
    · split at ht
      · next hlookup => exact .inr hlookup
      · cases ht

/-- A reference that leads nowhere is not followed, whatever is in flight. -/
theorem LeadsNowhere.target {pointer : String} (h : LeadsNowhere root pointer)
    (inFlight : List String) (members : Members) :
    ∃ notice, Json.target root inFlight members pointer = .error notice := by
  cases ht : Json.target root inFlight members pointer with
  | error notice => exact ⟨notice, rfl⟩
  | ok found =>
    obtain ⟨-, hlocal, below, hlookup, -⟩ := target_eq_ok.mp ht
    rcases h with h | h
    · rw [h] at hlocal
      cases hlocal
    · rw [h] at hlookup
      cases hlookup

/-- Where all outermost references lead nowhere, there is nothing to resolve. -/
theorem resolved_of_outermost {value : Json}
    (h : ∀ pointer ∈ value.outermost, LeadsNowhere root pointer) :
    resolved root inFlight value = value := by
  induction inFlight, value using resolve_induction root with
  | object inFlight members hr ih =>
    have hmember : ∀ member ∈ members, resolved root inFlight member.2 = id member.2 := by
      intro member hm
      refine ih member hm (fun pointer hp => h pointer ?_)
      exact (mem_outermost_object hr).mpr ⟨member, hm, hp⟩
    rw [resolved_object hr, Members.mapValues_congr hmember]
    exact congrArg Json.object (List.map_id members)
  | error inFlight members pointer notice hr ht => exact resolved_of_error hr ht
  | ok inFlight members pointer found hr ht ih =>
    have hpointer : pointer ∈ (Json.object members).outermost := by
      rw [outermost_reference hr]
      exact List.mem_singleton_self pointer
    obtain ⟨notice, hnotice⟩ := (h pointer hpointer).target inFlight members
    rw [hnotice] at ht
    cases ht
  | array inFlight items ih =>
    have hitem : ∀ item ∈ items, resolved root inFlight item = id item := by
      intro item hi
      refine ih item hi (fun pointer hp => h pointer ?_)
      exact mem_outermost_array.mpr ⟨item, hi, hp⟩
    rw [resolved_array, List.map_congr_left hitem, List.map_id]
  | leaf inFlight value hobject harray => exact resolved_of_leaf hobject harray

/-! ## References under a `$ref` -/

/-- What stands under the `$ref` of a node is no reference. -/
def IsPlainlyKeyed (node : Json) : Prop :=
  ∀ value ∈ node.members.lookup referenceKey, value.reference? = none

instance : DecidablePred IsPlainlyKeyed := fun node =>
  inferInstanceAs (Decidable (∀ value ∈ node.members.lookup referenceKey, value.reference? = none))

theorem stable_isPlainlyKeyed : Stable IsPlainlyKeyed where
  int _ := nofun
  string _ := nofun
  empty := nofun
  typed type := by
    intro value hv
    have hlookup : (Json.object [("type", .string type)]).members.lookup referenceKey = none := rfl
    rw [hlookup] at hv
    cases hv
  overlay low top hl ht := by
    intro value hv
    have hv : (low.overlay top).lookup referenceKey = some value := hv
    rw [Members.lookup_overlay, Option.or_eq_some_iff] at hv
    rcases hv with hv | ⟨-, hv⟩
    · exact ht value hv
    · exact hl value hv
  erase members key h := by
    intro value hv
    have hv : (members.erase key).lookup referenceKey = some value := hv
    rw [Members.lookup_erase] at hv
    split at hv
    · cases hv
    · exact h value hv

/-- What is no reference and no text is not resolved to a text. -/
theorem string?_resolved {value : Json} (hr : value.reference? = none)
    (hs : value.string? = none) : (resolved root inFlight value).string? = none := by
  cases value with
  | object members =>
    rw [resolved_object hr]
    rfl
  | array items =>
    rw [resolved_array]
    rfl
  | string text => cases hs
  | _ =>
    rw [resolved_of_leaf (by simp) (by simp)]
    rfl

/-- An object that is no reference becomes none when its members are resolved. -/
theorem reference?_mapValues_resolved {members : Members} (hr : members.reference? = none)
    (hkey : IsPlainlyKeyed (.object members)) :
    Members.reference? (members.mapValues (resolved root inFlight)) = none := by
  rw [Members.reference?, Members.lookup_mapValues]
  cases hv : members.lookup referenceKey with
  | none => rfl
  | some value =>
    have hs : value.string? = none := by
      rw [Members.reference?, hv] at hr
      exact hr
    exact string?_resolved (hkey value hv) hs

/-! ## Resolving twice -/

/-- Where no reference is taken for circular, all that are left lead nowhere. -/
theorem leadsNowhere_of_outermost (hroot : Everywhere IsPlainlyKeyed root) {value : Json}
    (hvalue : Everywhere IsPlainlyKeyed value)
    (hnotices : ∀ pointer, .circular pointer ∉ (resolveFrom root inFlight value).notices) :
    ∀ pointer ∈ (resolved root inFlight value).outermost, LeadsNowhere root pointer := by
  induction inFlight, value using resolve_induction root with
  | object inFlight members hr ih =>
    intro pointer hp
    rw [resolved_object hr,
      mem_outermost_object (reference?_mapValues_resolved hr hvalue.self)] at hp
    obtain ⟨replaced, hreplaced, hp⟩ := hp
    obtain ⟨member, hm, rfl⟩ := List.mem_map.mp hreplaced
    refine ih member hm ((everywhere_object.mp hvalue).2 member hm) (fun other ho => ?_) pointer hp
    rw [resolveFrom_object hr] at hnotices
    exact hnotices other (List.mem_flatMap.mpr ⟨member, hm, ho⟩)
  | error inFlight members pointer notice hr ht =>
    intro other ho
    rw [resolved_of_error hr ht, outermost_reference hr, List.mem_singleton] at ho
    rw [resolveFrom_of_error hr ht] at hnotices
    subst ho
    exact leadsNowhere_of_error ht (fun p hp => hnotices p (List.mem_singleton.mpr hp.symm))
  | ok inFlight members pointer found hr ht ih =>
    rw [resolved_of_ok hr ht]
    rw [resolveFrom_of_ok hr ht] at hnotices
    exact ih (hroot.target stable_isPlainlyKeyed hvalue ht) hnotices
  | array inFlight items ih =>
    intro pointer hp
    rw [resolved_array, mem_outermost_array] at hp
    obtain ⟨replaced, hreplaced, hp⟩ := hp
    obtain ⟨item, hi, rfl⟩ := List.mem_map.mp hreplaced
    refine ih item hi (hvalue.item hi) (fun other ho => ?_) pointer hp
    rw [resolveFrom_array] at hnotices
    exact hnotices other (List.mem_flatMap.mpr ⟨item, hi, ho⟩)
  | leaf inFlight value hobject harray =>
    rw [resolved_of_leaf hobject harray, outermost_of_leaf hobject harray]
    exact fun _ hp => (List.not_mem_nil hp).elim

/--
**Resolution is idempotent where nothing is circular.** If no reference stands directly under a
`$ref`, neither in the document nor in the value, and no circular reference is reported, then the
result is resolved to itself, also with pointers in flight, and each outermost reference that is
left in it is not local or names nothing.
-/
theorem resolve_idempotent {root value : Json} (hroot : Everywhere IsPlainlyKeyed root)
    (hvalue : Everywhere IsPlainlyKeyed value)
    (hnotices : ∀ pointer, .circular pointer ∉ (resolve root none value).notices) :
    let result := (resolve root none value).value
    (∀ inFlight, (resolve root inFlight result).value = result) ∧
      ∀ pointer ∈ result.outermost,
        Pointer.isLocal pointer = false ∨ root.lookup pointer = none := by
  rw [resolve_none] at hnotices ⊢
  have hleft := leadsNowhere_of_outermost hroot hvalue hnotices
  refine ⟨fun inFlight => ?_, hleft⟩
  cases inFlight with
  | none =>
    rw [resolve_none]
    exact resolved_of_outermost hleft
  | some inFlight => exact resolved_of_outermost hleft

/-- Addresses, whose zones are listed elsewhere. -/
def gazetteer : Json := .object [("$defs", .object [
  ("street", .object [("type", .string "string")]),
  ("address", .object [("properties", .object [
    ("street", .object [("$ref", .string "#/$defs/street")]),
    ("zone", .object [("$ref", .string "zones.json")])])])])]

/-- An address, and a reference that names nothing and has another one next to it. -/
def delivery : Json := .array [
  .object [("$ref", .string "#/$defs/address"), ("title", .string "To")],
  .object [("$ref", .string "#/$defs/depot"),
    ("default", .object [("$ref", .string "#/$defs/street")])]]

theorem notices_delivery : (resolve gazetteer none delivery).notices =
    [.nonLocal "zones.json", .dangling "#/$defs/depot"] := by
  have haddress : target gazetteer [] [("$ref", .string "#/$defs/address"),
      ("title", .string "To")] "#/$defs/address" =
      .ok (.object [("properties", .object [
        ("street", .object [("$ref", .string "#/$defs/street")]),
        ("zone", .object [("$ref", .string "zones.json")])]), ("title", .string "To")]) := by
    decide +kernel
  have hstreet : target gazetteer ["#/$defs/address"] [("$ref", .string "#/$defs/street")]
      "#/$defs/street" = .ok (.object [("type", .string "string")]) := by decide +kernel
  have hzone : target gazetteer ["#/$defs/address"] [("$ref", .string "zones.json")]
      "zones.json" = .error (.nonLocal "zones.json") := by decide +kernel
  have hdepot : target gazetteer [] [("$ref", .string "#/$defs/depot"),
      ("default", .object [("$ref", .string "#/$defs/street")])] "#/$defs/depot" =
      .error (.dangling "#/$defs/depot") := by decide +kernel
  have htitle : resolveFrom gazetteer ["#/$defs/address"] (.string "To") = ⟨.string "To", []⟩ :=
    resolveFrom_of_references_nil rfl
  rw [resolve_none, delivery, resolveFrom_array]
  simp only [List.flatMap_cons, List.flatMap_nil, List.append_nil]
  rw [resolveFrom_of_ok rfl haddress, resolveFrom_of_error rfl hdepot, resolveFrom_object rfl]
  simp only [List.flatMap_cons, List.flatMap_nil, List.append_nil]
  rw [resolveFrom_object rfl, htitle]
  simp only [List.flatMap_cons, List.flatMap_nil, List.append_nil]
  rw [resolveFrom_of_ok rfl hstreet, resolveFrom_of_error rfl hzone,
    resolveFrom_of_references_nil rfl]
  rfl

theorem resolve_idempotent_delivery :
    (Everywhere IsPlainlyKeyed gazetteer ∧ Everywhere IsPlainlyKeyed delivery ∧
      ∀ pointer, .circular pointer ∉ (resolve gazetteer none delivery).notices) ∧
    (∀ inFlight, (resolve gazetteer inFlight (resolve gazetteer none delivery).value).value =
      (resolve gazetteer none delivery).value) ∧
    ∀ pointer ∈ (resolve gazetteer none delivery).value.outermost,
      Pointer.isLocal pointer = false ∨ gazetteer.lookup pointer = none := by
  have hroot : Everywhere IsPlainlyKeyed gazetteer := by decide
  have hvalue : Everywhere IsPlainlyKeyed delivery := by decide
  have hnotices : ∀ pointer,
      .circular pointer ∉ (resolve gazetteer none delivery).notices := by
    intro pointer hm
    rw [notices_delivery] at hm
    simp at hm
  exact ⟨⟨hroot, hvalue, hnotices⟩, resolve_idempotent hroot hvalue hnotices⟩

end Json

end ToolSchema
