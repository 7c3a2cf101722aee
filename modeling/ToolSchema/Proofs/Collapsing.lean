import ToolSchema.Proofs.Omission

/-!
# Unions that collapse

A field cannot hold a union. A node that is a union without a type becomes the field of one of its
branches, the first one that leads to an object of a type other than null (`Convert.Chosen`). Of the
other branches nothing is left, except that one which is null makes the field optional.

So two unions with the same choice (`Convert.SameChoice`) are the same field, whatever else they
offer.
-/

namespace ToolSchema

namespace Members

/-- What is erased anyhow may be put there before. -/
theorem erase_put_self (members : Members) (key : String) (value : Json) :
    (members.put key value).erase key = members.erase key := by
  have hold : ∀ member ∈ members.filter (fun member => member.1 != key),
      (member.1, (List.lookup member.1 [(key, value)]).getD member.2) = id member := by
    intro member hm
    have hne : (member.1 == key) = false := by simpa using (List.mem_filter.mp hm).2
    simp [List.lookup_cons, hne]
  unfold put overlay erase
  rw [List.filter_append, List.filter_map]
  show (members.filter (fun member => member.1 != key)).map _ ++ _ = _
  rw [List.map_congr_left hold, List.map_id, List.filter_filter]
  simp

theorem branches_of_lookup {members : Members} {branches : List Json}
    (h : members.lookup "anyOf" = some (.array branches)) : members.branches = branches := by
  rw [Members.branches, items?, h]
  rfl

theorem isUntypedUnion_of_lookup {members : Members} {branches : List Json}
    (ht : members.lookup "type" = none) (h : members.lookup "anyOf" = some (.array branches)) :
    members.isUntypedUnion = true := by
  unfold isUntypedUnion items?
  rw [not_hasKey_of_lookup ht, h]
  rfl

end Members

namespace Convert

open Json

variable {root : Json} {inFlight : List String} {branches others : List Json}

/-! ## The choice among branches -/

/-- The first branch that leads to an object whose type is a text other than null. -/
structure Chosen (root : Json) (inFlight : List String) (branches : List Json) (chosen : Json) :
    Prop where
  typed : ∃ type, branchType root inFlight chosen = some type ∧ type ≠ "null"
  first : ∃ front back, branches = front ++ chosen :: back ∧
    ∀ branch ∈ front, ∀ type, branchType root inFlight branch = some type → type = "null"

/-- Some branch leads to an object whose type is null. -/
def OffersNull (root : Json) (inFlight : List String) (branches : List Json) : Prop :=
  ∃ branch ∈ branches, branchType root inFlight branch = some "null"

/-- The same branch is chosen, if one is, and null is offered by both or by none. -/
structure SameChoice (root : Json) (inFlight : List String) (branches others : List Json) :
    Prop where
  chosen : ∀ branch, Chosen root inFlight branches branch ↔ Chosen root inFlight others branch
  null : OffersNull root inFlight branches ↔ OffersNull root inFlight others

theorem branchType_of_not_object {branch : Json} (h : ∀ members, branch ≠ .object members) :
    branchType root inFlight branch = none := by
  unfold branchType
  rw [dereference_of_not_reference (reference?_of_not_object h)]
  cases branch with
  | object members => exact absurd rfl (h members)
  | _ => rfl

theorem isConcreteBranch_iff {branch : Json} : isConcreteBranch root inFlight branch = true ↔
    ∃ type, branchType root inFlight branch = some type ∧ type ≠ "null" := by
  unfold isConcreteBranch
  cases branchType root inFlight branch with
  | none => simp
  | some type => simp

theorem not_isConcreteBranch_iff {branch : Json} : isConcreteBranch root inFlight branch = false ↔
    ∀ type, branchType root inFlight branch = some type → type = "null" := by
  rw [← Bool.not_eq_true, isConcreteBranch_iff]
  simp

theorem anyNullBranch_iff :
    anyNullBranch root inFlight branches = true ↔ OffersNull root inFlight branches := by
  unfold anyNullBranch OffersNull
  simp

/-- A search from the front finds the branch that is chosen. -/
theorem find?_eq_some_iff_chosen {chosen : Json} :
    branches.find? (isConcreteBranch root inFlight) = some chosen ↔
      Chosen root inFlight branches chosen := by
  rw [List.find?_eq_some_iff_append]
  constructor
  · rintro ⟨htyped, front, back, rfl, hfront⟩
    refine ⟨isConcreteBranch_iff.mp htyped, front, back, rfl, ?_⟩
    intro branch hb
    exact not_isConcreteBranch_iff.mp (by simpa using hfront branch hb)
  · rintro ⟨htyped, front, back, rfl, hfront⟩
    refine ⟨isConcreteBranch_iff.mpr htyped, front, back, rfl, ?_⟩
    intro branch hb
    simpa using not_isConcreteBranch_iff.mpr (hfront branch hb)

theorem SameChoice.find?_eq (h : SameChoice root inFlight branches others) :
    branches.find? (isConcreteBranch root inFlight) =
      others.find? (isConcreteBranch root inFlight) := by
  apply Option.ext
  intro branch
  rw [find?_eq_some_iff_chosen, find?_eq_some_iff_chosen]
  exact h.chosen branch

theorem SameChoice.anyNullBranch_eq (h : SameChoice root inFlight branches others) :
    anyNullBranch root inFlight branches = anyNullBranch root inFlight others := by
  rw [Bool.eq_iff_iff, anyNullBranch_iff, anyNullBranch_iff]
  exact h.null

/--
A branch may be put in or taken out anywhere, unless it would be the first with a type or the only
one that is null.
-/
theorem sameChoice_insert {front back : List Json} {extra : Json}
    (htyped : isConcreteBranch root inFlight extra = true →
      ∃ branch ∈ front, isConcreteBranch root inFlight branch = true)
    (hnull : branchType root inFlight extra = some "null" →
      OffersNull root inFlight (front ++ back)) :
    SameChoice root inFlight (front ++ extra :: back) (front ++ back) := by
  constructor
  · intro branch
    rw [← find?_eq_some_iff_chosen, ← find?_eq_some_iff_chosen, List.find?_append,
      List.find?_append, List.find?_cons]
    by_cases h : isConcreteBranch root inFlight extra = true
    · obtain ⟨other, ho, hother⟩ := htyped h
      cases hfront : front.find? (isConcreteBranch root inFlight) with
      | none => exact absurd hother (List.find?_eq_none.mp hfront other ho)
      | some first => simp
    · simp [h]
  · unfold OffersNull at *
    simp only [List.mem_append, List.mem_cons] at *
    constructor
    · rintro ⟨branch, hb | rfl | hb, ht⟩
      · exact ⟨branch, .inl hb, ht⟩
      · exact hnull ht
      · exact ⟨branch, .inr hb, ht⟩
    · rintro ⟨branch, hb | hb, ht⟩
      · exact ⟨branch, .inl hb, ht⟩
      · exact ⟨branch, .inr (.inr hb), ht⟩

/-! ## The slot of a union -/

section Union

variable {members : Members} (hr : members.reference? = none)
  (hu : members.isUntypedUnion = true)
include hr

/-- Without its branches a union has the description that it has with them. -/
theorem buildSlot_rest (name : Json) (required : Bool) (description : Json) :
    buildSlot root inFlight (.object (members.erase "anyOf")) name required
        (described members description) =
      buildSlot root inFlight (.object (members.erase "anyOf")) name required description := by
  have hrest : (members.erase "anyOf").reference? = none :=
    (Members.reference?_erase_anyOf members).trans hr
  have hdescribed : ∀ given, described (members.erase "anyOf") given = described members given := by
    intro given
    have hlookup : (members.erase "anyOf").lookup "description" = members.lookup "description" :=
      lookup_erase_of_ne (by decide)
    unfold described Members.string?
    rw [hlookup]
  rw [buildSlot_of_not_reference hrest, buildSlot_of_not_reference hrest, hdescribed, hdescribed,
    described_described]

include hu

/-- While the types of the branches are read nothing is refused. -/
theorem alike_collapsed (name : Json) (required : Bool) (description : Json) :
    Traced.Alike (buildSlot root inFlight (.object members) name required description)
      (buildCollapsedSlot root inFlight members name required
        (described members description)) := by
  rw [buildSlot_of_not_reference hr]
  refine ⟨value_buildReducedSlot_of_union hu name required _, ?_⟩
  rw [buildReducedSlot_eq, typeList?_of_isUntypedUnion hu, hu]
  exact Traced.unsupported_append (branchNotices_supported _)

theorem alike_chosen {chosen : Json} (hc : Chosen root inFlight members.branches chosen)
    (name : Json) (required : Bool) (description : Json) :
    Traced.Alike (buildSlot root inFlight (.object members) name required description)
      (buildSlot root inFlight chosen name
        (required && !anyNullBranch root inFlight members.branches)
        (described members description)) := by
  refine (alike_collapsed hr hu name required description).trans ?_
  rw [buildCollapsedSlot, find?_eq_some_iff_chosen.mpr hc]
  exact .refl _

theorem alike_of_none_chosen (hc : ∀ chosen, ¬Chosen root inFlight members.branches chosen)
    (name : Json) (required : Bool) (description : Json) :
    Traced.Alike (buildSlot root inFlight (.object members) name required description)
      (if anyNullBranch root inFlight members.branches then ⟨none, []⟩
        else buildSlot root inFlight (.object (members.erase "anyOf")) name required
          description) := by
  have hnone : members.branches.find? (isConcreteBranch root inFlight) = none := by
    rw [Option.eq_none_iff_forall_ne_some]
    intro chosen hfound
    exact hc chosen (find?_eq_some_iff_chosen.mp hfound)
  refine (alike_collapsed hr hu name required description).trans ?_
  rw [buildCollapsedSlot, hnone]
  dsimp only
  rw [buildSlot_rest hr]
  exact .refl _

/-- Of the branches a slot takes the choice only. -/
theorem alike_of_sameChoice {others : List Json}
    (h : SameChoice root inFlight members.branches others) (name : Json) (required : Bool)
    (description : Json) :
    Traced.Alike
      (buildSlot root inFlight (.object (members.put "anyOf" (.array others))) name required
        description)
      (buildSlot root inFlight (.object members) name required description) := by
  have hlookup : ∀ key, key ≠ "anyOf" →
      (members.put "anyOf" (.array others)).lookup key = members.lookup key :=
    fun key hkey => Members.lookup_put_of_ne hkey
  have hothers : (members.put "anyOf" (.array others)).lookup "anyOf" = some (.array others) :=
    Members.lookup_put_self members "anyOf" _
  have hunion : (members.put "anyOf" (.array others)).isUntypedUnion = true :=
    Members.isUntypedUnion_of_lookup
      ((hlookup "type" (by decide)).trans (Members.lookup_type_of_isUntypedUnion hu)) hothers
  have hreference : (members.put "anyOf" (.array others)).reference? = none := by
    unfold Members.reference? at *
    rw [hlookup referenceKey (by decide), hr]
  have hdescribed : described (members.put "anyOf" (.array others)) description =
      described members description := by
    unfold described Members.string?
    rw [hlookup "description" (by decide)]
  have hcollapsed : ∀ given,
      buildCollapsedSlot root inFlight (members.put "anyOf" (.array others)) name required given =
        buildCollapsedSlot root inFlight members name required given := by
    intro given
    unfold buildCollapsedSlot
    rw [Members.branches_of_lookup hothers, Members.erase_put_self, ← h.find?_eq,
      ← h.anyNullBranch_eq]
  refine (alike_collapsed hreference hunion name required description).trans ?_
  rw [hdescribed, hcollapsed]
  exact (alike_collapsed hr hu name required description).symm

end Union

/--
**A field takes one branch of a union.** A node that is no reference and has branches but no type is
the field of the branch that is chosen among them, with its own description unless another is given,
and optional if a branch is null. Where none is chosen there is no field if a branch is null, and
otherwise the field of the node without its branches. So other branches may be put in, taken out or
put in another order: as long as the choice is the same, so is the field.
-/
theorem union_collapses {root : Json} {members : Members} {branches : List Json}
    (hr : members.reference? = none) (ht : members.lookup "type" = none)
    (hb : members.lookup "anyOf" = some (.array branches)) (name : Json) (required : Bool)
    (description : Json) :
    (∀ chosen, Chosen root [] branches chosen →
      (slot root (.object members) name required description).map Prod.fst =
        (slot root chosen name (required && !anyNullBranch root [] branches)
          (described members description)).map Prod.fst) ∧
    ((∀ chosen, ¬Chosen root [] branches chosen) →
      (slot root (.object members) name required description).map Prod.fst =
        if anyNullBranch root [] branches then .ok none
        else (slot root (.object (members.erase "anyOf")) name required description).map
          Prod.fst) ∧
    ∀ others, SameChoice root [] branches others →
      (slot root (.object (members.put "anyOf" (.array others))) name required description).map
          Prod.fst =
        (slot root (.object members) name required description).map Prod.fst := by
  have hu := Members.isUntypedUnion_of_lookup ht hb
  have hbranches := Members.branches_of_lookup hb
  subst hbranches
  refine ⟨?_, ?_, ?_⟩
  · intro chosen hc
    exact (alike_chosen hr hu hc name required description).conclude
  · intro hc
    rw [slot, (alike_of_none_chosen hr hu hc name required description).conclude]
    split
    · rfl
    · rfl
  · intro others h
    exact (alike_of_sameChoice hr hu h name required description).conclude

/-- What is known about a guest. -/
def guestBook : Json := .object [("$defs", .object [
  ("date", .object [("type", .string "string"), ("description", .string "A day")]),
  ("nothing", .object [("type", .string "null")])])]

def dateBranch : Json := .object [("$ref", .string "#/$defs/date")]

def nothingBranch : Json := .object [("$ref", .string "#/$defs/nothing")]

/-- A number of nights, which nobody asks for where there is a date. -/
def nightsBranch : Json := .object [("type", .string "integer")]

/-- A guest leaves on some day, or after some nights, or it is not known when. -/
def departure : Members := [("description", .string "When the guest leaves"),
  ("anyOf", .array [.bool true, nothingBranch, dateBranch, nightsBranch])]

theorem branchType_date : branchType guestBook [] dateBranch = some "string" := by
  have htarget : target guestBook [] [("$ref", .string "#/$defs/date")] "#/$defs/date" =
      .ok (.object [("type", .string "string"), ("description", .string "A day")]) := by
    decide +kernel
  rw [branchType, dateBranch, dereference_of_ok rfl htarget, dereference_of_reference?_none rfl]
  rfl

theorem branchType_nothing : branchType guestBook [] nothingBranch = some "null" := by
  have htarget : target guestBook [] [("$ref", .string "#/$defs/nothing")] "#/$defs/nothing" =
      .ok (.object [("type", .string "null")]) := by
    decide +kernel
  rw [branchType, nothingBranch, dereference_of_ok rfl htarget, dereference_of_reference?_none rfl]
  rfl

theorem chosen_date : Chosen guestBook []
    [.bool true, nothingBranch, dateBranch, nightsBranch] dateBranch := by
  have hbool : branchType guestBook [] (.bool true) = none := branchType_of_not_object (by simp)
  refine ⟨⟨"string", branchType_date, by decide⟩, [.bool true, nothingBranch], [nightsBranch],
    rfl, ?_⟩
  intro branch hb type ht
  rcases List.mem_pair.mp hb with rfl | rfl
  · cases hbool.symm.trans ht
  · exact (Option.some.inj (branchType_nothing.symm.trans ht)).symm

theorem sameChoice_nights : SameChoice guestBook []
    [.bool true, nothingBranch, dateBranch, nightsBranch]
    [.bool true, nothingBranch, dateBranch] := by
  have hnights : SameChoice guestBook []
      ([.bool true, nothingBranch, dateBranch] ++ nightsBranch :: [])
      ([.bool true, nothingBranch, dateBranch] ++ []) := by
    refine sameChoice_insert ?_ ?_
    · intro _
      exact ⟨dateBranch, by simp, isConcreteBranch_iff.mpr ⟨"string", branchType_date, by decide⟩⟩
    · intro _
      exact ⟨nothingBranch, by simp, branchType_nothing⟩
  exact hnights

theorem union_collapses_departure :
    (departure.reference? = none ∧ departure.lookup "type" = none ∧
      departure.lookup "anyOf" =
        some (.array [.bool true, nothingBranch, dateBranch, nightsBranch])) ∧
    (slot guestBook (.object departure) (.string "departure") true .null).map Prod.fst =
      (slot guestBook dateBranch (.string "departure") false
        (.string "When the guest leaves")).map Prod.fst ∧
    (slot guestBook (.object (departure.put "anyOf"
        (.array [.bool true, nothingBranch, dateBranch]))) (.string "departure") true .null).map
          Prod.fst =
      (slot guestBook (.object departure) (.string "departure") true .null).map Prod.fst := by
  have hr : departure.reference? = none := rfl
  have ht : departure.lookup "type" = none := rfl
  have hb : departure.lookup "anyOf" =
    some (.array [.bool true, nothingBranch, dateBranch, nightsBranch]) := rfl
  have hnull : anyNullBranch guestBook []
      [.bool true, nothingBranch, dateBranch, nightsBranch] = true :=
    anyNullBranch_iff.mpr ⟨nothingBranch, by simp, branchType_nothing⟩
  obtain ⟨hchosen, -, hsame⟩ := union_collapses hr ht hb (.string "departure") true .null
  rw [hnull] at hchosen
  exact ⟨⟨hr, ht, hb⟩, hchosen dateBranch chosen_date, hsame _ sameChoice_nights⟩

end Convert

end ToolSchema
