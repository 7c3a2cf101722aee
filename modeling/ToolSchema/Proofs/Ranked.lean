import Mathlib.Order.Basic
import Mathlib.Data.Nat.Basic
import ToolSchema.Proofs.Recorded
import ToolSchema.Proofs.Resolving

/-!
# Documents without cycles

In a document whose references go down in some rank (`Json.Ranked`), no definition leads back to
itself. This alone does not keep a pointer from being met again while it is in flight: what stands
next to a `$ref` goes over the target, below the pointer that was followed, and may lead there
again. Where it ranks below as well (`Json.Guarded`), no reference is taken for circular.

One rank need not do for all references. Two of them may extend each other's targets crosswise, so
that one pointer has to be below the other and the other below it. Each pair of pointers is asked
for a rank of its own (`Json.RanksBelow`): there is one if the first pointer does not lead to the
second.

* `Json.Clear` — the invariant of a node: what it holds ranks below what is in flight
* `Convert.no_circular_notice` — resolution and building report no circular reference
* `Convert.circular_next_to_reference` — a document without references where they do
-/

namespace ToolSchema

namespace Json

/-- The chain of references that starts at `pointer` goes through `passed`. -/
inductive Passes (root : Json) : String → String → Prop
  | here (pointer : String) : Passes root pointer pointer
  | next {pointer passed following : String} {members : Members}
      (hl : root.lookup pointer = some (.object members))
      (hr : members.reference? = some following) (h : Passes root following passed) :
      Passes root pointer passed

/-- A pointer to what is no reference leads through nothing else. -/
theorem Passes.eq_of_not_reference {root found : Json} {pointer passed : String}
    (h : Passes root pointer passed) (hl : root.lookup pointer = some found)
    (hr : found.reference? = none) : passed = pointer := by
  cases h with
  | here => rfl
  | next hl' hr' _ =>
    rw [hl'] at hl
    cases hl
    cases hr'.symm.trans hr

/-- What a pointer names has references of a lower rank only. -/
def Ranked {α : Type*} [Preorder α] (rank : String → α) (root : Json) : Prop :=
  ∀ pointer found, root.lookup pointer = some found →
    ∀ below ∈ found.references, rank below < rank pointer

section Rank

variable (α : Type*) [Preorder α] (root : Json)

/-- Some rank in which the references of the document go down has one pointer below another. -/
def RanksBelow (pointer passed : String) : Prop :=
  ∃ rank : String → α, Ranked rank root ∧ rank pointer < rank passed

/-- References next to a `$ref` rank below each pointer to an object that it leads through. -/
def Guarded (node : Json) : Prop :=
  ∀ pointer, node.reference? = some pointer → ∀ passed, Passes root pointer passed →
    ∀ named, root.lookup passed = some (.object named) →
      ∀ below ∈ referencesOfMembers (node.members.erase referenceKey),
        RanksBelow α root below passed

/-- All references of a guarded value rank below what is in flight. -/
structure Clear (inFlight : List String) (value : Json) : Prop where
  below : ∀ pointer ∈ value.references, ∀ passed ∈ inFlight, RanksBelow α root pointer passed
  guarded : Everywhere (Guarded α root) value

end Rank

variable {α : Type*} [Preorder α] {rank : String → α} {root : Json}

/-! ## Ranks -/

theorem not_ranksBelow_self (pointer : String) : ¬RanksBelow α root pointer pointer := by
  rintro ⟨rank, -, hlt⟩
  exact lt_irrefl _ hlt

theorem Ranked.ranksBelow (h : Ranked rank root) {pointer below : String} {found : Json}
    (hl : root.lookup pointer = some found) (hb : below ∈ found.references) :
    RanksBelow α root below pointer :=
  ⟨rank, h, h pointer found hl below hb⟩

/-- What ranks below a pointer does so with all that it leads to, in the same rank. -/
theorem RanksBelow.of_lookup {pointer passed below : String} {found : Json}
    (h : RanksBelow α root pointer passed) (hl : root.lookup pointer = some found)
    (hb : below ∈ found.references) : RanksBelow α root below passed := by
  obtain ⟨rank, hranked, hlt⟩ := h
  exact ⟨rank, hranked, (hranked pointer found hl below hb).trans hlt⟩

/-! ## Guarded nodes -/

theorem guarded_of_not_reference {value : Json} (h : value.reference? = none) :
    Guarded α root value := by
  intro pointer hr
  rw [h] at hr
  cases hr

/-- A reference that has no other references next to it is guarded. -/
theorem guarded_of_alone {value : Json}
    (h : referencesOfMembers (value.members.erase referenceKey) = []) :
    Guarded α root value := by
  intro pointer hr passed hpassed named hn below hb
  rw [h] at hb
  cases hb

/-- Where a chain ends at its first target, only one pointer has to be ranked above. -/
theorem guarded_of_target {members : Members} {pointer : String} {found : Json}
    (hr : members.reference? = some pointer) (hl : root.lookup pointer = some found)
    (hfound : found.reference? = none)
    (h : ∀ below ∈ referencesOfMembers (members.erase referenceKey),
      RanksBelow α root below pointer) : Guarded α root (.object members) := by
  intro followed hf passed hpassed named hn below hb
  cases hr.symm.trans hf
  rw [hpassed.eq_of_not_reference hl hfound]
  exact h below hb

/-- A change of members that keeps the `$ref` and brings no references keeps a node guarded. -/
theorem Guarded.of_subset {members changed : Members} (h : Guarded α root (.object members))
    (hr : changed.reference? = members.reference?)
    (hsub : referencesOfMembers (changed.erase referenceKey) ⊆
      referencesOfMembers (members.erase referenceKey)) :
    Guarded α root (.object changed) := by
  intro pointer hp passed hpassed named hn below hb
  exact h pointer (hr.symm.trans hp) passed hpassed named hn below (hsub hb)

/-- References of the members of an overlay, but for one key, are those of its two parts. -/
theorem referencesOfMembers_erase_overlay {low top : Members} {key pointer : String}
    (h : pointer ∈ referencesOfMembers ((low.overlay top).erase key)) :
    pointer ∈ referencesOfMembers (low.erase key) ∨
      pointer ∈ referencesOfMembers (top.erase key) := by
  obtain ⟨member, hm, hp⟩ := mem_referencesOfMembers.mp h
  obtain ⟨hm, hkey⟩ := List.mem_filter.mp hm
  rcases mem_of_mem_overlay hm with hm | hm
  · exact .inl (mem_referencesOfMembers.mpr ⟨member, List.mem_filter.mpr ⟨hm, hkey⟩, hp⟩)
  · exact .inr (mem_referencesOfMembers.mpr ⟨member, List.mem_filter.mpr ⟨hm, hkey⟩, hp⟩)

theorem erase_erase_self (members : Members) (key : String) :
    (members.erase key).erase key = members.erase key := by
  rw [Members.erase, Members.erase, List.filter_filter]
  simp only [Bool.and_self]

theorem Guarded.withType {members : Members} (h : Guarded α root (.object members))
    (type : String) : Guarded α root (.object (members.withType type)) := by
  refine h.of_subset (Members.reference?_withType members type) (fun pointer hp => ?_)
  rcases referencesOfMembers_erase_overlay hp with hp | hp
  · exact hp
  · exact (List.not_mem_nil hp).elim

theorem Guarded.erase {members : Members} (h : Guarded α root (.object members)) :
    Guarded α root (.object (members.erase "anyOf")) := by
  refine h.of_subset (Members.reference?_erase_anyOf members) (fun pointer hp => ?_)
  obtain ⟨member, hm, hp⟩ := mem_referencesOfMembers.mp hp
  obtain ⟨hm, hkey⟩ := List.mem_filter.mp hm
  exact mem_referencesOfMembers.mpr
    ⟨member, List.mem_filter.mpr ⟨(List.mem_filter.mp hm).1, hkey⟩, hp⟩

/-- Under the keys of a guarded reference, what an object of the document has stays guarded. -/
theorem Guarded.overlay {low reference : Members} {pointer : String}
    (hr : reference.reference? = some pointer) (hl : root.lookup pointer = some (.object low))
    (hlow : Guarded α root (.object low)) (h : Guarded α root (.object reference)) :
    Guarded α root (.object (low.overlay (reference.erase referenceKey))) := by
  intro following hf passed hpassed named hn below hb
  have hf : low.reference? = some following :=
    (reference?_overlay_erase low reference).symm.trans hf
  rcases referencesOfMembers_erase_overlay hb with hb | hb
  · exact hlow following hf passed hpassed named hn below hb
  · -- The chain from the target on is part of the chain of the reference.
    rw [erase_erase_self] at hb
    exact h pointer hr passed (.next hl hf hpassed) named hn below hb

/-! ## Going down -/

namespace Clear

variable {inFlight : List String}

theorem of_references_subset {value part : Json} (h : Clear α root inFlight value)
    (hsub : part.references ⊆ value.references) (hpart : Everywhere (Guarded α root) part) :
    Clear α root inFlight part :=
  ⟨fun pointer hp => h.below pointer (hsub hp), hpart⟩

theorem item {items : List Json} (h : Clear α root inFlight (.array items)) {item : Json}
    (hi : item ∈ items) : Clear α root inFlight item :=
  h.of_references_subset (references_item_subset hi) (h.guarded.item hi)

theorem member {members : Members} (h : Clear α root inFlight (.object members))
    {member : String × Json} (hm : member ∈ members) : Clear α root inFlight member.2 :=
  h.of_references_subset
    (fun _ hp => referencesOfMembers_subset (references_member_subset hm hp))
    ((everywhere_object.mp h.guarded).2 member hm)

theorem withType {members : Members} (h : Clear α root inFlight (.object members))
    (type : String) : Clear α root inFlight (.object (members.withType type)) := by
  refine h.of_references_subset (Convert.references_withType_subset members type) ?_
  refine everywhere_object.mpr ⟨h.guarded.self.withType type, fun member hm => ?_⟩
  rcases mem_of_mem_overlay hm with hm | hm
  · exact (everywhere_object.mp h.guarded).2 member hm
  · rw [List.mem_singleton.mp hm]
    exact everywhere_of_leaf rfl (guarded_of_not_reference rfl)

theorem erase {members : Members} (h : Clear α root inFlight (.object members)) :
    Clear α root inFlight (.object (members.erase "anyOf")) := by
  refine h.of_references_subset (Convert.references_erase_subset (by decide)) ?_
  exact everywhere_object.mpr ⟨h.guarded.self.erase,
    fun member hm => (everywhere_object.mp h.guarded).2 member (List.mem_filter.mp hm).1⟩

theorem ofMembers {value : Json} (h : Clear α root inFlight value) :
    Clear α root inFlight (.object value.members) := by
  cases value with
  | object members => exact h
  | _ => exact ⟨fun _ hp => (List.not_mem_nil hp).elim,
      everywhere_of_leaf rfl (guarded_of_not_reference rfl)⟩

/-! ## Following references -/

/-- A pointer that ranks below all that is in flight is not in flight. -/
theorem not_mem_inFlight {members : Members} (h : Clear α root inFlight (.object members))
    {pointer : String} (hr : members.reference? = some pointer) : pointer ∉ inFlight := by
  intro hin
  have hp : pointer ∈ (Json.object members).references := mem_references_object.mpr (.inl hr)
  exact not_ranksBelow_self pointer (h.below pointer hp pointer hin)

theorem target_ne_circular {members : Members} (h : Clear α root inFlight (.object members))
    {pointer : String} (hr : members.reference? = some pointer) (other : String) :
    Json.target root inFlight members pointer ≠ .error (.circular other) := by
  unfold Json.target
  rw [if_neg (h.not_mem_inFlight hr)]
  split
  · simp
  · split <;> simp

/-- A followed pointer may go in flight: its target ranks below it, with all that goes over it. -/
theorem target (hranked : Ranked rank root) (hroot : Everywhere (Guarded α root) root)
    {members : Members} (h : Clear α root inFlight (.object members)) {pointer : String}
    (hr : members.reference? = some pointer) {found : Json}
    (ht : Json.target root inFlight members pointer = .ok found) :
    Clear α root (pointer :: inFlight) found := by
  have hpointer : pointer ∈ (Json.object members).references := mem_references_object.mpr (.inl hr)
  obtain ⟨-, -, named, hl, rfl⟩ := target_eq_ok.mp ht
  have hnamed := hroot.lookup (fun _ => guarded_of_not_reference rfl) hl
  have hlower : ∀ below ∈ named.references, ∀ passed ∈ pointer :: inFlight,
      RanksBelow α root below passed := by
    intro below hb passed hp
    rcases List.mem_cons.mp hp with rfl | hp
    · exact hranked.ranksBelow hl hb
    · exact (h.below pointer hpointer passed hp).of_lookup hl hb
  cases named with
  | object low =>
    constructor
    · intro below hb passed hp
      rcases mem_references_object.mp hb with hb | ⟨member, hm, hb⟩
      · rw [reference?_overlay_erase] at hb
        exact hlower below (mem_references_object.mpr (.inl hb)) passed hp
      · rcases mem_of_mem_overlay hm with hm | hm
        · exact hlower below (mem_references_object.mpr (.inr ⟨member, hm, hb⟩)) passed hp
        · rcases List.mem_cons.mp hp with rfl | hp
          · exact h.guarded.self passed hr passed (.here passed) low hl below
              (mem_referencesOfMembers.mpr ⟨member, hm, hb⟩)
          · exact (h.member (List.mem_filter.mp hm).1).below below hb passed hp
    · refine everywhere_object.mpr ⟨hnamed.self.overlay hr hl h.guarded.self, fun member hm => ?_⟩
      rcases mem_of_mem_overlay hm with hm | hm
      · exact (everywhere_object.mp hnamed).2 member hm
      · exact (everywhere_object.mp h.guarded).2 member (List.mem_filter.mp hm).1
  | _ => exact ⟨hlower, hnamed⟩

theorem congr {inFlight' : List String} {value : Json} (h : Clear α root inFlight value)
    (hsub : inFlight' ⊆ inFlight) : Clear α root inFlight' value :=
  ⟨fun pointer hp passed hpassed => h.below pointer hp passed (hsub hpassed), h.guarded⟩

/-- A chain that starts at a clear node ends at one, with its pointers in flight, and no circle. -/
theorem dereference (hranked : Ranked rank root) (hroot : Everywhere (Guarded α root) root)
    {value : Json} (h : Clear α root inFlight value) :
    Clear α root ((Json.dereference root inFlight value).followed ++ inFlight)
        (Json.dereference root inFlight value).node ∧
      ∀ pointer, (Json.dereference root inFlight value).notice ≠ some (.circular pointer) := by
  fun_induction Json.dereference root inFlight value with
  | case2 inFlight members pointer hr notice ht =>
    refine ⟨h, fun other hnotice => ?_⟩
    cases hnotice
    exact h.target_ne_circular hr other ht
  | case3 inFlight members pointer hr found ht chain ih =>
    obtain ⟨hend, hnotice⟩ := ih (h.target hranked hroot hr ht)
    refine ⟨hend.congr (fun passed hp => ?_), hnotice⟩
    -- The pointer went in flight first, and stands behind the rest of the chain.
    simp only [List.cons_append, List.mem_cons, List.mem_append] at hp ⊢
    rcases hp with hp | hp | hp
    · exact .inr (.inl hp)
    · exact .inl hp
    · exact .inr (.inr hp)
  | _ =>
    refine ⟨h, fun pointer hnotice => ?_⟩
    cases hnotice

/-- **Resolution of a clear value reports no circular reference.** -/
theorem not_circular_resolveFrom (hranked : Ranked rank root)
    (hroot : Everywhere (Guarded α root) root) {value : Json}
    (h : Clear α root inFlight value) (pointer : String) :
    .circular pointer ∉ (resolveFrom root inFlight value).notices := by
  induction inFlight, value using resolve_induction root with
  | object inFlight members hr ih =>
    rw [resolveFrom_object hr]
    intro hm
    obtain ⟨member, hmember, hm⟩ := List.mem_flatMap.mp hm
    exact ih member hmember (h.member hmember) hm
  | error inFlight members other notice hr ht =>
    rw [resolveFrom_of_error hr ht]
    intro hm
    rw [List.mem_singleton] at hm
    exact h.target_ne_circular hr pointer (hm ▸ ht)
  | ok inFlight members other found hr ht ih =>
    rw [resolveFrom_of_ok hr ht]
    exact ih (h.target hranked hroot hr ht)
  | array inFlight items ih =>
    rw [resolveFrom_array]
    intro hm
    obtain ⟨item, hitem, hm⟩ := List.mem_flatMap.mp hm
    exact ih item hitem (h.item hitem) hm
  | leaf inFlight value hobject harray =>
    rw [resolveFrom_of_leaf hobject harray]
    exact List.not_mem_nil

end Clear

/-- A guarded value is clear where nothing is in flight. -/
theorem clear_nil {value : Json} (h : Everywhere (Guarded α root) value) :
    Clear α root [] value :=
  ⟨fun _ _ _ hp => (List.not_mem_nil hp).elim, h⟩

end Json

namespace Convert

open Json

variable {α : Type*} [Preorder α] {rank : String → α} {root : Json}

/-- Building hands clearness on, and where it holds, nothing is circular. -/
theorem carries_clear (hranked : Ranked rank root) (hroot : Everywhere (Guarded α root) root)
    (pointer : String) :
    Carries root (Clear α root) (fun mark => mark ≠ .notice (.circular pointer)) where
  node h := (h.dereference hranked hroot).1
  item h hi := h.item hi
  member h hm := h.member hm
  withType h type := h.withType type
  erase h := h.erase
  ofMembers h := h.ofMembers
  notice h hn hmark := by
    cases hmark
    exact (h.dereference hranked hroot).2 pointer hn
  bounds least greatest := nofun
  constant _ hm hmark := by
    rw [unsupportedMark?, hmark] at hm
    split at hm <;> cases hm

/--
**Where all references go down, none is reported as circular**: neither in a resolution, nor in the
conversion of a value, nor in that of a value as a field, whether or not it comes to an end. Those
next to a `$ref` have to go down as well; which rank shows it may differ from pair to pair.
-/
theorem no_circular_notice (hranked : Ranked rank root)
    (hroot : Everywhere (Guarded α root) root) {value : Json}
    (hvalue : Everywhere (Guarded α root) value) (pointer : String) :
    .circular pointer ∉ (Json.resolve root none value).notices ∧
    (∀ name description, .circular pointer ∉
      (buildSchema root [] value name description).notices) ∧
    ∀ name required description, .circular pointer ∉
      (buildSlot root [] value name required description).notices := by
  have hclear := clear_nil hvalue
  obtain ⟨hschema, hslot⟩ := (carries_clear hranked hroot pointer).recorded
  refine ⟨?_, fun name description hm => ?_, fun name required description hm => ?_⟩
  · rw [Json.resolve]
    split
    · exact hclear.not_circular_resolveFrom hranked hroot pointer
    · exact List.not_mem_nil
  · exact (hschema [] value name description hclear).notice hm rfl
  · exact (hslot [] value name required description hclear).notice hm rfl

/-- Lists of items, and boxes with an item as their lid. -/
def catalog : Json := .object [("$defs", .object [
  ("list", .object [("type", .string "array"),
    ("items", .object [("$ref", .string "#/$defs/item")])]),
  ("box", .object [("type", .string "object"),
    ("properties", .object [("lid", .object [("$ref", .string "#/$defs/item")])])]),
  ("item", .object [("type", .string "string")])])]

/-- A list that holds boxes. -/
def boxes : Members :=
  [("$ref", .string "#/$defs/list"), ("items", .object [("$ref", .string "#/$defs/box")])]

/-- A box that holds a list. -/
def boxed : Members := [("$ref", .string "#/$defs/box"),
  ("properties", .object [("content", .object [("$ref", .string "#/$defs/list")])])]

/-- Lists and boxes, each of them with the other one next to its `$ref`. -/
def listing : Json := .object [("anyOf", .array [.object boxes, .object boxed])]

/-- Items rank below all else, and `top` above. -/
def catalogRank (top pointer : String) : Nat :=
  if pointer = "#/$defs/item" then 0 else if pointer = top then 2 else 1

theorem ranked_catalog (top : String) : Ranked (catalogRank top) catalog := by
  intro pointer found hl below hb
  have hbelow : below = "#/$defs/item" := by
    have hsub : below ∈ ["#/$defs/item", "#/$defs/item"] := references_lookup_subset hl hb
    simpa using hsub
  have hpointer : pointer ≠ "#/$defs/item" := by
    rintro rfl
    -- What stands there holds no references.
    have hitem : catalog.lookup "#/$defs/item" = some (.object [("type", .string "string")]) := by
      decide +kernel
    rw [hitem] at hl
    cases hl
    exact List.not_mem_nil hb
  rw [hbelow, catalogRank, catalogRank, if_pos rfl, if_neg hpointer]
  split <;> omega

/-- A pointer that is not an item's ranks above any other one, in the rank with it at the top. -/
theorem ranksBelow_catalog {pointer passed : String} (hne : pointer ≠ passed)
    (hpassed : passed ≠ "#/$defs/item") : RanksBelow Nat catalog pointer passed := by
  refine ⟨catalogRank passed, ranked_catalog passed, ?_⟩
  rw [catalogRank, catalogRank, if_neg hpassed, if_pos rfl, if_neg hne]
  split <;> omega

theorem guarded_catalog : Everywhere (Guarded Nat catalog) catalog := by
  have halone : ∀ node ∈ catalog.preorder,
      referencesOfMembers (node.members.erase referenceKey) = [] ∨ node.reference? = none := by
    decide
  intro node hn
  rcases halone node hn with h | h
  · exact guarded_of_alone h
  · exact guarded_of_not_reference h

theorem guarded_boxes : Guarded Nat catalog (.object boxes) := by
  have hlist : catalog.lookup "#/$defs/list" = some (.object [("type", .string "array"),
      ("items", .object [("$ref", .string "#/$defs/item")])]) := by decide +kernel
  refine guarded_of_target rfl hlist rfl (fun below hb => ?_)
  rw [List.mem_singleton.mp hb]
  exact ranksBelow_catalog (by decide) (by decide)

theorem guarded_boxed : Guarded Nat catalog (.object boxed) := by
  have hbox : catalog.lookup "#/$defs/box" = some (.object [("type", .string "object"),
      ("properties", .object [("lid", .object [("$ref", .string "#/$defs/item")])])]) := by
    decide +kernel
  refine guarded_of_target rfl hbox rfl (fun below hb => ?_)
  rw [List.mem_singleton.mp hb]
  exact ranksBelow_catalog (by decide) (by decide)

theorem guarded_listing : Everywhere (Guarded Nat catalog) listing := by
  have hnodes : ∀ node ∈ listing.preorder, node = .object boxes ∨ node = .object boxed ∨
      referencesOfMembers (node.members.erase referenceKey) = [] ∨ node.reference? = none := by
    decide
  intro node hn
  rcases hnodes node hn with rfl | rfl | h | h
  · exact guarded_boxes
  · exact guarded_boxed
  · exact guarded_of_alone h
  · exact guarded_of_not_reference h

theorem no_circular_notice_listing :
    (Ranked (catalogRank "#/$defs/list") catalog ∧ Everywhere (Guarded Nat catalog) catalog ∧
      Everywhere (Guarded Nat catalog) listing) ∧
    .circular "#/$defs/list" ∉ (Json.resolve catalog none listing).notices ∧
    (∀ name description, .circular "#/$defs/list" ∉
      (buildSchema catalog [] listing name description).notices) ∧
    ∀ name required description, .circular "#/$defs/list" ∉
      (buildSlot catalog [] listing name required description).notices :=
  ⟨⟨ranked_catalog _, guarded_catalog, guarded_listing⟩,
    no_circular_notice (ranked_catalog "#/$defs/list") guarded_catalog guarded_listing
      "#/$defs/list"⟩

/-- A document without references. -/
def lone : Json := .object [("a", .object [("type", .string "object")])]

/-- What stands under `a`, with a property that leads there. -/
def extended : Members := [("type", .string "object"),
  ("properties", .object [("x", .object [("$ref", .string "#/a")])])]

/-- A reference to `a`, with a property that leads there. -/
def doubled : Members := [("$ref", .string "#/a"),
  ("properties", .object [("x", .object [("$ref", .string "#/a")])])]

theorem target_doubled :
    Json.target lone [] doubled "#/a" = .ok (.object extended) := by decide +kernel

/-- Below the first reference, the pointer of the second one is in flight. -/
theorem target_extended :
    Json.target lone ["#/a"] [("$ref", .string "#/a")] "#/a" = .error (.circular "#/a") := rfl

theorem dereference_doubled :
    Json.dereference lone [] (.object doubled) = ⟨.object extended, ["#/a"], none⟩ := by
  rw [dereference_of_ok rfl target_doubled, dereference_of_reference?_none rfl]

/-- The property of the extended object is reported. -/
theorem circular_extended (name : Label) (description : Json) :
    .notice (.circular "#/a") ∈ (buildNode lone ["#/a"] extended name description).trace := by
  have hslot : .notice (.circular "#/a") ∈ (buildSlot lone ["#/a"]
      (.object [("$ref", .string "#/a")]) (.string "x") false .null).trace := by
    rw [buildSlot_eq, dereference_of_error rfl target_extended]
    exact List.mem_cons_self
  rw [buildNode_eq]
  show _ ∈ (buildDeclared lone ["#/a"] extended name description).trace
  rw [buildDeclared]
  show _ ∈ (buildObject lone ["#/a"] extended name description).trace
  rw [buildObject_eq]
  exact List.mem_append_left _ hslot

/-- Nothing leads back in a document without references, and still a reference is circular. -/
theorem circular_next_to_reference : (∀ rank : String → Nat, Ranked rank lone) ∧
    .circular "#/a" ∈ (Json.resolve lone none (.object doubled)).notices ∧
    .circular "#/a" ∈ (buildSchema lone [] (.object doubled) .generated .null).notices ∧
    .circular "#/a" ∈ (buildSlot lone [] (.object doubled) .null true .null).notices := by
  refine ⟨?_, ?_, ?_, ?_⟩
  · intro rank pointer found hl below hb
    exact (List.not_mem_nil (references_lookup_subset hl hb)).elim
  · have href : (Json.object doubled).hasReferences = true := by decide +kernel
    have hproperties : (Json.resolveFrom lone ["#/a"]
        (.object [("x", .object [("$ref", .string "#/a")])])).notices = [.circular "#/a"] := by
      rw [resolveFrom_object rfl, List.flatMap_singleton,
        resolveFrom_of_error rfl target_extended]
    rw [Json.resolve, if_pos href, resolveFrom_of_ok rfl target_doubled, resolveFrom_object rfl]
    refine List.mem_flatMap.mpr ⟨("properties", _), List.mem_cons_of_mem _ List.mem_cons_self, ?_⟩
    rw [hproperties]
    exact List.mem_cons_self
  · rw [Traced.mem_notices, buildSchema_eq, dereference_doubled]
    show _ ∈ (buildNode lone ["#/a"] extended .generated .null).trace
    exact circular_extended _ _
  · rw [Traced.mem_notices, buildSlot_eq, dereference_doubled]
    show _ ∈ (buildReducedSlot lone ["#/a"] extended .null true .null).trace
    rw [buildReducedSlot_eq]
    show _ ∈ (buildTypedSlot lone ["#/a"] extended .null true .null).trace
    rw [buildTypedSlot]
    show _ ∈ (buildSchema lone ["#/a"] (.object extended) .generated .null).trace
    rw [buildSchema_of_not_reference rfl]
    show _ ∈ (buildNode lone ["#/a"] extended .generated .null).trace
    exact circular_extended _ _

end Convert

end ToolSchema
