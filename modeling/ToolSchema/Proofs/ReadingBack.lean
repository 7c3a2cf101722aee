import ToolSchema.Convert.Descent
import ToolSchema.Proofs.Reordered
import ToolSchema.Schema.Tagged

/-!
# Reading a tagged tree back

A tagged tree names the kind of every node and has a key for everything that a node says, also where
there is nothing to say. `Schema.ofTagged?` reads it back by these keys, in whichever order they
stand: null and an empty text stay apart, and so do null and zero.

A value inside the schema that has keys of its own could be put into another order without a change
of the JSON value. This is why a schema is asked to hold none (`Schema.HasAtoms`).

* `Json.Reordered.exists_object` — under each key, an object in another order has the same part
* `Schema.HasAtoms.readBack` — a tagged tree is read as its schema
* `Schema.tagged_injective` — schemas with the same tagged tree are the same
-/

namespace ToolSchema

open Json

/-! ## Members in another order -/

namespace Members

/-- Where the members have a part, the others have the same one, but for the order in it. -/
def SameParts (members others : Members) : Prop :=
  ∀ key part, members.lookup key = some part →
    ∃ other, others.lookup key = some other ∧ Reordered part other

theorem lookup_eq_some_iff_mem {members : Members} {key : String} {value : Json}
    (hkeys : members.keys.Nodup) : members.lookup key = some value ↔ (key, value) ∈ members := by
  refine ⟨mem_of_lookup, fun hm => ?_⟩
  obtain ⟨front, back, rfl⟩ := List.append_of_mem hm
  rw [keys, List.map_append, List.map_cons, List.nodup_append] at hkeys
  refine List.lookup_eq_some_iff.mpr ⟨front, back, rfl, fun member hf => ?_⟩
  rw [bne_iff_ne]
  exact (hkeys.2.2 member.1 (List.mem_map_of_mem hf) key List.mem_cons_self).symm

end Members

namespace Json

/-- Neither an array nor an object, so that no key in it could have another place. -/
def isAtom : Json → Bool
  | .array _ | .object _ => false
  | _ => true

theorem isAtom_ofInt? (bound : Option Int) : (ofInt? bound).isAtom = true := by
  cases bound <;> rfl

theorem ReorderedMembers.keys_eq {members others : Members}
    (h : ReorderedMembers members others) : members.keys = others.keys := by
  cases h with
  | nil => rfl
  | cons hv rest => exact congrArg (_ :: ·) rest.keys_eq

theorem ReorderedMembers.sameParts {members others : Members}
    (h : ReorderedMembers members others) : members.SameParts others := by
  intro key part hp
  cases h with
  | nil => cases hp
  | cons hv rest =>
    rw [List.lookup_cons] at hp ⊢
    split at hp
    · cases hp
      exact ⟨_, rfl, hv⟩
    · exact rest.sameParts key part hp

/-- An object with distinct keys is found again by its keys, in whichever order they stand. -/
theorem Reordered.exists_object {members : Members} {value : Json} (hkeys : members.keys.Nodup)
    (h : Reordered (.object members) value) :
    ∃ others : Members, value = .object others ∧ members.SameParts others := by
  cases h with
  | refl => exact ⟨members, rfl, fun key part hp => ⟨part, hp, .refl part⟩⟩
  | @object _ left right others hl parts hr =>
    have hleft : left.keys.Nodup := (hl.map Prod.fst).nodup_iff.mp hkeys
    have hright : right.keys.Nodup := parts.keys_eq ▸ hleft
    have hothers : others.keys.Nodup := (hr.map Prod.fst).nodup_iff.mp hright
    refine ⟨others, rfl, fun key part hp => ?_⟩
    have hmem : (key, part) ∈ left := hl.mem_iff.mp (mem_of_lookup hp)
    obtain ⟨other, ho, hpart⟩ :=
      parts.sameParts key part ((Members.lookup_eq_some_iff_mem hleft).mpr hmem)
    have hmem' : (key, other) ∈ others := hr.mem_iff.mp (mem_of_lookup ho)
    exact ⟨other, (Members.lookup_eq_some_iff_mem hothers).mpr hmem', hpart⟩

end Json

namespace Members

variable {members others : Members}

theorem SameParts.atom (h : members.SameParts others) (key : String) {part : Json}
    (hatom : part.isAtom = true) (hp : members.lookup key = some part) :
    others.lookup key = some part := by
  obtain ⟨other, ho, hr⟩ := h key part hp
  cases hr with
  | refl => exact ho
  | array => cases hatom
  | object => cases hatom

theorem SameParts.string (h : members.SameParts others) (key : String) {text : String}
    (hp : members.lookup key = some (.string text)) : others.string? key = some text := by
  rw [string?, h.atom key rfl hp]
  rfl

theorem SameParts.items (h : members.SameParts others) (key : String) {items : List Json}
    (hp : members.lookup key = some (.array items)) :
    ∃ parts, others.items? key = some parts ∧ List.Forall₂ Reordered items parts := by
  obtain ⟨other, ho, hr⟩ := h key _ hp
  rw [items?, ho]
  cases hr with
  | refl => exact ⟨items, rfl, List.forall₂_same.mpr (fun item _ => .refl item)⟩
  | array parts => exact ⟨_, rfl, parts⟩

end Members

/-! ## The reader -/

namespace Json

/-- The boolean that a value is. -/
def flag? : Json → Option Bool
  | .bool value => some value
  | _ => none

/-- The bound that a value stands for; null stands for none. -/
def bound? : Json → Option (Option Int)
  | .null => some none
  | .int bound => some (some bound)
  | _ => none

theorem bound?_ofInt? (bound : Option Int) : (ofInt? bound).bound? = some bound := by
  cases bound <;> rfl

theorem weightOfItems_lt_of_items? {members : Members} {key : String} {items : List Json}
    (h : members.items? key = some items) :
    weightOfItems items < (Json.object members).weight := by
  have hlt := Convert.weight_lookup_lt (Convert.items?_eq_some h)
  rw [weight] at hlt
  omega

end Json

theorem Primitive.ofName?_name (kind : Primitive) : ofName? kind.name = some kind := by
  cases kind <;> rfl

/-- The constraint that a value is the tagged form of; null stands for none. -/
def Constraint.ofTagged? : Json → Option (Option Constraint)
  | .null => some none
  | .object members =>
    match Members.string? members "kind" with
    | some "fixed" => do return some (.fixed (← members.lookup "value"))
    | some "range" => do return some (.range (← members.lookup "low") (← members.lookup "high"))
    | _ => none
  | _ => none

namespace Schema

mutual

/-- The schema that a value is the tagged tree of. -/
def ofTagged? (value : Json) : Option (Schema Json) :=
  match value with
  | .object members =>
    match Members.string? members "kind" with
    | some "primitive" => do
      return .leaf (← (Members.string? members "type").bind Primitive.ofName?)
        (← (members.lookup "constraint").bind Constraint.ofTagged?)
    | some "object" => do
      let fields ← (Members.items? members "fields").pbind (fun fields _ => fieldsOfTagged? fields)
      return .object (← members.lookup "name") (← members.lookup "description") fields
    | some "array" => do
      let element ← (members.lookup "element").pbind (fun element _ => ofTagged? element)
      return .array element (← (members.lookup "min_elements").bind bound?)
        (← (members.lookup "max_elements").bind bound?)
    | some "union" => do
      let branches ← (Members.items? members "branches").pbind
        (fun branches _ => branchesOfTagged? branches)
      return .union (← members.lookup "name") (← members.lookup "description") branches
    | _ => none
  | _ => none
termination_by (value.weight, 0)
decreasing_by
  · exact .left _ _ (weightOfItems_lt_of_items? ‹_›)
  · exact .left _ _ (Convert.weight_lookup_lt ‹_›)
  · exact .left _ _ (weightOfItems_lt_of_items? ‹_›)

/-- The field that a value is the tagged form of. -/
def fieldOfTagged? (value : Json) : Option (Field (Schema Json)) :=
  match value with
  | .object members => do
    let schema ← (members.lookup "schema").pbind (fun schema _ => ofTagged? schema)
    return ⟨← Members.string? members "name", ← members.lookup "description", schema,
      ← (members.lookup "is_optional").bind flag?⟩
  | _ => none
termination_by (value.weight, 1)
decreasing_by exact .left _ _ (Convert.weight_lookup_lt ‹_›)

def fieldsOfTagged? (values : List Json) : Option (List (Field (Schema Json))) :=
  match values with
  | [] => some []
  | value :: rest => do return (← fieldOfTagged? value) :: (← fieldsOfTagged? rest)
termination_by (weightOfItems values, 2)
decreasing_by
  · exact Prod.Lex.right' _ weight_head_le Nat.one_lt_two
  · exact .left _ _ weight_tail_lt

def branchesOfTagged? (values : List Json) : Option (List (Schema Json)) :=
  match values with
  | [] => some []
  | value :: rest => do return (← ofTagged? value) :: (← branchesOfTagged? rest)
termination_by (weightOfItems values, 2)
decreasing_by
  · exact Prod.Lex.right' _ weight_head_le Nat.two_pos
  · exact .left _ _ weight_tail_lt

end

end Schema

/-! ## Reading back -/

/-- The values of the constraint are no arrays and no objects. -/
def Constraint.hasAtoms : Constraint → Bool
  | .fixed value => value.isAtom
  | .range low high => low.isAtom && high.isAtom

theorem Constraint.ofTagged?_of_reordered {constraint : Constraint} {value : Json}
    (h : constraint.hasAtoms = true) (hr : Reordered constraint.tagged value) :
    ofTagged? value = some (some constraint) := by
  cases constraint with
  | fixed pinned =>
    obtain ⟨others, rfl, hparts⟩ := hr.exists_object (by simp [Members.keys])
    have hkind : others.string? "kind" = some "fixed" := hparts.string "kind" rfl
    have hvalue : others.lookup "value" = some pinned := hparts.atom "value" h rfl
    rw [ofTagged?, hkind]
    simp [hvalue]
  | range low high =>
    rw [hasAtoms, Bool.and_eq_true] at h
    obtain ⟨others, rfl, hparts⟩ := hr.exists_object (by simp [Members.keys])
    have hkind : others.string? "kind" = some "range" := hparts.string "kind" rfl
    have hlow : others.lookup "low" = some low := hparts.atom "low" h.1 rfl
    have hhigh : others.lookup "high" = some high := hparts.atom "high" h.2 rfl
    rw [ofTagged?, hkind]
    simp [hlow, hhigh]

namespace Schema

/-- The names, descriptions and constraint values of the schema are no arrays and no objects. -/
inductive HasAtoms : Schema Json → Prop where
  | leaf {kind : Primitive} {constraint : Option Constraint}
      (pinned : ∀ c, constraint = some c → c.hasAtoms = true) : HasAtoms (.leaf kind constraint)
  | object {name description : Json} {fields : List (Field (Schema Json))}
      (named : name.isAtom = true) (described : description.isAtom = true)
      (descriptions : ∀ field ∈ fields, field.description.isAtom = true)
      (parts : ∀ field ∈ fields, HasAtoms field.schema) :
      HasAtoms (.object name description fields)
  | array {element : Schema Json} {least greatest : Option Int} (part : HasAtoms element) :
      HasAtoms (.array element least greatest)
  | union {name description : Json} {branches : List (Schema Json)}
      (named : name.isAtom = true) (described : description.isAtom = true)
      (parts : ∀ branch ∈ branches, HasAtoms branch) :
      HasAtoms (.union name description branches)

/-- The tagged tree is read as the schema, in whichever order its keys stand. -/
def ReadBack (schema : Schema Json) : Prop :=
  ∀ value, Reordered (schema.tagged id) value → ofTagged? value = some schema

theorem readBack_leaf {kind : Primitive} {constraint : Option Constraint}
    (pinned : ∀ c, constraint = some c → c.hasAtoms = true) :
    ReadBack (.leaf kind constraint) := by
  intro value hr
  rw [tagged] at hr
  obtain ⟨others, rfl, hparts⟩ := hr.exists_object (by simp [Members.keys])
  have hkind : others.string? "kind" = some "primitive" := hparts.string "kind" rfl
  have htype : others.string? "type" = some kind.name := hparts.string "type" rfl
  obtain ⟨other, ho, hother⟩ := hparts "constraint" _ rfl
  have hread : Constraint.ofTagged? other = some constraint := by
    cases constraint with
    | none =>
      cases hother
      rfl
    | some c => exact Constraint.ofTagged?_of_reordered (pinned c rfl) hother
  rw [ofTagged?]
  simp [hkind, htype, ho, hread, Primitive.ofName?_name]

/-- What stands under a name is read as the field of this name. -/
theorem fieldOfTagged?_of_reordered (name : String) (slot : Slot (Schema Json)) {value : Json}
    (hd : slot.description.isAtom = true) (h : ReadBack slot.schema)
    (hr : Reordered (taggedSlot id (.string name) slot) value) :
    fieldOfTagged? value = some (slot.named name) := by
  obtain ⟨others, rfl, hparts⟩ := hr.exists_object (by simp [Members.keys])
  have hname : others.string? "name" = some name := hparts.string "name" rfl
  have hdescription : others.lookup "description" = some slot.description :=
    hparts.atom "description" hd rfl
  have hoptional : others.lookup "is_optional" = some (.bool slot.isOptional) :=
    hparts.atom "is_optional" rfl rfl
  obtain ⟨other, ho, hother⟩ := hparts "schema" _ rfl
  rw [fieldOfTagged?]
  simp [hname, hdescription, hoptional, ho, h other hother, flag?, Slot.named]

theorem fieldsOfTagged?_of_forall₂ {fields : List (Field (Schema Json))} {values : List Json}
    (hd : ∀ field ∈ fields, field.description.isAtom = true)
    (h : ∀ field ∈ fields, ReadBack field.schema)
    (hr : List.Forall₂ Reordered (taggedFields id fields) values) :
    fieldsOfTagged? values = some fields := by
  induction fields generalizing values with
  | nil =>
    cases hr
    rw [fieldsOfTagged?]
  | cons field rest ih =>
    obtain ⟨name, description, schema, isOptional⟩ := field
    rw [List.forall_mem_cons] at hd h
    cases hr with
    | cons hfirst hrest =>
      have hfield := fieldOfTagged?_of_reordered name ⟨description, schema, isOptional⟩
        hd.1 h.1 hfirst
      rw [fieldsOfTagged?, hfield, ih hd.2 h.2 hrest]
      rfl

theorem branchesOfTagged?_of_forall₂ {branches : List (Schema Json)} {values : List Json}
    (h : ∀ branch ∈ branches, ReadBack branch)
    (hr : List.Forall₂ Reordered (taggedBranches id branches) values) :
    branchesOfTagged? values = some branches := by
  induction branches generalizing values with
  | nil =>
    cases hr
    rw [branchesOfTagged?]
  | cons branch rest ih =>
    rw [List.forall_mem_cons] at h
    cases hr with
    | cons hfirst hrest =>
      rw [branchesOfTagged?, h.1 _ hfirst, ih h.2 hrest]
      rfl

theorem readBack_object {name description : Json} {fields : List (Field (Schema Json))}
    (named : name.isAtom = true) (described : description.isAtom = true)
    (descriptions : ∀ field ∈ fields, field.description.isAtom = true)
    (h : ∀ field ∈ fields, ReadBack field.schema) :
    ReadBack (.object name description fields) := by
  intro value hr
  rw [tagged] at hr
  obtain ⟨others, rfl, hparts⟩ := hr.exists_object (by simp [Members.keys])
  have hkind : others.string? "kind" = some "object" := hparts.string "kind" rfl
  have hname : others.lookup "name" = some name := hparts.atom "name" named rfl
  have hdescription : others.lookup "description" = some description :=
    hparts.atom "description" described rfl
  obtain ⟨values, hvalues, hfields⟩ := hparts.items "fields" rfl
  have hread := fieldsOfTagged?_of_forall₂ descriptions h hfields
  rw [ofTagged?]
  simp [hkind, hname, hdescription, hvalues, hread]

theorem readBack_array {element : Schema Json} (least greatest : Option Int)
    (h : ReadBack element) : ReadBack (.array element least greatest) := by
  intro value hr
  rw [tagged] at hr
  obtain ⟨others, rfl, hparts⟩ := hr.exists_object (by simp [Members.keys])
  have hkind : others.string? "kind" = some "array" := hparts.string "kind" rfl
  have hleast : others.lookup "min_elements" = some (.ofInt? least) :=
    hparts.atom "min_elements" (isAtom_ofInt? least) rfl
  have hgreatest : others.lookup "max_elements" = some (.ofInt? greatest) :=
    hparts.atom "max_elements" (isAtom_ofInt? greatest) rfl
  obtain ⟨other, ho, hother⟩ := hparts "element" _ rfl
  rw [ofTagged?]
  simp [hkind, hleast, hgreatest, ho, h other hother, bound?_ofInt?]

theorem readBack_union {name description : Json} {branches : List (Schema Json)}
    (named : name.isAtom = true) (described : description.isAtom = true)
    (h : ∀ branch ∈ branches, ReadBack branch) :
    ReadBack (.union name description branches) := by
  intro value hr
  rw [tagged] at hr
  obtain ⟨others, rfl, hparts⟩ := hr.exists_object (by simp [Members.keys])
  have hkind : others.string? "kind" = some "union" := hparts.string "kind" rfl
  have hname : others.lookup "name" = some name := hparts.atom "name" named rfl
  have hdescription : others.lookup "description" = some description :=
    hparts.atom "description" described rfl
  obtain ⟨values, hvalues, hbranches⟩ := hparts.items "branches" rfl
  have hread := branchesOfTagged?_of_forall₂ h hbranches
  rw [ofTagged?]
  simp [hkind, hname, hdescription, hvalues, hread]

theorem HasAtoms.readBack {schema : Schema Json} (h : schema.HasAtoms) : ReadBack schema := by
  induction h with
  | leaf pinned => exact readBack_leaf pinned
  | object named described descriptions _ ih =>
    exact readBack_object named described descriptions ih
  | @array _ least greatest _ ih => exact readBack_array least greatest ih
  | union named described _ ih => exact readBack_union named described ih

/--
**The tagged tree says all of a schema.** The schema is read from it, in whichever order the keys
stand, so that two schemas with the same tagged tree are the same: in their kinds, constraints,
names, descriptions, fields, bounds and branches.
-/
theorem tagged_injective {schema : Schema Json} (h : schema.HasAtoms) :
    (∀ value, Reordered (schema.tagged id) value → ofTagged? value = some schema) ∧
    ∀ other : Schema Json, other.HasAtoms → Reordered (schema.tagged id) (other.tagged id) →
      schema = other := by
  refine ⟨h.readBack, fun other hother hr => ?_⟩
  have hread : ofTagged? (other.tagged id) = some schema := h.readBack _ hr
  have hself : ofTagged? (other.tagged id) = some other := hother.readBack _ (.refl _)
  exact Option.some.inj (hread.symm.trans hself)

/-- The course of a dish is the second one. -/
def course : Slot (Schema Json) :=
  ⟨.string "", .leaf .integer (some (.range (.int 2) (.int 2))), false⟩

/-- Some dishes come with sides. -/
def sides : Slot (Schema Json) := ⟨.null, .array (.union (.string "Side") .null
  [.stringConstant "rice", .leaf .string none]) (some 0) (some 2), true⟩

def dish (description : Json) : Schema Json :=
  .object (.string "Dish") description [course.named "course", sides.named "sides"]

theorem hasAtoms_dish {description : Json} (h : description.isAtom = true) :
    (dish description).HasAtoms := by
  have hcourse : HasAtoms course.schema := .leaf (by simp [Constraint.hasAtoms, isAtom])
  have hrice : HasAtoms (.stringConstant "rice") :=
    .leaf (by simp [Constraint.hasAtoms, isAtom])
  have hother : HasAtoms (.leaf .string none) := .leaf (by simp)
  have hsides : HasAtoms sides.schema := by
    refine .array (.union rfl rfl ?_)
    simpa using And.intro hrice hother
  refine .object rfl h ?_ ?_
  · simp [isAtom, Slot.named, course, sides]
  · simpa [Slot.named] using And.intro hcourse hsides

/-- The tagged tree of a dish, with keys in the order of the alphabet. -/
def dishByKey : Json := .object [
  ("description", .null),
  ("fields", .array [
    .object [("description", .string ""), ("is_optional", .bool false), ("name", .string "course"),
      ("schema", course.schema.tagged id)],
    taggedSlot id (.string "sides") sides]),
  ("kind", .string "object"),
  ("name", .string "Dish")]

theorem reordered_dishByKey : Reordered ((dish .null).tagged id) dishByKey := by
  have hcourse : Reordered (taggedSlot id (.string "course") course)
      (.object [("description", .string ""), ("is_optional", .bool false),
        ("name", .string "course"), ("schema", course.schema.tagged id)]) :=
    .object (by decide) (.refl _) (.refl _)
  refine .object (.refl _) (.cons (.refl _) (.cons (.refl _) (.cons (.refl _)
    (.cons (.array (.cons hcourse (.cons (.refl _) .nil))) .nil)))) ?_
  decide

/-- A dish is read from its tree, and is not the dish whose description is empty. -/
theorem tagged_injective_dish :
    ((dish .null).HasAtoms ∧ (dish (.string "")).HasAtoms ∧
      Reordered ((dish .null).tagged id) dishByKey) ∧
    ofTagged? dishByKey = some (dish .null) ∧
    ¬Reordered ((dish .null).tagged id) ((dish (.string "")).tagged id) := by
  have hnull : (dish .null).HasAtoms := hasAtoms_dish rfl
  have hempty : (dish (.string "")).HasAtoms := hasAtoms_dish rfl
  obtain ⟨hread, hsame⟩ := tagged_injective hnull
  refine ⟨⟨hnull, hempty, reordered_dishByKey⟩, hread dishByKey reordered_dishByKey, fun h => ?_⟩
  have hdish : dish .null = dish (.string "") := hsame _ hempty h
  simp [dish] at hdish

end Schema

end ToolSchema
