import Mathlib.Data.List.Forall2
import ToolSchema.Proofs.WellFormed
import ToolSchema.Reference.Pending
import ToolSchema.Schema.Supply

/-!
# Drawing names

Giving names to a schema follows its nodes, and keeps it well formed if no candidate is empty.

* `Supply.draw?_eq` — the next name is the first one that is left
* `Schema.Drawn` — a schema with its names, node by node
* `Schema.WellFormed.nameFrom` — the named schema is well formed
-/

namespace ToolSchema

theorem supplyBind {α β : Type} (x : StateT Supply Option α) (f : α → StateT Supply Option β)
    (supply : Supply) : (x >>= f) supply = (x supply).bind (fun step => f step.1 step.2) := rfl

/-- A step on a supply followed by another one succeeds as the two do. -/
theorem supplyBind_eq_some {α β : Type} {x : StateT Supply Option α}
    {f : α → StateT Supply Option β} {supply rest : Supply} {result : β} :
    (x >>= f) supply = some (result, rest) ↔
      ∃ a between, x supply = some (a, between) ∧ f a between = some (result, rest) := by
  simp only [supplyBind, Option.bind_eq_some_iff, Prod.exists]

theorem supplyPure_eq_some {α : Type} {a result : α} {supply rest : Supply} :
    (pure a : StateT Supply Option α) supply = some (result, rest) ↔
      a = result ∧ supply = rest := by
  show some (a, supply) = some (result, rest) ↔ _
  rw [Option.some.injEq, Prod.mk.injEq]

/-! ## Candidates that are left -/

namespace Supply

/-- The names that can still be drawn, in the order in which they will be. -/
def fresh (supply : Supply) : List String :=
  (supply.candidates.filter (fun name => name ∉ supply.taken)).eraseDups

/-- The number of different names that can still be drawn. -/
def left (supply : Supply) : Nat := pending supply.taken supply.candidates

theorem length_fresh (supply : Supply) : supply.fresh.length = supply.left := rfl

theorem nodup_fresh (supply : Supply) : supply.fresh.Nodup := nodup_eraseDups _

theorem fresh_ofCandidates (candidates : List String) :
    (ofCandidates candidates).fresh = candidates.eraseDups := by
  simp [fresh, ofCandidates]

/-- Candidates that are passed over are not drawn later. -/
theorem filter_dropWhile (supply : Supply) :
    (supply.candidates.dropWhile supply.taken.contains).filter (fun name => name ∉ supply.taken) =
      supply.candidates.filter (fun name => name ∉ supply.taken) := by
  have hpassed : (supply.candidates.takeWhile supply.taken.contains).filter
      (fun name => name ∉ supply.taken) = [] := by
    rw [List.filter_eq_nil_iff]
    intro name hn
    have htaken := List.all_eq_true.mp List.all_takeWhile name hn
    simpa using htaken
  conv =>
    rhs
    rw [← List.takeWhile_append_dropWhile (p := supply.taken.contains) (l := supply.candidates),
      List.filter_append, hpassed, List.nil_append]

/-- The next name that is drawn is the first one that can be. -/
theorem draw?_eq (supply : Supply) :
    (supply.fresh = [] ∧ supply.draw? = none) ∨
      ∃ name rest, supply.draw? = some (name, rest) ∧ supply.fresh = name :: rest.fresh := by
  rw [fresh, ← filter_dropWhile, draw?]
  cases hc : supply.candidates.dropWhile supply.taken.contains with
  | nil => exact .inl ⟨rfl, rfl⟩
  | cons name rest =>
    have hnew : name ∉ supply.taken := by
      have hhead := List.head?_dropWhile_not supply.taken.contains supply.candidates
      rw [hc] at hhead
      simpa using hhead
    refine .inr ⟨name, ⟨rest, name :: supply.taken⟩, rfl, ?_⟩
    rw [List.filter_cons_of_pos (by simpa using hnew), List.eraseDups_cons, List.filter_filter]
    refine congrArg (name :: ·) (congrArg List.eraseDups (List.filter_congr (fun other _ => ?_)))
    simp [not_or, Bool.beq_eq_decide_eq]

end Supply

/-! ## Naming, node by node -/

namespace Schema

variable {supply rest : Supply}

theorem nameFrom_leaf_eq_some {kind : Primitive} {constraint : Option Constraint}
    {named : Schema Json} :
    (leaf kind constraint : Schema Label).nameFrom supply = some (named, rest) ↔
      .leaf kind constraint = named ∧ supply = rest := by
  rw [Schema.nameFrom, supplyPure_eq_some]

/-- An object draws its own name first, then those of its fields. -/
theorem nameFrom_object_eq_some {label : Label} {description : Json}
    {fields : List (Field (Schema Label))} {named : Schema Json} :
    (object label description fields).nameFrom supply = some (named, rest) ↔
      ∃ name between namedFields, label.nameFrom supply = some (name, between) ∧
        nameFieldsFrom fields between = some (namedFields, rest) ∧
        .object name description namedFields = named := by
  simp only [Schema.nameFrom, supplyBind_eq_some, supplyPure_eq_some]
  constructor
  · rintro ⟨name, between, hn, namedFields, _, hf, hnamed, rfl⟩
    exact ⟨name, between, namedFields, hn, hf, hnamed⟩
  · rintro ⟨name, between, namedFields, hn, hf, hnamed⟩
    exact ⟨name, between, hn, namedFields, rest, hf, hnamed, rfl⟩

theorem nameFrom_array_eq_some {element : Schema Label} {least greatest : Option Int}
    {named : Schema Json} :
    (array element least greatest).nameFrom supply = some (named, rest) ↔
      ∃ namedElement, element.nameFrom supply = some (namedElement, rest) ∧
        .array namedElement least greatest = named := by
  simp only [Schema.nameFrom, supplyBind_eq_some, supplyPure_eq_some]
  constructor
  · rintro ⟨namedElement, _, he, hnamed, rfl⟩
    exact ⟨namedElement, he, hnamed⟩
  · rintro ⟨namedElement, he, hnamed⟩
    exact ⟨namedElement, rest, he, hnamed, rfl⟩

theorem nameFrom_union_eq_some {label : Label} {description : Json}
    {branches : List (Schema Label)} {named : Schema Json} :
    (union label description branches).nameFrom supply = some (named, rest) ↔
      ∃ name between namedBranches, label.nameFrom supply = some (name, between) ∧
        nameBranchesFrom branches between = some (namedBranches, rest) ∧
        .union name description namedBranches = named := by
  simp only [Schema.nameFrom, supplyBind_eq_some, supplyPure_eq_some]
  constructor
  · rintro ⟨name, between, hn, namedBranches, _, hb, hnamed, rfl⟩
    exact ⟨name, between, namedBranches, hn, hb, hnamed⟩
  · rintro ⟨name, between, namedBranches, hn, hb, hnamed⟩
    exact ⟨name, between, hn, namedBranches, rest, hb, hnamed, rfl⟩

theorem nameFieldsFrom_nil_eq_some {named : List (Field (Schema Json))} :
    nameFieldsFrom [] supply = some (named, rest) ↔ [] = named ∧ supply = rest := by
  rw [nameFieldsFrom, supplyPure_eq_some]

theorem nameFieldsFrom_cons_eq_some {name : String} {description : Json} {schema : Schema Label}
    {isOptional : Bool} {others : List (Field (Schema Label))}
    {named : List (Field (Schema Json))} :
    nameFieldsFrom (⟨name, description, schema, isOptional⟩ :: others) supply =
        some (named, rest) ↔
      ∃ namedSchema between namedOthers, schema.nameFrom supply = some (namedSchema, between) ∧
        nameFieldsFrom others between = some (namedOthers, rest) ∧
        ⟨name, description, namedSchema, isOptional⟩ :: namedOthers = named := by
  simp only [nameFieldsFrom, supplyBind_eq_some, supplyPure_eq_some]
  constructor
  · rintro ⟨namedSchema, between, hs, namedOthers, _, ho, hnamed, rfl⟩
    exact ⟨namedSchema, between, namedOthers, hs, ho, hnamed⟩
  · rintro ⟨namedSchema, between, namedOthers, hs, ho, hnamed⟩
    exact ⟨namedSchema, between, hs, namedOthers, rest, ho, hnamed, rfl⟩

theorem nameBranchesFrom_nil_eq_some {named : List (Schema Json)} :
    nameBranchesFrom [] supply = some (named, rest) ↔ [] = named ∧ supply = rest := by
  rw [nameBranchesFrom, supplyPure_eq_some]

theorem nameBranchesFrom_cons_eq_some {branch : Schema Label} {others : List (Schema Label)}
    {named : List (Schema Json)} :
    nameBranchesFrom (branch :: others) supply = some (named, rest) ↔
      ∃ namedBranch between namedOthers, branch.nameFrom supply = some (namedBranch, between) ∧
        nameBranchesFrom others between = some (namedOthers, rest) ∧
        namedBranch :: namedOthers = named := by
  simp only [nameBranchesFrom, supplyBind_eq_some, supplyPure_eq_some]
  constructor
  · rintro ⟨namedBranch, between, hb, namedOthers, _, ho, hnamed, rfl⟩
    exact ⟨namedBranch, between, namedOthers, hb, ho, hnamed⟩
  · rintro ⟨namedBranch, between, namedOthers, hb, ho, hnamed⟩
    exact ⟨namedBranch, between, hb, namedOthers, rest, ho, hnamed, rfl⟩

end Schema

/-! ## Schemas with names drawn -/

namespace Schema

/-- The schema with names from some supply. -/
def Drawn (schema : Schema Label) (named : Schema Json) : Prop :=
  ∃ supply rest, schema.nameFrom supply = some (named, rest)

/-- The fields with names from some supply in their schemas. -/
def FieldDrawn (field : Field (Schema Label)) (named : Field (Schema Json)) : Prop :=
  ∃ schema, field.schema.Drawn schema ∧
    named = ⟨field.name, field.description, schema, field.isOptional⟩

theorem forall₂_fieldDrawn : (fields : List (Field (Schema Label))) → ∀ {supply rest named},
    nameFieldsFrom fields supply = some (named, rest) → List.Forall₂ FieldDrawn fields named
  | [], supply, rest, named, h => by
    obtain ⟨rfl, rfl⟩ := nameFieldsFrom_nil_eq_some.mp h
    exact .nil
  | ⟨name, description, schema, isOptional⟩ :: others, supply, rest, named, h => by
    obtain ⟨namedSchema, between, namedOthers, hn, ho, rfl⟩ := nameFieldsFrom_cons_eq_some.mp h
    exact .cons ⟨namedSchema, ⟨supply, between, hn⟩, rfl⟩ (forall₂_fieldDrawn others ho)

theorem forall₂_drawn : (branches : List (Schema Label)) → ∀ {supply rest named},
    nameBranchesFrom branches supply = some (named, rest) → List.Forall₂ Drawn branches named
  | [], supply, rest, named, h => by
    obtain ⟨rfl, rfl⟩ := nameBranchesFrom_nil_eq_some.mp h
    exact .nil
  | branch :: others, supply, rest, named, h => by
    obtain ⟨namedBranch, between, namedOthers, hb, ho, rfl⟩ := nameBranchesFrom_cons_eq_some.mp h
    exact .cons ⟨supply, between, hb⟩ (forall₂_drawn others ho)

theorem Drawn.leaf {kind : Primitive} {constraint : Option Constraint} {named : Schema Json}
    (h : (leaf kind constraint).Drawn named) : named = .leaf kind constraint := by
  obtain ⟨supply, rest, h⟩ := h
  exact (nameFrom_leaf_eq_some.mp h).1.symm

/-- A name that is given stays. -/
theorem Drawn.object {name description : Json} {fields : List (Field (Schema Label))}
    {named : Schema Json} (h : (Schema.object (.given name) description fields).Drawn named) :
    ∃ namedFields, List.Forall₂ FieldDrawn fields namedFields ∧
      named = .object name description namedFields := by
  obtain ⟨supply, rest, h⟩ := h
  obtain ⟨drawn, between, namedFields, hn, hf, rfl⟩ := nameFrom_object_eq_some.mp h
  obtain ⟨rfl, rfl⟩ := supplyPure_eq_some.mp hn
  exact ⟨namedFields, forall₂_fieldDrawn fields hf, rfl⟩

theorem find?_fieldDrawn {fields : List (Field (Schema Label))} {named : List (Field (Schema Json))}
    (h : List.Forall₂ FieldDrawn fields named) (key : String) :
    Option.Rel FieldDrawn (fields.find? (·.name == key)) (named.find? (·.name == key)) := by
  induction h with
  | nil => exact .none
  | @cons field namedField _ _ hfield _ ih =>
    have hname : namedField.name = field.name := by
      obtain ⟨schema, _, rfl⟩ := hfield
      rfl
    rw [List.find?_cons, List.find?_cons, hname]
    cases field.name == key with
    | true => exact .some hfield
    | false => exact ih

/-- The field of a key is still there, with the names that were drawn for it. -/
theorem Drawn.field? {schema : Schema Label} {named : Schema Json} (h : schema.Drawn named)
    (key : String) : Option.Rel FieldDrawn (schema.field? key) (named.field? key) := by
  obtain ⟨supply, rest, h⟩ := h
  cases schema with
  | leaf kind constraint =>
    obtain ⟨rfl, _⟩ := nameFrom_leaf_eq_some.mp h
    exact .none
  | object label description fields =>
    obtain ⟨name, between, namedFields, _, hf, rfl⟩ := nameFrom_object_eq_some.mp h
    exact find?_fieldDrawn (forall₂_fieldDrawn fields hf) key
  | array element least greatest =>
    obtain ⟨namedElement, _, rfl⟩ := nameFrom_array_eq_some.mp h
    exact .none
  | union label description branches =>
    obtain ⟨name, between, namedBranches, _, _, rfl⟩ := nameFrom_union_eq_some.mp h
    exact .none

theorem Drawn.array {element : Schema Label} {least greatest : Option Int} {named : Schema Json}
    (h : (Schema.array element least greatest).Drawn named) :
    ∃ namedElement, element.Drawn namedElement ∧ named = .array namedElement least greatest := by
  obtain ⟨supply, rest, h⟩ := h
  obtain ⟨namedElement, he, rfl⟩ := nameFrom_array_eq_some.mp h
  exact ⟨namedElement, ⟨supply, rest, he⟩, rfl⟩

theorem Drawn.union {label : Label} {description : Json} {branches : List (Schema Label)}
    {named : Schema Json} (h : (Schema.union label description branches).Drawn named) :
    ∃ name namedBranches, List.Forall₂ Drawn branches namedBranches ∧
      named = .union name description namedBranches := by
  obtain ⟨supply, rest, h⟩ := h
  obtain ⟨name, between, namedBranches, _, hb, rfl⟩ := nameFrom_union_eq_some.mp h
  exact ⟨name, namedBranches, forall₂_drawn branches hb, rfl⟩

end Schema

/-! ## Well-formed names -/

/-- No candidate is empty. -/
def Supply.NonEmpty (supply : Supply) : Prop := ∀ candidate ∈ supply.candidates, candidate ≠ ""

theorem Supply.NonEmpty.draw? {supply rest : Supply} {name : String} (h : supply.NonEmpty)
    (hd : supply.draw? = some (name, rest)) : name ≠ "" ∧ rest.NonEmpty := by
  have hsub : ∀ candidate ∈ supply.candidates.dropWhile supply.taken.contains, candidate ≠ "" :=
    fun candidate hc => h candidate (List.dropWhile_sublist _ |>.mem hc)
  unfold Supply.draw? at hd
  split at hd
  · cases hd
  · next first others hc =>
    cases hd
    rw [hc] at hsub
    exact ⟨hsub _ List.mem_cons_self, fun c hm => hsub c (List.mem_cons_of_mem _ hm)⟩

theorem Label.IsName.nameFrom {label : Label} {supply rest : Supply} {name : Json}
    (hs : supply.NonEmpty) (h : label.nameFrom supply = some (name, rest)) :
    (label.IsName → IsText name) ∧ rest.NonEmpty := by
  cases label with
  | given value =>
    obtain ⟨rfl, rfl⟩ := supplyPure_eq_some.mp h
    exact ⟨fun hn => hn, hs⟩
  | generated =>
    obtain ⟨text, between, hd, h⟩ := supplyBind_eq_some.mp h
    obtain ⟨rfl, rfl⟩ := supplyPure_eq_some.mp h
    obtain ⟨htext, hrest⟩ := hs.draw? hd
    exact ⟨fun _ => ⟨text, htext, rfl⟩, hrest⟩

namespace Schema

mutual

/-- **Names that are drawn keep a schema well formed.** -/
theorem WellFormed.nameFrom {inField : Bool} : (schema : Schema Label) → ∀ {supply rest named},
    supply.NonEmpty → schema.nameFrom supply = some (named, rest) →
    (WellFormed Label.IsName inField schema → WellFormed IsText inField named) ∧ rest.NonEmpty
  | .leaf kind constraint, supply, rest, named, hs, h => by
    obtain ⟨rfl, rfl⟩ := nameFrom_leaf_eq_some.mp h
    refine ⟨fun hw => ?_, hs⟩
    cases hw with
    | leaf fits => exact .leaf fits
  | .object label description fields, supply, rest, named, hs, h => by
    obtain ⟨name, between, namedFields, hn, hf, rfl⟩ := nameFrom_object_eq_some.mp h
    obtain ⟨hname, hs⟩ := Label.IsName.nameFrom hs hn
    obtain ⟨hnames, hfields, hs⟩ := WellFormed.nameFieldsFrom fields hs hf
    refine ⟨fun hw => ?_, hs⟩
    cases hw with
    | object named distinct parts => exact .object (hname named) (by rwa [hnames]) (hfields parts)
  | .array element least greatest, supply, rest, named, hs, h => by
    obtain ⟨namedElement, he, rfl⟩ := nameFrom_array_eq_some.mp h
    obtain ⟨helement, hs⟩ := WellFormed.nameFrom element hs he
    refine ⟨fun hw => ?_, hs⟩
    cases hw with
    | array part bounds => exact .array (helement part) bounds
  | .union label description branches, supply, rest, named, hs, h => by
    obtain ⟨name, between, namedBranches, hn, hb, rfl⟩ := nameFrom_union_eq_some.mp h
    obtain ⟨hname, hs⟩ := Label.IsName.nameFrom hs hn
    obtain ⟨hbranches, hs⟩ := WellFormed.nameBranchesFrom branches hs hb
    refine ⟨fun hw => ?_, hs⟩
    cases hw with
    | union named parts => exact .union (fun hf => hname (named hf)) (hbranches parts)

theorem WellFormed.nameFieldsFrom : (fields : List (Field (Schema Label))) →
    ∀ {supply rest named}, supply.NonEmpty → nameFieldsFrom fields supply = some (named, rest) →
    named.map Field.name = fields.map Field.name ∧
    ((∀ field ∈ fields, WellFormed Label.IsName true field.schema) →
      ∀ field ∈ named, WellFormed IsText true field.schema) ∧ rest.NonEmpty
  | [], supply, rest, named, hs, h => by
    obtain ⟨rfl, rfl⟩ := nameFieldsFrom_nil_eq_some.mp h
    exact ⟨rfl, fun _ field hf => (List.not_mem_nil hf).elim, hs⟩
  | ⟨name, description, schema, isOptional⟩ :: others, supply, rest, named, hs, h => by
    obtain ⟨namedSchema, between, namedOthers, hn, ho, rfl⟩ := nameFieldsFrom_cons_eq_some.mp h
    obtain ⟨hschema, hs⟩ := WellFormed.nameFrom schema hs hn
    obtain ⟨hnames, hothers, hs⟩ := WellFormed.nameFieldsFrom others hs ho
    refine ⟨by simp [hnames], fun hw => ?_, hs⟩
    rw [List.forall_mem_cons] at hw ⊢
    exact ⟨hschema hw.1, hothers hw.2⟩

theorem WellFormed.nameBranchesFrom : (branches : List (Schema Label)) →
    ∀ {supply rest named}, supply.NonEmpty → nameBranchesFrom branches supply = some (named, rest) →
    ((∀ branch ∈ branches, WellFormed Label.IsName false branch) →
      ∀ branch ∈ named, WellFormed IsText false branch) ∧ rest.NonEmpty
  | [], supply, rest, named, hs, h => by
    obtain ⟨rfl, rfl⟩ := nameBranchesFrom_nil_eq_some.mp h
    exact ⟨fun _ branch hb => (List.not_mem_nil hb).elim, hs⟩
  | branch :: others, supply, rest, named, hs, h => by
    obtain ⟨namedBranch, between, namedOthers, hn, ho, rfl⟩ := nameBranchesFrom_cons_eq_some.mp h
    obtain ⟨hbranch, hs⟩ := WellFormed.nameFrom branch hs hn
    obtain ⟨hothers, hs⟩ := WellFormed.nameBranchesFrom others hs ho
    refine ⟨fun hw => ?_, hs⟩
    rw [List.forall_mem_cons] at hw ⊢
    exact ⟨hbranch hw.1, hothers hw.2⟩

end

end Schema

end ToolSchema
