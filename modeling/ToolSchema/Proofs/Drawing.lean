import ToolSchema.Proofs.Naming

/-!
# What is drawn from a supply

A supply hands out the first occurrences of its candidates, in order. A program that draws from it
gets its names from there and leaves what comes after them (`Supply.Draws`).

* `Supply.map_drawMany?` — the names that a supply hands out
* `NodeName` — a name, and whether it was drawn
* `Schema.draws_nameFrom` — the drawn names of a schema are those that were handed out
* `Schema.exists_nameFrom` — enough names suffice
-/

namespace ToolSchema

namespace Supply

/-! ## Programs that draw -/

variable {α β : Type}

/-- The program draws `count` names. With these left it comes to its end and gives a value that goes
with them, and what comes after them is left on. With fewer it gives none. -/
structure Draws (count : Nat) (R : α → List String → Prop) (program : StateT Supply Option α) :
    Prop where
  enough : ∀ supply : Supply, count ≤ supply.fresh.length →
    ∃ value rest, program supply = some (value, rest) ∧ rest.fresh = supply.fresh.drop count ∧
      R value (supply.fresh.take count)
  short : ∀ supply : Supply, supply.fresh.length < count → program supply = none

variable {R : α → List String → Prop} {S : β → List String → Prop}

theorem draws_pure {value : α} (h : R value []) : Draws 0 R (pure value) where
  enough supply _ := ⟨value, supply, rfl, rfl, h⟩
  short _ hless := absurd hless (Nat.not_lt_zero _)

theorem draws_draw? :
    Draws 1 (fun name names => names = [name]) (draw? : StateT Supply Option String) where
  enough := by
    intro supply h
    obtain ⟨hempty, -⟩ | ⟨name, rest, hdraw, hfresh⟩ := supply.draw?_eq
    · rw [hempty] at h
      exact absurd h (Nat.not_succ_le_zero 0)
    · exact ⟨name, rest, hdraw, by rw [hfresh]; rfl, by rw [hfresh]; rfl⟩
  short := by
    intro supply h
    obtain ⟨-, hdraw⟩ | ⟨name, rest, -, hfresh⟩ := supply.draw?_eq
    · exact hdraw
    · rw [hfresh, List.length_cons] at h
      omega

/-- One program after another draws what the two draw. -/
theorem Draws.bind {first : StateT Supply Option α} {next : α → StateT Supply Option β}
    {m n : Nat} (h : Draws m R first)
    (hnext : ∀ value front, R value front →
      Draws n (fun result back => S result (front ++ back)) (next value)) :
    Draws (m + n) S (first >>= next) where
  enough := by
    intro supply hleft
    obtain ⟨value, between, hfirst, hbetween, hvalue⟩ := h.enough supply (by omega)
    have hrest : n ≤ between.fresh.length := by
      rw [hbetween, List.length_drop]
      omega
    obtain ⟨result, rest, hsecond, hlast, hresult⟩ :=
      (hnext value _ hvalue).enough between hrest
    refine ⟨result, rest, supplyBind_eq_some.mpr ⟨value, between, hfirst, hsecond⟩, ?_, ?_⟩
    · rw [hlast, hbetween, List.drop_drop]
    · rw [List.take_add, ← hbetween]
      exact hresult
  short := by
    intro supply hleft
    rw [supplyBind]
    rcases Nat.lt_or_ge supply.fresh.length m with hless | hmore
    · rw [h.short supply hless]
      rfl
    · obtain ⟨value, between, hfirst, hbetween, hvalue⟩ := h.enough supply hmore
      have hrest : between.fresh.length < n := by
        rw [hbetween, List.length_drop]
        omega
      rw [hfirst]
      exact (hnext value _ hvalue).short between hrest

theorem Draws.map {program : StateT Supply Option α} {count : Nat} {f : α → β}
    (h : Draws count R program) (hf : ∀ value names, R value names → S (f value) names) :
    Draws count S (do return f (← program)) := by
  refine Draws.bind (n := 0) h (fun value front hvalue => draws_pure ?_)
  rw [List.append_nil]
  exact hf value front hvalue

/-! ## Handing out -/

/-- A supply hands out the names that it has left, in order. -/
theorem draws_drawMany? (count : Nat) :
    Draws count (fun names handed => names = handed) (fun supply => supply.drawMany? count) := by
  induction count with
  | zero => exact draws_pure rfl
  | succ count ih =>
    have hboth : Draws (1 + count) (fun names handed => names = handed) (do
        let name ← (draw? : StateT Supply Option String)
        return name :: (← fun supply => supply.drawMany? count)) := by
      refine draws_draw?.bind (fun name front hfront => ih.map ?_)
      rintro names _ rfl
      rw [hfront]
      rfl
    rw [Nat.add_comm] at hboth
    exact hboth

/-- The names that are handed out are the first occurrences of the candidates, in order. -/
theorem map_drawMany? (candidates : List String) (count : Nat) :
    ((ofCandidates candidates).drawMany? count).map Prod.fst =
      if count ≤ candidates.eraseDups.length then some (candidates.eraseDups.take count)
      else none := by
  rw [← fresh_ofCandidates]
  split
  · next h =>
    obtain ⟨names, rest, hmany, -, rfl⟩ := (draws_drawMany? count).enough _ h
    rw [show (ofCandidates candidates).drawMany? count = _ from hmany]
    rfl
  · next h =>
    rw [show (ofCandidates candidates).drawMany? count = none from
      (draws_drawMany? count).short _ (Nat.lt_of_not_le h)]
    rfl

end Supply

/-! ## Names with their origin -/

/-- The name of a node, and where it comes from. -/
inductive NodeName where
  | given (name : Json)
  | drawn (name : String)

namespace NodeName

/-- What was known of the name before it was drawn. -/
def label : NodeName → Label
  | given name => .given name
  | drawn _ => .generated

def toJson : NodeName → Json
  | given name => name
  | drawn name => .string name

/-- The name, if it was drawn. -/
def drawn? : NodeName → Option String
  | given _ => none
  | drawn name => some name

end NodeName

/-- Draws the name of a label that is not given one. -/
def Label.draw (label : Label) : StateT Supply Option NodeName :=
  match label with
  | .given name => pure (.given name)
  | .generated => do return .drawn (← Supply.draw?)

/-- How many names a label takes. -/
def Label.demand (label : Label) : Nat := [label].count .generated

theorem Label.draws_draw (label : Label) :
    Supply.Draws label.demand (fun name names => name.label = label ∧ names = name.drawn?.toList)
      label.draw := by
  cases label with
  | given name => exact Supply.draws_pure ⟨rfl, rfl⟩
  | generated => exact Supply.draws_draw?.map (fun name names h => ⟨rfl, h⟩)

theorem Label.draws_nameFrom (label : Label) :
    Supply.Draws label.demand (fun name names => ∃ origin : NodeName, origin.label = label ∧
      origin.toJson = name ∧ names = origin.drawn?.toList) label.nameFrom := by
  cases label with
  | given name => exact Supply.draws_pure ⟨.given name, rfl, rfl, rfl⟩
  | generated => exact Supply.draws_draw?.map (fun name names h => ⟨.drawn name, rfl, rfl, h⟩)

theorem drawn_cons (name : NodeName) (rest : List NodeName) :
    (name :: rest).filterMap NodeName.drawn? =
      name.drawn?.toList ++ rest.filterMap NodeName.drawn? := by
  cases name <;> rfl

namespace Schema

/-- The names that were drawn for a tree, a node before what is below it. -/
def drawn (tree : Schema NodeName) : List String := tree.names.filterMap NodeName.drawn?

/-- Without names the tree is `schema`, and with them it is `named`; `names` were drawn for it. -/
def Origin (schema : Schema Label) (named : Schema Json) (names : List String) : Prop :=
  ∃ tree : Schema NodeName, tree.map NodeName.label = schema ∧
    tree.map NodeName.toJson = named ∧ tree.drawn = names

def FieldsOrigin (fields : List (Field (Schema Label))) (named : List (Field (Schema Json)))
    (names : List String) : Prop :=
  ∃ tree : List (Field (Schema NodeName)), mapFields NodeName.label tree = fields ∧
    mapFields NodeName.toJson tree = named ∧
    (namesOfFields tree).filterMap NodeName.drawn? = names

def BranchesOrigin (branches : List (Schema Label)) (named : List (Schema Json))
    (names : List String) : Prop :=
  ∃ tree : List (Schema NodeName), mapBranches NodeName.label tree = branches ∧
    mapBranches NodeName.toJson tree = named ∧
    (namesOfBranches tree).filterMap NodeName.drawn? = names

mutual

/-- The names that a schema gets are those that the supply hands out, each node in its turn. -/
theorem draws_nameFrom : (schema : Schema Label) →
    Supply.Draws (schema.names.count .generated) schema.Origin schema.nameFrom
  | .leaf kind constraint => Supply.draws_pure ⟨.leaf kind constraint, rfl, rfl, rfl⟩
  | .object label description fields => by
    rw [names, ← List.singleton_append, List.count_append, Schema.nameFrom]
    refine label.draws_nameFrom.bind ?_
    rintro _ _ ⟨origin, rfl, rfl, rfl⟩
    refine (draws_nameFieldsFrom fields).map ?_
    rintro _ _ ⟨tree, rfl, rfl, rfl⟩
    exact ⟨.object origin description tree, rfl, rfl, drawn_cons origin _⟩
  | .array element least greatest => by
    rw [Schema.nameFrom]
    refine (draws_nameFrom element).map ?_
    rintro _ _ ⟨tree, rfl, rfl, rfl⟩
    exact ⟨.array tree least greatest, rfl, rfl, rfl⟩
  | .union label description branches => by
    rw [names, ← List.singleton_append, List.count_append, Schema.nameFrom]
    refine label.draws_nameFrom.bind ?_
    rintro _ _ ⟨origin, rfl, rfl, rfl⟩
    refine (draws_nameBranchesFrom branches).map ?_
    rintro _ _ ⟨tree, rfl, rfl, rfl⟩
    exact ⟨.union origin description tree, rfl, rfl, drawn_cons origin _⟩

theorem draws_nameFieldsFrom : (fields : List (Field (Schema Label))) →
    Supply.Draws ((namesOfFields fields).count .generated) (FieldsOrigin fields)
      (nameFieldsFrom fields)
  | [] => Supply.draws_pure ⟨[], rfl, rfl, rfl⟩
  | ⟨name, description, schema, isOptional⟩ :: rest => by
    rw [namesOfFields, List.count_append, nameFieldsFrom]
    refine (draws_nameFrom schema).bind ?_
    rintro _ _ ⟨tree, rfl, rfl, rfl⟩
    refine (draws_nameFieldsFrom rest).map ?_
    rintro _ _ ⟨others, rfl, rfl, rfl⟩
    exact ⟨⟨name, description, tree, isOptional⟩ :: others, rfl, rfl, List.filterMap_append⟩

theorem draws_nameBranchesFrom : (branches : List (Schema Label)) →
    Supply.Draws ((namesOfBranches branches).count .generated) (BranchesOrigin branches)
      (nameBranchesFrom branches)
  | [] => Supply.draws_pure ⟨[], rfl, rfl, rfl⟩
  | branch :: rest => by
    rw [namesOfBranches, List.count_append, nameBranchesFrom]
    refine (draws_nameFrom branch).bind ?_
    rintro _ _ ⟨tree, rfl, rfl, rfl⟩
    refine (draws_nameBranchesFrom rest).map ?_
    rintro _ _ ⟨others, rfl, rfl, rfl⟩
    exact ⟨tree :: others, rfl, rfl, List.filterMap_append⟩

end

/-- **A supply with enough candidates names every node.** -/
theorem exists_nameFrom (schema : Schema Label) (supply : Supply)
    (h : schema.names.count .generated ≤ supply.left) :
    ∃ named rest, schema.nameFrom supply = some (named, rest) ∧
      supply.left ≤ rest.left + schema.names.count .generated := by
  obtain ⟨named, rest, hn, hfresh, -⟩ := schema.draws_nameFrom.enough supply h
  refine ⟨named, rest, hn, ?_⟩
  rw [← Supply.length_fresh rest, hfresh, List.length_drop, Supply.length_fresh]
  omega

end Schema

end ToolSchema
