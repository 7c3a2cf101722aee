import ToolSchema.Schema.Draft

/-!
# Well-formed schemas

A schema is well formed if none of its parts contradicts another: the fields of an object have
distinct names, the bounds of an array admit some length, a constraint has the kind of its leaf,
and objects and unions have names. A union that is directly the schema of a field is named like the
field, which may be the empty text, so nothing is asked of its name.

`Draft.defect?_ofSchema` — a well-formed schema has no defect as a draft.
-/

namespace ToolSchema

/-- The constraints that a leaf of a kind may carry: a value of that kind, or a single number. -/
inductive Constraint.Fits : Primitive → Constraint → Prop where
  | bool (value : Bool) : Fits .boolean (.fixed (.bool value))
  | int (value : Int) : Fits .integer (.fixed (.int value))
  | float (value : Binary64) : Fits .number (.fixed (.float value))
  | string (value : String) : Fits .string (.fixed (.string value))
  | intPoint (value : Int) : Fits .integer (.range (.int value) (.int value))
  | floatPoint (value : Binary64) : Fits .number (.range (.float value) (.float value))

/-- The bounds of an array: absent or not negative, and in order where both are there. -/
structure BoundsFit (least greatest : Option Int) : Prop where
  leastNat : ∀ m, least = some m → 0 ≤ m
  greatestNat : ∀ n, greatest = some n → 0 ≤ n
  ordered : ∀ m n, least = some m → greatest = some n → m ≤ n

/-- A text that is not empty. -/
def IsText (value : Json) : Prop := ∃ text : String, text ≠ "" ∧ value = .string text

/-- The label gives a name that is not empty; a generated name never is. -/
def Label.IsName : Label → Prop
  | .given name => IsText name
  | .generated => True

namespace Schema

variable {ν : Type} {isName : ν → Prop}

/--
Well formed, with names as `isName` asks for; `inField` says that it is the schema of a field.
-/
inductive WellFormed (isName : ν → Prop) : (inField : Bool) → Schema ν → Prop where
  | leaf {inField : Bool} {kind : Primitive} {constraint : Option Constraint}
      (fits : ∀ c, constraint = some c → c.Fits kind) :
      WellFormed isName inField (.leaf kind constraint)
  | object {inField : Bool} {name : ν} {description : Json} {fields : List (Field (Schema ν))}
      (named : isName name) (distinct : (fields.map Field.name).Nodup)
      (parts : ∀ field ∈ fields, WellFormed isName true field.schema) :
      WellFormed isName inField (.object name description fields)
  | array {inField : Bool} {element : Schema ν} {least greatest : Option Int}
      (part : WellFormed isName false element) (bounds : BoundsFit least greatest) :
      WellFormed isName inField (.array element least greatest)
  | union {inField : Bool} {name : ν} {description : Json} {branches : List (Schema ν)}
      (named : inField = false → isName name)
      (parts : ∀ branch ∈ branches, WellFormed isName false branch) :
      WellFormed isName inField (.union name description branches)

/-- What is well formed anywhere is well formed as the schema of a field. -/
theorem WellFormed.inField {schema : Schema ν} (h : WellFormed isName false schema) :
    WellFormed isName true schema := by
  cases h with
  | leaf fits => exact .leaf fits
  | object named distinct parts => exact .object named distinct parts
  | array part bounds => exact .array part bounds
  | union named parts => exact .union (fun h => by cases h) parts

end Schema

/-! ## No defects -/

theorem twoTo_pos (n : Nat) : 0 < Binary64.twoTo n := Nat.pow_pos Nat.two_pos

/-- Integers are placed by their order. -/
theorem isBefore_ofInt (m n : Int) :
    (Binary64.Place.ofInt m).isBefore (.ofInt n) = decide (m < n) := by
  have hpos : (0 : Int) < Binary64.twoTo 1074 := Int.natCast_pos.mpr (twoTo_pos _)
  simp only [Binary64.Place.ofInt, Binary64.Place.isBefore]
  rw [decide_eq_decide]
  exact Int.mul_lt_mul_right hpos

namespace Draft

theorem primitive_name (kind : Primitive) : primitive (.string kind.name) = .ok kind := by
  cases kind <;> rfl

theorem namesDefect?_of_nodup (object : Json) {names : List String} (h : names.Nodup) :
    namesDefect? object (names.map .string) = none := by
  -- Texts can be keys, and are the same key only if they are the same text.
  have hkeys : (names.map Json.string).mapM Json.hashable = .ok (names.map .string) := by
    induction names with
    | nil => rfl
    | cons name rest ih =>
      rw [List.map_cons, List.mapM_cons, ih (List.nodup_cons.mp h).2]
      rfl
  have hdistinct : (names.map Json.string).Pairwise
      (fun name other => name.isSameKey other = false) := by
    rw [List.pairwise_map]
    refine h.imp (fun {a b} hab => ?_)
    simpa [Json.isSameKey, Json.integral?] using hab
  simp only [namesDefect?, hkeys, if_pos hdistinct]

theorem boundsDefect?_of_fit {least greatest : Option Int} (h : BoundsFit least greatest) :
    boundsDefect? (.ofInt? least) (.ofInt? greatest) = none := by
  cases least with
  | none => rfl
  | some m =>
    cases greatest with
    | none => rfl
    | some n =>
      have hle : ¬n < m := Int.not_lt.mpr (h.ordered m n rfl rfl)
      simp [boundsDefect?, Json.ofInt?, Json.exceeds, Json.place?, Json.isBehind, isBefore_ofInt,
        hle]

mutual

/-- **A well-formed schema has no defect.** -/
theorem defect?_ofSchema {isName : Json → Prop} {inField : Bool} : (schema : Schema Json) →
    Schema.WellFormed isName inField schema → (ofSchema schema).defect? = none
  | .leaf kind constraint, _ => by
    rw [ofSchema, defect?, primitive_name]
  | .object name description fields, h => by
    cases h with
    | object named distinct parts =>
      obtain ⟨hnames, hdefect⟩ := fieldsDefect?_ofFields fields parts
      rw [ofSchema, defect?, hdefect, hnames, namesDefect?_of_nodup name distinct]
      rfl
  | .array element least greatest, h => by
    cases h with
    | array part bounds =>
      rw [ofSchema, defect?, defect?_ofSchema element part, boundsDefect?_of_fit bounds]
      rfl
  | .union name description branches, h => by
    cases h with
    | union named parts => rw [ofSchema, defect?, branchesDefect?_ofBranches branches parts]

theorem fieldsDefect?_ofFields {isName : Json → Prop} : (fields : List (Field (Schema Json))) →
    (∀ field ∈ fields, Schema.WellFormed isName true field.schema) →
    (ofFields fields).map DraftField.name = (fields.map Field.name).map .string ∧
      fieldsDefect? (ofFields fields) = none
  | [], _ => ⟨rfl, rfl⟩
  | ⟨name, description, schema, isOptional⟩ :: rest, h => by
    rw [List.forall_mem_cons] at h
    obtain ⟨hnames, hdefect⟩ := fieldsDefect?_ofFields rest h.2
    refine ⟨by simp [ofFields, hnames], ?_⟩
    rw [ofFields, fieldsDefect?, defect?_ofSchema schema h.1, hdefect]
    rfl

theorem branchesDefect?_ofBranches {isName : Json → Prop} : (branches : List (Schema Json)) →
    (∀ branch ∈ branches, Schema.WellFormed isName false branch) →
    branchesDefect? (ofBranches branches) = none
  | [], _ => rfl
  | branch :: rest, h => by
    rw [List.forall_mem_cons] at h
    rw [ofBranches, branchesDefect?, defect?_ofSchema branch h.1,
      branchesDefect?_ofBranches rest h.2]
    rfl

end

end Draft

end ToolSchema
