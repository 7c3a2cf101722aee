import ToolSchema.Schema

/-!
# Supplies of names

A supply draws names from a stream of candidates and hands out none twice. `Schema.nameFrom` gives
every node that is still without a name one of its own, a node before what is below it.
-/

namespace ToolSchema

/-- A source of candidates and the names that were taken from it. -/
structure Supply where
  candidates : List String
  taken : List String
  deriving DecidableEq, Repr

namespace Supply

/-- A supply from which nothing was taken. -/
def ofCandidates (candidates : List String) : Supply := ⟨candidates, []⟩

/-- Takes the next candidate that was not taken before, if one is left. -/
def draw? (supply : Supply) : Option (String × Supply) :=
  match supply.candidates.dropWhile supply.taken.contains with
  | [] => none
  | name :: rest => some (name, ⟨rest, name :: supply.taken⟩)

/-- Takes `count` names. -/
def drawMany? (supply : Supply) : (count : Nat) → Option (List String × Supply)
  | 0 => some ([], supply)
  | count + 1 => do
    let (name, supply) ← supply.draw?
    let (names, supply) ← supply.drawMany? count
    return (name :: names, supply)

end Supply

/-- The name of a label: the given one, or one that is drawn. -/
def Label.nameFrom (label : Label) : StateT Supply Option Json :=
  match label with
  | .given name => pure name
  | .generated => do return .string (← Supply.draw?)

namespace Schema

mutual

/-- The tree with its names; it is none if the supply has not enough of them. -/
def nameFrom : Schema Label → StateT Supply Option (Schema Json)
  | .leaf kind constraint => pure (.leaf kind constraint)
  | .object name description fields => do
    return .object (← name.nameFrom) description (← nameFieldsFrom fields)
  | .array element least greatest => do
    return .array (← element.nameFrom) least greatest
  | .union name description branches => do
    return .union (← name.nameFrom) description (← nameBranchesFrom branches)

def nameFieldsFrom : List (Field (Schema Label)) → StateT Supply Option (List (Field (Schema Json)))
  | [] => pure []
  | ⟨name, description, schema, isOptional⟩ :: rest => do
    return ⟨name, description, ← schema.nameFrom, isOptional⟩ :: (← nameFieldsFrom rest)

def nameBranchesFrom : List (Schema Label) → StateT Supply Option (List (Schema Json))
  | [] => pure []
  | branch :: rest => do
    return (← branch.nameFrom) :: (← nameBranchesFrom rest)

end

end Schema

end ToolSchema
