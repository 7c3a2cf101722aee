import ToolSchema.Fault

/-!
# Scripts

A script stands for a peer whose answers are known beforehand: a list of outcomes, each a value or a
fault, that are taken in order.
-/

namespace ToolSchema

/-- What a peer answers to the requests to come. -/
abbrev Script (α : Type) := List (Except Fault α)

/-- Takes the next outcome; a script without one left fails. -/
def Script.next {α : Type} : Script α → Except Fault α × Script α
  | [] => (.error .scriptExhausted, [])
  | outcome :: rest => (outcome, rest)

/-- Takes the next outcome; a script without one left gives `other`. -/
def Script.nextD {α : Type} (script : Script α) (other : α) : Except Fault α × Script α :=
  match script with
  | [] => (.ok other, [])
  | outcome :: rest => (outcome, rest)

end ToolSchema
