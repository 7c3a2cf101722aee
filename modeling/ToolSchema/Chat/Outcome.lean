import ToolSchema.Chat

/-!
# The outcome of a chat

A listener who waits for the end of a chat puts its events together: each tool call with the result
that follows it, and the answer.
-/

namespace ToolSchema

namespace Chat

/-- A tool call with its result. -/
structure CallRecord where
  name : Json
  arguments : Json
  result : String
  deriving DecidableEq, Repr

/-- How a chat ends. -/
structure Outcome where
  content : String
  model : Json
  calls : List CallRecord
  evalCount : Json
  promptEvalCount : Json
  deriving DecidableEq, Repr

/--
The outcome that events tell, if an answer is among them. `pending` is the call that waits for its
result, and `calls` are those that have one. A result that no call waits for is left out, where it
could also have a record without a call; there is none in a chat, where every result follows its
call.
-/
def collectFrom (pending : Option (Json × Json)) (calls : List CallRecord) :
    List ChatEvent → Option Outcome
  | [] => none
  | .toolCall name arguments :: rest => collectFrom (some (name, arguments)) calls rest
  | .toolResult _ text :: rest =>
    match pending with
    | some (name, arguments) => collectFrom none (calls ++ [⟨name, arguments, text⟩]) rest
    | none => collectFrom none calls rest
  | .message content model evalCount promptEvalCount :: _ =>
    some ⟨content, model, calls, evalCount, promptEvalCount⟩

/-- The outcome that events tell, if an answer is among them. -/
def collect (events : List ChatEvent) : Option Outcome := collectFrom none [] events

/-- The outcome of a chat that was run, or why it has none. -/
def outcome {σ : Type} (run : Run σ Unit) : Except Fault Outcome :=
  match collect (run.events.map Prod.fst), run.result with
  | some outcome, _ => .ok outcome
  | none, .error fault => .error fault
  | none, .ok _ => .error .noFinalMessage

end Chat

end ToolSchema
