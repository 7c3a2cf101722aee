import ToolSchema.Chat.Conversation

/-!
# Rehearsed peers

Peers that answer from scripts and keep a record of what they are asked.
-/

namespace ToolSchema

/-- What rehearsed peers will answer and what they were asked, in order. -/
structure Rehearsal where
  model : ModelServer
  results : Script ToolResult
  /-- The tool calls, by name and arguments. -/
  invocations : List (Json × Json)
  deriving Repr

namespace Rehearsal

/-- Peers with these scripts that were asked nothing. -/
def start (replies : Script Reply) (results : Script ToolResult) : Rehearsal :=
  ⟨⟨replies, [], [], false⟩, results, []⟩

/-- Asks the model. -/
def ask (prompt : Prompt) : StateM Rehearsal (Except Fault Json) := fun state =>
  let (reply, model) := ModelServer.ask prompt state.model
  (reply, { state with model })

/-- Calls a tool. -/
def invoke (name arguments : Json) : StateM Rehearsal (Except Fault ToolResult) := fun state =>
  let (result, results) := state.results.next
  (result, { state with results, invocations := state.invocations ++ [(name, arguments)] })

/-- The rehearsed peers of a conversation. -/
def peers : Peers Rehearsal := ⟨ask, invoke⟩

end Rehearsal

end ToolSchema
