import ToolSchema.Chat.Outcome
import ToolSchema.Service.App
import ToolSchema.Service.Form

/-!
# The endpoints for chats

A chat is run with the tools of the service. One endpoint answers with the outcome; the other one
sends the events. Both run the same chat (`Service.converse`).
-/

namespace ToolSchema

namespace Service

/-- The tools of a chat and what is asked in it. -/
def readChat (app : App) (content : Option Json) : Handled (Toolbox × Chat.Query) := do
  if !app.isStarted then
    throw (.answered (.error 503 "ollama_unavailable" "Ollama client not initialized" []))
  let toolbox ← Handled.ofFallible (Toolbox.ofList app.tools)
  let form ← readForm (ChatForm.check .request) content
  return (toolbox, form.query app.settings)

/-- Runs a chat of the service. -/
def converse (naming : Naming) (toolbox : Toolbox) (query : Chat.Query) (app : App) :
    Run App Unit :=
  Chat.converse App.peers naming toolbox (.int app.settings.maxToolRounds) query app

/-- What is said about a tool call that was made. Its name has to be a text, and its arguments an
object or a text. -/
def callRecord (call : Chat.CallRecord) : Handled Json := do
  let name ← Handled.ofChecked (Validation.string call.name)
  let arguments ← Handled.ofChecked (CallForm.checkArguments call.arguments)
  return .object [("name", .string name), ("arguments", arguments),
    ("result", .string call.result)]

/-- What is said about a number of tokens. -/
def tokenCount (count : Json) : Handled Json := do
  return .ofInt? (← Handled.ofChecked (Validation.optional Validation.integer count))

/-- The response with the outcome of a chat. -/
def chatOutcome (outcome : Chat.Outcome) : Handled Response := do
  let calls ← outcome.calls.mapM callRecord
  let evalCount ← tokenCount outcome.evalCount
  let promptEvalCount ← tokenCount outcome.promptEvalCount
  Handled.send (.object [("model", outcome.model),
    ("message", .object [("role", .string "assistant"), ("content", .string outcome.content)]),
    ("tool_calls_executed", .array calls), ("eval_count", evalCount),
    ("prompt_eval_count", promptEvalCount)])

/-- The response to a chat that failed. -/
def chatFailure (model : Json) (fault : Fault) : Response :=
  match fault with
  | .roundLimit _ _ => .error 502 "tool_loop_limit" fault.message [("model", model)]
  | fault => .error 502 "ollama_error" ("Failed to get response from Ollama: " ++ fault.message) []

/-- The response to a chat that was run. -/
def chatResponse (model : Json) (run : Run App Unit) : Handled Response :=
  match Chat.outcome run with
  | .ok outcome => chatOutcome outcome
  | .error fault => .ok (chatFailure model fault)

/-- Runs a chat and answers with its outcome. -/
def chat (naming : Naming) (content : Option Json) : StateM App (Handled Response) := fun app =>
  match readChat app content with
  | .error interruption => (.error interruption, app)
  | .ok (toolbox, query) =>
    let run := converse naming toolbox query app
    (chatResponse query.model run, run.peers)

/-- Runs a chat and sends its events to a client that stays. -/
def chatStream (naming : Naming) (content : Option Json) : StateM App (Handled Response) :=
  fun app =>
    match readChat app content with
    | .error interruption => (.error interruption, app)
    | .ok (toolbox, query) =>
      let (events, app) := Chat.stream query.model [] (converse naming toolbox query app)
      (.ok (.plain 200 (.events events)), app)

end Service

end ToolSchema
