import ToolSchema.Chat.Conversation
import ToolSchema.Chat.Thinking
import ToolSchema.Chat.Toolbox

/-!
# Chat with tools

A chat goes in rounds. In each round the model is asked with all that was said so far. It either
answers, which ends the chat, or it calls tools; the calls are made one after another, and the next
round begins with their results. A model that still calls tools after the greatest number of rounds
is cut off. That number is an integer or a boolean; with anything else there is no chat.

The replies of a model are not trusted to have any form. A member that is missing or empty counts as
empty; where a member is asked of something that has no members, the chat fails.
-/

namespace ToolSchema

namespace Chat

/-! ## Reading what a model says -/

/-- The operation that looks up a member. -/
def lookupName : String := "get"

/--
The member of an object, or `other`; anything but an object is refused, since its attributes are no
operations.
-/
def memberD (value : Json) (name : String) (other : Json) : Except Fault Json :=
  match value with
  | .object members => .ok ((members.lookup name).getD other)
  | value =>
    match value.get? lookupName with
    | some operation => .error (.notCallable operation.typeName)
    | none => .error (.missingAttribute value.typeName lookupName)

/-- The message in a response and the tool calls in the message. -/
def readResponse (response : Json) : Except Fault (Json × Json) := do
  let message := (← memberD response "message" .null).orElse (.object [])
  let calls := (← memberD message "tool_calls" .null).orElse (.array [])
  return (message, calls)

/-- The name and the arguments of a tool call. -/
def readCall (call : Json) : Except Fault (Json × Json) := do
  let function := (← memberD call "function" .null).orElse (.object [])
  let name ← memberD function "name" (.string "")
  let arguments := (← memberD function "arguments" .null).orElse (.object [])
  return (name, arguments)

/-- A text without the thinking in it; nothing but a string is searched for it. -/
def withoutThinking : Json → Except Fault String
  | .string text => .ok (Thinking.strip text)
  | .binary _ => .error .bytesSearchedForText
  | value => .error (.notSearchable value.typeName)

/-! ## Rounds -/

/-- What the history says about a round in which the model called tools. -/
def assistantEntry (message calls : Json) : Except Fault Json := do
  let content := (← memberD message "content" .null).orElse (.string "")
  return .object [("role", .string "assistant"), ("content", content), ("tool_calls", calls)]

/-- What the history says about the result of a tool call. -/
def toolEntry (name : Json) (text : String) : Json :=
  .object [("role", .string "tool"), ("tool_name", name), ("content", .string text)]

variable {σ : Type}

/-- The text about a call of the tool of this name. -/
def execute (peers : Peers σ) (toolbox : Toolbox) (name arguments : Json) :
    Conversation σ String := do
  match ← Conversation.ofExcept (toolbox.find? name) with
  | none => pure ("Error: unknown tool '" ++ name.display ++ "'")
  | some tool => Conversation.perform (Tool.call peers.invoke tool.name arguments)

/-- Makes a call and gives the entry for the history. -/
def makeCall (peers : Peers σ) (toolbox : Toolbox) (call : Json) : Conversation σ Json := do
  let (name, arguments) ← Conversation.ofExcept (readCall call)
  Conversation.tell (.toolCall name arguments)
  let text ← execute peers toolbox name arguments
  Conversation.tell (.toolResult name text)
  return toolEntry name text

/-- Makes calls one after another. -/
def makeCalls (peers : Peers σ) (toolbox : Toolbox) : List Json → Conversation σ (List Json)
  | [] => pure []
  | call :: rest => do
    let entry ← makeCall peers toolbox call
    return entry :: (← makeCalls peers toolbox rest)

/-- What a chat is about, for as long as it lasts. -/
structure Setting where
  toolbox : Toolbox
  definitions : List Json
  model : Json
  think : Json
  /-- The greatest number of rounds with tool calls. -/
  limit : Json

namespace Setting

/-- What the model is asked after this history. -/
def prompt (setting : Setting) (history : List Json) : Prompt where
  model := setting.model
  messages := .array history
  tools := .array setting.definitions
  think := setting.think
  options := .null

/-- The model has gone on for too long. -/
def exhausted (setting : Setting) : Fault := .roundLimit setting.model setting.limit

end Setting

/-- The answer of a model, told to the listener. -/
def answer (setting : Setting) (response message : Json) : Conversation σ Unit := do
  let content := (← Conversation.ofExcept (memberD message "content" .null)).orElse (.string "")
  let text ← Conversation.ofExcept (withoutThinking content)
  let evalCount ← Conversation.ofExcept (memberD response "eval_count" .null)
  let promptEvalCount ← Conversation.ofExcept (memberD response "prompt_eval_count" .null)
  Conversation.tell (.message text setting.model evalCount promptEvalCount)

/-- The rounds of a chat. In the last one the model has to answer. -/
def rounds (peers : Peers σ) (setting : Setting) :
    (remaining : Nat) → (history : List Json) → Conversation σ Unit
  | 0, _ => Conversation.ofExcept (.error setting.exhausted)
  | remaining + 1, history => do
    let response ← Conversation.perform (peers.ask (setting.prompt history))
    let (message, calls) ← Conversation.ofExcept (readResponse response)
    if !calls.isTruthy then answer setting response message
    else if remaining = 0 then Conversation.ofExcept (.error setting.exhausted)
    else
      let said ← Conversation.ofExcept (assistantEntry message calls)
      let calls ← Conversation.ofExcept calls.elements
      let results ← makeCalls peers setting.toolbox calls
      rounds peers setting remaining (history ++ said :: results)

/-- What somebody wants to chat about. -/
structure Query where
  model : Json
  messages : List Json
  think : Json
  deriving Repr

/-- How often the model is asked at most: once more than there are rounds with tool calls. -/
def requestCount (limit : Json) : Except Fault Nat :=
  match limit.counted?, limit with
  | some count, _ => .ok (count + 1).toNat
  | none, .float _ => .error (.notInteger limit.typeName)
  | none, _ => .error (.notAddable limit.typeName)

/-- A chat from its first message on. The tools are defined before the model is asked. -/
def converse (peers : Peers σ) (naming : Naming) (toolbox : Toolbox) (limit : Json)
    (query : Query) : Conversation σ Unit := do
  let definitions ← Conversation.ofExcept (toolbox.definitions naming)
  let count ← Conversation.ofExcept (requestCount limit)
  rounds peers ⟨toolbox, definitions, query.model, query.think, limit⟩ count query.messages

end Chat

end ToolSchema
