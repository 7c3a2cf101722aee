import ToolSchema.Chat
import ToolSchema.Json.Walk

/-!
# Streams of chat events

A client that does not want to wait is sent the events of a chat one by one. Before each of them the
connection is looked at, and a stream whose client has gone stops without a word. A stream that is
not stopped ends with `done`, or with an `error` if the chat has failed.
-/

namespace ToolSchema

/-- An event as it is sent to a client. -/
structure StreamEvent where
  name : String
  data : Json
  deriving Repr

namespace ChatEvent

/-- The event as it is sent. -/
def toStream : ChatEvent → StreamEvent
  | .toolCall name arguments =>
    ⟨"tool_call", .object [("name", name), ("arguments", arguments)]⟩
  | .toolResult name text =>
    ⟨"tool_result", .object [("name", name), ("result", .string text)]⟩
  | .message text model evalCount promptEvalCount =>
    ⟨"message", .object [("content", .string text), ("model", model),
      ("eval_count", evalCount), ("prompt_eval_count", promptEvalCount)]⟩

end ChatEvent

/-- The type of the first part of a value that no JSON text can hold. -/
def Json.unwritable? (value : Json) : Option String :=
  (value.walk.find? (fun node =>
    match node with
    | .binary _ | .record _ | .foreign => true
    | _ => false)).map Json.bareTypeName

namespace Chat

/-- The last event of a stream whose chat has failed. -/
def errorEvent (model : Json) (fault : Fault) : StreamEvent :=
  let (code, message, details) :=
    match fault with
    | .roundLimit _ _ => ("tool_loop_limit", fault.message, [])
    | _ => ("ollama_error", "Failed to generate response: " ++ fault.message,
        [("model", model)])
  ⟨"error", .object [("code", .string code), ("message", .string message),
    ("details", .object details)]⟩

/-- The last event of a stream whose chat has ended. -/
def endEvent (model : Json) : Except Fault Unit → StreamEvent
  | .ok _ => ⟨"done", .object [("model", model)]⟩
  | .error fault => errorEvent model fault

variable {σ : Type}

/--
What is sent of a chat, and the state of the peers when the stream ends. `gone` lists what the looks
at the connection show; once it is used up the client is there.
-/
def streamFrom (model : Json) (result : Except Fault Unit) (peers : σ) :
    (gone : List Bool) → List (ChatEvent × σ) → List StreamEvent × σ
  | _, [] => ([endEvent model result], peers)
  | gone, (event, state) :: rest =>
    if gone.headD false then ([], state)
    else
      match event.toStream.data.unwritable? with
      | some typeName => ([errorEvent model (.unwritable typeName)], state)
      | none =>
        let (sent, last) := streamFrom model result peers gone.tail rest
        (event.toStream :: sent, last)

/-- What is sent of a chat that was run, and the state of the peers when the stream ends. -/
def stream (model : Json) (gone : List Bool) (run : Run σ Unit) : List StreamEvent × σ :=
  streamFrom model run.result run.peers gone run.events

end Chat

end ToolSchema
