import ToolSchema.Script

/-!
# The model server

What a model server is asked, and how its replies are read. A reply is an object, a record, or a
typed model that hands out its content; all of them are brought to one form.

The server is a script of replies with a log of the requests.
-/

namespace ToolSchema

/-- What a model is asked. -/
structure Prompt where
  model : Json
  messages : Json
  tools : Json
  think : Json
  options : Json
  deriving Repr

namespace Prompt

/-- The request as it is sent. What is empty is left to the server's defaults. -/
def request (prompt : Prompt) : Json :=
  .object [("model", prompt.model), ("messages", prompt.messages),
    ("tools", prompt.tools.orElse .null), ("stream", .bool false),
    ("think", prompt.think.orElse .null), ("options", prompt.options)]

/-- A value whose elements can be counted. -/
def checkSized (value : Json) : Except Fault Unit :=
  if value.elements?.isSome then .ok () else .error (.notSized value.typeName)

/-- The messages can be counted, and so can the tools, if there are any. -/
def check (prompt : Prompt) : Except Fault Unit := do
  checkSized prompt.messages
  checkSized (prompt.tools.orElse (.array []))

end Prompt

/-- What a model server replies. -/
inductive Reply where
  /-- A typed model with this content. -/
  | model (content : Json)
  | value (value : Json)
  deriving Repr

/-- The attribute by which a typed model hands out its content. -/
def Reply.dumpName : String := "model_dump"

/-- The content of a reply. A record that looks like a typed model is taken for one, and fails. -/
def Reply.content : Reply → Except Fault Json
  | .model content => .ok content
  | .value (.object members) => .ok (.object members)
  | .value (.record attributes) =>
    match attributes.lookup Reply.dumpName with
    | some dump => .error (.notCallable dump.typeName)
    | none => .ok (.object attributes)
  | .value _ => .error .noAttributes

/-- What a model server will answer and what it was asked. -/
structure ModelServer where
  replies : Script Reply
  /-- The listings of its models, by which it shows that it can be reached. -/
  listings : Script Json
  /-- The requests, in order. -/
  requests : List Json
  /-- The server can no longer be looked at. -/
  isBroken : Bool
  deriving Repr

namespace ModelServer

/-- Asks the model, if messages and tools can be counted; its reply counts by its content. -/
def ask (prompt : Prompt) : StateM ModelServer (Except Fault Json) := fun server =>
  match prompt.check with
  | .error fault => (.error fault, server)
  | .ok () =>
    let (reply, replies) := server.replies.next
    (reply.bind Reply.content,
      { server with replies, requests := server.requests ++ [prompt.request] })

/-- Looks whether the server can be reached. -/
def check : StateM ModelServer Bool := fun server =>
  if server.isBroken then (false, server)
  else
    let (listing, listings) := server.listings.nextD .null
    (listing.toBool, { server with listings })

end ModelServer

end ToolSchema
