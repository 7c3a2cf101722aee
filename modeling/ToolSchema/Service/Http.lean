import ToolSchema.Chat.Stream
import ToolSchema.Service.Target
import ToolSchema.Validation

/-!
# Requests and responses

What comes in and what goes out, as far as the service decides it. `Json.writable?` says what of a
value can be sent: numbers that are not finite become null and bytes become the text they encode.
-/

namespace ToolSchema

/-- What a request carries. -/
inductive Payload where
  | empty
  | json (value : Json)
  /-- A text that should be JSON. -/
  | text (text : String)
  deriving Repr

structure Request where
  method : String
  scheme : List Char
  /-- The server that the request is sent to, by name. -/
  server : Server
  /-- The path, escapes read. -/
  path : List Char
  /-- The query, with escapes. -/
  query : List Char
  headers : List (String × String)
  payload : Payload
  deriving Repr

/-- A request to a target, whose server has to have a name. -/
def Request.make (method : String) (target : Target) (headers : List (String × String))
    (payload : Payload) : Except NameDefect Request := do
  let host ← target.server.name?
  return {
    method
    scheme := target.scheme
    server := ⟨host, target.server.port⟩
    path := target.path
    query := target.query
    headers
    payload }

/-- The header of a name in small letters. Of headers that differ in case alone the first counts. -/
def Request.header? (request : Request) (name : String) : Option String :=
  (request.headers.find? (fun header => Text.asciiLower header.1 == name)).map Prod.snd

/-- What a response carries. -/
inductive ResponseBody where
  | empty
  /-- Nothing but another location to ask. -/
  | redirect (location : String)
  | json (value : Json)
  | text (text : String)
  /-- What is wrong with the request. -/
  | violations (violations : List Violation)
  /-- Events, one after another. -/
  | events (events : List StreamEvent)
  deriving Repr

/-- What a response says to pages of other origins. -/
structure OriginHeaders where
  /-- The origin whose pages may read the response. -/
  origin : Option String
  /-- Whether they may send credentials. -/
  credentials : Option String
  /-- The headers that they may send. -/
  headers : Option String
  deriving DecidableEq, Repr

/-- Nothing is said to pages of other origins. -/
def OriginHeaders.silent : OriginHeaders := ⟨none, none, none⟩

structure Response where
  status : Nat
  body : ResponseBody
  origins : OriginHeaders
  deriving Repr

namespace Json

/-- All numbers in the value are finite. -/
def isFinite (value : Json) : Bool :=
  value.walk.all (fun node =>
    match node with
    | .float number => number.isFinite
    | _ => true)

mutual

/-- The value as it can be sent, if it can. -/
def writable? : Json → Option Json
  | .float number => some (if number.isFinite then .float number else .null)
  | .binary bytes => (Text.decode? bytes).map .string
  | .array items => (writableItems? items).map .array
  | .object members => (writableMembers? members).map .object
  | .record _ | .foreign => none
  | value => some value

def writableItems? : List Json → Option (List Json)
  | [] => some []
  | item :: rest => do return (← item.writable?) :: (← writableItems? rest)

def writableMembers? : List (String × Json) → Option (List (String × Json))
  | [] => some []
  | (key, value) :: rest => do return (key, ← value.writable?) :: (← writableMembers? rest)

end

end Json

namespace Response

/-- The response as it is sent if only its head is wanted, to which a location belongs. -/
def head (response : Response) : Response :=
  match response.body with
  | .redirect _ => response
  | _ => { response with body := .empty }

/-- A response that says nothing to other origins. -/
def plain (status : Nat) (body : ResponseBody) : Response := ⟨status, body, .silent⟩

/-- An error that has no more to say than its name. -/
def detail (status : Nat) (text : String) : Response :=
  plain status (.json (.object [("detail", .string text)]))

/-- An error with a code, a message and details. -/
def error (status : Nat) (code message : String) (details : Members) : Response :=
  plain status (.json (.object [("detail", .object [("error", .object [("code", .string code),
    ("message", .string message), ("details", .object details)])])]))

/-- What the request carries cannot be read. -/
def unreadable : Response := detail 400 "There was an error parsing the body"

/-- The service has failed. -/
def crashed : Response := plain 500 (.text "Internal Server Error")

end Response

/-- Why a request is not carried out to its end. -/
inductive Interruption where
  /-- The request is answered at once. -/
  | answered (response : Response)
  /-- The service fails. -/
  | failed
  deriving Repr

/--
The request breaks the rules for its content. The response quotes the values that do; the service
fails if one of them holds a number that is not finite.
-/
def Interruption.refusing (violations : List Violation) : Interruption :=
  if violations.all (fun violation => violation.subject.isFinite) then
    .answered (.plain 422 (.violations violations))
  else .failed

/-- How a request is handled where nothing is asked of a peer. -/
abbrev Handled := Except Interruption

namespace Handled

variable {α : Type}

/-- A result whose fault makes the service fail. -/
def ofFallible : Except Fault α → Handled α
  | .ok value => .ok value
  | .error _ => .error .failed

/-- A check of what the service sends; a violation makes it fail. -/
def ofChecked : Checked α → Handled α
  | .valid value => .ok value
  | .invalid _ => .error .failed

/-- The response with a value, if it can be sent. -/
def send (value : Json) : Handled Response :=
  match value.writable? with
  | some value => .ok (.plain 200 (.json value))
  | none => .error .failed

/-- The response to a request that was handled. -/
def answer? : Handled Response → Option Response
  | .ok response | .error (.answered response) => some response
  | .error .failed => none

end Handled

end ToolSchema
