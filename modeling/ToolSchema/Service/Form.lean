import ToolSchema.Chat
import ToolSchema.Service.Http
import ToolSchema.Settings

/-!
# Forms of requests

What a request to each endpoint has to say, and how it is read from the value that the request
carries. Members without a meaning are ignored.
-/

namespace ToolSchema

/-- A request to convert a schema document. -/
structure ConvertForm where
  schema : Members
  /-- The name that is used where the document has no title. -/
  name : Option String
  deriving Repr

namespace ConvertForm

/-- The schema document under either of its names. Violations speak of the first one. -/
def checkSchema (members : Members) : Checked Members :=
  match (members.lookup "schema").or (members.lookup "json_schema") with
  | some document => (Validation.dict document).within (.key "schema")
  | none => (Checked.defective .missing (.object members)).within (.key "schema")

def check (value : Json) : Checked ConvertForm :=
  (Validation.model .request value).andThen (fun members =>
    ((Checked.valid ConvertForm.mk).apply (checkSchema members)).apply
      (Validation.withDefault members "name" none (Validation.optional Validation.string)))

end ConvertForm

/-- A request to call a tool. -/
structure CallForm where
  /-- An object, or a text that should hold one. -/
  arguments : Json
  deriving Repr

namespace CallForm

/-- Arguments are an object or a text; what is neither violates both rules. -/
def checkArguments (value : Json) : Checked Json :=
  match value with
  | .object members => .valid (.object members)
  | value =>
    match Validation.string value with
    | .valid text => .valid (.string text)
    | .invalid violations =>
      (((Checked.defective .notADict value : Checked Json).within (.key "dict[str,any]")).and
        ((Checked.invalid violations : Checked Json).within (.key "str"))).map Prod.fst

def check (value : Json) : Checked CallForm :=
  (Validation.model .request value).andThen (fun members =>
    (Checked.valid CallForm.mk).apply
      (Validation.withDefault members "arguments" (.object []) checkArguments))

end CallForm

/-- What somebody said in a conversation. -/
structure ChatMessage where
  role : String
  content : String
  deriving DecidableEq, Repr

namespace ChatMessage

def check (source : Validation.Source) (value : Json) : Checked ChatMessage :=
  (Validation.model source value).andThen (fun members =>
    ((Checked.valid ChatMessage.mk).apply
      (Validation.required members "role" Validation.string)).apply
      (Validation.withDefault members "content" "" Validation.string))

/-- The message as a model reads it. -/
def toJson (message : ChatMessage) : Json :=
  .object [("role", .string message.role), ("content", .string message.content)]

end ChatMessage

/-- A request to chat. -/
structure ChatForm where
  /-- What was said so far. -/
  messages : List ChatMessage
  model : Option String
  think : Bool
  deriving DecidableEq, Repr

namespace ChatForm

/-- A conversation has at least one message. -/
def checkMessages (source : Validation.Source) (value : Json) : Checked (List ChatMessage) :=
  (Validation.list (ChatMessage.check source) value).andThen (fun messages =>
    if messages.isEmpty then .defective .tooShort value else .valid messages)

def check (source : Validation.Source) (value : Json) : Checked ChatForm :=
  (Validation.model source value).andThen (fun members =>
    (((Checked.valid ChatForm.mk).apply
      (Validation.required members "messages" (checkMessages source))).apply
      (Validation.withDefault members "model" none (Validation.optional Validation.string))).apply
      (Validation.withDefault members "think" false Validation.boolean))

/-- The model that is asked; without a name it is the default one. -/
def modelName (settings : Settings) (form : ChatForm) : String :=
  match form.model with
  | some name => if name = "" then settings.defaultModel else name
  | none => settings.defaultModel

/-- What the model is asked. -/
def query (settings : Settings) (form : ChatForm) : Chat.Query :=
  ⟨.string (form.modelName settings), form.messages.map ChatMessage.toJson, .bool form.think⟩

end ChatForm

/-- Reads the value that a request carries; a request without one lacks all. -/
def readForm {α : Type} (check : Json → Checked α) (value : Option Json) : Handled α :=
  let checked :=
    match value with
    | some value => check value
    | none => .defective .missing .null
  match checked.within (.key "body") with
  | .valid form => .ok form
  | .invalid violations => .error (.refusing violations)

end ToolSchema
