import ToolSchema.Convert
import ToolSchema.Json.Reader
import ToolSchema.Schema.Document
import ToolSchema.Tool.Content
import ToolSchema.Tool.Descriptor

/-!
# Tools

A tool pairs what its server advertises with the schema of its arguments. A model gets its
definition, and what the model wants to call comes back as arguments, given as an object or as a
JSON text. Whatever happens to the call, the model reads a text about it: bad arguments, a failing
server and the content of the result all have one (`Tool.call`).
-/

namespace ToolSchema

/-- What a tool answers. -/
structure ToolResult where
  /-- What yields the chunks. -/
  content : Json
  isError : Bool
  deriving Repr

/-- How the labels of a schema become names. -/
abbrev Naming := Schema Label → Schema Json

namespace Descriptor

/-- The schema document of the arguments, as far as its keys are texts. -/
def document (descriptor : Descriptor) : Json := .object descriptor.arguments.members

/-- The schema of the arguments. A document without a title is named after the tool. -/
def parameters (descriptor : Descriptor) : Except Fault (Schema Label) :=
  (Convert.document descriptor.document (Label.ofName descriptor.name)).map Prod.fst

/-- The definition of a tool that a model is given. -/
def definition (naming : Naming) (descriptor : Descriptor) : Except Fault Json := do
  let schema ← descriptor.parameters
  return .object [("type", .string "function"),
    ("function", .object [("name", descriptor.name), ("description", descriptor.description),
      ("parameters", (naming schema).document id)])]

end Descriptor

namespace Tool

/-- What is sent to a tool, or what is told the model instead. -/
inductive Preparation where
  | send (arguments : Json)
  | refuse (text : String)
  deriving Repr

/-- The name of a tool in texts. -/
def quotedName (name : Json) : String := "'" ++ name.display ++ "'"

/-- The text about a call that failed. -/
def failureText (name : Json) (message : String) : String :=
  "Error calling MCP tool " ++ quotedName name ++ ": " ++ message

/--
The arguments of a call. A string is read as a JSON text, which has to hold an object; any other
value is sent as it is.
-/
def prepare (name arguments : Json) : Except Fault Preparation :=
  match arguments with
  | .string text =>
    match Json.read text with
    | .ok (.object members) => .ok (.send (.object members))
    | .ok _ => .ok (.refuse "Error: JSON root is not a dictionary, or is not valid JSON.")
    | .error (.tooManyDigits count) => .error (.integerTooLong count)
    | .error problem =>
      .ok (.refuse (failureText name (problem.message text) ++ ". Invalid JSON: " ++ text))
  | value => .ok (.send value)

/-- The text about what a tool answered. -/
def resultText (name : Json) (result : ToolResult) : Except Fault String := do
  let text ← Content.text result.content
  return "MCP tool " ++ quotedName name ++
    (if result.isError then " failed: " else " returned: ") ++ text

/-- The text about the outcome of a call that was sent. -/
def outcomeText (name : Json) : Except Fault ToolResult → Except Fault String
  | .ok result => resultText name result
  | .error fault => .ok (failureText name fault.message)

/--
Calls a tool through `invoke`, a peer with a state of its own, and gives the text for the model.
-/
def call {σ : Type} (invoke : Json → Json → StateM σ (Except Fault ToolResult))
    (name arguments : Json) : StateM σ (Except Fault String) :=
  match prepare name arguments with
  | .ok (.send arguments) => do return outcomeText name (← invoke name arguments)
  | .ok (.refuse text) => pure (.ok text)
  | .error fault => pure (.error fault)

end Tool

end ToolSchema
