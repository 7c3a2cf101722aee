import ToolSchema.Schema.Tagged
import ToolSchema.Service.App
import ToolSchema.Service.Form

/-!
# The endpoints for schemas and tools

A schema document is converted; the tools of the service are listed, shown one by one and called.
-/

namespace ToolSchema

namespace Service

/-- Converts a schema document. -/
def convert (naming : Naming) (content : Option Json) : Handled Response := do
  let form ← readForm ConvertForm.check content
  let (schema, _) ← Handled.ofFallible
    (Convert.document (.object form.schema) (Label.ofName? form.name))
  let named := naming schema
  Handled.send (.object [("schema", named.tagged id), ("json_schema", named.document id)])

/-- What is shown of a tool. Its name and its description have to be texts. -/
def toolDetail (naming : Naming) (tool : Descriptor) : Handled Json := do
  let schema ← Handled.ofFallible tool.parameters
  let named := naming schema
  let name ← Handled.ofChecked (Validation.string tool.name)
  let description ← Handled.ofChecked (Validation.string tool.description)
  return .object [("name", .string name), ("description", .string description),
    ("parameters", named.document id), ("generation_schema", named.tagged id)]

/-- Shows all tools. -/
def listTools (naming : Naming) (tools : List Descriptor) : Handled Response := do
  let details ← tools.mapM (toolDetail naming)
  Handled.send (.object [("tools", .array details)])

/-- The first tool of a name. -/
def findTool (tools : List Descriptor) (name : String) : Handled Descriptor :=
  match tools.find? (fun tool => tool.name = .string name) with
  | some tool => .ok tool
  | none => .error (.answered (.error 404 "tool_not_found" ("Tool " ++ name ++ " not found")
      [("tool_name", .string name)]))

/-- Shows one tool. -/
def showTool (naming : Naming) (tools : List Descriptor) (name : String) : Handled Response := do
  let tool ← findTool tools name
  Handled.send (← toolDetail naming tool)

/-- The tool of a name and the arguments to call it with. -/
def readCall (app : App) (name : String) (content : Option Json) : Handled (Descriptor × Json) := do
  if !app.bridge.isConnected then
    throw (.answered (.error 503 "tool_bridge_unavailable" "No MCP server is connected" []))
  let form ← readForm CallForm.check content
  return (← findTool app.tools name, form.arguments)

/-- The response with the text about a call. -/
def callResult (name : String) (text : Except Fault String) : Handled Response := do
  let text ← Handled.ofFallible text
  Handled.send (.object [("tool_name", .string name), ("result", .string text)])

/-- Calls a tool. -/
def callTool (name : String) (content : Option Json) : StateM App (Handled Response) := fun app =>
  match readCall app name content with
  | .error interruption => (.error interruption, app)
  | .ok (tool, arguments) =>
    let (text, app) := Tool.call App.invoke tool.name arguments app
    (callResult name text, app)

end Service

end ToolSchema
