import ToolSchema.Release
import ToolSchema.Service.Chat
import ToolSchema.Service.Content
import ToolSchema.Service.Location
import ToolSchema.Service.Origin
import ToolSchema.Service.Route
import ToolSchema.Service.Tools

/-!
# The service

`Service.handle` answers a request. The path decides which endpoint it is for. What a request
carries is read before anything else is looked at, so that malformed JSON is refused first; then the
peers that the endpoint needs have to be there, and only then is the content checked.

A request that fails in an unforeseen way is answered with an error that says nothing, not even to
pages of other origins.
-/

namespace ToolSchema

namespace Service

/-- Says how the service is. -/
def health (app : App) : Response × App :=
  let (reached, model) :=
    if app.isStarted then
      let (reached, model) := ModelServer.check app.model
      (Json.bool reached, model)
    else (Json.null, app.model)
  (.plain 200 (.json (.object [("status", .string "ok"),
    ("version", .string programVersion),
    ("ollama_connected", reached),
    ("ollama_host", if app.isStarted then .string app.settings.modelHost else .null),
    ("mcp_connected", .bool app.bridge.isConnected),
    ("mcp_server_url", .ofString? app.settings.toolServerUrl),
    ("tool_count", .int app.tools.length)])), { app with model })

/-- Carries out what the content of a request asks of an endpoint. -/
def withContent (request : Request) (act : Option Json → StateM App (Handled Response)) :
    StateM App (Handled Response) := fun app =>
  match request.content? with
  | .error interruption => (.error interruption, app)
  | .ok content => act content app

/-- Answers a request to an endpoint. -/
def serve (naming : Naming) (endpoint : Endpoint) (request : Request) :
    StateM App (Handled Response) := fun app =>
  match endpoint with
  | .health => let (response, app) := health app; (.ok response, app)
  | .convert => withContent request (fun content app => (convert naming content, app)) app
  | .listTools => (listTools naming app.tools, app)
  | .showTool name => (showTool naming app.tools name, app)
  | .callTool name => withContent request (callTool name) app
  | .chat => withContent request (chat naming) app
  | .chatStream => withContent request (chatStream naming) app

/-- Sends a request on to its path without the slashes at the end. -/
def redirect (request : Request) : Handled Response :=
  match Location.ofRequest? request (Route.withoutSlashes request.path) with
  | some location => .ok (.plain 307 (.redirect location))
  | none => .error .failed

/-- Answers a request, wherever it comes from. -/
def answer (naming : Naming) (request : Request) : StateM App (Handled Response) := fun app =>
  match Route.destination request.method request.path with
  | .endpoint endpoint => serve naming endpoint request app
  | .wrongMethod => (.ok (.detail 405 "Method Not Allowed"), app)
  | .redirect => (redirect request, app)
  | .nowhere => (.ok (.detail 404 "Not Found"), app)

/-- The response to a request that was handled, with what it says to other origins. -/
def conclude (origins : OriginHeaders) (handled : Handled Response) : Response :=
  match handled.answer? with
  | some response => { response with origins }
  | none => .crashed

/-- Answers a request whose method is in capitals. -/
def respond (naming : Naming) (request : Request) : StateM App Response := fun app =>
  match request.header? "origin" with
  | none =>
    let (handled, app) := answer naming request app
    (conclude .silent handled, app)
  | some origin =>
    let allowed := app.settings.corsOrigins
    match Origin.asked? origin request with
    | some asked => (Origin.preflight allowed asked, app)
    | none =>
      let (handled, app) := answer naming request app
      (conclude (Origin.headers allowed origin) handled, app)

/-- Answers a request, with the content left out if only the head of the response is wanted. -/
def handle (naming : Naming) (request : Request) : StateM App Response := fun app =>
  let request := { request with method := Text.upper request.method }
  let (response, app) := respond naming request app
  (if request.method = "HEAD" then response.head else response, app)

end Service

end ToolSchema
