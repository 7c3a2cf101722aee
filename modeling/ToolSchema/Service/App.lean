import ToolSchema.Bridge
import ToolSchema.Chat.Conversation
import ToolSchema.Settings

/-!
# The state of the service

A service talks to a model server and, if it is given the address of one, to a tool server. When it
starts it looks at the model server and lists the tools; trouble with the tool server leaves it
without tools. When it stops it closes the connection.

* `App.start` and `App.stop` are the two ends of its life.
* `App.peers` are the peers of a chat: the model server, and the tool server behind the bridge.
-/

namespace ToolSchema

/-- The state of a service. -/
structure App where
  settings : Settings
  /-- The service was started, so it can ask its model server. -/
  isStarted : Bool
  model : ModelServer
  bridge : Bridge
  /-- The tools that were found at the start. -/
  tools : List Descriptor
  deriving Repr

namespace App

/-- A service that was not started. -/
def make (settings : Settings) (model : ModelServer) (server : ToolServer) : App where
  settings
  isStarted := false
  model
  bridge := ⟨.string (settings.toolServerUrl.getD ""), none, server⟩
  tools := []

/-- The description of a tool can be summed up in a line. -/
def isDescribed (tool : Descriptor) : Bool :=
  match tool.description with
  | .string _ | .binary _ => true
  | description => !description.isTruthy

/-- Closes the connection to the tool server. -/
def disconnect : StateM App (Except Fault Unit) := fun app =>
  let (result, bridge) := app.bridge.disconnect
  (result, { app with bridge })

/--
Lists the tools of the tool server, as many as the settings allow. On a failure the connection is
closed again, and so it is if a tool has no proper description, but then the tools stay listed.
-/
def connectTools : StateM App (Except Fault Unit) := fun app =>
  let (found, bridge) := Bridge.discover app.settings.maxTools app.bridge
  let app := { app with bridge }
  match found with
  | .error _ => app.disconnect
  | .ok tools =>
    let app := { app with tools }
    if tools.all isDescribed then (.ok (), app) else app.disconnect

/-- Starts the service. -/
def start : StateM App (Except Fault Unit) := fun app =>
  let app := { app with model := (ModelServer.check app.model).2, isStarted := true }
  if app.bridge.url = .string "" then (.ok (), app) else app.connectTools

/-- Stops the service. -/
def stop : StateM App (Except Fault Unit) := disconnect

/-- Asks the model server. -/
def ask (prompt : Prompt) : StateM App (Except Fault Json) := fun app =>
  let (reply, model) := ModelServer.ask prompt app.model
  (reply, { app with model })

/-- Calls a tool of the tool server. -/
def invoke (name arguments : Json) : StateM App (Except Fault ToolResult) := fun app =>
  let (result, bridge) := Bridge.callTool name arguments app.bridge
  (result, { app with bridge })

/-- The peers of a chat. -/
def peers : Peers App := ⟨ask, invoke⟩

end App

end ToolSchema
