import ToolSchema.Pointer

/-!
# Routes

Which endpoint a path leads to. Its escapes are read before it is taken apart, so an escaped slash
separates too. A line end at the very end of a path is overlooked. Slashes too many at the end
redirect to the path without them.
-/

namespace ToolSchema

/-- What the service offers. -/
inductive Endpoint where
  | health
  | convert
  | listTools
  | showTool (name : String)
  | callTool (name : String)
  | chat
  | chatStream
  deriving DecidableEq, Repr

/-- The method that an endpoint is asked with. -/
def Endpoint.method : Endpoint → String
  | health | listTools | showTool _ => "GET"
  | convert | callTool _ | chat | chatStream => "POST"

namespace Route

/-- The path without a line end at its end. -/
def withoutLineEnd (path : List Char) : List Char :=
  if path.getLast? = some '\n' then path.dropLast else path

/-- The parts between the slashes of a path that begins with one. -/
def segments (path : List Char) : List String :=
  match Pointer.splitSlashes path with
  | ([], rest) => rest.map String.ofList
  | _ => []

/-- The endpoint of a path. The name of a tool that is shown keeps its line end. -/
def endpoint? (path : List Char) : Option Endpoint :=
  match segments (withoutLineEnd path) with
  | ["api", "v1", "health"] => some .health
  | ["api", "v1", "schemas", "convert"] => some .convert
  | ["api", "v1", "tools"] => some .listTools
  | ["api", "v1", "tools", name, "call"] => if name = "" then none else some (.callTool name)
  | ["api", "v1", "chat"] => some .chat
  | ["api", "v1", "chat", "stream"] => some .chatStream
  | _ =>
    match segments path with
    | ["api", "v1", "tools", name] => if name = "" then none else some (.showTool name)
    | _ => none

/-- Where a request is led. -/
inductive Destination where
  | endpoint (endpoint : Endpoint)
  | wrongMethod
  | redirect
  | nowhere
  deriving DecidableEq, Repr

/-- The path without the slashes at its end. -/
def withoutSlashes (path : List Char) : List Char :=
  (path.reverse.dropWhile (· == '/')).reverse

/-- Where a request of this method to this path is led. -/
def destination (method : String) (path : List Char) : Destination :=
  match endpoint? path with
  | some endpoint => if method = endpoint.method then .endpoint endpoint else .wrongMethod
  | none =>
    if path.getLast? = some '/' ∧ (endpoint? (withoutSlashes path)).isSome then .redirect
    else .nowhere

end Route

end ToolSchema
