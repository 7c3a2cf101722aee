import ToolSchema.Service.Http

/-!
# Pages of other origins

A browser names the origin of the page in each request that a page of another site makes, and hands
the page the response only if the response allows that origin. Before a request that could do harm
it asks first, in a preflight, whether origin, method and headers are allowed. All headers and
nearly all methods are, but not the way from a public page into a private network.
-/

namespace ToolSchema

namespace Origin

/-- Pages of this origin may use the service. A star stands for all origins. -/
def isAllowed (allowed : List String) (origin : String) : Bool :=
  allowed.contains "*" || allowed.contains origin

/-- What a response says to a page of this origin. -/
def headers (allowed : List String) (origin : String) : OriginHeaders :=
  ⟨if isAllowed allowed origin then some origin else none, some "true", none⟩

/-- The methods that pages of other origins may use. -/
def methods : List String :=
  ["DELETE", "GET", "HEAD", "OPTIONS", "PATCH", "POST", "PUT", "QUERY"]

/-- What a browser asks in a preflight. -/
structure Preflight where
  origin : String
  method : String
  /-- The headers that the page will send. -/
  headers : Option String
  /-- The page is to reach into a private network. -/
  isPrivate : Bool
  deriving DecidableEq, Repr

/-- What a request from an origin asks if it is a preflight. -/
def asked? (origin : String) (request : Request) : Option Preflight :=
  if request.method = "OPTIONS" then
    (request.header? "access-control-request-method").map (fun method => {
      origin
      method
      headers := request.header? "access-control-request-headers"
      isPrivate := (request.header? "access-control-request-private-network").isSome })
  else none

/-- What a preflight asks too much of. -/
def disallowed (allowed : List String) (asked : Preflight) : List String :=
  (if isAllowed allowed asked.origin then [] else ["origin"]) ++
    (if methods.contains asked.method then [] else ["method"]) ++
    (if asked.isPrivate then ["private-network"] else [])

/-- The response to a preflight. The headers that it asks for are allowed as they are. -/
def preflight (allowed : List String) (asked : Preflight) : Response :=
  let origins := { headers allowed asked.origin with headers := asked.headers }
  match disallowed allowed asked with
  | [] => ⟨200, .text "OK", origins⟩
  | parts => ⟨400, .text ("Disallowed CORS " ++ ", ".intercalate parts), origins⟩

end Origin

end ToolSchema
