import ToolSchema.Script
import ToolSchema.Tool

/-!
# The bridge to a tool server

A bridge keeps at most one connection to a tool server. It connects when something is asked of the
server and no connection is open; every connection is made by a new client, which enters first and
exits last. A request that fails leaves the connection open, and a client that fails to enter or to
exit leaves none.

The server is a script of outcomes with a log of what its clients did.
-/

namespace ToolSchema

/-- What a client does. -/
inductive ClientAction where
  /-- It is made, for the server at this address. -/
  | create (url : Json)
  | enter
  | list
  | call (name arguments : Json)
  | exit
  deriving Repr

/-- An action of one of the clients, which are numbered from zero. -/
structure Traffic where
  client : Nat
  action : ClientAction
  deriving Repr

/-- What a tool server will answer and what was done to it. -/
structure ToolServer where
  /-- The tools that it lists unless the script says otherwise. -/
  tools : Json
  entries : Script Unit
  listings : Script Json
  /-- The results of calls; each should have attributes `content` and `isError`. -/
  results : Script Json
  exits : Script Unit
  /-- The number of clients that were made. -/
  clients : Nat
  traffic : List Traffic
  deriving Repr

/-- A bridge and the server behind it. -/
structure Bridge where
  /-- The address of the server. -/
  url : Json
  /-- The client whose connection is open. -/
  client : Option Nat
  server : ToolServer
  deriving Repr

namespace ToolServer

/-- The server with another line in its log. -/
def log (server : ToolServer) (client : Nat) (action : ClientAction) : ToolServer :=
  { server with traffic := server.traffic ++ [⟨client, action⟩] }

end ToolServer

namespace Bridge

def isConnected (bridge : Bridge) : Bool := bridge.client.isSome

/-- Opens a connection if none is open, and gives its client. -/
def connect : StateM Bridge (Except Fault Nat) := fun bridge =>
  match bridge.client with
  | some client => (.ok client, bridge)
  | none =>
    let client := bridge.server.clients
    let (outcome, entries) := bridge.server.entries.nextD ()
    let server := { bridge.server with entries, clients := client + 1 }
    let server := (server.log client (.create bridge.url)).log client .enter
    match outcome with
    | .ok _ => (.ok client, { bridge with client := some client, server })
    | .error fault => (.error fault, { bridge with server })

/-- Closes the connection if one is open. -/
def disconnect : StateM Bridge (Except Fault Unit) := fun bridge =>
  match bridge.client with
  | none => (.ok (), bridge)
  | some client =>
    let (outcome, exits) := bridge.server.exits.nextD ()
    (outcome, { bridge with
      client := none, server := { bridge.server with exits }.log client .exit })

/-- The descriptors of the tools in a listing. -/
def readListing (listing : Json) : Except Fault (List Descriptor) :=
  match listing.elements? with
  | some tools => tools.mapM Descriptor.ofTool
  | none => .error (.notSized listing.typeName)

/-- The tools that the server advertises, in its order. -/
def listTools : StateM Bridge (Except Fault (List Descriptor)) := fun bridge =>
  match connect bridge with
  | (.error fault, bridge) => (.error fault, bridge)
  | (.ok client, bridge) =>
    let (listing, listings) := bridge.server.listings.nextD bridge.server.tools
    (listing.bind readListing,
      { bridge with server := { bridge.server with listings }.log client .list })

/-- What a choice keeps of the tools that the server advertises, unless it fails. -/
def discoverBy (keep : List Descriptor → Except Fault (List Descriptor)) :
    StateM Bridge (Except Fault (List Descriptor)) := fun bridge =>
  let (descriptors, bridge) := listTools bridge
  (descriptors.bind keep, bridge)

/-- The first tools that the server advertises, as many as the limit allows. -/
def discover (limit : Option Int) : StateM Bridge (Except Fault (List Descriptor)) :=
  discoverBy (fun found => .ok (Descriptor.limited limit found))

/--
The same for a limit of any kind. One that is none makes this fail, unless there are no tools to
count.
-/
def discoverUpTo (limit : Json) : StateM Bridge (Except Fault (List Descriptor)) :=
  match Descriptor.limit limit with
  | .ok limit => discover limit
  | .error fault => discoverBy (fun found => if found.isEmpty then .ok [] else .error fault)

/-- The result of a call, from the attributes that the server gives it. -/
def readResult (result : Json) : Except Fault ToolResult := do
  let some content := result.get? "content"
    | throw (.missingAttribute result.typeName "content")
  return ⟨.array (← content.elements), (result.getD "isError" (.bool false)).isTruthy⟩

/-- Calls a tool of the server. -/
def callTool (name arguments : Json) : StateM Bridge (Except Fault ToolResult) := fun bridge =>
  match connect bridge with
  | (.error fault, bridge) => (.error fault, bridge)
  | (.ok client, bridge) =>
    let (result, results) := bridge.server.results.next
    (result.bind readResult,
      { bridge with server := { bridge.server with results }.log client (.call name arguments) })

end Bridge

end ToolSchema
