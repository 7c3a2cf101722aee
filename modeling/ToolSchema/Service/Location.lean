import ToolSchema.Service.Http

/-!
# Locations

A redirect names the location to ask instead, as a whole URL. It begins with the server as the
request names it in its header, if that can be one, or else with the server that the request was
sent to. A client reads the location before it goes there, and takes the fragment of its request
along.

* `Location.ofRequest?` is the location of another path on the same server.
* `Location.defect?` finds why a client cannot go there.
-/

namespace ToolSchema

namespace Location

/-! ## Writing -/

/-- The character may stand in the name of a server. -/
def isServerChar (c : Char) : Bool := Text.isUnreserved c || "!$&'()*+,;=%".contains c

/-- The text could be a host: a name, or an address of version 6 in brackets. -/
def isHost (text : List Char) : Bool :=
  let inner := text.tail.dropLast
  if Authority.isBracketed text then
    !inner.isEmpty && inner.all (fun c => (Text.hexDigit? c).isSome || c == ':' || c == '.')
  else !text.isEmpty && text.all isServerChar

/-- The text could name a server: a host, perhaps with digits for the port behind a colon. -/
def isServerText (text : List Char) : Bool :=
  let port := (text.reverse.takeWhile Char.isDigit).reverse
  let host := (text.reverse.dropWhile Char.isDigit).tail.reverse
  isHost text || (text == host ++ ':' :: port && isHost host)

/-- The schemes under which this server can name itself. -/
def isServed (scheme : List Char) : Bool :=
  ["http", "https", "ws", "wss"].contains (String.ofList scheme)

/-- The server that a request was sent to, always with its port. -/
def sentTo (server : Server) : List Char :=
  server.host ++ ':' :: (Json.ofInt? server.port).display.toList

/-- The server that a location begins with, if there is one. -/
def serverText? (request : Request) : Option (List Char) :=
  match (request.header? "host").map String.toList with
  | some text =>
    if isServerText text then some text
    else if isServed request.scheme then some (sentTo request.server) else none
  | none => if isServed request.scheme then some (sentTo request.server) else none

/-- The character stays as it is in a location; all others are escaped. -/
def keeps (c : Char) : Bool := Text.isUnreserved c || ":/%#?=@[]!$&'()*+,;".contains c

/-- The location of a path on the server that a request is for, if the server can be named. -/
def ofRequest? (request : Request) (path : List Char) : Option String :=
  (serverText? request).map (fun server =>
    let query := if request.query.isEmpty then [] else '?' :: request.query
    String.ofList (Text.percentEncode keeps
      (request.scheme ++ "://".toList ++ server ++ path ++ query)))

/-! ## Reading -/

/-- Why a client cannot go to a location. -/
inductive Defect where
  /-- Nothing can be sent there. -/
  | target (defect : TargetDefect)
  /-- Its host has no name. -/
  | name (defect : NameDefect)
  /-- The fragment that the client takes along holds a control character at this place. -/
  | fragment (char : Char) (position : Nat)
  deriving DecidableEq, Repr

/-- The wording of a defect. -/
def Defect.message : Defect → String
  | target defect => "Invalid URL in location header: " ++ defect.message ++ "."
  | name defect => defect.message
  | fragment char position => TargetDefect.controlText "URL fragment component" char position

/-- Why a client whose request has this fragment cannot go to a location. -/
def defect? (fragment : List Char) (location : String) : Option Defect :=
  match Target.read? location with
  | .error defect => some (.target defect)
  | .ok target =>
    match target.server.name? with
    | .error defect => some (.name defect)
    | .ok _ =>
      if target.fragment.isEmpty then
        (Target.control? fragment).map (fun place => .fragment place.1 place.2)
      else none

end Location

end ToolSchema
