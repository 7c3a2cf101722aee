import ToolSchema.Host.Address
import ToolSchema.Host.Name
import ToolSchema.Text.Integer
import ToolSchema.Text.Percent

/-!
# Authorities

The authority of a URL names a user, a host and a port, each of which may be empty. A host is an
address of version 4, an address of version 6 in brackets, or a name; a name in ASCII is taken as it
is, any other one is sent in ASCII.

Main statement: `Authority.server?` is the server that an authority stands for, or why there can be
no such server.
-/

namespace ToolSchema

/-- Why there can be no such server. -/
inductive AuthorityDefect where
  /-- The host is meant to be an address of version 4, and is none. -/
  | notVersion4 (host : List Char)
  /-- The host stands in brackets, and no address of version 6 is in them. -/
  | notVersion6 (host : List Char)
  /-- The host is not in ASCII, and is no name. -/
  | notName (host : List Char)
  /-- The port is no integer. -/
  | portNotInteger (port : List Char)
  deriving DecidableEq, Repr

namespace AuthorityDefect

/-- A part of an authority as the wording of a defect quotes it. -/
def quoted (part : List Char) : String := (Json.string (String.ofList part)).literal

/-- The wording of a defect. -/
def message : AuthorityDefect → String
  | notVersion4 host => "Invalid IPv4 address: " ++ quoted host
  | notVersion6 host => "Invalid IPv6 address: " ++ quoted host
  | notName host => "Invalid IDNA hostname: " ++ quoted host
  | portNotInteger port => "Invalid port: " ++ quoted port

end AuthorityDefect

/-- Whom a request is sent to. -/
structure Server where
  /-- The host as it is sent, without brackets. -/
  host : List Char
  /-- The port, unless it is the one that the scheme has anyway. -/
  port : Option Int
  deriving DecidableEq, Repr

namespace Server

/-- The server as it is named in a URL. -/
def text (server : Server) : List Char :=
  (if server.host.contains ':' then '[' :: (server.host ++ [']']) else server.host) ++
    match server.port with
    | some port => ':' :: (toString port).toList
    | none => []

/-- The name of the host. Only a name that begins with a marked label is read. -/
def name? (server : Server) : Except NameDefect (List Char) :=
  if Host.asciiMark.isPrefixOf server.host then Host.ofAscii? server.host else .ok server.host

end Server

/-- The parts of an authority. -/
structure Authority where
  user : List Char
  host : List Char
  port : List Char
  deriving DecidableEq, Repr

namespace Authority

/-- The host that a text begins with, and what is behind it. A host in brackets may hold colons. -/
def splitHost (text : List Char) : List Char × List Char :=
  if text.head? == some '[' && text.contains ']' then
    ((text.reverse.dropWhile (· != ']')).reverse, (text.reverse.takeWhile (· != ']')).reverse)
  else (text.takeWhile (· != ':'), text.dropWhile (· != ':'))

/-- The user in front of the last `@`, the host behind it, and the port behind a colon. -/
def ofText (text : List Char) : Authority :=
  let (host, rest) := splitHost (text.reverse.takeWhile (· != '@')).reverse
  { user := (text.reverse.dropWhile (· != '@')).tail.reverse
    host
    port := if rest.head? == some ':' then rest.tail else rest }

/-- No one is named. -/
def isEmpty (authority : Authority) : Bool :=
  authority.user.isEmpty && authority.host.isEmpty && authority.port.isEmpty

def isBracketed (host : List Char) : Bool :=
  host.head? == some '[' && host.getLast? == some ']'

/-- The character may stand in a name in ASCII; all others are escaped. -/
def isNameChar (c : Char) : Bool :=
  Text.isUnreserved c || "!$&'()*+,;=\"\x60\x7b\x7d%|\\".contains c

/-- A host as it is sent. -/
def sentHost? (host : List Char) : Except AuthorityDefect (List Char) :=
  if Address.looksLikeVersion4 host then
    if Address.isVersion4 host then .ok host else .error (.notVersion4 host)
  else if isBracketed host then
    let address := host.tail.dropLast
    if Address.isVersion6 address then .ok address else .error (.notVersion6 host)
  else if host.all Text.isAscii then
    .ok (Text.percentEncode isNameChar (host.map Char.toLower))
  else
    match Host.toAscii? (Text.lower host) with
    | .ok sent => .ok sent
    | .error _ => .error (.notName host)

/-- The port that a scheme has if none is named. -/
def defaultPort? : List Char → Option Int
  | ['f', 't', 'p'] => some 21
  | ['h', 't', 't', 'p'] | ['w', 's'] => some 80
  | ['h', 't', 't', 'p', 's'] | ['w', 's', 's'] => some 443
  | _ => none

/-- The port that a text names. -/
def port? (scheme port : List Char) : Except AuthorityDefect (Option Int) :=
  if port.isEmpty then .ok none
  else
    match Text.integer? (String.ofList port) with
    | none => .error (.portNotInteger port)
    | some port => .ok (if defaultPort? scheme = some port then none else some port)

/-- The server that an authority stands for under a scheme. -/
def server? (scheme : List Char) (authority : Authority) : Except AuthorityDefect Server := do
  return ⟨← sentHost? authority.host, ← port? scheme authority.port⟩

end Authority

end ToolSchema
