import ToolSchema.Pointer
import ToolSchema.Service.Authority

/-!
# Targets of requests

A request is sent to a path of this server or to a whole URL. In a path a segment of one dot is the
same place and a segment of two dots the place above; both are worked out before escapes are read.

Main statement: `Target.read?` is the target that a text names, or why nothing can be sent there.
-/

namespace ToolSchema

/-- Why nothing can be sent to a target. -/
inductive TargetDefect where
  /-- It is longer than `Target.lengthLimit`. -/
  | tooLong
  /-- A part of it is longer than `Target.lengthLimit` once it is escaped. -/
  | partTooLong (part : String)
  /-- It holds a control character at this place. -/
  | controlCharacter (char : Char) (position : Nat)
  /-- There can be no such server. -/
  | authority (defect : AuthorityDefect)
  /-- Its path begins with two slashes. -/
  | leadingSlashes
  /-- Its path begins with a colon. -/
  | leadingColon
  deriving DecidableEq, Repr

namespace TargetDefect

/-- That a control character stands somewhere in a text. -/
def controlText (part : String) (char : Char) (position : Nat) : String :=
  "Invalid non-printable ASCII character in " ++ part ++ ", " ++ AuthorityDefect.quoted [char] ++
    " at position " ++ toString position ++ "."

/-- The wording of a defect. -/
def message : TargetDefect → String
  | tooLong => "URL too long"
  | partTooLong part => "URL component '" ++ part ++ "' too long"
  | controlCharacter char position => controlText "URL" char position
  | authority defect => defect.message
  | leadingSlashes => "Relative URLs cannot have a path starting with '//'"
  | leadingColon => "Relative URLs cannot have a path starting with ':'"

end TargetDefect

/-- Where a request is sent. -/
structure Target where
  scheme : List Char
  server : Server
  /-- The path, escapes read. -/
  path : List Char
  /-- The query as it is sent. -/
  query : List Char
  /-- The fragment, escapes read. -/
  fragment : List Char
  deriving DecidableEq, Repr

namespace Target

/-! ## Control characters -/

def isControl (c : Char) : Bool := c.toNat < 32 || c.toNat == 127

/-- The first control character of a text, and its place. -/
def control? (text : List Char) : Option (Char × Nat) :=
  text.zipIdx.find? (fun place => isControl place.1)

/-! ## Parts -/

/-- The character may stand in the name of a scheme. -/
def isSchemeChar (c : Char) : Bool := c.isAlphanum || c == '+' || c == '.' || c == '-'

/-- The scheme of a target and what is behind its colon. A scheme may be empty. -/
def splitScheme (target : List Char) : List Char × List Char :=
  let scheme := target.takeWhile isSchemeChar
  match target.dropWhile isSchemeChar with
  | ':' :: rest => if scheme.head?.all Char.isAlpha then (scheme, rest) else ([], target)
  | _ => ([], target)

/-- The authority of a target without its scheme, and what is behind it. -/
def splitAuthority : List Char → List Char × List Char
  | '/' :: '/' :: rest =>
    (rest.takeWhile (fun c => c != '/' && c != '?' && c != '#'),
      rest.dropWhile (fun c => c != '/' && c != '?' && c != '#'))
  | target => ([], target)

/-- What is behind the first `mark` of a text. -/
def behind (mark : Char) (text : List Char) : List Char := (text.dropWhile (· != mark)).tail

/-- The character may stand in a query; all others are escaped. -/
def isQueryChar (c : Char) : Bool :=
  32 < c.toNat && c.toNat < 127 && !(['"', '#', '<', '>'].contains c)

/-- The character may stand in a path; all others are escaped. -/
def isPathChar (c : Char) : Bool := isQueryChar c && !(['?', '\x60', '\x7b', '\x7d'].contains c)

/-! ## Paths -/

/-- The segments of a path without those of dots; `sofar` are the last ones first. -/
def resolveDots (sofar : List (List Char)) : List (List Char) → List (List Char)
  | [] => sofar.reverse
  | ['.'] :: rest => resolveDots sofar rest
  | ['.', '.'] :: rest => resolveDots (if sofar = [[]] then sofar else sofar.tail) rest
  | segment :: rest => resolveDots (segment :: sofar) rest

/-- The path without segments of dots. -/
def withoutDots (path : List Char) : List Char :=
  let (first, rest) := Pointer.splitSlashes path
  List.intercalate ['/'] (resolveDots [] (first :: rest))

/-- The path that a written path stands for. -/
def readPath (path : List Char) : List Char :=
  match withoutDots path with
  | [] => ['/']
  | path => Text.percentDecode path

/-- The path on this server. The slashes in front of it do not count. -/
def rooted (path : List Char) : List Char := '/' :: path.dropWhile (· == '/')

/-- What is wrong with the path of a target that has neither a scheme nor an authority. -/
def pathDefect? (path : List Char) : Option TargetDefect :=
  match path with
  | '/' :: '/' :: _ => some .leadingSlashes
  | ':' :: _ => some .leadingColon
  | _ => none

/-! ## Targets -/

/-- How many characters a target may have. -/
def lengthLimit : Nat := 65536

/-- This server, by the scheme that it speaks and its name. -/
def ownScheme : List Char := "http".toList

def ownServer : Server := ⟨"test".toList, none⟩

/-- The target on this server, of which the fragment does not count. -/
def onServer (path query : List Char) : Except TargetDefect Target :=
  let path := rooted path
  if lengthLimit < (Text.percentEncode isPathChar path).length then .error (.partTooLong "path")
  else if lengthLimit < query.length then .error (.partTooLong "query")
  else .ok ⟨ownScheme, ownServer, readPath path, query, []⟩

/-- The target of a text without control characters that is not too long. -/
def ofChars? (target : List Char) : Except TargetDefect Target :=
  let (scheme, rest) := splitScheme target
  let scheme := scheme.map Char.toLower
  let (authority, rest) := splitAuthority rest
  let authority := Authority.ofText authority
  let path := rest.takeWhile (fun c => c != '?' && c != '#')
  let query := Text.percentEncode isQueryChar (behind '?' (rest.takeWhile (· != '#')))
  match authority.server? scheme with
  | .error defect => .error (.authority defect)
  | .ok server =>
    match if scheme.isEmpty && authority.isEmpty then pathDefect? path else none with
    | some defect => .error defect
    | none =>
      if scheme.isEmpty || server.host.isEmpty then onServer path query
      else .ok ⟨scheme, server, readPath path, query, Text.percentDecode (behind '#' rest)⟩

/-- The target that a text names. -/
def read? (target : String) : Except TargetDefect Target :=
  if lengthLimit < target.length then .error .tooLong
  else
    match control? target.toList with
    | some (char, position) => .error (.controlCharacter char position)
    | none => ofChars? target.toList

end Target

end ToolSchema
