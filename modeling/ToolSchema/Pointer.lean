import ToolSchema.Json
import ToolSchema.Text.Digits
import ToolSchema.Text.Percent

/-!
# Pointers into a document

A pointer is a text such as `#/$defs/Address`. Behind the `#`, percent escapes are replaced; what
results is empty or a list of tokens, each behind a `/`. In a token `~1` stands for `/` and `~0` for
`~`, and no other `~` is allowed. A token names the member of an object, or the item of an array or
the byte of a byte string by its index in plain decimal.

`Json.lookup` finds the value that a pointer names; `Json.follow` does the same for tokens.
-/

namespace ToolSchema

namespace Pointer

/-- The text behind the `#` of a local pointer. -/
def fragment? (pointer : String) : Option (List Char) :=
  match pointer.toList with
  | '#' :: fragment => some fragment
  | _ => none

/-- A pointer that starts with `#` leads into its own document. -/
def isLocal (pointer : String) : Bool := (fragment? pointer).isSome

/-- The token that an escaped token stands for. -/
def unescape? : List Char → Option (List Char)
  | [] => some []
  | '~' :: '0' :: rest => (unescape? rest).map ('~' :: ·)
  | '~' :: '1' :: rest => (unescape? rest).map ('/' :: ·)
  | '~' :: _ => none
  | c :: rest => (unescape? rest).map (c :: ·)

/-- The pieces between the slashes of a text; there is always a first one. -/
def splitSlashes : List Char → List Char × List (List Char)
  | [] => ([], [])
  | '/' :: rest =>
    let split := splitSlashes rest
    ([], split.1 :: split.2)
  | c :: rest =>
    let split := splitSlashes rest
    (c :: split.1, split.2)

/-- The tokens of a fragment whose percent escapes are replaced. -/
def tokensOf? (path : List Char) : Option (List String) :=
  match splitSlashes path with
  | ([], pieces) => pieces.mapM (fun piece => (unescape? piece).map String.ofList)
  | _ => none

/-- The tokens of a pointer, unless it is malformed or not local. -/
def tokens? (pointer : String) : Option (List String) :=
  (fragment? pointer).bind (fun fragment => tokensOf? (Text.percentDecode fragment))

/-! ## Indices -/

/-- The index that a token stands for: a single zero, or digits that do not start with one. -/
def index? (token : String) : Option Nat :=
  match token.toList with
  | ['0'] => some 0
  | '0' :: _ => none
  | [] => none
  | digits => if digits.all Char.isDigit then some (Text.natOfDigits digits) else none

end Pointer

namespace Json

/-- The value one token below a value. -/
def child? (value : Json) (token : String) : Option Json :=
  match value with
  | .object members => members.lookup token
  | .array items => (Pointer.index? token).bind (fun index => items[index]?)
  | .binary bytes =>
    (Pointer.index? token).bind (fun index => bytes[index]?.map (fun byte => .int byte.toNat))
  | _ => none

/-- The value that tokens lead to. -/
def follow (value : Json) : List String → Option Json
  | [] => some value
  | token :: rest => (value.child? token).bind (fun below => below.follow rest)

/-- The value that a pointer names in a document. -/
def lookup (root : Json) (pointer : String) : Option Json :=
  (Pointer.tokens? pointer).bind root.follow

end Json

end ToolSchema
