import ToolSchema.Json.Encoding
import ToolSchema.Json.Reader
import ToolSchema.Json.Writer
import ToolSchema.Pointer
import ToolSchema.Service.Http

/-!
# The content of requests

What a request carries is JSON if its content type says so, and is read whatever its encoding; of
any other type it is taken for bytes. Null counts as no content.
-/

namespace ToolSchema

namespace MediaType

/-- The media type in a header, which parameters may follow. -/
def ofHeader (header : String) : List Char :=
  Text.trim Text.isBlankOrSeparator ((Text.asciiLower header).toList.takeWhile (· != ';'))

/-- The media type is JSON, or a format that is written in it. -/
def isJson (type : List Char) : Bool :=
  match Pointer.splitSlashes type with
  | (main, [sub]) =>
    main == "application".toList && (sub == "json".toList || "+json".toList.isSuffixOf sub)
  | _ => false

end MediaType

namespace Payload

/-- The bytes that are sent. -/
def bytes : Payload → List UInt8
  | .empty => []
  | .json value => value.write.toList.flatMap Text.encodeChar
  | .text content => content.toList.flatMap Text.encodeChar

/-- The value behind a content, of which null is none. -/
def ofValue : Json → Option Json
  | .null => none
  | value => some value

/-- The value of a JSON text. One that is malformed is answered with the place of the error. -/
def read (content : String) : Handled (Option Json) :=
  match Json.read content with
  | .ok value => .ok (ofValue value)
  | .error (.malformed _ position) =>
    .error (.refusing [⟨.malformedJson, [.key "body", .index position], .object []⟩])
  | .error (.tooManyDigits _) => .error (.answered Response.unreadable)

/-- The value of what is sent as JSON. -/
def value? (payload : Payload) : Handled (Option Json) :=
  match payload with
  | .empty => .ok none
  | .json value => .ok (ofValue value)
  | .text content =>
    if content = "" then .ok none
    else
      match Json.textOfBytes? payload.bytes with
      | some decoded => read decoded
      | none => .error (.answered Response.unreadable)

/-- What is sent, as bytes that have no meaning. -/
def raw? (payload : Payload) : Option Json :=
  match payload.bytes with
  | [] => none
  | bytes => some (.binary bytes)

end Payload

namespace Request

/-- The request says that it carries JSON, or says nothing about it. -/
def carriesJson (request : Request) : Bool :=
  ((request.header? "content-type").map (fun header =>
    MediaType.isJson (MediaType.ofHeader header))).getD true

/-- The value that a request carries, if any. -/
def content? (request : Request) : Handled (Option Json) :=
  if request.carriesJson then request.payload.value? else .ok request.payload.raw?

end Request

end ToolSchema
