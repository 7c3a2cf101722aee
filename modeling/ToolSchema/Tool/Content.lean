import ToolSchema.Json.Sequence

/-!
# The content of tool results

A tool answers with chunks: texts, images, sounds, and resources or links to them. A model reads
them as one text. Texts are kept verbatim; of all other chunks it sees where they come from and the
beginning of what they hold.

A chunk is an object or a record, and each of its attributes may be of any kind. Three things make
`Content.text` fail: a content that yields no chunks, a text chunk that holds something else, and a
resource whose text has no beginning.
-/

namespace ToolSchema

namespace Content

/-- How many characters of a payload are shown. -/
def previewLength : Nat := 50

/-- The beginning of a text. -/
def preview (text : String) : String := String.ofList (text.toList.take previewLength)

/-- The beginning of the text of a resource, as it is shown. -/
def resourcePreview : Json → Except Fault String
  | .string text => .ok (preview text)
  | .array items => .ok (Json.array (items.take previewLength)).display
  | .binary bytes => .ok (Json.binary (bytes.take previewLength)).display
  | .object _ => .error (.notHashable "slice")
  | value => .error (.notSliceable value.typeName)

/-- An image or a sound. -/
def mediaText (label : String) (chunk : Json) : String :=
  "[" ++ label ++ ": " ++ (chunk.getD "mimeType" (.string "")).display ++ ", " ++
    preview (chunk.getD "data" (.string "")).display ++ "...]"

/-- Where a resource is and of which type. -/
def resourceLabel (resource : Json) : String :=
  "[Resource: " ++ (resource.getD "uri" (.string "")).display ++ ", " ++
    (resource.getD "mimeType" (.string "")).display ++ "]"

/-- A resource with the beginning of its text, if it has one. -/
def resourceText (resource : Json) : Except Fault String :=
  let text := resource.getD "text" .null
  if text.isTruthy then do
    return resourceLabel resource ++ " " ++ (← resourcePreview text) ++ "..."
  else .ok (resourceLabel resource)

/-- What is shown of a chunk. Only a text chunk can give something that is no string. -/
def chunkText (chunk : Json) : Except Fault Json :=
  match chunk.getD "type" (.string "text") with
  | .string "text" => .ok (chunk.getD "text" (.string ""))
  | .string "image" => .ok (.string (mediaText "Image" chunk))
  | .string "audio" => .ok (.string (mediaText "Audio" chunk))
  | .string "resource" => return .string (← resourceText (chunk.getD "resource" (.object [])))
  | .string "resource_link" => .ok (.string (resourceLabel chunk))
  | _ => .ok (.string "")

/-- The texts one after another; all of them have to be strings. -/
def joinFrom (index : Nat) : List Json → Except Fault String
  | [] => .ok ""
  | .string text :: rest => return text ++ (← joinFrom (index + 1) rest)
  | value :: _ => .error (.chunkNotText index value.typeName)

/-- The text of the chunks that a content yields. -/
def text (content : Json) : Except Fault String := do
  joinFrom 0 (← (← content.elements).mapM chunkText)

end Content

end ToolSchema
