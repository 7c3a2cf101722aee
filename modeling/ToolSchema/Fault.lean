import ToolSchema.Json.Display
import ToolSchema.Json.Reader

/-!
# Faults

What can go wrong, by cause. `Fault.message` is the one place that words it.
-/

namespace ToolSchema

inductive Fault where
  /-- A value of this type stands where only JSON can. -/
  | unsupportedValue (typeName : String)
  /-- Two fields of the object schema of this name have the same name. -/
  | duplicateFields (schema : String)
  /-- The least count of elements is above the greatest. -/
  | invertedBounds (least greatest : Json)
  /-- No primitive kind is written like this. -/
  | unknownPrimitive (literal : String)
  /-- A value of this type stands where a schema should. -/
  | notASchema (typeName : String)
  /-- The chunk at this index gives no text but a value of this type. -/
  | chunkNotText (index : Nat) (typeName : String)
  /-- A value of this type has no first part to be cut off. -/
  | notSliceable (typeName : String)
  /-- A value of this type is no text to be searched. -/
  | notSearchable (typeName : String)
  /-- Bytes are searched for a text. -/
  | bytesSearchedForText
  /-- A value of this type cannot be looked up by. -/
  | notHashable (typeName : String)
  /-- A value of this type has no elements. -/
  | notIterable (typeName : String)
  /-- A value of this type has no number of elements. -/
  | notSized (typeName : String)
  /-- The element at this index has no elements, where a pair should stand. -/
  | pairNotSequence (index : Nat)
  /-- The element at this index has that many elements, where a pair should stand. -/
  | pairLength (index length : Nat)
  /-- A value that is asked for all its attributes has none. -/
  | noAttributes
  /-- A value of this type lacks this attribute. -/
  | missingAttribute (typeName name : String)
  /-- A value of this type stands where an operation should. -/
  | notCallable (typeName : String)
  /-- A value of this type cannot be written as JSON. -/
  | unwritable (typeName : String)
  /-- An integer is written with this many digits, which are more than are read. -/
  | integerTooLong (digits : Nat)
  /-- A value of this type stands where an integer should. -/
  | notInteger (typeName : String)
  /-- A value of this type cannot be added to an integer. -/
  | notAddable (typeName : String)
  /-- An integer cannot be subtracted from a value of this type. -/
  | notSubtractable (typeName : String)
  /-- Values of these types have no order. -/
  | notOrdered (left right : String)
  /-- The model of this name still calls tools after this many rounds. -/
  | roundLimit (model rounds : Json)
  /-- A conversation ended without an answer. -/
  | noFinalMessage
  /-- A script has no outcome left. -/
  | scriptExhausted
  /-- The text of a setting in the environment is no JSON. -/
  | unreadableSetting (name : String)
  /-- No log level has this name. -/
  | unknownLevel (name : String)
  /-- A peer failed, with a cause and a message of its own. -/
  | raised (cause message : String)
  deriving DecidableEq, Repr

/-- That nothing of a type can be added to an integer. Sequences say what they can be added to. -/
def Fault.additionText (typeName : String) : String :=
  if typeName = "str" ∨ typeName = "list" then
    "can only concatenate " ++ typeName ++ " (not \"int\") to " ++ typeName
  else if typeName = "bytes" then "can't concat int to bytes"
  else "unsupported operand type(s) for +: '" ++ typeName ++ "' and 'int'"

/-- The wording of a fault. -/
def Fault.message : Fault → String
  | .unsupportedValue typeName => "Unsupported value type: " ++ typeName
  | .duplicateFields schema => "Duplicate field names in object schema " ++ schema
  | .invertedBounds least greatest =>
    "min_elements (" ++ least.display ++ ") exceeds max_elements (" ++ greatest.display ++ ")"
  | .unknownPrimitive literal => literal ++ " is not a valid PrimitiveKind"
  | .notASchema typeName => "Not a generation schema: " ++ typeName
  | .chunkNotText index typeName =>
    "sequence item " ++ toString index ++ ": expected str instance, " ++ typeName ++ " found"
  | .notSliceable typeName => "'" ++ typeName ++ "' object is not subscriptable"
  | .notSearchable typeName => "expected string or bytes-like object, got '" ++ typeName ++ "'"
  | .bytesSearchedForText => "cannot use a string pattern on a bytes-like object"
  | .notHashable typeName => "unhashable type: '" ++ typeName ++ "'"
  | .notIterable typeName => "'" ++ typeName ++ "' object is not iterable"
  | .notSized typeName => "object of type '" ++ typeName ++ "' has no len()"
  | .pairNotSequence index =>
    "cannot convert dictionary update sequence element #" ++ toString index ++ " to a sequence"
  | .pairLength index length =>
    "dictionary update sequence element #" ++ toString index ++ " has length " ++
      toString length ++ "; 2 is required"
  | .noAttributes => "vars() argument must have __dict__ attribute"
  | .missingAttribute typeName name =>
    "'" ++ typeName ++ "' object has no attribute '" ++ name ++ "'"
  | .notCallable typeName => "'" ++ typeName ++ "' object is not callable"
  | .unwritable typeName => "Object of type " ++ typeName ++ " is not JSON serializable"
  | .integerTooLong digits => Json.tooManyDigitsText digits
  | .notInteger typeName => "'" ++ typeName ++ "' object cannot be interpreted as an integer"
  | .notAddable typeName => additionText typeName
  | .notSubtractable typeName =>
    "unsupported operand type(s) for -=: '" ++ typeName ++ "' and 'int'"
  | .notOrdered left right =>
    "'>' not supported between instances of '" ++ left ++ "' and '" ++ right ++ "'"
  | .roundLimit model rounds =>
    "Model " ++ model.display ++ " exceeded " ++ rounds.display ++ " tool-calling rounds"
  | .noFinalMessage => "Conversation ended without a final message"
  | .scriptExhausted => "script exhausted"
  | .unreadableSetting name =>
    "error parsing value for field \"" ++ name ++ "\" from source \"EnvSettingsSource\""
  | .unknownLevel name => "Unknown level: " ++ (Json.string name).literal
  | .raised _ message => message

end ToolSchema
