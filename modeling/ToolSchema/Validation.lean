import ToolSchema.Json
import ToolSchema.Text.Case
import ToolSchema.Text.LooseInteger
import ToolSchema.Text.Utf8

/-!
# Validation

Values from outside are checked before they are used. A check either gives a value of a proper type
or lists all violations, each with the place where it was found. Checks of several parts are put
together so that the violations of all parts are listed, in order (`Checked.and`).

Readers are lenient where the meaning is clear: an integer may come as a text, a boolean as `yes`,
and bytes in UTF-8 are a text.
-/

namespace ToolSchema

/-- A step on the way to the place of a violation. -/
inductive Step where
  | key (name : String)
  | index (position : Nat)
  deriving DecidableEq, Repr

/-- What is wrong with a value. -/
inductive Defect where
  | missing
  | malformedJson
  | notAModel
  | withoutAttributes
  | notADict
  | notAString
  | undecodable
  | notAList
  | notABoolean
  | unreadableBoolean
  | notAnInteger
  | unreadableInteger
  | fractionalInteger
  | unboundedInteger
  | hugeInteger
  | tooShort
  | tooSmall
  | unknownName
  deriving DecidableEq, Repr

/-- The code under which a defect is reported. -/
def Defect.code : Defect → String
  | missing => "missing"
  | malformedJson => "json_invalid"
  | notAModel => "model_type"
  | withoutAttributes => "model_attributes_type"
  | notADict => "dict_type"
  | notAString => "string_type"
  | undecodable => "string_unicode"
  | notAList => "list_type"
  | notABoolean => "bool_type"
  | unreadableBoolean => "bool_parsing"
  | notAnInteger => "int_type"
  | unreadableInteger => "int_parsing"
  | fractionalInteger => "int_from_float"
  | unboundedInteger => "finite_number"
  | hugeInteger => "int_parsing_size"
  | tooShort => "too_short"
  | tooSmall => "greater_than_equal"
  | unknownName => "extra_forbidden"

/-- A defect, its place, and the value that has it. What is missing is a defect of what lacks it. -/
structure Violation where
  defect : Defect
  place : List Step
  subject : Json
  deriving DecidableEq, Repr

/-- The result of a check. -/
inductive Checked (α : Type) where
  | valid (value : α)
  | invalid (violations : List Violation)
  deriving DecidableEq, Repr

namespace Checked

variable {α β : Type}

/-- A value with one defect. -/
def defective (defect : Defect) (value : Json) : Checked α := invalid [⟨defect, [], value⟩]

/-- What reading a value gives, or the defect that stands against it. -/
def ofReading (value : Json) : Except Defect α → Checked α
  | .ok result => valid result
  | .error defect => defective defect value

def map (f : α → β) : Checked α → Checked β
  | valid value => valid (f value)
  | invalid violations => invalid violations

/-- Two checks; the violations of both are listed. -/
def and : Checked α → Checked β → Checked (α × β)
  | valid x, valid y => valid (x, y)
  | valid _, invalid violations => invalid violations
  | invalid violations, valid _ => invalid violations
  | invalid first, invalid second => invalid (first ++ second)

/-- A check that goes on with a value. -/
def andThen (checked : Checked α) (next : α → Checked β) : Checked β :=
  match checked with
  | valid value => next value
  | invalid violations => invalid violations

/-- The check of a part, with the step to it in front of the places. -/
def within (step : Step) : Checked α → Checked α
  | valid value => valid value
  | invalid violations =>
    invalid (violations.map (fun violation => { violation with place := step :: violation.place }))

/-- A function of checked values; the violations of all arguments are listed. -/
def apply (f : Checked (α → β)) (value : Checked α) : Checked β :=
  (f.and value).map (fun pair => pair.1 pair.2)

/-- Checks of all items from this index on. -/
def eachFrom (check : α → Checked β) (index : Nat) : List α → Checked (List β)
  | [] => valid []
  | item :: rest =>
    (((check item).within (.index index)).and (eachFrom check (index + 1) rest)).map
      (fun pair => pair.1 :: pair.2)

/-- Checks of all items. -/
def each (check : α → Checked β) (items : List α) : Checked (List β) := eachFrom check 0 items

end Checked

namespace Validation

open Checked

/-- The text that a value is: a string, or bytes in UTF-8. -/
def readString : Json → Except Defect String
  | .string text => .ok text
  | .binary bytes =>
    match Text.decode? bytes with
    | some text => .ok text
    | none => .error .undecodable
  | _ => .error .notAString

/-- A string, also as bytes. -/
def string (value : Json) : Checked String := ofReading value (readString value)

/-- What `check` gives, or nothing for null. -/
def optional {α : Type} (check : Json → Checked α) : Json → Checked (Option α)
  | .null => valid none
  | value => (check value).map some

/-- The members of an object that has any names. -/
def dict : Json → Checked Members
  | .object members => valid members
  | value => defective .notADict value

/-- Who hands over a value. -/
inductive Source where
  | caller
  /-- A request, where anything with attributes could stand for a model. -/
  | request
  deriving DecidableEq, Repr

/-- What is wrong with a value that cannot stand for a model. -/
def Source.defect : Source → Defect
  | caller => .notAModel
  | request => .withoutAttributes

/-- The members of an object that stands for a model. -/
def model (source : Source) : Json → Checked Members
  | .object members => valid members
  | value => defective source.defect value

/-- A list whose items are checked. -/
def list {α : Type} (check : Json → Checked α) : Json → Checked (List α)
  | .array items => each check items
  | value => defective .notAList value

/-- The integer that a text stands for. One too long to be read has to be written plainly. -/
def integerOfText (text : String) : Except Defect Int :=
  if Text.beginsOversized text.toList then .error .hugeInteger
  else
    match Text.looseInteger? text.toList with
    | some number => .ok number
    | none => .error .unreadableInteger

/-- The least integer of 64 bits. -/
def leastShort : Int := -0x8000000000000000

/-- The integer fits in 64 bits. -/
def isShort (number : Int) : Bool := leastShort ≤ number && number < -leastShort

/-- The integer that a floating point number is, if it fits in 64 bits and is not the least one. -/
def integerOfFloat (number : Binary64) : Except Defect Int :=
  if !number.isFinite then .error .unboundedInteger
  else
    match number.toInt? with
    | none => .error .fractionalInteger
    | some n => if isShort n && n != leastShort then .ok n else .error .hugeInteger

/-- The integer that a value is, be it a text, a whole floating point number or a boolean. -/
def readInteger : Json → Except Defect Int
  | .int number => .ok number
  | .bool value => .ok (if value then 1 else 0)
  | .float number => integerOfFloat number
  | .string text => integerOfText text
  | .binary bytes =>
    match Text.decode? bytes with
    | some text => integerOfText text
    | none => .error .unreadableInteger
  | _ => .error .notAnInteger

/-- An integer, also in another form. -/
def integer (value : Json) : Checked Int := ofReading value (readInteger value)

/-- An integer that is not below `least`. -/
def integerFrom (least : Int) (value : Json) : Checked Int :=
  (integer value).andThen (fun number =>
    if least ≤ number then valid number else defective .tooSmall value)

/-- The boolean that a number is. A number of more than 64 bits is not even looked at. -/
def booleanOfInt (number : Int) : Except Defect Bool :=
  if number = 0 then .ok false
  else if number = 1 then .ok true
  else if isShort number then .error .unreadableBoolean
  else .error .notABoolean

/-- The boolean that a word says, in whatever case. -/
def booleanOfText (text : String) : Except Defect Bool :=
  let word := Text.asciiLower text
  if word ∈ ["0", "off", "f", "false", "n", "no"] then .ok false
  else if word ∈ ["1", "on", "t", "true", "y", "yes"] then .ok true
  else .error .unreadableBoolean

/-- The boolean that a value is, be it a number or a word. -/
def readBoolean : Json → Except Defect Bool
  | .bool value => .ok value
  | .int number => booleanOfInt number
  | .float number =>
    match integerOfFloat number with
    | .ok number => booleanOfInt number
    | .error _ => .error .notABoolean
  | .string text => booleanOfText text
  | .binary bytes =>
    match Text.decode? bytes with
    | some text => booleanOfText text
    | none => .error .unreadableBoolean
  | _ => .error .notABoolean

/-- A boolean, also in another form. -/
def boolean (value : Json) : Checked Bool := ofReading value (readBoolean value)

/-- A member that has to be there. -/
def required {α : Type} (members : Members) (name : String) (check : Json → Checked α) :
    Checked α :=
  match members.lookup name with
  | some value => (check value).within (.key name)
  | none => (defective .missing (.object members)).within (.key name)

/-- A member that has a value if it is not there. -/
def withDefault {α : Type} (members : Members) (name : String) (other : α)
    (check : Json → Checked α) : Checked α :=
  match members.lookup name with
  | some value => (check value).within (.key name)
  | none => valid other

end Validation

end ToolSchema
