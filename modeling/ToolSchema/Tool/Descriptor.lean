import ToolSchema.Json.Key
import ToolSchema.Json.Sequence

/-!
# Tool descriptors

A tool server advertises tools by name, description and a schema document for the arguments. None
of the three can be trusted to be of the right kind. The document has to be an object; a sequence of
pairs counts as one too, even if not all its keys are texts, and what is empty or zero counts as an
object without members.
-/

namespace ToolSchema

/-- A tool as its server advertises it. -/
structure Descriptor where
  name : Json
  description : Json
  /-- The entries of the schema document of the arguments. -/
  arguments : Entries Json
  deriving Repr

namespace Json

/-- The entry that a sequence of two elements stands for. -/
def pairEntry (index : Nat) (pair : Json) : Except Fault (Json × Json) :=
  match pair.elements? with
  | none => .error (.pairNotSequence index)
  | some [key, value] => return (← key.hashable, value)
  | some elements => .error (.pairLength index elements.length)

/-- The entries that pairs stand for. A later pair replaces the value of an earlier one. -/
def pairEntries (index : Nat) (sofar : Entries Json) : List Json → Except Fault (Entries Json)
  | [] => .ok sofar
  | pair :: rest => do
    let (key, value) ← pairEntry index pair
    pairEntries (index + 1) (sofar.put key value) rest

/--
The members of an object, or the entries that a sequence of pairs stands for. A value with `keys` is
asked for them, which fails since an attribute is no operation.
-/
def toEntries : Json → Except Fault (Entries Json)
  | .object members => .ok (.ofMembers members)
  | value =>
    match value.get? "keys", value.elements? with
    | some keys, _ => .error (.notCallable keys.typeName)
    | none, some pairs => pairEntries 0 [] pairs
    | none, none => .error (.notIterable value.typeName)

end Json

namespace Descriptor

/-- The schema document that a tool advertises, under either of its names. -/
def advertisedSchema (tool : Json) : Json :=
  match tool.getD "inputSchema" .null with
  | .null => tool.getD "input_schema" (.object [])
  | schema => schema

/-- The descriptor of an advertised tool. -/
def ofTool (tool : Json) : Except Fault Descriptor := do
  return {
    name := tool.getD "name" (.string "")
    description := (tool.getD "description" .null).orElse (.string "")
    arguments := ← ((advertisedSchema tool).orElse (.object [])).toEntries }

/-- How many whole tools there are up to a place on the line of numbers, if it has an end there. A
number without a place counts as zero. -/
def wholes : Option Binary64.Place → Option Int
  | some (.at count) => some (count.fdiv (Binary64.twoTo 1074))
  | some .greatest => none
  | some .least | none => some 0

/-- The number of tools that a value limits them to; null sets no limit, and a fraction of a tool is
no tool. -/
def limit (value : Json) : Except Fault (Option Int) :=
  match value.counted?, value with
  | some count, _ => .ok (some count)
  | none, .null => .ok none
  | none, .float number => .ok (wholes number.place?)
  | none, _ => .error (.notSubtractable value.typeName)

/-- The tool at this place of a list is kept under a limit. -/
def isWithin (limit : Option Int) (index : Nat) : Bool :=
  match limit with
  | none => true
  | some limit => index < limit

/-- The first descriptors, as many as the limit allows. -/
def limited (limit : Option Int) (descriptors : List Descriptor) : List Descriptor :=
  (descriptors.zipIdx.filter (fun indexed => isWithin limit indexed.2)).map Prod.fst

end Descriptor

end ToolSchema
