import ToolSchema.Convert.Keyword
import ToolSchema.Convert.Trace

/-!
# Constants

`enum` lists the values that a node admits and `const` names a single one. A generation schema has
no literals, so an `enum` becomes a union of leaves with one value each, and a `const` becomes a
leaf with one value or with a range of one number.
-/

namespace ToolSchema

/-- A schema that narrows a node, and whether it admits null, which no schema expresses. -/
structure Narrowing where
  schema : Schema Label
  admitsNull : Bool
  deriving Repr

namespace Convert

/-- The leaf that admits one boolean or number. -/
def scalarConstant? : Json → Option (Schema Label)
  | .bool value => some (.leaf .boolean (some (.fixed (.bool value))))
  | .int value => some (.leaf .integer (some (.fixed (.int value))))
  | .float value => some (.leaf .number (some (.fixed (.float value))))
  | _ => none

/-- A record of a value that no schema can hold. -/
def unsupportedMark? (value : Json) : Option Mark :=
  match value.kind? with
  | some _ => none
  | none => some (.unsupported value.bareTypeName)

/-- What the members of an `enum` have given so far. -/
structure Gathered where
  branches : List (Schema Label)
  admitsNull : Bool
  marks : List Mark
  deriving Repr

/-- One more member of an `enum`. Texts have their branches before all others. -/
def Gathered.add (gathered : Gathered) (item : Json) : Gathered :=
  match item.kind? with
  | some .string => gathered
  | some .null => { gathered with admitsNull := true }
  | some _ => { gathered with branches := gathered.branches ++ (scalarConstant? item).toList }
  | none => { gathered with marks := gathered.marks ++ [.unsupported item.bareTypeName] }

/-- The enumeration of texts alone. -/
def enumerationOfTexts (texts : List String) (name : Label) (description : Json) :
    Traced Narrowing :=
  ⟨⟨.union name description (texts.map Schema.stringConstant), false⟩, []⟩

/--
The enumeration of members of any kind, which are gone through one by one behind their texts. Null
admits leaving a field out. Byte strings, arrays and objects are skipped.
-/
def enumerationOneByOne (items : List Json) (name : Label) (description : Json) :
    Traced Narrowing :=
  let texts := items.filterMap Json.string?
  let gathered := items.foldl Gathered.add ⟨texts.map Schema.stringConstant, false, []⟩
  ⟨⟨.union name description gathered.branches, gathered.admitsNull⟩, gathered.marks⟩

/-- The union of the constants under `enum`: strings first, then booleans and numbers. -/
def enumeration (values : Json) (name : Label) (description : Json) : Traced Narrowing :=
  let texts := values.items.filterMap Json.string?
  if texts.length = values.items.length then enumerationOfTexts texts name description
  else enumerationOneByOne values.items name description

/--
The leaf for the value under `const`. A number becomes a range of itself; a boolean, null, a byte
string, an array and an object have none.
-/
def constant (value : Json) : Traced (Option (Schema Label)) :=
  ⟨match value with
    | .int number => some (.leaf .integer (some (.range (.int number) (.int number))))
    | .float number => some (.leaf .number (some (.range (.float number) (.float number))))
    | .string text => some (.stringConstant text)
    | _ => none,
    (unsupportedMark? value).toList⟩

/-- What narrows a node of a primitive type: its `enum` if it has one, else its `const`. -/
def narrowing (members : Members) (name : Label) (description : Json) :
    Traced (Option Narrowing) :=
  match members.lookup "enum" with
  | some values => (enumeration values name description).map some
  | none =>
    match members.lookup "const" with
    | some value => (constant value).map (·.map (⟨·, false⟩))
    | none => ⟨none, []⟩

end Convert

/-- The schema of a node of a primitive type, and whether its field is required. -/
def Narrowing.apply (narrowing : Option Narrowing) (base : Schema Label) (required : Bool) :
    Schema Label × Bool :=
  match narrowing with
  | some narrowed => (narrowed.schema, required && !narrowed.admitsNull)
  | none => (base, required)

end ToolSchema
