import ToolSchema.Json.Display
import ToolSchema.Text.CodeUnit

/-!
# Defects of host names

Why a text is no host name, by cause. `NameDefect.message` is the one place that words it. Labels
are lists of numbers of characters, since a label that is written in ASCII can name numbers that are
no characters; indices into them begin at zero.
-/

namespace ToolSchema

/-- Why a text is no host name. -/
inductive NameDefect where
  /-- The name is empty. -/
  | noName
  | nameTooLong
  /-- A label of the name is empty. -/
  | noLabel
  | labelTooLong
  /-- The label is not written as composed text is. -/
  | notComposed
  /-- The third and the fourth character of the label are hyphens. -/
  | innerHyphens
  /-- The label begins or ends with a hyphen. -/
  | outerHyphen
  /-- The label begins with a mark. -/
  | markFirst
  /-- No label may hold the character at this index. -/
  | notAllowed (label : List Nat) (index : Nat)
  /-- Between its neighbours the joiner at this index is not allowed. -/
  | joinerMisplaced (label : List Nat) (index : Nat)
  /-- In its label the sign at this index is not allowed. -/
  | signMisplaced (label : List Nat) (index : Nat)
  /-- The direction of the character at this index is not known. -/
  | noDirection (label : List Nat) (index : Nat)
  /-- The first character shows no direction. -/
  | firstDirection (label : List Nat)
  /-- The character at this index has another direction than the label. -/
  | direction (fromRight : Bool) (index : Nat)
  /-- The label goes from right to left and holds numbers of both kinds. -/
  | mixedNumbers
  /-- The last character shows no direction. -/
  | lastDirection
  /-- Nothing follows the mark of a label that is written in ASCII. -/
  | noContent
  /-- A label that is written in ASCII ends with a hyphen. -/
  | lastHyphen
  /-- A label that is written in ASCII cannot be read. -/
  | unreadable
  deriving DecidableEq, Repr

namespace NameDefect

/-- The number of a character in a message. -/
def pointText (n : Nat) : String :=
  let width := if n < 0x10000 then 4 else if n < 0x100000 then 5 else 6
  "U+" ++ String.ofList ((Json.hexChars n width).map Char.toUpper)

/-- A character of a label between quotes; a surrogate is shown by number. -/
def quotedPoint (quote : Char) (n : Nat) : List Char :=
  if Text.isHighSurrogate n || Text.isLowSurrogate n then '\\' :: 'u' :: Json.hexChars n 4
  else Json.quotedChar quote (Char.ofNat n)

/-- A label between quotes. -/
def quotedLabel (label : List Nat) : String :=
  let quote := Json.quoteFor (label.map Char.ofNat)
  String.ofList (quote :: (label.flatMap (quotedPoint quote) ++ [quote]))

/-- The character at an index of a label in a message. -/
def pointAt (label : List Nat) (index : Nat) : String := pointText (label.getD index 0)

/-- A place in a message, counted from one. -/
def placeText (index : Nat) : String := "position " ++ toString (index + 1)

/-- The wording of a defect. -/
def message : NameDefect → String
  | noName => "Empty domain"
  | nameTooLong => "Domain too long"
  | noLabel => "Empty Label"
  | labelTooLong => "Label too long"
  | notComposed => "Label must be in Normalization Form C"
  | innerHyphens => "Label has disallowed hyphens in 3rd and 4th position"
  | outerHyphen => "Label must not start or end with a hyphen"
  | markFirst => "Label begins with an illegal combining character"
  | notAllowed label index =>
    "Codepoint " ++ pointAt label index ++ " at " ++ placeText index ++ " of " ++
      quotedLabel label ++ " not allowed"
  | joinerMisplaced label index =>
    "Unknown codepoint adjacent to joiner " ++ pointAt label index ++ " at " ++
      placeText index ++ " in " ++ quotedLabel label
  | signMisplaced label index =>
    "Codepoint " ++ pointAt label index ++ " not allowed at " ++ placeText index ++ " in " ++
      quotedLabel label
  | noDirection label index =>
    "Unknown directionality in label " ++ quotedLabel label ++ " at " ++ placeText index
  | firstDirection label =>
    "First codepoint in label " ++ quotedLabel label ++ " must be directionality L, R or AL"
  | direction fromRight index =>
    "Invalid direction for codepoint at " ++ placeText index ++ " in a " ++
      (if fromRight then "right-to-left" else "left-to-right") ++ " label"
  | mixedNumbers => "Can not mix numeral types in a right-to-left label"
  | lastDirection => "Label ends with illegal codepoint directionality"
  | noContent => "Malformed A-label, no Punycode eligible content found"
  | lastHyphen => "A-label must not end with a hyphen"
  | unreadable => "Invalid A-label"

end NameDefect

end ToolSchema
