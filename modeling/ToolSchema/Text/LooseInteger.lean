import ToolSchema.Text.Digits
import ToolSchema.Text.Integer

/-!
# Integers in loose writing

In plain writing an integer is a minus, if it is negative, and digits without a needless zero in
front (`plainInteger?`). In loose writing it may have blanks around it, a plus, needless zeros, a
fraction of zeros, and single underscores between its digits. `plainForm?` takes these away one
after another; what is left has to be plain.

Needless zeros go together with all underscores among them, and the minus may stand behind them.
-/

namespace ToolSchema

namespace Text

/-- The text behind the minus that it may begin with. -/
def behindMinus : List Char → List Char
  | '-' :: rest => rest
  | text => text

/-- The integer that a text is the plain writing of. -/
def plainInteger? (text : List Char) : Option Int :=
  match behindMinus text with
  | [] => none
  | ['0'] => some 0
  | '0' :: _ => none
  | digits =>
    if digits.all Char.isDigit && digits.length ≤ integerDigitLimit then
      some (intOfSign (signed text).1 (natOfDigits digits))
    else none

/-- The text begins with an integer in plain writing that is too long to be read. -/
def beginsOversized (text : List Char) : Bool :=
  let digits := behindMinus text
  digits.head? != some '0' && integerDigitLimit < (digits.takeWhile Char.isDigit).length

/-- What is left behind a zero in front, `last` being what was skipped before. -/
def skipZeros? (last : Char) : List Char → Option (List Char)
  | [] => some [last]
  | c :: rest =>
    if c = '0' ∨ c = '_' then skipZeros? c rest
    else if c = '.' then some (last :: c :: rest)
    else if c.isDigit ∨ c = '-' then some (c :: rest)
    else none

/-- Digits without needless zeros in front. One zero is left where no other digit stands. -/
def withoutLeadingZeros? : List Char → Option (List Char)
  | [] => none
  | c :: rest =>
    if c = '0' then skipZeros? c rest
    else if c.isDigit then some (c :: rest)
    else none

/-- The text without a fraction of zeros, if it has one. -/
def withoutZeroFraction (text : List Char) : List Char :=
  match text.dropWhile (· != '.') with
  | '.' :: '0' :: zeros => if zeros.all (· == '0') then text.takeWhile (· != '.') else text
  | _ => text

/-- Each underscore stands between two other characters. -/
def isGrouped (text : List Char) : Bool :=
  text.head? != some '_' && text.getLast? != some '_' && !(text.zip text.tail).contains ('_', '_')

/-- The text without underscores, if they group its characters. -/
def withoutGrouping (text : List Char) : List Char :=
  if isGrouped text then text.filter (· != '_') else text

/-- The text without what loose writing adds to an integer. -/
def plainForm? (text : List Char) : Option (List Char) := do
  let (negative, digits) := signed (trim isBlank text)
  let digits ← withoutLeadingZeros? digits
  return (if negative then ['-'] else []) ++ withoutGrouping (withoutZeroFraction digits)

/-- The integer that a text is a loose writing of. -/
def looseInteger? (text : List Char) : Option Int := (plainForm? text).bind plainInteger?

end Text

end ToolSchema
