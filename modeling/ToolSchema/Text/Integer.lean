import ToolSchema.Text.Blank
import ToolSchema.Text.DecimalDigit

/-!
# Integers as people write them

An integer may have blanks around it, a sign in front, and single underscores between its digits.
-/

namespace ToolSchema

namespace Text

/-- The values of digits with single underscores between them. -/
def groupedDigits? : List Char → Option (List Nat)
  | [] => none
  | [c] => (decimalDigit? c).map ([·])
  | c :: '_' :: d :: rest => do
    return (← decimalDigit? c) :: (← groupedDigits? (d :: rest))
  | c :: d :: rest => do
    return (← decimalDigit? c) :: (← groupedDigits? (d :: rest))

/-- The number with these digits. -/
def natOfDigitValues (digits : List Nat) : Nat := digits.foldl (fun n d => n * 10 + d) 0

/-- The sign in front of a text, and what follows it. -/
def signed : List Char → Bool × List Char
  | '-' :: rest => (true, rest)
  | '+' :: rest => (false, rest)
  | text => (false, text)

/-- The integer of a sign and a magnitude. -/
def intOfSign (negative : Bool) (magnitude : Nat) : Int :=
  if negative then -magnitude else magnitude

/-- How many digits an integer may have at most. -/
def integerDigitLimit : Nat := 4300

/-- The integer that a text stands for, in the digits of any script. -/
def integer? (text : String) : Option Int := do
  let (negative, digits) := signed (trim isBlank text.toList)
  let digits ← groupedDigits? digits
  if integerDigitLimit < digits.length then none
  else some (intOfSign negative (natOfDigitValues digits))

end Text

end ToolSchema
