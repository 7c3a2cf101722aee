import ToolSchema.Binary64

/-!
# The shortest decimal text of a floating point number

`shortest` finds the fewest digits that read back: for one digit, two digits and so on it tries the
two neighbours of the number on that decimal grid, and the first grid with a hit wins. Seventeen
digits always hit. `text` lays the digits out.

That the digits read back is the test that `shortest` makes; that there are no fewer follows because
a grid with a point that reads back has a neighbour of the number that does.
-/

namespace ToolSchema

namespace Binary64

/-- The decimal number `digits * 10 ^ exponent`. -/
structure Decimal where
  digits : Nat
  exponent : Int
  deriving DecidableEq, Repr

/-- A positive quotient as a pair, scaled by a power of ten. -/
def scaleByTen (num den : Nat) (exponent : Int) : Nat × Nat :=
  if 0 ≤ exponent then (num * tenTo exponent.toNat, den) else (num, den * tenTo (-exponent).toNat)

/-- The absolute value of a finite number as a quotient. -/
def ratio (x : Binary64) : Nat × Nat :=
  if 0 ≤ x.power then (x.significand * twoTo x.power.toNat, 1)
  else (x.significand, twoTo (-x.power).toNat)

/-- The power of ten of the leading digit of `num / den`, both positive. -/
def leadingPower (num den : Nat) : Int :=
  let guess : Int := (Nat.toDigits 10 num).length - (Nat.toDigits 10 den).length
  let unit := scaleByTen num den (-guess)
  if unit.2 ≤ unit.1 then guess else guess - 1

/--
A point of the grid `10 ^ exponent` that reads back as the positive number of this ratio: of the two
neighbours, the nearer one that does, and of two equally near ones the even.
-/
def hitOnGrid? (x : Binary64) (exponent : Int) : Option Decimal :=
  let value := ratio x
  let scaled := scaleByTen value.1 value.2 (-exponent)
  let below := scaled.1 / scaled.2
  let nearest := roundQuotient scaled.1 scaled.2
  let other := if nearest = below then below + 1 else below
  let readsBack (digits : Nat) : Bool := ofDecimal x.isNegative digits exponent == x
  if readsBack nearest then some ⟨nearest, exponent⟩
  else if readsBack other then some ⟨other, exponent⟩
  else none

/-- The hit on the first of `grids` ever finer grids that has one. -/
def firstHit (x : Binary64) (exponent : Int) : Nat → Decimal
  | 0 => ⟨0, 0⟩
  | grids + 1 => (hitOnGrid? x exponent).getD (firstHit x (exponent - 1) grids)

/-- The decimal with the fewest digits that reads back as the finite, nonzero `x`. -/
def shortest (x : Binary64) : Decimal :=
  firstHit x (leadingPower (ratio x).1 (ratio x).2) 17

/-- Digits of a number, most significant first. -/
def digitChars (n : Nat) : List Char := Nat.toDigits 10 n

/-- The digits of a decimal without the zeros at their end, with the power of the leading digit. -/
def Decimal.leading (d : Decimal) : List Char × Int :=
  let all := digitChars d.digits
  let kept := (all.reverse.dropWhile (· == '0')).reverse
  (if kept.isEmpty then ['0'] else kept, d.exponent + all.length - 1)

/-- The exponent part has a sign and at least two digits. -/
def exponentChars (power : Int) : List Char :=
  let digits := digitChars power.natAbs
  'e' :: (if power < 0 then '-' else '+') :: (if digits.length < 2 then '0' :: digits else digits)

/--
Digits with the point where it belongs, when the leading digit stands between `10 ^ -4` and
`10 ^ 15`; otherwise one digit, the others behind a point, and an exponent. A positional number
always has a digit behind the point.
-/
def layout (digits : List Char) (power : Int) : List Char :=
  if -4 ≤ power ∧ power < 16 then
    if power < 0 then
      '0' :: '.' :: (List.replicate (-power - 1).toNat '0' ++ digits)
    else
      let whole := power.toNat + 1
      let padded := digits ++ List.replicate (whole - digits.length) '0'
      let behind := padded.drop whole
      padded.take whole ++ '.' :: (if behind.isEmpty then ['0'] else behind)
  else
    match digits with
    | [] => exponentChars power
    | [single] => single :: exponentChars power
    | first :: others => first :: '.' :: (others ++ exponentChars power)

/-- The text of a number: shortest digits, `inf`, `-inf` or `nan`. -/
def text (x : Binary64) : String :=
  let sign := if x.isNegative then ['-'] else []
  if x.isNaN then "nan"
  else if !x.isFinite then String.ofList (sign ++ "inf".toList)
  else if x.isZero then String.ofList (sign ++ "0.0".toList)
  else
    let lead := x.shortest.leading
    String.ofList (sign ++ layout lead.1 lead.2)

end Binary64

end ToolSchema
