/-!
# Binary floating point numbers of 64 bits

A `Binary64` is its bit pattern: sign, eleven bits of exponent, fifty-two bits of fraction. Two
numbers are equal when their bits are, so the two zeros differ and a NaN equals itself. Everything
here is exact arithmetic on natural numbers and integers.

* `ofDecimal` reads a decimal, rounding to the nearest number and a tie to the even neighbour.
* `toInt?` is the integer that a number stands for, if it stands for one.
* `place?` is the place of a number among all others.
-/

namespace ToolSchema

/-- A floating point number, given by its bits. -/
structure Binary64 where
  bits : UInt64
  deriving DecidableEq, Repr

namespace Binary64

/-- A power of two. -/
def twoTo (n : Nat) : Nat := Nat.pow 2 n

/-- A power of ten. -/
def tenTo (n : Nat) : Nat := Nat.pow 10 n

/-! ## Fields -/

/-- The eleven bits between the sign and the fraction. -/
def exponentField (x : Binary64) : Nat := x.bits.toNat / twoTo 52 % twoTo 11

/-- The fifty-two low bits. -/
def fraction (x : Binary64) : Nat := x.bits.toNat % twoTo 52

/-- The sign bit is set, also for a zero or a NaN. -/
def isNegative (x : Binary64) : Bool := twoTo 63 ≤ x.bits.toNat

def isFinite (x : Binary64) : Bool := x.exponentField != 2047

def isNaN (x : Binary64) : Bool := !x.isFinite && x.fraction != 0

/-- Either of the two zeros. -/
def isZero (x : Binary64) : Bool := x.exponentField == 0 && x.fraction == 0

/-- The absolute value of a finite number is `significand * 2 ^ power`. -/
def significand (x : Binary64) : Nat :=
  if x.exponentField = 0 then x.fraction else twoTo 52 + x.fraction

/-- The absolute value of a finite number is `significand * 2 ^ power`. -/
def power (x : Binary64) : Int :=
  if x.exponentField = 0 then -1074 else (x.exponentField : Int) - 1075

/-- The number of the given sign whose other bits are `magnitude`. -/
def ofMagnitude (negative : Bool) (magnitude : Nat) : Binary64 :=
  ⟨UInt64.ofNat (if negative then twoTo 63 + magnitude else magnitude)⟩

/-- The bits of an infinity, less its sign. -/
def infiniteMagnitude : Nat := 2047 * twoTo 52

def infinity (negative : Bool) : Binary64 := ofMagnitude negative infiniteMagnitude

/-- The NaN that arithmetic gives. -/
def nan : Binary64 := ofMagnitude false (infiniteMagnitude + twoTo 51)

/-! ## Reading a decimal -/

/-- The quotient rounded to the nearest number, a tie to the even one. -/
def roundQuotient (num den : Nat) : Nat :=
  let quotient := num / den
  let twice := 2 * (num % den)
  if den < twice || (twice == den && quotient % 2 == 1) then quotient + 1 else quotient

/--
The magnitude of the number nearest to `num / den`, both positive. The binary power is chosen so
that the rounded quotient has fifty-three bits, but never below that of the smallest number. One
sum encodes all cases: the hidden bit of the quotient raises the exponent field by one.
-/
def magnitudeOfRatio (num den : Nat) : Nat :=
  let low : Int := max (-1074) ((num.log2 : Int) - den.log2 - 53)
  let scaled (q : Int) : Nat × Nat :=
    if 0 ≤ q then (num, den * twoTo q.toNat) else (num * twoTo (-q).toNat, den)
  let q := if (scaled low).1 / (scaled low).2 < twoTo 53 then low else low + 1
  let rounded := roundQuotient (scaled q).1 (scaled q).2
  min infiniteMagnitude ((q + 1074).toNat * twoTo 52 + rounded)

/--
The number nearest to `digits * 10 ^ exponent`. Exponents far out of range are decided before any
power is computed: above `10 ^ 310` all is infinite, below `10 ^ -340` all is zero.
-/
def ofDecimal (negative : Bool) (digits : Nat) (exponent : Int) : Binary64 :=
  if digits = 0 then ofMagnitude negative 0
  else
    let length : Int := (digits.log2 / 3 : Nat)
    if exponent > 310 then infinity negative
    else if exponent + length < -340 then ofMagnitude negative 0
    else if 0 ≤ exponent then
      ofMagnitude negative (magnitudeOfRatio (digits * tenTo exponent.toNat) 1)
    else ofMagnitude negative (magnitudeOfRatio digits (tenTo (-exponent).toNat))

/-! ## Integers -/

/-- The integer that the number equals, if there is one. -/
def toInt? (x : Binary64) : Option Int :=
  let signed (n : Nat) : Int := if x.isNegative then -n else n
  if !x.isFinite then none
  else if 0 ≤ x.power then some (signed (x.significand * twoTo x.power.toNat))
  else
    let unit := twoTo (-x.power).toNat
    if x.significand % unit = 0 then some (signed (x.significand / unit)) else none

/-! ## Order -/

/-- The place of a number on a line that has an end in both directions. -/
inductive Place where
  | least
  /-- So many times the smallest positive number. -/
  | at (count : Int)
  | greatest
  deriving DecidableEq, Repr

/-- The place is in front of another one. -/
def Place.isBefore : Place → Place → Bool
  | .at m, .at n => m < n
  | .least, .at _ | .least, .greatest | .at _, .greatest => true
  | _, _ => false

/-- The place of an integer. -/
def Place.ofInt (value : Int) : Place := .at (value * twoTo 1074)

/-- The place of a number; a NaN has none. -/
def place? (x : Binary64) : Option Place :=
  if x.isNaN then none
  else if !x.isFinite then some (if x.isNegative then .least else .greatest)
  else
    let count : Int := x.significand * twoTo (x.power + 1074).toNat
    some (.at (if x.isNegative then -count else count))

end Binary64

end ToolSchema
