/-!
# Labels in ASCII

A label of a host name that holds other characters than those of ASCII is written in ASCII by
listing its ASCII characters first and then, in the order of their numbers, how far each of the
others is from the one before. A distance counts the places in the label too, so it says both which
character follows and where it stands. It is written in digits to the base 36, the lowest first; how
high a digit may be before another one follows depends on the distances so far (`bias`).

* `encode` writes a label and `decode?` reads one.

## Termination

Writing a distance makes it smaller with each digit (`toDigits`); reading takes at least one digit
for each character (`readDistance?_length`).
-/

namespace ToolSchema

namespace Punycode

/-! ## Digits -/

/-- The letters stand for the digits up to 25 and the decimal digits for those from 26 on. -/
def digitChar (digit : Nat) : Char :=
  if digit < 26 then Char.ofNat (97 + digit) else Char.ofNat (22 + digit)

def digit? (c : Char) : Option Nat :=
  if 'a' ≤ c ∧ c ≤ 'z' then some (c.toNat - 97)
  else if 'A' ≤ c ∧ c ≤ 'Z' then some (c.toNat - 65)
  else if '0' ≤ c ∧ c ≤ '9' then some (c.toNat - 22)
  else none

/-- From which value on a digit at this place says that another one follows. -/
def threshold (place bias : Nat) : Nat := max 1 (min 26 (36 * (place + 1) - bias))

theorem threshold_pos (place bias : Nat) : 1 ≤ threshold place bias := by
  unfold threshold
  omega

theorem threshold_le (place bias : Nat) : threshold place bias ≤ 26 := by
  unfold threshold
  omega

/-- The bias of a distance that was brought down to 455, step by step. -/
def biasOf (distance steps : Nat) : Nat :=
  if 455 < distance then biasOf (distance / 35) (steps + 1)
  else 36 * steps + 36 * distance / (distance + 38)
termination_by distance
decreasing_by omega

/-- The bias after a distance, with so many characters written; the first one counts for less. -/
def nextBias (distance : Nat) (isFirst : Bool) (count : Nat) : Nat :=
  let reduced := if isFirst then distance / 700 else distance / 2
  biasOf (reduced + reduced / count) 0

/-- The bias before the first distance. -/
def firstBias : Nat := 72

/-! ## Writing -/

/-- A distance in digits, from this place on. -/
def toDigits (bias place distance : Nat) : List Char :=
  let least := threshold place bias
  if distance < least then [digitChar distance]
  else
    digitChar (least + (distance - least) % (36 - least)) ::
      toDigits bias (place + 1) ((distance - least) / (36 - least))
termination_by distance
decreasing_by
  have hpos := threshold_pos place bias
  have hle := threshold_le place bias
  exact Nat.lt_of_le_of_lt (Nat.div_le_self _ _) (by omega)

/-- How far the writing of a label has come. -/
structure Writing where
  /-- What is written, the last digit first. -/
  digits : List Char
  /-- The distance since the last character that was written. -/
  distance : Nat
  bias : Nat
  /-- How many characters are written. -/
  count : Nat

/-- Goes past one character of the label while those of number `point` are written. -/
def Writing.pass (first point : Nat) (writing : Writing) (c : Char) : Writing :=
  if c.toNat < point then { writing with distance := writing.distance + 1 }
  else if c.toNat = point then
    { digits := (toDigits writing.bias 0 writing.distance).reverse ++ writing.digits
      distance := 0
      bias := nextBias writing.distance (writing.count == first) (writing.count + 1)
      count := writing.count + 1 }
  else writing

/-- Writes the characters of these numbers, in ascending order; `next` is the least one possible. -/
def Writing.points (label : List Char) (first next : Nat) (writing : Writing) :
    List Nat → Writing
  | [] => writing
  | point :: rest =>
    let started :=
      { writing with distance := writing.distance + (point - next) * (writing.count + 1) }
    let passed := label.foldl (Writing.pass first point) started
    Writing.points label first (point + 1) { passed with distance := passed.distance + 1 } rest

def isBasic (c : Char) : Bool := c.toNat < 0x80

/-- The label in ASCII. -/
def encode (label : List Char) : List Char :=
  let basic := label.filter isBasic
  let points := ((label.filter (!isBasic ·)).map Char.toNat).eraseDups.mergeSort (· ≤ ·)
  let written := Writing.points label basic.length 0x80 ⟨[], 0, firstBias, basic.length⟩ points
  (if basic.isEmpty then [] else basic ++ ['-']) ++ written.digits.reverse

/-! ## Reading -/

/-- The distance that a text begins with, and what is behind it. -/
def readDistance? (bias place weight sofar : Nat) : List Char → Option (Nat × List Char)
  | [] => none
  | c :: rest => do
    let digit ← digit? c
    let least := threshold place bias
    if digit < least then return (sofar + digit * weight, rest)
    else readDistance? bias (place + 1) (weight * (36 - least)) (sofar + digit * weight) rest

theorem readDistance?_length {bias place weight sofar distance : Nat} {text rest : List Char}
    (h : readDistance? bias place weight sofar text = some (distance, rest)) :
    rest.length < text.length := by
  induction text generalizing place weight sofar with
  | nil => cases h
  | cons c others ih =>
    rw [readDistance?] at h
    cases hd : digit? c with
    | none => simp [hd] at h
    | some digit =>
      simp only [hd, Option.bind_eq_bind, Option.bind_some] at h
      split at h
      · cases h
        simp
      · have := ih h
        simp only [List.length_cons]
        omega

/-- The greatest number of a character. -/
def lastPoint : Nat := 0x10FFFF

/--
Reads distances behind a label of numbers. `point` is the number of the last character that was put
in, and `place` is the place behind it.
-/
def readPoints? (bias point place : Nat) (isFirst : Bool) (label : List Nat) (text : List Char) :
    Option (List Nat) :=
  match text with
  | [] => some label
  | c :: others =>
    match _ : readDistance? bias 0 1 0 (c :: others) with
    | none => none
    | some (distance, rest) =>
      let count := label.length + 1
      let point := point + (place + distance) / count
      let place := (place + distance) % count
      if lastPoint < point then none
      else
        readPoints? (nextBias distance isFirst count) point (place + 1) false
          (label.take place ++ point :: label.drop place) rest
termination_by text.length
decreasing_by exact readDistance?_length ‹_›

/-- The numbers of the characters of a label that is written in ASCII. -/
def decode? (text : List Char) : Option (List Nat) :=
  let digits := (text.reverse.takeWhile (· != '-')).reverse
  let basic := (text.reverse.dropWhile (· != '-')).tail.reverse
  readPoints? firstBias 0x80 0 true (basic.map Char.toNat) digits

end Punycode

end ToolSchema
