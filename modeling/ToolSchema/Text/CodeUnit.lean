/-!
# Code units

A character above U+FFFF may be written as two surrogates, which are numbers that stand for no
character of their own. Half of such a pair counts as the replacement character.
-/

namespace ToolSchema

namespace Text

/-- The number is the first half of a surrogate pair. -/
def isHighSurrogate (unit : Nat) : Bool := 0xD800 ≤ unit && unit ≤ 0xDBFF

/-- The number is the second half of a surrogate pair. -/
def isLowSurrogate (unit : Nat) : Bool := 0xDC00 ≤ unit && unit ≤ 0xDFFF

/-- The character of a code point; the replacement character for half a surrogate pair. -/
def charOfUnit (unit : Nat) : Char :=
  if isHighSurrogate unit || isLowSurrogate unit then '\uFFFD' else Char.ofNat unit

/-- The character of two surrogates. -/
def charOfSurrogates (high low : Nat) : Char :=
  Char.ofNat (0x10000 + (high - 0xD800) * 0x400 + (low - 0xDC00))

/-- The characters of code points, of which surrogates in a pair are one character. -/
def charsOfUnits : List Nat → List Char
  | [] => []
  | [unit] => [charOfUnit unit]
  | high :: low :: rest =>
    if isHighSurrogate high && isLowSurrogate low then
      charOfSurrogates high low :: charsOfUnits rest
    else charOfUnit high :: charsOfUnits (low :: rest)

end Text

end ToolSchema
