import ToolSchema.Text.Composition
import ToolSchema.Text.Mark

/-!
# Composed text

A letter with marks can be written in several ways. A text is composed if it is written in the one
that takes single characters where there are such: every character is taken apart, marks are put in
the order of their classes, and what can be one character becomes one.

Main statement: `isComposed` decides whether this leaves a text as it is.
-/

namespace ToolSchema

namespace Text

/-- Characters that no composed text holds, since it writes them with others. -/
def otherwiseWritten : List (Nat × Nat) :=
  [(0x340, 0x341), (0x343, 0x344), (0x374, 0x374), (0x37E, 0x37E), (0x387, 0x387), (0x958, 0x95F),
    (0x9DC, 0x9DD), (0x9DF, 0x9DF), (0xA33, 0xA33), (0xA36, 0xA36), (0xA59, 0xA5B), (0xA5E, 0xA5E),
    (0xB5C, 0xB5D), (0xF43, 0xF43), (0xF4D, 0xF4D), (0xF52, 0xF52), (0xF57, 0xF57), (0xF5C, 0xF5C),
    (0xF69, 0xF69), (0xF73, 0xF73), (0xF75, 0xF76), (0xF78, 0xF78), (0xF81, 0xF81), (0xF93, 0xF93),
    (0xF9D, 0xF9D), (0xFA2, 0xFA2), (0xFA7, 0xFA7), (0xFAC, 0xFAC), (0xFB9, 0xFB9),
    (0x1F71, 0x1F71), (0x1F73, 0x1F73), (0x1F75, 0x1F75), (0x1F77, 0x1F77), (0x1F79, 0x1F79),
    (0x1F7B, 0x1F7B), (0x1F7D, 0x1F7D), (0x1FBB, 0x1FBB), (0x1FBE, 0x1FBE), (0x1FC9, 0x1FC9),
    (0x1FCB, 0x1FCB), (0x1FD3, 0x1FD3), (0x1FDB, 0x1FDB), (0x1FE3, 0x1FE3), (0x1FEB, 0x1FEB),
    (0x1FEE, 0x1FEF), (0x1FF9, 0x1FF9), (0x1FFB, 0x1FFB), (0x1FFD, 0x1FFD), (0x2000, 0x2001),
    (0x2126, 0x2126), (0x212A, 0x212B), (0x2329, 0x232A), (0x2ADC, 0x2ADC), (0xF900, 0xFA0D),
    (0xFA10, 0xFA10), (0xFA12, 0xFA12), (0xFA15, 0xFA1E), (0xFA20, 0xFA20), (0xFA22, 0xFA22),
    (0xFA25, 0xFA26), (0xFA2A, 0xFA6D), (0xFA70, 0xFAD9), (0xFB1D, 0xFB1D), (0xFB1F, 0xFB1F),
    (0xFB2A, 0xFB36), (0xFB38, 0xFB3C), (0xFB3E, 0xFB3E), (0xFB40, 0xFB41), (0xFB43, 0xFB44),
    (0xFB46, 0xFB4E), (0x1D15E, 0x1D164), (0x1D1BB, 0x1D1C0), (0x2F800, 0x2FA1D)]

/-! ## Taking apart -/

/-- How often a part of a character can be taken apart again. -/
def partDepth : Nat := 4

/-- The parts of a character that have no parts. -/
def decomposed : (depth : Nat) → Nat → List Nat
  | 0, n => [n]
  | depth + 1, n =>
    match parts? n with
    | some (first, second) => decomposed depth first ++ [second]
    | none => [n]

/-! ## The order of marks -/

/-- Puts a character behind others, of which the last comes first, but a mark before those marks of
which it would be the lower one. -/
def putMark (n : Nat) : List Nat → List Nat
  | [] => [n]
  | last :: before =>
    if markClass n ≠ 0 ∧ markClass n < markClass last then last :: putMark n before
    else n :: last :: before

/-- The characters with the marks behind each letter in the order of their classes. -/
def ordered (text : List Nat) : List Nat :=
  (text.foldl (fun before n => putMark n before) []).reverse

/-! ## Putting together -/

/-- What is left of a text is composed with a letter and the marks behind it, the last one first. -/
def composeFrom (letter : Nat) (marks : List Nat) : List Nat → List Nat
  | [] => letter :: marks.reverse
  | n :: rest =>
    let isFree := marks.head?.all (fun last => markClass last < markClass n)
    match if isFree then composed? letter n else none with
    | some whole => composeFrom whole marks rest
    | none =>
      if markClass n = 0 then letter :: (marks.reverse ++ composeFrom n [] rest)
      else composeFrom letter (n :: marks) rest

/-- The text with single characters where there are such. Marks in front stay. -/
def compose : List Nat → List Nat
  | [] => []
  | n :: rest => if markClass n = 0 then composeFrom n [] rest else n :: compose rest

/-- The text is written as a composed text is. -/
def isComposed (text : List Nat) : Bool :=
  !text.any (isWithin otherwiseWritten) &&
    compose (ordered (text.flatMap (decomposed partDepth))) == text

end Text

end ToolSchema
