import ToolSchema.Host.Defect
import ToolSchema.Host.NameChar
import ToolSchema.Text.Mark

/-!
# Directions

Some scripts are written from right to left, with their numbers from left to right. A label that
holds such characters has to show the order of its characters: it goes in one direction, which its
first character shows, and it ends with a character that has a direction itself.

The tables are exact for the characters that host names may hold.

Main statement: `directionDefect?` finds where a label breaks the rule.
-/

namespace ToolSchema

namespace Host

/-- Which way a character goes. -/
inductive Direction where
  | left
  | right
  /-- A decimal number. -/
  | number
  /-- A number in the digits of Arabia. -/
  | arabicNumber
  /-- Both ways, as the characters around it go. -/
  | neutral
  /-- As the character goes that it is a mark of. -/
  | mark
  deriving DecidableEq, Repr

/-- The scripts that are written from right to left. -/
def rightRanges : List (Nat × Nat) :=
  [(0x5D0, 0x5F4), (0x620, 0x64A), (0x66E, 0x66F), (0x671, 0x6D5), (0x6E5, 0x6E6), (0x6EE, 0x6EF),
    (0x6FA, 0x710), (0x712, 0x72F), (0x74D, 0x7A5), (0x7B1, 0x7EA), (0x7F4, 0x7F5), (0x800, 0x815),
    (0x81A, 0x81A), (0x824, 0x824), (0x828, 0x828), (0x840, 0x858), (0x860, 0x88E), (0x8A0, 0x8C9),
    (0xFE73, 0xFE73), (0x10800, 0x10A00), (0x10A10, 0x10A35), (0x10A60, 0x10AE4),
    (0x10B00, 0x10D23), (0x10E80, 0x10EA9), (0x10EB0, 0x10F45), (0x10F70, 0x10F81),
    (0x10FB0, 0x10FF6), (0x1E800, 0x1E8C4), (0x1E922, 0x1E943), (0x1E94B, 0x1E959)]

/-- The digits of Arabia and of the Rohingya. -/
def arabicNumberRanges : List (Nat × Nat) :=
  [(0x660, 0x669), (0x10D30, 0x10D39)]

/-- The digits of Europe, and those of Persia. -/
def numberRanges : List (Nat × Nat) :=
  [(0x30, 0x39), (0x6F0, 0x6F9)]

/-- Signs that go both ways. -/
def neutralRanges : List (Nat × Nat) :=
  [(0x2D, 0x2D), (0xB7, 0xB7), (0x2B9, 0x2BA), (0x2C6, 0x2CF), (0x2EC, 0x2EC), (0x375, 0x375),
    (0x200C, 0x200D), (0x2E2F, 0x2E2F), (0x30FB, 0x30FB), (0xA67F, 0xA67F), (0xA717, 0xA71F),
    (0xA788, 0xA788)]

/-- Marks that go from left to right like letters. -/
def leftMarkRanges : List (Nat × Nat) :=
  [(0xCBF, 0xCBF), (0xCC6, 0xCC6), (0x11A07, 0x11A08), (0x11C3F, 0x11C3F)]

/-- The direction of the character of this number. -/
def direction (n : Nat) : Direction :=
  if Text.isWithin rightRanges n then .right
  else if Text.isWithin numberRanges n then .number
  else if Text.isWithin arabicNumberRanges n then .arabicNumber
  else if Text.isWithin neutralRanges n then .neutral
  else if Text.isSilentMark n && !Text.isWithin leftMarkRanges n then .mark
  else .left

namespace Direction

/-- The rule for directions applies to labels with such a character. -/
def isFromRight : Direction → Bool
  | right | arabicNumber => true
  | _ => false

/-- A label that goes from right to left, or from left to right, may hold the character. -/
def fits (fromRight : Bool) (direction : Direction) : Bool :=
  if fromRight then direction ≠ left else !direction.isFromRight

/-- A label that goes from right to left, or from left to right, may end with the character. -/
def ends (fromRight : Bool) : Direction → Bool
  | left => !fromRight
  | right | arabicNumber => fromRight
  | number => true
  | neutral | mark => false

/-- The character belongs to a number of either kind. -/
def isNumber : Direction → Bool
  | number | arabicNumber => true
  | _ => false

end Direction

/--
What is wrong with the first character that does not fit, or that belongs to another kind of number
than the one before it. The first of the directions is at `index`, and `kind` is the kind so far.
-/
def misfit? (fromRight : Bool) (kind : Option Direction) (index : Nat) :
    List Direction → Option NameDefect
  | [] => none
  | direction :: rest =>
    if !direction.fits fromRight then some (.direction fromRight index)
    else if fromRight && direction.isNumber then
      if kind.all (· = direction) then misfit? fromRight (some direction) (index + 1) rest
      else some .mixedNumbers
    else misfit? fromRight kind (index + 1) rest

/-- What is wrong with the directions in a nonempty label. Marks at the end do not count. -/
def directionDefect? (label : List Nat) : Option NameDefect :=
  let directions := label.map direction
  match label.findIdx? isUnknown with
  | some index => some (.noDirection label index)
  | none =>
    if !directions.any Direction.isFromRight then none
    else
      let fromRight := directions.head? = some .right
      if !fromRight && directions.head? ≠ some .left then some (.firstDirection label)
      else
        (misfit? fromRight none 0 directions).or
          (if (directions.reverse.find? (· ≠ .mark)).any (Direction.ends fromRight) then none
            else some .lastDirection)

end Host

end ToolSchema
