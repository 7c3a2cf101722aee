import ToolSchema.Host.Direction
import ToolSchema.Host.Joining
import ToolSchema.Host.Punycode
import ToolSchema.Host.Script
import ToolSchema.Text.Composed

/-!
# Labels of host names

What a label of a host name may be. Hyphens stand between other characters, and not two of them
behind the second character, where they would mark a label that is written in ASCII. A mark does not
come first. Most characters are allowed or not wherever they stand; joiners and a few signs depend
on what is around them.

Main statement: `labelDefect?` finds the first rule that a label breaks.
-/

namespace ToolSchema

namespace Host

/-- The class of the marks that take the vowel away from a letter. -/
def vowelKiller : Nat := 9

/--
A joiner may stand behind a mark that takes the vowel away. The one that keeps letters apart may
also stand between two letters that would join, unless the character before it is not known.
-/
def joinerFits (n : Nat) (before after : List Nat) : Bool :=
  before.head?.any (fun last => Text.markClass last == vowelKiller) ||
    (n == 0x200C && !before.head?.any isUnknown &&
      (before.dropWhile isTransparent).head?.any joinsForward &&
      (after.dropWhile isTransparent).head?.any joinsBackward)

/-- The digits that are written in Arabia. -/
def isArabianDigit (n : Nat) : Bool := 0x660 ≤ n && n ≤ 0x669

/-- The digits that are written in Persia. -/
def isPersianDigit (n : Nat) : Bool := 0x6F0 ≤ n && n ≤ 0x6F9

/-- The signs that depend on what is around them. -/
def isSign (n : Nat) : Bool :=
  n == 0xB7 || n == 0x375 || n == 0x5F3 || n == 0x5F4 || n == 0x30FB || isArabianDigit n ||
    isPersianDigit n

/--
A dot in the middle stands between two `l`; the Greek sign for numbers, before a Greek letter;
Hebrew signs, behind a Hebrew one. The dot of Japan needs a Japanese character somewhere, and the
digits of Arabia and Persia are not mixed.
-/
def signFits (n : Nat) (label before after : List Nat) : Bool :=
  if n == 0xB7 then before.head? == some 'l'.toNat && after.head? == some 'l'.toNat
  else if n == 0x375 then after.head?.any isGreek
  else if n == 0x30FB then label.any (fun other => other != n && isJapanese other)
  else if isArabianDigit n then !label.any isPersianDigit
  else if isPersianDigit n then !label.any isArabianDigit
  else before.head?.any isHebrew

/-- What is wrong with the character at an index. -/
def pointDefect? (label : List Nat) (n index : Nat) : Option NameDefect :=
  let before := (label.take index).reverse
  let after := label.drop (index + 1)
  if isNameChar n then none
  else if isJoiner n then
    if joinerFits n before after then none else some (.joinerMisplaced label index)
  else if isSign n then
    if signFits n label before after then none else some (.signMisplaced label index)
  else some (.notAllowed label index)

/-- The first character that is wrong. -/
def firstPointDefect? (label : List Nat) : Option NameDefect :=
  label.zipIdx.findSome? (fun place => pointDefect? label place.1 place.2)

/-- How many characters a name may have, with a dot at its end. -/
def nameLimit : Nat := 254

def hyphen : Nat := '-'.toNat

/-- What is wrong with a label. -/
def labelDefect? (label : List Nat) : Option NameDefect :=
  if label.isEmpty then some .noLabel
  else if nameLimit < label.length then some .labelTooLong
  else if !Text.isComposed label then some .notComposed
  else if (label.drop 2).take 2 == [hyphen, hyphen] then some .innerHyphens
  else if label.head? == some hyphen || label.getLast? == some hyphen then some .outerHyphen
  else if label.head?.any Text.isMark then some .markFirst
  else (firstPointDefect? label).or (directionDefect? label)

end Host

end ToolSchema
