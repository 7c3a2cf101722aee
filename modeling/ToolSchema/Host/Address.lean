import ToolSchema.Text.Digits
import ToolSchema.Text.Pieces

/-!
# Network addresses

An address of version 4 is four numbers below 256 with dots between them. An address of version 6
is eight groups of hexadecimal digits with colons between them. Two colons in a row, which may stand
there once, leave out groups of zeros; an address of version 4 may stand for the last two groups;
and behind a `%` the address may name the network that it is valid in.

Main statements: `isVersion4` and `isVersion6` decide which texts are such addresses, and
`looksLikeVersion4` which ones are meant to be addresses of version 4.
-/

namespace ToolSchema

namespace Address

/-! ## Version 4 -/

/-- The text is a number below 256 in decimal digits, without needless zeros in front. -/
def isOctet (text : List Char) : Bool :=
  !text.isEmpty && text.all Char.isDigit && (text == ['0'] || text.head? != some '0') &&
    Text.natOfDigits text < 256

def isVersion4 (text : List Char) : Bool :=
  let octets := Text.pieces (· == '.') text
  octets.length == 4 && octets.all isOctet

/-- The text is four runs of digits with dots between them. -/
def looksLikeVersion4 (text : List Char) : Bool :=
  let runs := Text.pieces (· == '.') text
  runs.length == 4 && runs.all (fun run => !run.isEmpty && run.all Char.isDigit)

/-! ## Version 6 -/

/-- The text is one to four hexadecimal digits. -/
def isGroup (text : List Char) : Bool :=
  !text.isEmpty && text.length ≤ 4 && text.all (fun c => (Text.hexDigit? c).isSome)

/-- The groups between the colons of a text, if it is not empty. -/
def groups (text : List Char) : List (List Char) :=
  if text.isEmpty then [] else Text.pieces (· == ':') text

/-- The groups at the end of an address, with two of zeros for an address of version 4. -/
def lastGroups (text : List Char) : List (List Char) :=
  let groups := groups text
  if groups.getLast?.any isVersion4 then groups.dropLast ++ [['0'], ['0']] else groups

/-- What stands before the first two colons in a row, and what stands behind them. -/
def splitGap? : List Char → Option (List Char × List Char)
  | [] => none
  | ':' :: ':' :: rest => some ([], rest)
  | c :: rest => (splitGap? rest).map (fun sides => (c :: sides.1, sides.2))

/-- The text is eight groups, or less with a gap. -/
def isEightGroups (text : List Char) : Bool :=
  match splitGap? text with
  | some (before, after) =>
    let groups := groups before ++ lastGroups after
    groups.length < 8 && groups.all isGroup
  | none =>
    let groups := lastGroups text
    groups.length == 8 && groups.all isGroup

def isVersion6 (text : List Char) : Bool :=
  isEightGroups (text.takeWhile (· != '%')) &&
    match text.dropWhile (· != '%') with
    | [] => true
    | _ :: network => !network.isEmpty && !network.contains '%'

end Address

end ToolSchema
