import ToolSchema.Json
import ToolSchema.Text.CodeUnit
import ToolSchema.Text.Digits

/-!
# Reading JSON text

`Json.read` turns a text into a value or says what is wrong with it and where. Beyond the standard
it takes `NaN`, `Infinity` and `-Infinity`. When an object repeats a key, the last value wins and
the first position is kept. An integer of more than 4300 digits is refused.

A refusal carries the length of the text from the fault on, so that no reader has to count; the
position is worked out once, at the top.

## Termination

Each reader returns a rest that is shorter than what it was given (`Parsed.shorter`), and the loops
over items and members end by the length of the rest.
-/

namespace ToolSchema

namespace Json

namespace Reader

/-- What can be wrong with a text. -/
inductive Problem where
  | expectingValue
  | expectingName
  | expectingColon
  | expectingComma
  | extraData
  | unterminatedString
  | controlCharacter
  | invalidEscape
  | invalidUnicodeEscape
  | byteOrderMark
  deriving DecidableEq, Repr

/-- The wording of a problem. -/
def Problem.wording : Problem → String
  | .expectingValue => "Expecting value"
  | .expectingName => "Expecting property name enclosed in double quotes"
  | .expectingColon => "Expecting ':' delimiter"
  | .expectingComma => "Expecting ',' delimiter"
  | .extraData => "Extra data"
  | .unterminatedString => "Unterminated string starting at"
  | .controlCharacter => "Invalid control character at"
  | .invalidEscape => "Invalid \\escape"
  | .invalidUnicodeEscape => "Invalid \\uXXXX escape"
  | .byteOrderMark => "Unexpected UTF-8 BOM (decode using utf-8-sig)"

/-- Why reading stopped. -/
inductive Refusal where
  /-- The text is malformed where this many characters were left. -/
  | malformed (problem : Problem) (left : Nat)
  /-- An integer is written with this many digits. -/
  | tooManyDigits (count : Nat)
  deriving DecidableEq, Repr

/-- A value and the rest of the text, which has fewer than `bound` characters. -/
structure Parsed (α : Type) (bound : Nat) where
  value : α
  rest : List Char
  shorter : rest.length < bound

/-! ## Blanks and words -/

/-- Blank, tab, line feed and carriage return. -/
def isBlank (c : Char) : Bool := c == ' ' || c == '\t' || c == '\n' || c == '\r'

def skipBlanks (s : List Char) : List Char := s.dropWhile isBlank

theorem length_skipBlanks_le (s : List Char) : (skipBlanks s).length ≤ s.length :=
  (List.dropWhile_sublist _).length_le

theorem length_skipBlanks_le_succ (s : List Char) : (skipBlanks s).length ≤ s.length + 1 :=
  Nat.le_succ_of_le (length_skipBlanks_le s)

/-- The text behind blanks and this character, which is shorter. -/
def behind? (c : Char) (s : List Char) : Option { rest : List Char // rest.length < s.length } :=
  match skipBlanks s, length_skipBlanks_le s with
  | [], _ => none
  | first :: rest, short => if first = c then some ⟨rest, short⟩ else none

/-- The text behind `word`, if it starts with it. -/
def after? : (word s : List Char) → Option (List Char)
  | [], s => some s
  | _ :: _, [] => none
  | w :: word, c :: s => if w = c then after? word s else none

/-! ## Strings -/

/-- The number that four hexadecimal digits stand for. -/
def unit? (a b c d : Char) : Option Nat := do
  let a ← Text.hexDigit? a
  let b ← Text.hexDigit? b
  let c ← Text.hexDigit? c
  let d ← Text.hexDigit? d
  return ((a * 16 + b) * 16 + c) * 16 + d

/-- The character that a letter behind a backslash stands for. -/
def shortEscape? : Char → Option Char
  | '"' => some '"'
  | '\\' => some '\\'
  | '/' => some '/'
  | 'b' => some '\x08'
  | 'f' => some '\x0c'
  | 'n' => some '\n'
  | 'r' => some '\r'
  | 't' => some '\t'
  | _ => none

/--
Reads a string behind its opening quote. `opening` is the length of the text from that quote on, and
`sofar` are the code points read, last one first. Behind the four digits of `\u` at least one more
character has to follow, for the string is still open.
-/
def readString (bound opening : Nat) :
    (s : List Char) → s.length ≤ bound → (sofar : List Nat) → Except Refusal (Parsed String bound)
  | [], _, _ => .error (.malformed .unterminatedString opening)
  | '"' :: rest, fits, sofar => .ok ⟨String.ofList (Text.charsOfUnits sofar.reverse), rest, fits⟩
  | '\\' :: [], _, _ => .error (.malformed .unterminatedString opening)
  | '\\' :: 'u' :: a :: b :: c :: d :: next :: rest, fits, sofar =>
    match unit? a b c d with
    | none => .error (.malformed .invalidUnicodeEscape (rest.length + 6))
    | some unit =>
      readString bound opening (next :: rest) (by simp only [List.length_cons] at *; omega)
        (unit :: sofar)
  | '\\' :: 'u' :: rest, _, _ => .error (.malformed .invalidUnicodeEscape (rest.length + 1))
  | '\\' :: letter :: rest, fits, sofar =>
    match shortEscape? letter with
    | none => .error (.malformed .invalidEscape (rest.length + 2))
    | some c =>
      readString bound opening rest (by simp only [List.length_cons] at *; omega)
        (c.toNat :: sofar)
  | c :: rest, fits, sofar =>
    if c.toNat < 32 then .error (.malformed .controlCharacter (rest.length + 1))
    else readString bound opening rest (Nat.le_of_succ_le fits) (c.toNat :: sofar)

/-! ## Numbers -/

/-- The digits at the front of a text and the rest. -/
def spanDigits (s : List Char) : List Char × List Char :=
  (s.takeWhile Char.isDigit, s.dropWhile Char.isDigit)

theorem length_spanDigits (s : List Char) :
    (spanDigits s).1.length + (spanDigits s).2.length = s.length := by
  rw [spanDigits, ← List.length_append, List.takeWhile_append_dropWhile]

/-- The digits before the point: a single zero, or digits that do not start with one. -/
def wholeDigits? : List Char → Option (List Char × List Char)
  | '0' :: rest => some (['0'], rest)
  | s => if (spanDigits s).1.isEmpty then none else some (spanDigits s)

theorem length_of_wholeDigits? {s digits rest : List Char}
    (h : wholeDigits? s = some (digits, rest)) : rest.length < s.length := by
  unfold wholeDigits? at h
  split at h
  · cases h
    simp
  · split at h
    · cases h
    · next hne =>
      simp only [Option.some.injEq] at h
      have hlen := length_spanDigits s
      rw [h] at hlen hne
      cases digits with
      | nil => simp at hne
      | cons _ _ =>
        simp at hlen
        omega

/-- The digits behind a point, if at least one follows it. -/
def fractionDigits (s : List Char) : List Char × List Char :=
  match s with
  | '.' :: rest => if (spanDigits rest).1.isEmpty then ([], s) else spanDigits rest
  | _ => ([], s)

theorem length_fractionDigits_le (s : List Char) : (fractionDigits s).2.length ≤ s.length := by
  unfold fractionDigits
  split
  · next rest =>
    split
    · exact Nat.le_refl _
    · have := length_spanDigits rest
      simp
      omega
  · exact Nat.le_refl _

/-- The sign of an exponent and the text behind it. -/
def exponentSign : List Char → Bool × List Char
  | '-' :: rest => (true, rest)
  | '+' :: rest => (false, rest)
  | rest => (false, rest)

theorem length_exponentSign_le (s : List Char) : (exponentSign s).2.length ≤ s.length := by
  unfold exponentSign
  split <;> simp

/-- The exponent behind `e` or `E`, if it has a digit. -/
def exponent? (s : List Char) : Option (Int × List Char) :=
  match s with
  | c :: rest =>
    if c = 'e' ∨ c = 'E' then
      let signed := exponentSign rest
      let digits := spanDigits signed.2
      if digits.1.isEmpty then none
      else
        let value : Int := Text.natOfDigits digits.1
        some (if signed.1 then -value else value, digits.2)
    else none
  | [] => none

theorem length_of_exponent? {s rest : List Char} {value : Int}
    (h : exponent? s = some (value, rest)) : rest.length ≤ s.length := by
  unfold exponent? at h
  split at h
  · next c tail =>
    split at h
    · simp only at h
      split at h
      · cases h
      · simp only [Option.some.injEq, Prod.mk.injEq] at h
        obtain ⟨_, rfl⟩ := h
        have h₁ := length_spanDigits (exponentSign tail).2
        have h₂ := length_exponentSign_le tail
        simp
        omega
    · cases h
  · cases h

/-- The most digits that an integer may have. -/
def digitLimit : Nat := 4300

/--
The number at the front of a text behind its sign: an integer, unless it has a point or an exponent.
-/
def readUnsigned (negative : Bool) (s : List Char) : Except Refusal (Parsed Json s.length) :=
  match h : wholeDigits? s with
  | none => .error (.malformed .expectingValue (s.length + if negative then 1 else 0))
  | some (whole, rest) =>
    have h₁ := length_of_wholeDigits? h
    have h₂ := length_fractionDigits_le rest
    match h' : exponent? (fractionDigits rest).2 with
    | some (exponent, behind) =>
      have h₃ := length_of_exponent? h'
      .ok ⟨.float (Binary64.ofDecimal negative (Text.natOfDigits (whole ++ (fractionDigits rest).1))
        (exponent - (fractionDigits rest).1.length)), behind, by omega⟩
    | none =>
      if (fractionDigits rest).1.isEmpty then
        if digitLimit < whole.length then .error (.tooManyDigits whole.length)
        else
          let value : Int := Text.natOfDigits whole
          .ok ⟨.int (if negative then -value else value), rest, h₁⟩
      else
        .ok ⟨.float (Binary64.ofDecimal negative
          (Text.natOfDigits (whole ++ (fractionDigits rest).1))
          (-(fractionDigits rest).1.length)), (fractionDigits rest).2, by omega⟩

/-! ## Words and numbers -/

/-- The words that stand for a value. -/
def words : List (List Char × Json) :=
  [("null".toList, .null), ("true".toList, .bool true), ("false".toList, .bool false),
    ("NaN".toList, .float Binary64.nan), ("Infinity".toList, .float (Binary64.infinity false)),
    ("-Infinity".toList, .float (Binary64.infinity true))]

/-- The word at the front of a text. -/
def readWord? (s : List Char) : Option (Parsed Json s.length) :=
  words.findSome? (fun entry =>
    match after? entry.1 s with
    | some rest =>
      if h : rest.length < s.length then some ⟨entry.2, rest, h⟩ else none
    | none => none)

/-- A word or a number. -/
def readScalar (s : List Char) : Except Refusal (Parsed Json s.length) :=
  match readWord? s with
  | some parsed => .ok parsed
  | none =>
    match s with
    | '-' :: rest =>
      match readUnsigned true rest with
      | .ok parsed => .ok ⟨parsed.value, parsed.rest, Nat.lt_succ_of_lt parsed.shorter⟩
      | .error refusal => .error refusal
    | s => readUnsigned false s

/-! ## Values -/

/-- An object of the given members, read in this order: a repeated key keeps its first position. -/
def objectOf (members : Members) : Json :=
  .object (members.foldl (fun sofar member => Members.put sofar member.1 member.2) [])

mutual

/-- Reads the value at the front of a text. -/
def readValue (s : List Char) : Except Refusal (Parsed Json s.length) :=
  match s with
  | [] => .error (.malformed .expectingValue 0)
  | '"' :: rest =>
    match readString rest.length (rest.length + 1) rest (Nat.le_refl _) [] with
    | .error refusal => .error refusal
    | .ok parsed => .ok ⟨.string parsed.value, parsed.rest, Nat.lt_succ_of_lt parsed.shorter⟩
  | '[' :: rest =>
    match behind? ']' rest with
    | some behind => .ok ⟨.array [], behind.1, Nat.lt_succ_of_lt behind.2⟩
    | none => readItems (rest.length + 1) (skipBlanks rest) (length_skipBlanks_le_succ rest) []
  | '\x7b' :: rest =>
    match behind? '\x7d' rest with
    | some behind => .ok ⟨.object [], behind.1, Nat.lt_succ_of_lt behind.2⟩
    | none => readMembers (rest.length + 1) (skipBlanks rest) (length_skipBlanks_le_succ rest) []
  | c :: rest => readScalar (c :: rest)
termination_by (s.length, 0)
decreasing_by all_goals exact .left _ _ (Nat.lt_succ_of_le (length_skipBlanks_le rest))

/-- Reads the items of an array from the next one on; `sofar` are those read, last one first. -/
def readItems (bound : Nat) (s : List Char) (fits : s.length ≤ bound) (sofar : List Json) :
    Except Refusal (Parsed Json bound) :=
  match readValue s with
  | .error refusal => .error refusal
  | .ok item =>
    match behind? ']' item.rest with
    | some behind =>
      .ok ⟨.array (item.value :: sofar).reverse, behind.1,
        Nat.lt_of_lt_of_le (Nat.lt_trans behind.2 item.shorter) fits⟩
    | none =>
      match behind? ',' item.rest with
      | none => .error (.malformed .expectingComma (skipBlanks item.rest).length)
      | some behind =>
        have shorter : (skipBlanks behind.1).length < s.length :=
          Nat.lt_of_le_of_lt (length_skipBlanks_le _) (Nat.lt_trans behind.2 item.shorter)
        readItems bound (skipBlanks behind.1) (Nat.le_of_lt (Nat.lt_of_lt_of_le shorter fits))
          (item.value :: sofar)
termination_by (s.length, 1)
decreasing_by
  · exact .right _ Nat.zero_lt_one
  · exact .left _ _ shorter

/-- Reads the members of an object from the next name on; `sofar` are those read, last one first. -/
def readMembers (bound : Nat) (s : List Char) (fits : s.length ≤ bound) (sofar : Members) :
    Except Refusal (Parsed Json bound) :=
  match behind? '"' s with
  | none => .error (.malformed .expectingName s.length)
  | some quote =>
    match readString quote.1.length (quote.1.length + 1) quote.1 (Nat.le_refl _) [] with
    | .error refusal => .error refusal
    | .ok name =>
      match behind? ':' name.rest with
      | none => .error (.malformed .expectingColon (skipBlanks name.rest).length)
      | some colon =>
        have closer : (skipBlanks colon.1).length < s.length :=
          Nat.lt_of_le_of_lt (length_skipBlanks_le _)
            (Nat.lt_trans colon.2 (Nat.lt_trans name.shorter quote.2))
        match readValue (skipBlanks colon.1) with
        | .error refusal => .error refusal
        | .ok value =>
          have short := Nat.lt_trans value.shorter closer
          match behind? '\x7d' value.rest with
          | some behind =>
            .ok ⟨objectOf ((name.value, value.value) :: sofar).reverse, behind.1,
              Nat.lt_of_lt_of_le (Nat.lt_trans behind.2 short) fits⟩
          | none =>
            match behind? ',' value.rest with
            | none => .error (.malformed .expectingComma (skipBlanks value.rest).length)
            | some behind =>
              have shorter : (skipBlanks behind.1).length < s.length :=
                Nat.lt_of_le_of_lt (length_skipBlanks_le _) (Nat.lt_trans behind.2 short)
              readMembers bound (skipBlanks behind.1)
                (Nat.le_of_lt (Nat.lt_of_lt_of_le shorter fits))
                ((name.value, value.value) :: sofar)
termination_by (s.length, 1)
decreasing_by
  · exact .left _ _ closer
  · exact .left _ _ shorter

end

/-- Reads a whole text. -/
def readWhole (s : List Char) : Except Refusal Json :=
  match s with
  | '\uFEFF' :: rest => .error (.malformed .byteOrderMark (rest.length + 1))
  | s =>
    match readValue (skipBlanks s) with
    | .error refusal => .error refusal
    | .ok parsed =>
      match skipBlanks parsed.rest with
      | [] => .ok parsed.value
      | c :: behind => .error (.malformed .extraData (c :: behind).length)

end Reader

/-- Why a text is no JSON text. -/
inductive ReadError where
  /-- The text is malformed at this position, counted in characters from zero. -/
  | malformed (problem : Reader.Problem) (position : Nat)
  /-- An integer is written with this many digits. -/
  | tooManyDigits (count : Nat)
  deriving DecidableEq, Repr

/-- Reads a text as one value. -/
def read (text : String) : Except ReadError Json :=
  match Reader.readWhole text.toList with
  | .ok value => .ok value
  | .error (.malformed problem left) => .error (.malformed problem (text.length - left))
  | .error (.tooManyDigits count) => .error (.tooManyDigits count)

/-- The line and the column of a position, both counted from one. -/
def lineAndColumn (text : String) (position : Nat) : Nat × Nat :=
  let before := text.toList.take position
  (before.count '\n' + 1, (before.reverse.takeWhile (· != '\n')).length + 1)

/-- The wording of the limit on the digits of an integer. -/
def tooManyDigitsText (count : Nat) : String :=
  "Exceeds the limit (" ++ toString Reader.digitLimit ++
    " digits) for integer string conversion: value has " ++ toString count ++
    " digits; use sys.set_int_max_str_digits() to increase the limit"

/-- The wording of an error found in `text`. -/
def ReadError.message (text : String) : ReadError → String
  | .malformed problem position =>
    let place := lineAndColumn text position
    problem.wording ++ ": line " ++ toString place.1 ++ " column " ++ toString place.2 ++
      " (char " ++ toString position ++ ")"
  | .tooManyDigits count => tooManyDigitsText count

end Json

end ToolSchema
