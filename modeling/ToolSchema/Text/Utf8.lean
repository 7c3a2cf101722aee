/-!
# UTF-8

`encodeChar` writes a character as bytes. `decode` reads bytes and never fails: where they are no
UTF-8 it puts the replacement character, one for each longest run of bytes that begins a character.
`decode?` refuses such bytes.

## Termination

`decodeChar` takes at least one byte away (`length_decodeChar_lt`).
-/

namespace ToolSchema

namespace Text

/-- The character that stands for bytes that are no UTF-8. -/
def replacement : Char := '\uFFFD'

/-- A byte that continues a character, with the six low bits of `n`. -/
def continuation (n : Nat) : UInt8 := UInt8.ofNat (0x80 + n % 0x40)

/-- The bytes of a character. -/
def encodeChar (c : Char) : List UInt8 :=
  let n := c.toNat
  if n < 0x80 then [UInt8.ofNat n]
  else if n < 0x800 then [UInt8.ofNat (0xC0 + n / 0x40), continuation n]
  else if n < 0x10000 then
    [UInt8.ofNat (0xE0 + n / 0x1000), continuation (n / 0x40), continuation n]
  else
    [UInt8.ofNat (0xF0 + n / 0x40000), continuation (n / 0x1000), continuation (n / 0x40),
      continuation n]

/-- What a first byte announces. -/
structure Lead where
  /-- How many bytes follow. -/
  following : Nat
  /-- The bits that the first byte contributes. -/
  bits : Nat
  /-- The least second byte. -/
  least : Nat := 0x80
  /-- The greatest second byte. -/
  greatest : Nat := 0xBF

/--
What a byte announces as the first of a character. The bounds on the second byte leave out
overlong forms, surrogates and what lies above the last character.
-/
def lead? (byte : Nat) : Option Lead :=
  if byte < 0x80 then some { following := 0, bits := byte }
  else if byte < 0xC2 then none
  else if byte < 0xE0 then some { following := 1, bits := byte - 0xC0 }
  else if byte = 0xE0 then some { following := 2, bits := 0, least := 0xA0 }
  else if byte = 0xED then some { following := 2, bits := 0xD, greatest := 0x9F }
  else if byte < 0xF0 then some { following := 2, bits := byte - 0xE0 }
  else if byte = 0xF0 then some { following := 3, bits := 0, least := 0x90 }
  else if byte < 0xF4 then some { following := 3, bits := byte - 0xF0 }
  else if byte = 0xF4 then some { following := 3, bits := 4, greatest := 0x8F }
  else none

/--
Reads `following` more bytes of a character whose bits so far are `bits`. A byte out of bounds is
left in place and ends the character as the replacement character.
-/
def decodeFollowing : (following bits least greatest : Nat) → List UInt8 → Char × List UInt8
  | 0, bits, _, _, bytes => (Char.ofNat bits, bytes)
  | _ + 1, _, _, _, [] => (replacement, [])
  | following + 1, bits, least, greatest, byte :: bytes =>
    if least ≤ byte.toNat ∧ byte.toNat ≤ greatest then
      decodeFollowing following (bits * 0x40 + byte.toNat % 0x40) 0x80 0xBF bytes
    else (replacement, byte :: bytes)

theorem length_decodeFollowing_le (following bits least greatest : Nat) (bytes : List UInt8) :
    (decodeFollowing following bits least greatest bytes).2.length ≤ bytes.length := by
  induction following generalizing bits least greatest bytes with
  | zero => simp [decodeFollowing]
  | succ following ih =>
    cases bytes with
    | nil => simp [decodeFollowing]
    | cons byte bytes =>
      simp only [decodeFollowing]
      split
      · have := ih (bits * 0x40 + byte.toNat % 0x40) 0x80 0xBF bytes
        simp
        omega
      · simp

/-- The character that starts with `first`, and the bytes behind it. -/
def decodeChar (first : UInt8) (bytes : List UInt8) : Char × List UInt8 :=
  match lead? first.toNat with
  | none => (replacement, bytes)
  | some lead => decodeFollowing lead.following lead.bits lead.least lead.greatest bytes

theorem length_decodeChar_le (first : UInt8) (bytes : List UInt8) :
    (decodeChar first bytes).2.length ≤ bytes.length := by
  unfold decodeChar
  split
  · exact Nat.le_refl _
  · exact length_decodeFollowing_le ..

/-- The characters of bytes. -/
def decode : List UInt8 → List Char
  | [] => []
  | first :: bytes => (decodeChar first bytes).1 :: decode (decodeChar first bytes).2
termination_by bytes => bytes.length
decreasing_by
  have := length_decodeChar_le first bytes
  simp
  omega

/-- The text that is written with exactly these bytes. -/
def decode? (bytes : List UInt8) : Option String :=
  if (decode bytes).flatMap encodeChar = bytes then some (String.ofList (decode bytes)) else none

end Text

end ToolSchema
