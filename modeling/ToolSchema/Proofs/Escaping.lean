import ToolSchema.Text.Percent

/-!
# Escaped texts

A text may be written with percent escapes for some of its characters. `Text.Escaped` says which
texts come of it: every `%` is escaped, any other character may be, and an escape spells each byte
of the character by two digits in either case.

* `Text.decode_encode` — the bytes of a text are read back as the text
* `Text.percentDecode_of_escaped` — every way to escape a text is undone

The decoder takes the characters of ASCII in whole runs and reads the bytes of a run at once. All
bytes of a character are spelled in one run, so no run ends inside a character.
-/

namespace ToolSchema

namespace Text

/-! ## UTF-8 -/

theorem toNat_continuation (n : Nat) : (continuation n).toNat = 0x80 + n % 0x40 := by
  rw [continuation, UInt8.toNat_ofNat']
  omega

/-- A continuation between the bounds is read as six more bits. -/
theorem decodeFollowing_continuation {following bits least greatest n : Nat}
    (hleast : least ≤ 0x80 + n % 0x40) (hgreatest : 0x80 + n % 0x40 ≤ greatest)
    (rest : List UInt8) :
    decodeFollowing (following + 1) bits least greatest (continuation n :: rest) =
      decodeFollowing following (bits * 0x40 + n % 0x40) 0x80 0xBF rest := by
  have hbits : (0x80 + n % 0x40) % 0x40 = n % 0x40 := by omega
  rw [decodeFollowing, toNat_continuation, if_pos ⟨hleast, hgreatest⟩, hbits]

/-- The last continuation gives the character of all bits together. -/
theorem decodeFollowing_last {bits least greatest : Nat} {c : Char}
    (hleast : least ≤ 0x80 + c.toNat % 0x40) (hgreatest : 0x80 + c.toNat % 0x40 ≤ greatest)
    (hbits : bits = c.toNat / 0x40) (rest : List UInt8) :
    decodeFollowing 1 bits least greatest (continuation c.toNat :: rest) = (c, rest) := by
  have hall : bits * 0x40 + c.toNat % 0x40 = c.toNat := by omega
  rw [decodeFollowing_continuation hleast hgreatest, hall, decodeFollowing, Char.ofNat_toNat]

theorem toNat_first {n : Nat} (h : n < 0x100) : (UInt8.ofNat n).toNat = n := by
  rw [UInt8.toNat_ofNat']
  omega

/-- No character lies among the surrogates or above the last character. -/
theorem toNat_valid (c : Char) : c.toNat < 0xD800 ∨ 0xDFFF < c.toNat ∧ c.toNat < 0x110000 :=
  c.valid

theorem decodeChar_one {c : Char} (h : c.toNat < 0x80) (rest : List UInt8) :
    decodeChar (UInt8.ofNat c.toNat) rest = (c, rest) := by
  rw [decodeChar, toNat_first (by omega), lead?, if_pos h]
  simp only [decodeFollowing, Char.ofNat_toNat]

theorem decodeChar_two {c : Char} (hlow : 0x80 ≤ c.toNat) (hhigh : c.toNat < 0x800)
    (rest : List UInt8) :
    decodeChar (UInt8.ofNat (0xC0 + c.toNat / 0x40)) (continuation c.toNat :: rest) =
      (c, rest) := by
  have hlead : lead? (0xC0 + c.toNat / 0x40) =
      some { following := 1, bits := 0xC0 + c.toNat / 0x40 - 0xC0 } := by
    rw [lead?, if_neg (by omega), if_neg (by omega), if_pos (by omega)]
  rw [decodeChar, toNat_first (by omega), hlead]
  show decodeFollowing 1 (0xC0 + c.toNat / 0x40 - 0xC0) 0x80 0xBF _ = _
  exact decodeFollowing_last (by omega) (by omega) (by omega) rest

/-- Of three bytes the second is bounded where the first one is the least, or before surrogates. -/
theorem decodeChar_three {c : Char} (hlow : 0x800 ≤ c.toNat) (hhigh : c.toNat < 0x10000)
    (rest : List UInt8) :
    decodeChar (UInt8.ofNat (0xE0 + c.toNat / 0x1000))
      (continuation (c.toNat / 0x40) :: continuation c.toNat :: rest) = (c, rest) := by
  have hvalid := toNat_valid c
  have hlead : ∃ lead, lead? (0xE0 + c.toNat / 0x1000) = some lead ∧ lead.following = 2 ∧
      lead.bits = c.toNat / 0x1000 ∧ lead.least ≤ 0x80 + c.toNat / 0x40 % 0x40 ∧
      0x80 + c.toNat / 0x40 % 0x40 ≤ lead.greatest := by
    rw [lead?, if_neg (by omega), if_neg (by omega), if_neg (by omega)]
    split
    · exact ⟨_, rfl, rfl, by simp only; omega, by simp only; omega, by simp only; omega⟩
    · split
      · exact ⟨_, rfl, rfl, by simp only; omega, by simp only; omega, by simp only; omega⟩
      · rw [if_pos (by omega)]
        exact ⟨_, rfl, rfl, by simp only; omega, by simp only; omega, by simp only; omega⟩
  obtain ⟨lead, hlead, hfollowing, hbits, hleast, hgreatest⟩ := hlead
  rw [decodeChar, toNat_first (by omega), hlead]
  simp only [hfollowing, hbits]
  rw [decodeFollowing_continuation hleast hgreatest]
  exact decodeFollowing_last (by omega) (by omega) (by omega) rest

/-- Of four bytes the second one is bounded where the first one is the least or the greatest. -/
theorem decodeChar_four {c : Char} (hlow : 0x10000 ≤ c.toNat) (rest : List UInt8) :
    decodeChar (UInt8.ofNat (0xF0 + c.toNat / 0x40000))
      (continuation (c.toNat / 0x1000) :: continuation (c.toNat / 0x40) ::
        continuation c.toNat :: rest) = (c, rest) := by
  have hvalid := toNat_valid c
  have hlead : ∃ lead, lead? (0xF0 + c.toNat / 0x40000) = some lead ∧ lead.following = 3 ∧
      lead.bits = c.toNat / 0x40000 ∧ lead.least ≤ 0x80 + c.toNat / 0x1000 % 0x40 ∧
      0x80 + c.toNat / 0x1000 % 0x40 ≤ lead.greatest := by
    rw [lead?, if_neg (by omega), if_neg (by omega), if_neg (by omega), if_neg (by omega),
      if_neg (by omega), if_neg (by omega)]
    split
    · exact ⟨_, rfl, rfl, by simp only; omega, by simp only; omega, by simp only; omega⟩
    · split
      · exact ⟨_, rfl, rfl, by simp only; omega, by simp only; omega, by simp only; omega⟩
      · rw [if_pos (by omega)]
        exact ⟨_, rfl, rfl, by simp only; omega, by simp only; omega, by simp only; omega⟩
  obtain ⟨lead, hlead, hfollowing, hbits, hleast, hgreatest⟩ := hlead
  rw [decodeChar, toNat_first (by omega), hlead]
  simp only [hfollowing, hbits]
  rw [decodeFollowing_continuation hleast hgreatest,
    decodeFollowing_continuation (by omega) (by omega)]
  exact decodeFollowing_last (by omega) (by omega) (by omega) rest

/-- The bytes of a character are read back as the character, whatever follows them. -/
theorem decode_encodeChar_append (c : Char) (rest : List UInt8) :
    decode (encodeChar c ++ rest) = c :: decode rest := by
  simp only [encodeChar]
  split
  · next h =>
    rw [List.cons_append, List.nil_append, decode, decodeChar_one h]
  · next hone =>
    split
    · next h =>
      rw [List.cons_append, List.cons_append, List.nil_append, decode,
        decodeChar_two (by omega) h]
    · next htwo =>
      split
      · next h =>
        simp only [List.cons_append, List.nil_append]
        rw [decode, decodeChar_three (by omega) h]
      · simp only [List.cons_append, List.nil_append]
        rw [decode, decodeChar_four (by omega)]

/-- **The bytes of a text are read back as the text.** -/
theorem decode_encode (text : List Char) : decode (text.flatMap encodeChar) = text := by
  induction text with
  | nil => rw [List.flatMap_nil, decode]
  | cons c rest ih => rw [List.flatMap_cons, decode_encodeChar_append, ih]

theorem encodeChar_of_isAscii {c : Char} (h : isAscii c = true) :
    encodeChar c = [UInt8.ofNat c.toNat] := by
  rw [isAscii, decide_eq_true_eq] at h
  simp only [encodeChar, if_pos h]

/-! ## Escapes -/

/-- The character is a hexadecimal digit of this value, in either case. -/
def IsHexDigit (value : Nat) (digit : Char) : Prop :=
  digit = Nat.digitChar value ∨ digit = (Nat.digitChar value).toUpper

/-- The text spells these bytes, each as an escape. -/
inductive Spells : List UInt8 → List Char → Prop where
  | nil : Spells [] []
  | cons {byte : UInt8} {bytes : List UInt8} {high low : Char} {rest : List Char}
      (hhigh : IsHexDigit (byte.toNat / 16) high) (hlow : IsHexDigit (byte.toNat % 16) low)
      (others : Spells bytes rest) : Spells (byte :: bytes) ('%' :: high :: low :: rest)

/-- The second text is the first one with escapes for some of its characters and for every `%`. -/
inductive Escaped : List Char → List Char → Prop where
  | nil : Escaped [] []
  | raw {c : Char} {text written : List Char} (hraw : c ≠ '%') (others : Escaped text written) :
      Escaped (c :: text) (c :: written)
  | escape {c : Char} {text spelled written : List Char} (hspells : Spells (encodeChar c) spelled)
      (others : Escaped text written) : Escaped (c :: text) (spelled ++ written)

theorem IsHexDigit.read {value : Nat} {digit : Char} (h : IsHexDigit value digit)
    (hvalue : value < 16) : hexDigit? digit = some value ∧ isAscii digit = true := by
  have hall : ∀ n ∈ List.range 16,
      (hexDigit? (Nat.digitChar n) = some n ∧ isAscii (Nat.digitChar n) = true) ∧
      hexDigit? (Nat.digitChar n).toUpper = some n ∧
        isAscii (Nat.digitChar n).toUpper = true := by decide
  obtain ⟨hsmall, hcapital⟩ := hall value (List.mem_range.mpr hvalue)
  rcases h with rfl | rfl
  · exact hsmall
  · exact hcapital

/-- The digits of a byte are read as the byte. -/
theorem escapedByte?_of_isHexDigit {byte : UInt8} {high low : Char}
    (hhigh : IsHexDigit (byte.toNat / 16) high) (hlow : IsHexDigit (byte.toNat % 16) low) :
    escapedByte? high low = some byte := by
  have hbyte : byte.toNat < 256 := byte.toNat_lt
  have hwhole : byte.toNat / 16 * 16 + byte.toNat % 16 = byte.toNat := by omega
  rw [escapedByte?, (hhigh.read (by omega)).1, (hlow.read (by omega)).1]
  simp only [hwhole, UInt8.ofNat_toNat]

/-- Escapes are read as the bytes that they spell. -/
theorem Spells.runBytes_append {bytes : List UInt8} {spelled : List Char}
    (h : Spells bytes spelled) (rest : List Char) :
    runBytes (spelled ++ rest) = bytes ++ runBytes rest := by
  induction h with
  | nil => rfl
  | cons hhigh hlow _ ih =>
    simp only [List.cons_append]
    rw [runBytes, escapedByte?_of_isHexDigit hhigh hlow]
    simp only [ih]

theorem Spells.isAscii {bytes : List UInt8} {spelled : List Char} (h : Spells bytes spelled) :
    ∀ c ∈ spelled, isAscii c = true := by
  induction h with
  | nil => exact fun c hc => absurd hc List.not_mem_nil
  | @cons byte _ _ _ _ hhigh hlow _ ih =>
    have hbyte : byte.toNat < 256 := byte.toNat_lt
    simp only [List.forall_mem_cons]
    exact ⟨by decide, (hhigh.read (by omega)).2, (hlow.read (by omega)).2, ih⟩

theorem runBytes_of_ne {c : Char} (h : c ≠ '%') (rest : List Char) :
    runBytes (c :: rest) = UInt8.ofNat c.toNat :: runBytes rest := by
  rw [runBytes]
  intro high low others hc
  exact absurd hc h

/-- The characters of ASCII in front are decoded at once, and the others behind them. -/
theorem percentDecode_eq (written : List Char) :
    percentDecode written = decode (runBytes (written.takeWhile isAscii)) ++
      percentDecode (written.dropWhile isAscii) := by
  cases written with
  | nil => simp [percentDecode, runBytes, decode]
  | cons c rest =>
    by_cases hc : isAscii c = true
    · rw [percentDecode, if_pos hc, List.takeWhile_cons_of_pos hc, List.dropWhile_cons_of_pos hc]
    · rw [List.takeWhile_cons_of_neg hc, List.dropWhile_cons_of_neg hc, runBytes, decode,
        List.nil_append]

/--
The run of ASCII in front spells the bytes of whole characters, and what is decoded of the others is
the rest of the text.
-/
theorem Escaped.exists_run {text written : List Char} (h : Escaped text written) :
    ∃ front back, text = front ++ back ∧
      runBytes (written.takeWhile Text.isAscii) = front.flatMap encodeChar ∧
      percentDecode (written.dropWhile Text.isAscii) = back := by
  induction h with
  | nil => exact ⟨[], [], rfl, rfl, by simp [percentDecode]⟩
  | @raw c text written hraw _ ih =>
    obtain ⟨front, back, rfl, hfront, hback⟩ := ih
    by_cases hc : Text.isAscii c = true
    · refine ⟨c :: front, back, rfl, ?_, ?_⟩
      · rw [List.takeWhile_cons_of_pos hc, runBytes_of_ne hraw, hfront, List.flatMap_cons,
          encodeChar_of_isAscii hc, List.cons_append, List.nil_append]
      · rw [List.dropWhile_cons_of_pos hc, hback]
    · -- The run ends here, so that all that follows is decoded on its own.
      refine ⟨[], c :: (front ++ back), rfl, ?_, ?_⟩
      · rw [List.takeWhile_cons_of_neg hc]
        rfl
      · rw [List.dropWhile_cons_of_neg hc, percentDecode, if_neg hc, percentDecode_eq, hfront,
          decode_encode, hback]
  | @escape c text spelled written hspells _ ih =>
    obtain ⟨front, back, rfl, hfront, hback⟩ := ih
    refine ⟨c :: front, back, rfl, ?_, ?_⟩
    · rw [List.takeWhile_append_of_pos hspells.isAscii, hspells.runBytes_append, hfront,
        List.flatMap_cons]
    · rw [List.dropWhile_append_of_pos hspells.isAscii, hback]

/-- **Every way to escape a text is undone.** -/
theorem percentDecode_of_escaped {text written : List Char} (h : Escaped text written) :
    percentDecode written = text := by
  obtain ⟨front, back, rfl, hfront, hback⟩ := h.exists_run
  rw [percentDecode_eq, hfront, decode_encode, hback]

end Text

end ToolSchema
