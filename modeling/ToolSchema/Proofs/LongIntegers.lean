import Mathlib.Data.List.Infix
import Mathlib.Data.List.TakeWhile
import ToolSchema.Json.Reader

/-!
# Integers that are too long to be read

A JSON text is refused for the length of an integer only if so many digits stand in a row in it.
Every reader leaves an end of what it was given, so the digits that a later one refuses are digits
of the whole text.

* `Json.Reader.HasDigits` — more digits in a row than an integer may have
* `Json.Reader.Stays` — what a reader leaves, and what it may refuse
* `Json.hasDigits_of_read` — no text without so many digits is refused for them
* `Json.read_digits` — a text of digits alone is refused if there are too many
-/

namespace ToolSchema

namespace Json

namespace Reader

/-- This many digits stand in a row in a text, and they are more than an integer may have. -/
def HasDigits (count : Nat) (s : List Char) : Prop :=
  digitLimit < count ∧ ∃ digits, digits <:+: s ∧ digits.length = count ∧ ∀ c ∈ digits, c.isDigit

theorem HasDigits.of_infix {count : Nat} {s t : List Char} (h : HasDigits count s)
    (hs : s <:+: t) : HasDigits count t := by
  obtain ⟨hcount, digits, hdigits, hlength, hall⟩ := h
  exact ⟨hcount, digits, hdigits.trans hs, hlength, hall⟩

/-- A refusal for the length of an integer has its digits in the text. -/
def Refusal.IsAbout (s : List Char) : Refusal → Prop
  | .malformed _ _ => True
  | .tooManyDigits count => HasDigits count s

theorem Refusal.IsAbout.of_suffix {refusal : Refusal} {s t : List Char} (h : refusal.IsAbout s)
    (hs : s <:+ t) : refusal.IsAbout t := by
  cases refusal with
  | malformed problem left => exact trivial
  | tooManyDigits count => exact HasDigits.of_infix h hs.isInfix

/-- The rest of the text is an end of it, and a refusal is about the text. -/
def Stays {α : Type} {bound : Nat} (s : List Char) : Except Refusal (Parsed α bound) → Prop
  | .ok parsed => parsed.rest <:+ s
  | .error refusal => refusal.IsAbout s

theorem Stays.of_suffix {α : Type} {bound : Nat} {result : Except Refusal (Parsed α bound)}
    {s t : List Char} (h : Stays s result) (hs : s <:+ t) : Stays t result := by
  cases result with
  | ok parsed => exact List.IsSuffix.trans h hs
  | error refusal => exact Refusal.IsAbout.of_suffix h hs

/-! ## Blanks, words and strings -/

theorem skipBlanks_suffix (s : List Char) : skipBlanks s <:+ s := List.dropWhile_suffix isBlank

theorem suffix_of_behind? {c : Char} {s : List Char}
    {behind : { rest : List Char // rest.length < s.length }} (h : behind? c s = some behind) :
    behind.1 <:+ s := by
  unfold behind? at h
  split at h
  · cases h
  · next first rest short hskip _ =>
    split at h
    · cases h
      have hblanks := skipBlanks_suffix s
      rw [hskip] at hblanks
      exact (List.suffix_cons first rest).trans hblanks
    · cases h

theorem suffix_of_after? {word s rest : List Char} (h : after? word s = some rest) :
    rest <:+ s := by
  induction word generalizing s with
  | nil =>
    cases h
    exact List.suffix_refl _
  | cons w word ih =>
    cases s with
    | nil => cases h
    | cons c s =>
      rw [after?] at h
      split at h
      · exact (ih h).trans (List.suffix_cons c s)
      · cases h

theorem stays_readString (bound opening : Nat) (s : List Char) (fits : s.length ≤ bound)
    (sofar : List Nat) : Stays s (readString bound opening s fits sofar) := by
  unfold readString
  split
  · exact trivial
  · next rest fits => exact List.suffix_cons '"' rest
  · exact trivial
  · next a b c d next rest fits =>
    split
    · exact trivial
    · exact (stays_readString bound opening (next :: rest) _ _).of_suffix
        (List.suffix_append ['\\', 'u', a, b, c, d] (next :: rest))
  · exact trivial
  · next letter rest fits _ _ =>
    split
    · exact trivial
    · exact (stays_readString bound opening rest _ _).of_suffix
        (List.suffix_append ['\\', letter] rest)
  · next c rest fits _ _ _ _ _ =>
    split
    · exact trivial
    · exact (stays_readString bound opening rest _ _).of_suffix (List.suffix_cons c rest)

/-! ## Numbers -/

theorem spanDigits_append (s : List Char) : (spanDigits s).1 ++ (spanDigits s).2 = s :=
  List.takeWhile_append_dropWhile

theorem spanDigits_suffix (s : List Char) : (spanDigits s).2 <:+ s := List.dropWhile_suffix _

theorem isDigit_of_mem_spanDigits {s : List Char} {c : Char} (h : c ∈ (spanDigits s).1) :
    c.isDigit := List.mem_takeWhile_imp h

theorem eq_of_wholeDigits? {s digits rest : List Char} (h : wholeDigits? s = some (digits, rest)) :
    s = digits ++ rest ∧ ∀ c ∈ digits, c.isDigit := by
  unfold wholeDigits? at h
  split at h
  · cases h
    exact ⟨rfl, List.forall_mem_singleton.mpr rfl⟩
  · split at h
    · cases h
    · cases h
      exact ⟨(spanDigits_append s).symm, fun c hc => isDigit_of_mem_spanDigits hc⟩

theorem fractionDigits_suffix (s : List Char) : (fractionDigits s).2 <:+ s := by
  unfold fractionDigits
  split
  · next rest =>
    split
    · exact List.suffix_refl _
    · exact (spanDigits_suffix rest).trans (List.suffix_cons '.' rest)
  · exact List.suffix_refl s

theorem exponentSign_suffix (s : List Char) : (exponentSign s).2 <:+ s := by
  unfold exponentSign
  split
  · exact List.suffix_cons _ _
  · exact List.suffix_cons _ _
  · exact List.suffix_refl _

theorem suffix_of_exponent? {s rest : List Char} {value : Int}
    (h : exponent? s = some (value, rest)) : rest <:+ s := by
  unfold exponent? at h
  split at h
  · next c tail =>
    split at h
    · simp only at h
      split at h
      · cases h
      · cases h
        exact ((spanDigits_suffix _).trans (exponentSign_suffix tail)).trans
          (List.suffix_cons c tail)
    · cases h
  · cases h

theorem stays_readUnsigned (negative : Bool) (s : List Char) :
    Stays s (readUnsigned negative s) := by
  unfold readUnsigned
  split
  · exact trivial
  · next whole rest hwhole =>
    obtain ⟨heq, hdigits⟩ := eq_of_wholeDigits? hwhole
    have hrest : rest <:+ s := heq ▸ List.suffix_append whole rest
    have hfraction := (fractionDigits_suffix rest).trans hrest
    dsimp only
    split
    · next exponent behind hexponent => exact (suffix_of_exponent? hexponent).trans hfraction
    · split
      · split
        · next hlong =>
          exact ⟨hlong, whole, heq ▸ (List.prefix_append whole rest).isInfix, rfl, hdigits⟩
        · exact hrest
      · exact hfraction

theorem suffix_of_readWord? {s : List Char} {parsed : Parsed Json s.length}
    (h : readWord? s = some parsed) : parsed.rest <:+ s := by
  obtain ⟨entry, -, hentry⟩ := List.exists_of_findSome?_eq_some h
  split at hentry
  · next rest hrest =>
    split at hentry
    · cases hentry
      exact suffix_of_after? hrest
    · cases hentry
  · cases hentry

theorem stays_readScalar (s : List Char) : Stays s (readScalar s) := by
  unfold readScalar
  split
  · next parsed hword => exact suffix_of_readWord? hword
  · split
    · next rest _ _ =>
      have hrest := stays_readUnsigned true rest
      split
      · next parsed hparsed =>
        rw [hparsed] at hrest
        exact hrest.trans (List.suffix_cons '-' rest)
      · next refusal hrefusal =>
        rw [hrefusal] at hrest
        exact Refusal.IsAbout.of_suffix hrest (List.suffix_cons '-' rest)
    · exact stays_readUnsigned false s

/-! ## Values -/

mutual

theorem stays_readValue (s : List Char) : Stays s (readValue s) := by
  unfold readValue
  split
  · exact trivial
  · next rest =>
    have hrest := stays_readString rest.length (rest.length + 1) rest (Nat.le_refl _) []
    split
    · next refusal hrefusal =>
      rw [hrefusal] at hrest
      exact Refusal.IsAbout.of_suffix hrest (List.suffix_cons '"' rest)
    · next parsed hparsed =>
      rw [hparsed] at hrest
      exact hrest.trans (List.suffix_cons '"' rest)
  · next rest =>
    split
    · next behind hbehind => exact (suffix_of_behind? hbehind).trans (List.suffix_cons '[' rest)
    · exact (stays_readItems _ _ _ []).of_suffix
        ((skipBlanks_suffix rest).trans (List.suffix_cons '[' rest))
  · next rest =>
    split
    · next behind hbehind => exact (suffix_of_behind? hbehind).trans (List.suffix_cons _ rest)
    · exact (stays_readMembers _ _ _ []).of_suffix
        ((skipBlanks_suffix rest).trans (List.suffix_cons _ rest))
  · exact stays_readScalar _
termination_by (s.length, 0)
decreasing_by
  all_goals
    subst s
    exact .left _ _ (Nat.lt_succ_of_le (length_skipBlanks_le _))

theorem stays_readItems (bound : Nat) (s : List Char) (fits : s.length ≤ bound)
    (sofar : List Json) : Stays s (readItems bound s fits sofar) := by
  unfold readItems
  have hvalue := stays_readValue s
  split
  · next refusal hrefusal =>
    rw [hrefusal] at hvalue
    exact hvalue
  · next item hitem =>
    rw [hitem] at hvalue
    split
    · next behind hbehind => exact (suffix_of_behind? hbehind).trans hvalue
    · split
      · exact trivial
      · next behind hbehind =>
        have shorter : (skipBlanks behind.1).length < s.length :=
          Nat.lt_of_le_of_lt (length_skipBlanks_le _) (Nat.lt_trans behind.2 item.shorter)
        exact (stays_readItems bound (skipBlanks behind.1) _ _).of_suffix
          ((skipBlanks_suffix _).trans ((suffix_of_behind? hbehind).trans hvalue))
termination_by (s.length, 1)
decreasing_by
  · exact .right _ Nat.zero_lt_one
  · exact .left _ _ shorter

theorem stays_readMembers (bound : Nat) (s : List Char) (fits : s.length ≤ bound)
    (sofar : Members) : Stays s (readMembers bound s fits sofar) := by
  unfold readMembers
  split
  · exact trivial
  · next quote hquote =>
    have hquote := suffix_of_behind? hquote
    have hname := stays_readString quote.1.length (quote.1.length + 1) quote.1 (Nat.le_refl _) []
    split
    · next refusal hrefusal =>
      rw [hrefusal] at hname
      exact Refusal.IsAbout.of_suffix hname hquote
    · next name hparsed =>
      rw [hparsed] at hname
      split
      · exact trivial
      · next colon hcolon =>
        have hcolon := (suffix_of_behind? hcolon).trans (hname.trans hquote)
        have hstart := (skipBlanks_suffix colon.1).trans hcolon
        have closer : (skipBlanks colon.1).length < s.length :=
          Nat.lt_of_le_of_lt (length_skipBlanks_le _)
            (Nat.lt_trans colon.2 (Nat.lt_trans name.shorter quote.2))
        have hvalue := (stays_readValue (skipBlanks colon.1)).of_suffix hstart
        dsimp only
        split
        · next refusal hrefusal =>
          rw [hrefusal] at hvalue
          exact hvalue
        · next value hread =>
          rw [hread] at hvalue
          split
          · next behind hbehind => exact (suffix_of_behind? hbehind).trans hvalue
          · split
            · exact trivial
            · next behind hbehind =>
              have shorter : (skipBlanks behind.1).length < s.length :=
                Nat.lt_of_le_of_lt (length_skipBlanks_le _)
                  (Nat.lt_trans behind.2 (Nat.lt_trans value.shorter closer))
              exact (stays_readMembers bound (skipBlanks behind.1) _ _).of_suffix
                ((skipBlanks_suffix _).trans ((suffix_of_behind? hbehind).trans hvalue))
termination_by (s.length, 1)
decreasing_by
  · exact .left _ _ closer
  · exact .left _ _ shorter

end

/-! ## Texts of digits alone -/

theorem ne_of_isDigit {c d : Char} (hc : c.isDigit) (hd : d.isDigit = false) : c ≠ d := by
  rintro rfl
  rw [hc] at hd
  cases hd

theorem wholeDigits?_digits {digits : List Char} (hdigits : ∀ c ∈ digits, c.isDigit)
    (hne : digits ≠ []) (hzero : digits.head? ≠ some '0') :
    wholeDigits? digits = some (digits, []) := by
  have hspan : spanDigits digits = (digits, []) := by
    rw [spanDigits, List.takeWhile_eq_self_iff.mpr hdigits, List.dropWhile_eq_nil_iff.mpr hdigits]
  unfold wholeDigits?
  split
  · exact absurd rfl hzero
  · rw [hspan, if_neg (by simpa using hne)]

theorem readUnsigned_digits {digits : List Char} (hdigits : ∀ c ∈ digits, c.isDigit)
    (hzero : digits.head? ≠ some '0') (hlong : digitLimit < digits.length) :
    readUnsigned false digits = .error (.tooManyDigits digits.length) := by
  have hwhole := wholeDigits?_digits hdigits
    (List.ne_nil_of_length_pos (Nat.zero_lt_of_lt hlong)) hzero
  unfold readUnsigned
  split
  · next hnone =>
    rw [hwhole] at hnone
    cases hnone
  · next whole rest hsome =>
    rw [hwhole] at hsome
    cases hsome
    exact if_pos hlong

theorem readWord?_digit {c : Char} (hc : c.isDigit) (rest : List Char) :
    readWord? (c :: rest) = none := by
  have hfirst : ∀ entry ∈ words, after? entry.1 (c :: rest) = none := by
    simp only [words, List.forall_mem_cons]
    refine ⟨?_, ?_, ?_, ?_, ?_, ?_, fun _ h => absurd h List.not_mem_nil⟩ <;>
      exact if_neg (ne_of_isDigit hc rfl).symm
  rw [readWord?, List.findSome?_eq_none_iff]
  intro entry hentry
  rw [hfirst entry hentry]

theorem readValue_digits {digits : List Char} (hdigits : ∀ c ∈ digits, c.isDigit)
    (hzero : digits.head? ≠ some '0') (hlong : digitLimit < digits.length) :
    readValue digits = .error (.tooManyDigits digits.length) := by
  have hunsigned := readUnsigned_digits hdigits hzero hlong
  obtain ⟨c, rest, rfl⟩ := List.exists_cons_of_length_pos (Nat.zero_lt_of_lt hlong)
  have hc : c.isDigit := hdigits c List.mem_cons_self
  rw [readValue, readScalar, readWord?_digit hc]
  · exact hunsigned
  · exact fun tail heq => ne_of_isDigit hc rfl (List.cons.inj heq).1
  · exact ne_of_isDigit hc rfl
  · exact ne_of_isDigit hc rfl
  · exact ne_of_isDigit hc rfl

end Reader

open Reader

/-- A text that is refused for an integer of some length has so many digits in a row. -/
theorem hasDigits_of_read {text : String} {count : Nat}
    (h : read text = .error (.tooManyDigits count)) : HasDigits count text.toList := by
  have hwhole : readWhole text.toList = .error (.tooManyDigits count) := by
    unfold read at h
    split at h
    · cases h
    · cases h
    · next hread =>
      cases h
      exact hread
  unfold readWhole at hwhole
  split at hwhole
  · cases hwhole
  · have hvalue := (stays_readValue (skipBlanks text.toList)).of_suffix (skipBlanks_suffix _)
    split at hwhole
    · next refusal hrefusal =>
      cases hwhole
      rw [hrefusal] at hvalue
      exact hvalue
    · split at hwhole
      · cases hwhole
      · cases hwhole

/-- An integer with too many digits is refused for them. -/
theorem read_digits {digits : List Char} (hdigits : ∀ c ∈ digits, c.isDigit)
    (hzero : digits.head? ≠ some '0') (hlong : digitLimit < digits.length) :
    read (String.ofList digits) = .error (.tooManyDigits digits.length) := by
  have hvalue := readValue_digits hdigits hzero hlong
  obtain ⟨c, rest, rfl⟩ := List.exists_cons_of_length_pos (Nat.zero_lt_of_lt hlong)
  have hc : c.isDigit := hdigits c List.mem_cons_self
  have hblank : ¬isBlank c = true := by
    simp only [isBlank, Bool.or_eq_true, beq_iff_eq, not_or]
    exact ⟨⟨⟨ne_of_isDigit hc rfl, ne_of_isDigit hc rfl⟩, ne_of_isDigit hc rfl⟩,
      ne_of_isDigit hc rfl⟩
  have hskip : skipBlanks (c :: rest) = c :: rest := List.dropWhile_cons_of_neg hblank
  have hskipped : readValue (skipBlanks (c :: rest)) =
      .error (.tooManyDigits (c :: rest).length) := by
    rw [hskip]
    exact hvalue
  have hwhole : readWhole (c :: rest) = .error (.tooManyDigits (c :: rest).length) := by
    rw [readWhole, hskipped]
    exact fun tail heq => ne_of_isDigit hc rfl (List.cons.inj heq).1
  rw [read, String.toList_ofList, hwhole]

end Json

end ToolSchema
