/-!
# Thinking

Some models think aloud between `<think>` and `</think>` before they answer. `Thinking.strip` takes
these blocks out of a text: of all blocks the leftmost first, each to the nearest closing mark, with
the line ends behind it. A mark that opens nothing or closes nothing stays.

## Termination

What is left behind a mark, and behind a character, is shorter than the text.
-/

namespace ToolSchema

namespace Thinking

/-- The mark that opens a block. -/
def opening : List Char := "<think>".toList

/-- The mark that closes a block. -/
def closing : List Char := "</think>".toList

/-- What follows a mark at the start of a text. -/
def behind? (mark text : List Char) : Option (List Char) :=
  if mark.isPrefixOf text then some (text.drop mark.length) else none

/-- What follows the first closing mark of a text. -/
def behindClosing? : List Char → Option (List Char)
  | [] => none
  | c :: rest =>
    match behind? closing (c :: rest) with
    | some found => some found
    | none => behindClosing? rest

/-- What follows a block at the start of a text: all behind the closing mark and its line ends. -/
def behindBlock? (text : List Char) : Option (List Char) :=
  ((behind? opening text).bind behindClosing?).map (·.dropWhile (· == '\n'))

theorem behind?_length {mark text rest : List Char} (h : behind? mark text = some rest) :
    rest.length ≤ text.length := by
  rw [behind?] at h
  split at h
  · cases h
    simp
  · cases h

theorem behindClosing?_length {text rest : List Char} (h : behindClosing? text = some rest) :
    rest.length ≤ text.length := by
  induction text with
  | nil => cases h
  | cons c others ih =>
    rw [behindClosing?] at h
    split at h
    · next found hf =>
      cases h
      exact behind?_length hf
    · have := ih h
      simp only [List.length_cons]
      omega

theorem behindBlock?_length {text rest : List Char} (h : behindBlock? text = some rest) :
    rest.length < text.length := by
  simp only [behindBlock?, Option.map_eq_some_iff, Option.bind_eq_some_iff] at h
  obtain ⟨tail, ⟨inner, ho, hc⟩, rfl⟩ := h
  have h₁ := (List.dropWhile_sublist (· == '\n') (l := tail)).length_le
  have h₂ := behindClosing?_length hc
  have h₃ : inner.length < text.length := by
    rw [behind?] at ho
    split at ho
    · next hp =>
      cases ho
      have := (List.isPrefixOf_iff_prefix.mp hp).length_le
      have hpos : 0 < opening.length := by decide
      rw [List.length_drop]
      omega
    · cases ho
  omega

/-- The text without its blocks. -/
def stripChars : List Char → List Char
  | [] => []
  | c :: rest =>
    match _ : behindBlock? (c :: rest) with
    | some left => stripChars left
    | none => c :: stripChars rest
termination_by text => text.length
decreasing_by
  · exact behindBlock?_length ‹_›
  · simp

/-- The text without its blocks. -/
def strip (text : String) : String := String.ofList (stripChars text.toList)

end Thinking

end ToolSchema
