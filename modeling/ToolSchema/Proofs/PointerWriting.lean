import Mathlib.Data.Nat.Digits.Defs
import ToolSchema.Proofs.Escaping
import ToolSchema.Proofs.Everywhere
import ToolSchema.Validation

/-!
# Writing pointers

A path into a document goes by the keys of objects and by the positions of items and of bytes. It is
written as a pointer in three layers: a token for each step, with `~0` and `~1` in keys; the tokens
behind slashes; and percent escapes for any characters, but for every `%`. `Json.lookup` takes the
layers off again, the last one first.

* `Pointer.unescape?_escapedKey`, `Pointer.index?_toString` — tokens
* `Pointer.tokens?_of_writes` — all three layers
* `Json.lookup_written` — every pointer of a path finds what is there, and no pointer finds anything
  that is not in the document
-/

namespace ToolSchema

namespace Pointer

/-! ## Writing -/

/-- A character of a key in a token. -/
def escapedChar (c : Char) : List Char :=
  if c = '~' then ['~', '0'] else if c = '/' then ['~', '1'] else [c]

/-- A key in a token. -/
def escapedKey (key : List Char) : List Char := key.flatMap escapedChar

/-- The token of a step as it is written. -/
def written : Step → List Char
  | .key name => escapedKey name.toList
  | .index position => (toString position).toList

/-- The token that a step is found by. -/
def token : Step → String
  | .key name => name
  | .index position => toString position

/-- The tokens of a path, each behind a slash. -/
def pathText (steps : List Step) : List Char := steps.flatMap (fun step => '/' :: written step)

/-- The text is a pointer of the path. -/
def Writes (steps : List Step) (pointer : String) : Prop :=
  ∃ fragment, Text.Escaped (pathText steps) fragment ∧ pointer = String.ofList ('#' :: fragment)

/-! ## Tokens -/

theorem unescape?_cons {c : Char} (h : c ≠ '~') (rest : List Char) :
    unescape? (c :: rest) = (unescape? rest).map (c :: ·) := by
  rw [unescape?] <;> intro <;> simp_all

theorem unescape?_escapedChar (c : Char) (rest : List Char) :
    unescape? (escapedChar c ++ rest) = (unescape? rest).map (c :: ·) := by
  rw [escapedChar]
  split
  · next h =>
    subst h
    simp only [List.cons_append, List.nil_append, unescape?]
  · next htilde =>
    split
    · next h =>
      subst h
      simp only [List.cons_append, List.nil_append, unescape?]
    · exact unescape?_cons htilde rest

/-- A key is read back from its token. -/
theorem unescape?_escapedKey (key : List Char) : unescape? (escapedKey key) = some key := by
  induction key with
  | nil => rfl
  | cons c rest ih =>
    rw [escapedKey] at ih
    rw [escapedKey, List.flatMap_cons, unescape?_escapedChar, ih, Option.map_some]

/-- No character of a key in a token is a slash. -/
theorem slash_not_mem_escapedKey (key : List Char) : '/' ∉ escapedKey key := by
  intro h
  obtain ⟨c, _, hc⟩ := List.mem_flatMap.mp h
  rw [escapedChar] at hc
  split at hc
  · exact absurd hc (by decide)
  · split at hc
    · exact absurd hc (by decide)
    · next hslash => exact hslash (List.mem_singleton.mp hc).symm

/-- A text without a `~` stands for itself. -/
theorem unescape?_of_not_mem {text : List Char} (h : '~' ∉ text) :
    unescape? text = some text := by
  induction text with
  | nil => rfl
  | cons c rest ih =>
    rw [List.mem_cons, not_or] at h
    rw [unescape?_cons (Ne.symm h.1), ih h.2, Option.map_some]

theorem toList_toString (n : Nat) : (toString n).toList = Nat.toDigits 10 n := by
  rw [Nat.toString_eq_ofList_toDigits, String.toList_ofList]

theorem isDigit_of_mem_toString {n : Nat} {c : Char} (h : c ∈ (toString n).toList) :
    c.isDigit = true := by
  rw [toList_toString] at h
  exact Nat.isDigit_of_mem_toDigits (by decide) (by decide) h

/-- Every step is read back from its token, which holds no slash. -/
theorem unescape?_written (step : Step) :
    (unescape? (written step)).map String.ofList = some (token step) ∧ '/' ∉ written step := by
  cases step with
  | key name =>
    rw [written, unescape?_escapedKey, Option.map_some, String.ofList_toList]
    exact ⟨rfl, slash_not_mem_escapedKey name.toList⟩
  | index position =>
    have htilde : '~' ∉ (toString position).toList :=
      fun h => absurd (isDigit_of_mem_toString h) (by decide)
    have hslash : '/' ∉ (toString position).toList :=
      fun h => absurd (isDigit_of_mem_toString h) (by decide)
    rw [written, unescape?_of_not_mem htilde, Option.map_some, String.ofList_toList]
    exact ⟨rfl, hslash⟩

/-! ## Indices -/

theorem natOfDigits_toDigits (n : Nat) : Text.natOfDigits (Nat.toDigits 10 n) = n := by
  have hfold : ∀ digits : List Char, Text.natOfDigits digits = Nat.ofDigitChars 10 digits 0 := by
    intro digits
    rw [Text.natOfDigits, Nat.ofDigitChars_eq_foldl]
    congr 1
    funext m c
    rw [Nat.mul_comm]
    rfl
  rw [hfold, Nat.ofDigitChars_ten_toDigits]

/-- The digits of a number other than zero do not start with a zero. -/
theorem head?_toDigits_ne_zero {n : Nat} (h : n ≠ 0) :
    ∃ c rest, Nat.toDigits 10 n = c :: rest ∧ c ≠ '0' := by
  induction n using Nat.strongRecOn with
  | _ n ih =>
    rw [Nat.toDigits_eq_if (by decide)]
    split
    · next hlt =>
      have hdigit : ∀ m ∈ List.range 10, m ≠ 0 → Nat.digitChar m ≠ '0' := by decide
      exact ⟨_, [], rfl, hdigit n (List.mem_range.mpr hlt) h⟩
    · next hge =>
      obtain ⟨c, rest, hc, hne⟩ := ih (n / 10) (by omega) (by omega)
      rw [hc]
      exact ⟨c, rest ++ [Nat.digitChar (n % 10)], rfl, hne⟩

/-- An index is read back from its digits. -/
theorem index?_toString (n : Nat) : index? (toString n) = some n := by
  rw [index?, toList_toString]
  by_cases h : n = 0
  · subst h
    rfl
  · obtain ⟨c, rest, hc, hne⟩ := head?_toDigits_ne_zero h
    have hall : (Nat.toDigits 10 n).all Char.isDigit = true :=
      List.all_eq_true.mpr (fun c hc => Nat.isDigit_of_mem_toDigits (by decide) (by decide) hc)
    have hvalue := natOfDigits_toDigits n
    rw [hc] at hall hvalue ⊢
    split
    · next h => exact absurd (List.cons.inj h).1 hne
    · next h => exact absurd (List.cons.inj h).1 hne
    · next h => cases h
    · rw [if_pos hall, hvalue]

/-! ## Paths -/

theorem splitSlashes_cons {c : Char} (h : c ≠ '/') (rest : List Char) :
    splitSlashes (c :: rest) = (c :: (splitSlashes rest).1, (splitSlashes rest).2) := by
  rw [splitSlashes]
  intro hc
  exact h hc

/-- A piece without slashes in front of a text goes to the front of its first piece. -/
theorem splitSlashes_append {piece : List Char} (h : '/' ∉ piece) (rest : List Char) :
    splitSlashes (piece ++ rest) = (piece ++ (splitSlashes rest).1, (splitSlashes rest).2) := by
  induction piece with
  | nil => rfl
  | cons c others ih =>
    rw [List.mem_cons, not_or] at h
    rw [List.cons_append, splitSlashes_cons (Ne.symm h.1), ih h.2, List.cons_append]

theorem splitSlashes_pathText (steps : List Step) :
    splitSlashes (pathText steps) = ([], steps.map written) := by
  induction steps with
  | nil => rfl
  | cons step rest ih =>
    rw [pathText] at ih
    rw [pathText, List.flatMap_cons, List.cons_append, splitSlashes,
      splitSlashes_append (unescape?_written step).2, ih, List.append_nil, List.map_cons]

/-- The tokens of a path are read back from its text. -/
theorem tokensOf?_pathText (steps : List Step) :
    tokensOf? (pathText steps) = some (steps.map token) := by
  rw [tokensOf?, splitSlashes_pathText]
  simp only
  induction steps with
  | nil => rfl
  | cons step rest ih =>
    rw [List.map_cons, List.mapM_cons, (unescape?_written step).1, ih]
    rfl

/-- **The tokens of a path are read back from every pointer of the path.** -/
theorem tokens?_of_writes {steps : List Step} {pointer : String} (h : Writes steps pointer) :
    tokens? pointer = some (steps.map token) := by
  obtain ⟨fragment, hescaped, rfl⟩ := h
  rw [tokens?, fragment?, String.toList_ofList]
  simp only [Option.bind_some]
  rw [Text.percentDecode_of_escaped hescaped, tokensOf?_pathText]

end Pointer

namespace Json

/-! ## What a path leads to -/

/-- The path leads from the first value to the second one. -/
inductive Leads : Json → List Step → Json → Prop where
  | here {value : Json} : Leads value [] value
  | member {members : Members} {key : String} {below found : Json} {rest : List Step}
      (hbelow : members.lookup key = some below) (further : Leads below rest found) :
      Leads (.object members) (.key key :: rest) found
  | item {items : List Json} {position : Nat} {below found : Json} {rest : List Step}
      (hbelow : items[position]? = some below) (further : Leads below rest found) :
      Leads (.array items) (.index position :: rest) found
  | byte {bytes : List UInt8} {position : Nat} {byte : UInt8}
      (hbyte : bytes[position]? = some byte) :
      Leads (.binary bytes) [.index position] (.int byte.toNat)

theorem follow_of_leads {value found : Json} {steps : List Step} (h : value.Leads steps found) :
    value.follow (steps.map Pointer.token) = some found := by
  induction h with
  | here => rfl
  | member hbelow _ ih =>
    rw [List.map_cons, follow, child?, Pointer.token, hbelow, Option.bind_some, ih]
  | item hbelow _ ih =>
    rw [List.map_cons, follow, child?, Pointer.token, Pointer.index?_toString, Option.bind_some,
      hbelow, Option.bind_some, ih]
  | byte hbyte =>
    rw [List.map_cons, follow, child?, Pointer.token, Pointer.index?_toString, Option.bind_some,
      hbyte]
    rfl

/-- The value is a node of the document, which may be the whole of it, or a byte in one. -/
def IsPartOf (found root : Json) : Prop :=
  found ∈ root.preorder ∨
    ∃ bytes byte, .binary bytes ∈ root.preorder ∧ byte ∈ bytes ∧ found = .int byte.toNat

theorem IsPartOf.of_subset {found below value : Json} (h : found.IsPartOf below)
    (hsub : below.preorder ⊆ value.preorder) : found.IsPartOf value := by
  rcases h with h | ⟨bytes, byte, hbytes, hbyte, rfl⟩
  · exact .inl (hsub h)
  · exact .inr ⟨bytes, byte, hsub hbytes, hbyte, rfl⟩

theorem isPartOf_follow {tokens : List String} {value found : Json}
    (h : value.follow tokens = some found) : found.IsPartOf value := by
  induction tokens generalizing value with
  | nil =>
    rw [follow, Option.some.injEq] at h
    rw [← h]
    exact .inl (self_mem_preorder value)
  | cons token rest ih =>
    obtain ⟨below, hbelow, hrest⟩ := Option.bind_eq_some_iff.mp h
    cases value with
    | object members =>
      refine (ih hrest).of_subset (fun node hn => ?_)
      exact List.mem_cons_of_mem _ (mem_preorderOfMembers.mpr ⟨_, mem_of_lookup hbelow, hn⟩)
    | array items =>
      obtain ⟨position, _, hitem⟩ := Option.bind_eq_some_iff.mp hbelow
      refine (ih hrest).of_subset (fun node hn => ?_)
      exact List.mem_cons_of_mem _ (mem_preorderOfItems.mpr ⟨_, List.mem_of_getElem? hitem, hn⟩)
    | binary bytes =>
      obtain ⟨position, _, hat⟩ := Option.bind_eq_some_iff.mp hbelow
      obtain ⟨byte, hbyte, rfl⟩ := Option.map_eq_some_iff.mp hat
      -- Nothing is below a byte.
      cases rest with
      | nil =>
        cases hrest
        exact .inr ⟨bytes, byte, List.mem_singleton.mpr rfl, List.mem_of_getElem? hbyte, rfl⟩
      | cons next others => cases hrest
    | _ => cases hbelow

/--
**Looking up undoes writing.** Every pointer of a path, whatever of it is escaped, finds what the
path leads to. And whatever a pointer finds is in the document: a node of it, or a byte of a byte
string.
-/
theorem lookup_written (root : Json) :
    (∀ steps found pointer, root.Leads steps found → Pointer.Writes steps pointer →
      root.lookup pointer = some found) ∧
    ∀ pointer found, root.lookup pointer = some found → found.IsPartOf root := by
  constructor
  · intro steps found pointer hleads hwrites
    rw [lookup, Pointer.tokens?_of_writes hwrites, Option.bind_some, follow_of_leads hleads]
  · intro pointer found h
    obtain ⟨tokens, _, hfollow⟩ := Option.bind_eq_some_iff.mp h
    exact isPartOf_follow hfollow

/-- A document whose key has all that a pointer has to escape. -/
def cabinet : Json := .object [("~1%/é", .array [.null, .binary [7, 200]])]

/-- The way to the last byte. -/
def drawer : List Step := [.key "~1%/é", .index 1, .index 1]

/-- Some characters are escaped that need not be, in either case. -/
theorem writes_drawer : Pointer.Writes drawer "#/~01%25~1%c3%A9%2f1/%31" := by
  refine ⟨"/~01%25~1%c3%A9%2f1/%31".toList, ?_, rfl⟩
  have hpercent : Text.Spells (Text.encodeChar '%') ['%', '2', '5'] :=
    .cons (.inl rfl) (.inl rfl) .nil
  have hslash : Text.Spells (Text.encodeChar '/') ['%', '2', 'f'] :=
    .cons (.inl rfl) (.inl rfl) .nil
  have hdigit : Text.Spells (Text.encodeChar '1') ['%', '3', '1'] :=
    .cons (.inl rfl) (.inl rfl) .nil
  have haccent : Text.Spells (Text.encodeChar 'é') ['%', 'c', '3', '%', 'A', '9'] :=
    .cons (.inl rfl) (.inl rfl) (.cons (.inr rfl) (.inl rfl) .nil)
  have hraw : ∀ {c : Char} {text written : List Char}, c ≠ '%' → Text.Escaped text written →
      Text.Escaped (c :: text) (c :: written) := fun h others => .raw h others
  show Text.Escaped ['/', '~', '0', '1', '%', '~', '1', 'é', '/', '1', '/', '1'] _
  refine hraw (by decide) (hraw (by decide) (hraw (by decide) (hraw (by decide) ?_)))
  refine .escape hpercent (hraw (by decide) (hraw (by decide) (.escape haccent ?_)))
  exact .escape hslash (hraw (by decide) (hraw (by decide) (.escape hdigit .nil)))

theorem lookup_written_drawer :
    cabinet.Leads drawer (.int 200) ∧ Pointer.Writes drawer "#/~01%25~1%c3%A9%2f1/%31" ∧
      cabinet.lookup "#/~01%25~1%c3%A9%2f1/%31" = some (.int 200) ∧
      (Json.int 200).IsPartOf cabinet := by
  have hbyte : (Json.binary [7, 200]).Leads [.index 1] (.int (200 : UInt8).toNat) := .byte rfl
  have hleads : cabinet.Leads drawer (.int 200) := .member rfl (.item rfl hbyte)
  have hlookup := (lookup_written cabinet).1 drawer (.int 200) _ hleads writes_drawer
  exact ⟨hleads, writes_drawer, hlookup, (lookup_written cabinet).2 _ _ hlookup⟩

end Json

end ToolSchema
