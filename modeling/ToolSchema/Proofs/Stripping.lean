import Mathlib.Data.List.Infix
import Mathlib.Data.List.TakeWhile
import ToolSchema.Chat.Thinking

/-!
# What is left of a text with thinking in it

A text with a block has a first one: it begins with the first opening mark and goes on to the
nearest closing mark and over the line ends behind it. What stands before that block is left as it
is, and the same is done to what stands behind it (`Thinking.Splits`). This says all about what is
left, for a text without a block is left as it is.

What stands before a block and what stands behind it come to stand next to each other. So a block
can be left, if an opening mark is put together from both sides (`Thinking.Seam`, `Thinking.Joins`).

* `Thinking.HasBlock` — an opening mark is followed later by a closing mark
* `Thinking.strip_leftmost_block` — the first block is cut out, and nothing else before it
* `Thinking.block_survives_iff` — what is left has a block where an opening mark is put together
* `Thinking.block_survives` — a text of which a block is left
-/

namespace ToolSchema

namespace Thinking

/-! ## Marks -/

/-- The first character of a mark does not come again in it, so that no two places of the mark in a
text overlap. -/
def IsMark (mark : List Char) : Prop := ∃ first rest, mark = first :: rest ∧ first ∉ rest

theorem isMark_opening : IsMark opening := ⟨'<', "think>".toList, rfl, by decide⟩

theorem isMark_closing : IsMark closing := ⟨'<', "/think>".toList, rfl, by decide⟩

/-- A mark that begins before another place of the same mark has ended there. -/
theorem IsMark.prefix_of_append {mark front behind : List Char} (h : IsMark mark)
    (hfront : front ≠ []) (hmark : mark <+: front ++ (mark ++ behind)) : mark <+: front := by
  obtain ⟨first, rest, rfl, hfirst⟩ := h
  rcases List.prefix_or_prefix_of_prefix hmark (List.prefix_append front _) with hp | ⟨more, hmore⟩
  · exact hp
  obtain ⟨tail, htail⟩ := hmark
  cases more with
  | nil => exact ⟨[], by rw [List.append_nil, ← hmore, List.append_nil]⟩
  | cons c more =>
    -- The first character of the second place would stand inside the first place.
    have hsame : front ++ (c :: more ++ tail) = front ++ (first :: rest ++ behind) := by
      rw [← List.append_assoc, hmore, htail]
    have hc : c = first := (List.cons.inj (List.append_cancel_left hsame)).1
    obtain ⟨d, front, rfl⟩ := List.exists_cons_of_ne_nil hfront
    have hrest : front ++ c :: more = rest := (List.cons.inj hmore).2
    exact absurd (hrest ▸ hc ▸ List.mem_append_right front List.mem_cons_self) hfirst

theorem behind?_eq_some {mark text rest : List Char} :
    behind? mark text = some rest ↔ text = mark ++ rest := by
  unfold behind?
  split
  · next hmark =>
    obtain ⟨tail, rfl⟩ := List.isPrefixOf_iff_prefix.mp hmark
    rw [List.drop_left, Option.some_inj, List.append_cancel_left_eq]
  · next hmark =>
    simp only [reduceCtorEq, false_iff]
    rintro rfl
    exact hmark (List.isPrefixOf_iff_prefix.mpr (List.prefix_append mark rest))

theorem behind?_eq_none {mark text : List Char} : behind? mark text = none ↔ ¬mark <+: text := by
  rw [behind?, ite_eq_right_iff, ← List.isPrefixOf_iff_prefix]
  simp

/-! ## The nearest closing mark -/

theorem behindClosing?_of_not_infix {inner : List Char} (h : ¬closing <:+: inner)
    (behind : List Char) : behindClosing? (inner ++ (closing ++ behind)) = some behind := by
  induction inner with
  | nil =>
    have hmark : behind? closing ('<' :: ("/think>".toList ++ behind)) = some behind :=
      behind?_eq_some.mpr rfl
    show behindClosing? ('<' :: ("/think>".toList ++ behind)) = some behind
    rw [behindClosing?, hmark]
  | cons c inner ih =>
    rw [List.infix_cons_iff, not_or] at h
    have hnone : behind? closing (c :: (inner ++ (closing ++ behind))) = none :=
      behind?_eq_none.mpr fun hmark =>
        h.1 (isMark_closing.prefix_of_append (List.cons_ne_nil c inner) hmark)
    rw [List.cons_append, behindClosing?, hnone]
    exact ih h.2

/-- What is found follows the first closing mark. -/
theorem exists_of_behindClosing? {text behind : List Char} (h : behindClosing? text = some behind) :
    ∃ inner, text = inner ++ (closing ++ behind) ∧ ¬closing <:+: inner := by
  induction text with
  | nil => cases h
  | cons c others ih =>
    rw [behindClosing?] at h
    split at h
    · next found hfound =>
      cases h
      exact ⟨[], (behind?_eq_some.mp hfound).trans (List.nil_append _).symm, by decide⟩
    · next hnone =>
      obtain ⟨inner, rfl, hinner⟩ := ih h
      refine ⟨c :: inner, rfl, fun hwithin => ?_⟩
      rcases List.infix_cons_iff.mp hwithin with hstart | hwithin
      · exact behind?_eq_none.mp hnone (hstart.trans (List.prefix_append (c :: inner) _))
      · exact hinner hwithin

theorem exists_behindClosing? {text : List Char} (h : closing <:+: text) :
    ∃ behind, behindClosing? text = some behind := by
  induction text with
  | nil => exact absurd h (by decide)
  | cons c others ih =>
    rw [behindClosing?]
    cases hmark : behind? closing (c :: others) with
    | some found => exact ⟨found, rfl⟩
    | none =>
      exact ih ((List.infix_cons_iff.mp h).resolve_left (behind?_eq_none.mp hmark))

/-! ## Blocks -/

/-- An opening mark that is followed later by a closing mark. -/
def HasBlock (text : List Char) : Prop :=
  ∃ front tail, text = front ++ (opening ++ tail) ∧ closing <:+: tail

/-- The text is what stands before its first block, the block, and what stands behind that: an
opening mark, the text up to the nearest closing mark, this mark and all line ends behind it. -/
def Splits (text before behind : List Char) : Prop :=
  ∃ inner count, text = before ++ (opening ++ (inner ++ (closing ++
      (List.replicate count '\n' ++ behind)))) ∧
    ¬opening <:+: before ∧ ¬closing <:+: inner ∧ behind.head? ≠ some '\n'

theorem dropWhile_lineEnds (count : Nat) {behind : List Char} (h : behind.head? ≠ some '\n') :
    (List.replicate count '\n' ++ behind).dropWhile (· == '\n') = behind := by
  rw [List.dropWhile_append_of_pos fun c hc => by rw [List.eq_of_mem_replicate hc]; rfl]
  cases behind with
  | nil => rfl
  | cons c others =>
    have hc : ¬(c == '\n') = true := fun hc => h (by rw [beq_iff_eq.mp hc]; rfl)
    exact List.dropWhile_cons_of_neg hc

/-- A text is some line ends and what is left without them. -/
theorem exists_lineEnds (text : List Char) :
    ∃ count, text = List.replicate count '\n' ++ text.dropWhile (· == '\n') ∧
      (text.dropWhile (· == '\n')).head? ≠ some '\n' := by
  have hends : ∀ c ∈ text.takeWhile (· == '\n'), c = '\n' := by
    intro c hc
    simpa using List.mem_takeWhile_imp hc
  refine ⟨(text.takeWhile (· == '\n')).length, ?_, fun hhead => ?_⟩
  · rw [← List.eq_replicate_of_mem hends, List.takeWhile_append_dropWhile]
  · have hnot := List.head?_dropWhile_not (· == '\n') text
    rw [hhead] at hnot
    exact absurd hnot (by decide)

/-- A block at the start of a text splits it there. -/
theorem behindBlock?_eq_some {text left : List Char} :
    behindBlock? text = some left ↔ Splits text [] left := by
  constructor
  · intro h
    simp only [behindBlock?, Option.map_eq_some_iff, Option.bind_eq_some_iff] at h
    obtain ⟨behind, ⟨tail, htail, hbehind⟩, rfl⟩ := h
    obtain ⟨inner, rfl, hinner⟩ := exists_of_behindClosing? hbehind
    obtain ⟨count, hcount, hhead⟩ := exists_lineEnds behind
    refine ⟨inner, count, ?_, by decide, hinner, hhead⟩
    rw [← hcount, List.nil_append]
    exact behind?_eq_some.mp htail
  · rintro ⟨inner, count, rfl, -, hinner, hhead⟩
    rw [List.nil_append, behindBlock?, behind?_eq_some.mpr rfl, Option.bind_some,
      behindClosing?_of_not_infix hinner, Option.map_some, dropWhile_lineEnds count hhead]

theorem exists_behindBlock? {tail : List Char} (h : closing <:+: tail) :
    ∃ left, behindBlock? (opening ++ tail) = some left := by
  obtain ⟨behind, hbehind⟩ := exists_behindClosing? h
  exact ⟨behind.dropWhile (· == '\n'), by
    rw [behindBlock?, behind?_eq_some.mpr rfl, Option.bind_some, hbehind, Option.map_some]⟩

theorem Splits.hasBlock {text before behind : List Char} (h : Splits text before behind) :
    HasBlock text := by
  obtain ⟨inner, count, rfl, -⟩ := h
  exact ⟨before, _, rfl, List.infix_append' inner closing _⟩

theorem HasBlock.infix_opening {text : List Char} (h : HasBlock text) : opening <:+: text := by
  obtain ⟨front, tail, rfl, -⟩ := h
  exact List.infix_append' front opening tail

theorem HasBlock.append_left {text : List Char} (h : HasBlock text) (before : List Char) :
    HasBlock (before ++ text) := by
  obtain ⟨front, tail, rfl, htail⟩ := h
  exact ⟨before ++ front, tail, (List.append_assoc _ _ _).symm, htail⟩

/-- A text with a block has a first one. -/
theorem HasBlock.exists_splits {text : List Char} (h : HasBlock text) :
    ∃ before behind, Splits text before behind := by
  induction text with
  | nil =>
    obtain ⟨front, tail, heq, -⟩ := h
    have hempty := (List.append_eq_nil_iff.mp heq.symm).2
    exact absurd (List.append_eq_nil_iff.mp hempty).1 (by decide)
  | cons c others ih =>
    cases hblock : behindBlock? (c :: others) with
    | some left => exact ⟨[], left, behindBlock?_eq_some.mp hblock⟩
    | none =>
      have hno : ∀ tail, c :: others = opening ++ tail → ¬closing <:+: tail := by
        intro tail heq hclosing
        obtain ⟨left, hleft⟩ := exists_behindBlock? hclosing
        rw [heq, hleft] at hblock
        cases hblock
      have hothers : HasBlock others := by
        obtain ⟨front, tail, heq, htail⟩ := h
        cases front with
        | nil => exact absurd htail (hno tail heq)
        | cons d front => exact ⟨front, tail, (List.cons.inj heq).2, htail⟩
      obtain ⟨before, behind, inner, count, rfl, hbefore, hinner, hhead⟩ := ih hothers
      refine ⟨c :: before, behind, inner, count, rfl, fun hwithin => ?_, hinner, hhead⟩
      rcases List.infix_cons_iff.mp hwithin with ⟨more, hmore⟩ | hwithin
      · -- An opening mark at the very start would have begun the first block.
        refine hno _ ?_ (List.infix_append' (more ++ (opening ++ inner)) closing
          (List.replicate count '\n' ++ behind))
        simp only [← List.append_assoc, hmore, List.cons_append]
      · exact hbefore hwithin

theorem Splits.suffix {text before behind : List Char} (h : Splits text before behind) :
    behind <:+ text := by
  obtain ⟨inner, count, rfl, -⟩ := h
  exact ⟨before ++ (opening ++ (inner ++ (closing ++ List.replicate count '\n'))),
    by simp only [List.append_assoc]⟩

/-- What stands before the first block ends right before its opening mark. -/
theorem Splits.infix_opening {text before behind ending : List Char}
    (h : Splits text before behind) (hending : ending <:+ before) :
    ending ++ opening <:+: text := by
  obtain ⟨inner, count, rfl, -⟩ := h
  obtain ⟨front, rfl⟩ := hending
  exact ⟨front, inner ++ (closing ++ (List.replicate count '\n' ++ behind)),
    by simp only [List.append_assoc]⟩

theorem Splits.length_lt {text before behind : List Char} (h : Splits text before behind) :
    behind.length < text.length := by
  obtain ⟨inner, count, rfl, -⟩ := h
  have hpos : 0 < opening.length := by decide
  simp only [List.length_append]
  omega

/-! ## Taking blocks out -/

/-- A text without a block is left as it is. -/
theorem stripChars_of_not_hasBlock {text : List Char} (h : ¬HasBlock text) :
    stripChars text = text := by
  induction text with
  | nil => rw [stripChars]
  | cons c others ih =>
    rw [stripChars]
    split
    · next left hblock => exact absurd (behindBlock?_eq_some.mp hblock).hasBlock h
    · rw [ih fun hothers => h (hothers.append_left [c])]

/-- The first block is taken out, and then those behind it. -/
theorem Splits.stripChars_eq {text before behind : List Char} (h : Splits text before behind) :
    stripChars text = before ++ stripChars behind := by
  obtain ⟨inner, count, rfl, hbefore, hinner, hhead⟩ := h
  induction before with
  | nil =>
    have hblock : behindBlock? ('<' :: ("think>".toList ++ (inner ++ (closing ++
        (List.replicate count '\n' ++ behind))))) = some behind :=
      behindBlock?_eq_some.mpr ⟨inner, count, rfl, by decide, hinner, hhead⟩
    show stripChars ('<' :: ("think>".toList ++ _)) = _
    rw [stripChars]
    split
    · next left hleft =>
      rw [hblock] at hleft
      cases hleft
      rfl
    · next hnone =>
      rw [hblock] at hnone
      cases hnone
  | cons c before ih =>
    rw [List.infix_cons_iff, not_or] at hbefore
    rw [List.cons_append, stripChars]
    split
    · next left hleft =>
      obtain ⟨_, _, heq, -⟩ := behindBlock?_eq_some.mp hleft
      have hopening : opening <+: c :: before :=
        isMark_opening.prefix_of_append (List.cons_ne_nil c before) ⟨_, heq.symm⟩
      exact absurd hopening hbefore.1
    · rw [ih hbefore.2, List.cons_append]

/-- What is left is no longer than the text. -/
theorem length_stripChars_le (text : List Char) : (stripChars text).length ≤ text.length := by
  fun_induction stripChars text with
  | case1 => exact Nat.le_refl 0
  | case2 c others left hblock ih => exact ih.trans (behindBlock?_length hblock).le
  | case3 c others hblock ih => exact Nat.succ_le_succ ih

/-- Only texts without a block are left as they are. -/
theorem stripChars_eq_self_iff {text : List Char} : stripChars text = text ↔ ¬HasBlock text := by
  refine ⟨fun h hblock => ?_, stripChars_of_not_hasBlock⟩
  obtain ⟨before, behind, hsplits⟩ := hblock.exists_splits
  have hlength := congrArg List.length h
  have hbehind := length_stripChars_le behind
  obtain ⟨inner, count, rfl, -⟩ := id hsplits
  rw [hsplits.stripChars_eq] at hlength
  have hpos : 0 < opening.length := by decide
  simp only [List.length_append] at hlength
  omega

theorem toList_strip (text : String) : (strip text).toList = stripChars text.toList :=
  String.toList_ofList

/--
**The leftmost block is cut out up to its nearest closing mark, with the line ends behind it.** What
stands before it is kept, and the same goes on behind it. A text in which no opening mark is
followed later by a closing mark is kept as a whole; so nothing but blocks is cut out of any text,
for one that has a block is of the first form.
-/
theorem strip_leftmost_block :
    (∀ (u v w : String) (n : Nat), ¬opening <:+: u.toList → ¬closing <:+: v.toList →
      w.toList.head? ≠ some '\n' →
      strip (u ++ "<think>" ++ v ++ "</think>" ++ String.ofList (List.replicate n '\n') ++ w) =
        u ++ strip w) ∧
    (∀ text : String, ¬HasBlock text.toList → strip text = text) ∧
    ∀ text : String, HasBlock text.toList → ∃ (u v w : String) (n : Nat),
      text = u ++ "<think>" ++ v ++ "</think>" ++ String.ofList (List.replicate n '\n') ++ w ∧
      ¬opening <:+: u.toList ∧ ¬closing <:+: v.toList ∧ w.toList.head? ≠ some '\n' := by
  refine ⟨fun u v w n hu hv hw => ?_, fun text h => ?_, fun text h => ?_⟩
  · have hsplits : Splits (u ++ "<think>" ++ v ++ "</think>" ++
        String.ofList (List.replicate n '\n') ++ w).toList u.toList w.toList := by
      refine ⟨v.toList, n, ?_, hu, hv, hw⟩
      simp only [String.toList_append, String.toList_ofList, List.append_assoc]
      rfl
    rw [← String.toList_inj, toList_strip, hsplits.stripChars_eq, String.toList_append,
      toList_strip]
  · rw [← String.toList_inj, toList_strip, stripChars_of_not_hasBlock h]
  · obtain ⟨before, behind, inner, count, heq, hbefore, hinner, hhead⟩ := h.exists_splits
    refine ⟨.ofList before, .ofList inner, .ofList behind, count, ?_, ?_, ?_, ?_⟩
    · rw [← String.toList_inj, heq]
      simp only [String.toList_append, String.toList_ofList, List.append_assoc]
      rfl
    · rwa [String.toList_ofList]
    · rwa [String.toList_ofList]
    · rwa [String.toList_ofList]

/-- A text that breaks off an opening mark, opens a block twice and closes one that is not there. -/
theorem strip_leftmost_block_nested :
    ¬opening <:+: "1 <thi".toList ∧ ¬closing <:+: "a <think> b".toList ∧
    "nk> 2 </think>".toList.head? ≠ some '\n' ∧ ¬HasBlock "nk> 2 </think>".toList ∧
    strip ("1 <thi" ++ "<think>" ++ "a <think> b" ++ "</think>" ++
      String.ofList (List.replicate 2 '\n') ++ "nk> 2 </think>") =
        "1 <thi" ++ "nk> 2 </think>" := by
  have hrest : ¬HasBlock "nk> 2 </think>".toList := fun h => absurd h.infix_opening (by decide)
  obtain ⟨hcut, hkept, -⟩ := strip_leftmost_block
  have hstripped := hcut "1 <thi" "a <think> b" "nk> 2 </think>" 2 (by decide) (by decide)
    (by decide)
  rw [hkept _ hrest] at hstripped
  exact ⟨by decide, by decide, by decide, hrest, hstripped⟩

/-! ## Blocks that are put together -/

/-- A block of the text is taken out between `left`, which is what is left of all before it, and
`right`, which is all that stands behind it. -/
inductive Seam : (text left right : List Char) → Prop
  | here {text before behind : List Char} (h : Splits text before behind) : Seam text before behind
  | later {text before behind left right : List Char} (h : Splits text before behind)
      (hseam : Seam behind left right) : Seam text (before ++ left) right

/-- The end of one text and the start of another one make an opening mark, and a closing mark
follows later. -/
def Joins (left right : List Char) : Prop :=
  ∃ first last tail, first ≠ [] ∧ last ≠ [] ∧ opening = first ++ last ∧ first <:+ left ∧
    right = last ++ tail ∧ closing <:+: tail

theorem Joins.hasBlock {left right : List Char} (h : Joins left right) :
    HasBlock (left ++ right) := by
  obtain ⟨first, last, tail, -, -, hopening, ⟨front, rfl⟩, rfl, htail⟩ := h
  exact ⟨front, tail, by simp only [hopening, List.append_assoc], htail⟩

theorem Joins.append_left {left right : List Char} (h : Joins left right) (before : List Char) :
    Joins (before ++ left) right := by
  obtain ⟨first, last, tail, hfirst, hlast, hopening, hleft, hright⟩ := h
  exact ⟨first, last, tail, hfirst, hlast, hopening, hleft.trans (List.suffix_append before left),
    hright⟩

/-- A block in two texts together is one of the second text, or its opening mark is put together. -/
theorem HasBlock.of_append {before behind : List Char} (h : HasBlock (before ++ behind))
    (hbefore : ¬opening <:+: before) : HasBlock behind ∨ Joins before behind := by
  obtain ⟨front, tail, heq, htail⟩ := h
  rcases List.append_eq_append_iff.mp heq with ⟨more, rfl, rfl⟩ | ⟨first, rfl, hfirst⟩
  · exact .inl ⟨more, tail, rfl, htail⟩
  rcases List.append_eq_append_iff.mp hfirst with ⟨more, rfl, rfl⟩ | ⟨last, hopening, rfl⟩
  · exact absurd (List.infix_append' front opening more) hbefore
  by_cases hempty : first = []
  · subst hempty
    exact .inl ⟨[], tail, by rw [hopening, List.nil_append, List.nil_append], htail⟩
  by_cases hwhole : last = []
  · subst hwhole
    rw [List.append_nil] at hopening
    exact absurd (hopening ▸ (List.suffix_append front first).isInfix) hbefore
  exact .inr ⟨first, last, tail, hempty, hwhole, hopening, List.suffix_append front first, rfl,
    htail⟩

theorem Seam.stripChars_eq {text left right : List Char} (h : Seam text left right) :
    stripChars text = left ++ stripChars right := by
  induction h with
  | here h => exact h.stripChars_eq
  | later h hseam ih => rw [h.stripChars_eq, ih, List.append_assoc]

/-- What is left has a block exactly if an opening mark is put together somewhere. -/
theorem hasBlock_stripChars_iff {text : List Char} :
    HasBlock (stripChars text) ↔
      ∃ left right, Seam text left right ∧ Joins left (stripChars right) := by
  constructor
  · intro h
    induction hlength : text.length using Nat.strong_induction_on generalizing text with
    | h length ih =>
      by_cases hblock : HasBlock text
      · obtain ⟨before, behind, hsplits⟩ := hblock.exists_splits
        rw [hsplits.stripChars_eq] at h
        obtain ⟨_, _, _, hbefore, -⟩ := id hsplits
        rcases h.of_append hbefore with hbehind | hjoins
        · obtain ⟨left, right, hseam, hjoins⟩ :=
            ih behind.length (hlength ▸ hsplits.length_lt) hbehind rfl
          exact ⟨before ++ left, right, .later hsplits hseam, hjoins.append_left before⟩
        · exact ⟨before, behind, .here hsplits, hjoins⟩
      · rw [stripChars_of_not_hasBlock hblock] at h
        exact absurd h hblock
  · rintro ⟨left, right, hseam, hjoins⟩
    rw [hseam.stripChars_eq]
    exact hjoins.hasBlock

/-- If the end of the text before a seam begins a mark, a beginning of it stands right before an
opening mark. -/
theorem Seam.exists_before_opening {text left right ending : List Char} (h : Seam text left right)
    (hending : ending ≠ []) (hleft : ending <:+ left) :
    ∃ start, start ≠ [] ∧ start <+: ending ∧ start ++ opening <:+: text := by
  induction h with
  | here h => exact ⟨ending, hending, List.prefix_refl ending, h.infix_opening hleft⟩
  | @later text before behind left right h hseam ih =>
    have hlater : ending <:+ left →
        ∃ start, start ≠ [] ∧ start <+: ending ∧ start ++ opening <:+: text := by
      intro hleft
      obtain ⟨start, hne, hstart, hwithin⟩ := ih hleft
      exact ⟨start, hne, hstart, hwithin.trans h.suffix.isInfix⟩
    obtain ⟨front, heq⟩ := hleft
    rcases List.append_eq_append_iff.mp heq with ⟨start, hbefore, hstart⟩ | ⟨more, -, rfl⟩
    · -- The end reaches over the seam, so its beginning is the end of what stands before the block.
      by_cases hempty : start = []
      · rw [hempty, List.nil_append] at hstart
        exact hlater (hstart ▸ List.suffix_refl left)
      · exact ⟨start, hempty, ⟨left, hstart.symm⟩, h.infix_opening ⟨front, hbefore.symm⟩⟩
    · exact hlater (List.suffix_append more ending)

/--
**A block is left exactly where an opening mark is put together around a block that was taken out.**
Then taking blocks out once more changes the text again, and otherwise it does not. In the text
itself, the beginning of an opening mark stands right before an opening mark there.
-/
theorem block_survives_iff (text : String) :
    (HasBlock (strip text).toList ↔
      ∃ left right, Seam text.toList left right ∧ Joins left (stripChars right)) ∧
    (strip (strip text) = strip text ↔ ¬HasBlock (strip text).toList) ∧
    (HasBlock (strip text).toList → ∃ start, start ≠ [] ∧ start ≠ opening ∧ start <+: opening ∧
      start ++ opening <:+: text.toList) := by
  have hiff : HasBlock (strip text).toList ↔
      ∃ left right, Seam text.toList left right ∧ Joins left (stripChars right) := by
    rw [toList_strip]
    exact hasBlock_stripChars_iff
  refine ⟨hiff, ?_, fun h => ?_⟩
  · rw [← String.toList_inj, toList_strip (strip text)]
    exact stripChars_eq_self_iff
  · obtain ⟨left, right, hseam, first, last, tail, hfirst, hlast, hopening, hleft, -⟩ := hiff.mp h
    obtain ⟨start, hstart, hbegins, hwithin⟩ := hseam.exists_before_opening hfirst hleft
    refine ⟨start, hstart, ?_, hbegins.trans ⟨last, hopening.symm⟩, hwithin⟩
    rintro rfl
    have hlength := hbegins.length_le
    rw [hopening, List.length_append] at hlength
    exact hlast (List.eq_nil_of_length_eq_zero (by omega))

/-- Taking out the one block of this text puts another one together, which is left. -/
theorem block_survives :
    strip "<thi<think>x</think>nk>y</think>z" = "<think>y</think>z" ∧
      HasBlock (strip "<thi<think>x</think>nk>y</think>z").toList ∧
      strip (strip "<thi<think>x</think>nk>y</think>z") = "z" := by
  have hfirst : Splits "<thi<think>x</think>nk>y</think>z".toList "<thi".toList
      "nk>y</think>z".toList := ⟨['x'], 0, rfl, by decide, by decide, by decide⟩
  have hrest : ¬HasBlock "nk>y</think>z".toList := fun h => absurd h.infix_opening (by decide)
  have hsecond : Splits "<think>y</think>z".toList [] ['z'] :=
    ⟨['y'], 0, rfl, by decide, by decide, by decide⟩
  have hz : ¬HasBlock ['z'] := fun h => absurd h.infix_opening (by decide)
  have honce : strip "<thi<think>x</think>nk>y</think>z" = "<think>y</think>z" := by
    rw [← String.toList_inj, toList_strip, hfirst.stripChars_eq, stripChars_of_not_hasBlock hrest]
    rfl
  refine ⟨honce, honce ▸ hsecond.hasBlock, ?_⟩
  rw [honce, ← String.toList_inj, toList_strip, hsecond.stripChars_eq,
    stripChars_of_not_hasBlock hz]
  rfl

end Thinking

end ToolSchema
