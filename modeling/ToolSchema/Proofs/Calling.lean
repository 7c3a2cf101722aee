import ToolSchema.Proofs.LongIntegers
import ToolSchema.Proofs.Trace
import ToolSchema.Tool

/-!
# Calls of tools

A model is to read a text about every call. Whatever the tool server does to a call, there is one;
two things are in its way. Arguments that are a JSON text with an integer that is too long are not
refused but fail. A result fails if a text chunk in it holds no string, or a resource something that
is neither empty nor can be cut off, where its text should be.

* `Content.HasText` — the content of which a text can be made
* `Tool.IsOverlong` — arguments that fail to be read
* `Tool.call_answers_iff` — there is a text about a call unless one of these two fails it
* `Tool.call_escapes` — calls without a text
-/

namespace ToolSchema

namespace Content

/-! ## The text of a content -/

/-- Something that is empty or can be cut off. -/
def IsPreviewable : Json → Prop
  | .string _ | .array _ | .binary _ => True
  | value => value.isTruthy = false

/-- A chunk of which a text can be made: a text chunk holds a string, and the text of a resource is
empty or can be cut off. -/
structure IsShowable (chunk : Json) : Prop where
  text : chunk.getD "type" (.string "text") = .string "text" →
    ∃ text, chunk.getD "text" (.string "") = .string text
  resource : chunk.getD "type" (.string "text") = .string "resource" →
    IsPreviewable ((chunk.getD "resource" (.object [])).getD "text" .null)

/-- A content that yields chunks of which texts can be made. -/
def HasText (content : Json) : Prop :=
  ∃ chunks, content.elements? = some chunks ∧ ∀ chunk ∈ chunks, IsShowable chunk

theorem resourceText_isOk_iff (resource : Json) :
    (∃ shown, resourceText resource = .ok shown) ↔
      IsPreviewable (resource.getD "text" .null) := by
  unfold resourceText
  dsimp only
  generalize resource.getD "text" .null = text
  by_cases htruthy : text.isTruthy = true
  · rw [if_pos htruthy]
    cases text with
    | string _ | array _ | binary _ => exact iff_of_true ⟨_, rfl⟩ trivial
    | _ =>
      refine iff_of_false (fun ⟨_, h⟩ => by cases h) (fun h => ?_)
      exact Bool.false_ne_true ((Eq.symm h).trans htruthy)
  · rw [if_neg htruthy]
    refine iff_of_true ⟨_, rfl⟩ ?_
    cases text with
    | string _ | array _ | binary _ => exact trivial
    | _ => exact eq_false_of_ne_true htruthy

/-- Chunks of all other types can be shown, whatever they hold. -/
theorem isShowable_of_other {chunk type : Json}
    (htype : chunk.getD "type" (.string "text") = type) (htext : type ≠ .string "text")
    (hresource : type ≠ .string "resource") : IsShowable chunk :=
  ⟨fun h => absurd (htype.symm.trans h) htext, fun h => absurd (htype.symm.trans h) hresource⟩

/-- What is shown of a chunk is a string exactly if a text can be made of it. -/
theorem chunkText_isString_iff (chunk : Json) :
    (∃ text, chunkText chunk = .ok (.string text)) ↔ IsShowable chunk := by
  unfold chunkText
  split
  · next htype =>
    constructor
    · rintro ⟨text, htext⟩
      exact ⟨fun _ => ⟨text, Except.ok.inj htext⟩, fun h => by simp [htype] at h⟩
    · intro h
      obtain ⟨text, htext⟩ := h.text htype
      exact ⟨text, congrArg Except.ok htext⟩
  · next htype => exact iff_of_true ⟨_, rfl⟩ (isShowable_of_other htype (by decide) (by decide))
  · next htype => exact iff_of_true ⟨_, rfl⟩ (isShowable_of_other htype (by decide) (by decide))
  · next htype =>
    have hresource := resourceText_isOk_iff (chunk.getD "resource" (.object []))
    constructor
    · rintro ⟨text, htext⟩
      refine ⟨fun h => by simp [htype] at h, fun _ => hresource.mp ?_⟩
      cases hshown : resourceText (chunk.getD "resource" (.object [])) with
      | error fault =>
        rw [hshown] at htext
        cases htext
      | ok shown => exact ⟨shown, rfl⟩
    · intro h
      obtain ⟨shown, hshown⟩ := hresource.mpr (h.resource htype)
      exact ⟨shown, by rw [hshown]; rfl⟩
  · next htype => exact iff_of_true ⟨_, rfl⟩ (isShowable_of_other htype (by decide) (by decide))
  · next htext _ _ hresource _ =>
    exact iff_of_true ⟨_, rfl⟩ (isShowable_of_other rfl htext hresource)

theorem joinFrom_isOk_iff (index : Nat) (pieces : List Json) :
    (∃ text, joinFrom index pieces = .ok text) ↔
      ∀ piece ∈ pieces, ∃ text, piece = .string text := by
  induction pieces generalizing index with
  | nil => exact iff_of_true ⟨"", rfl⟩ (fun _ h => absurd h List.not_mem_nil)
  | cons piece rest ih =>
    rw [List.forall_mem_cons]
    cases piece with
    | string text =>
      rw [← ih (index + 1), joinFrom]
      refine ⟨fun h => ⟨⟨text, rfl⟩, ?_⟩, fun ⟨_, others, hothers⟩ => ?_⟩
      · obtain ⟨whole, hwhole⟩ := h
        cases hrest : joinFrom (index + 1) rest with
        | error fault =>
          rw [hrest] at hwhole
          cases hwhole
        | ok others => exact ⟨others, rfl⟩
      · exact ⟨text ++ others, by rw [hothers]; rfl⟩
    | _ => exact iff_of_false (fun ⟨_, h⟩ => by cases h) (fun ⟨⟨_, h⟩, _⟩ => by cases h)

/-- All chunks are shown as strings exactly if texts can be made of them. -/
theorem mapM_chunkText_iff (chunks : List Json) :
    (∃ pieces, chunks.mapM chunkText = .ok pieces ∧
      ∀ piece ∈ pieces, ∃ text, piece = .string text) ↔ ∀ chunk ∈ chunks, IsShowable chunk := by
  induction chunks with
  | nil =>
    exact iff_of_true ⟨[], rfl, fun _ h => absurd h List.not_mem_nil⟩
      (fun _ h => absurd h List.not_mem_nil)
  | cons chunk rest ih =>
    rw [List.forall_mem_cons, ← ih, ← chunkText_isString_iff]
    constructor
    · rintro ⟨pieces, hpieces, hstrings⟩
      obtain ⟨piece, others, hchunk, hrest, rfl⟩ :=
        List.forall₂_cons_left_iff.mp (mapM_eq_ok.mp hpieces)
      obtain ⟨⟨text, rfl⟩, hothers⟩ := List.forall_mem_cons.mp hstrings
      exact ⟨⟨text, hchunk⟩, others, mapM_eq_ok.mpr hrest, hothers⟩
    · rintro ⟨⟨text, htext⟩, pieces, hpieces, hstrings⟩
      exact ⟨.string text :: pieces, mapM_eq_ok.mpr (.cons htext (mapM_eq_ok.mp hpieces)),
        List.forall_mem_cons.mpr ⟨⟨text, rfl⟩, hstrings⟩⟩

/-- There is a text of a content exactly if all its chunks can be shown. -/
theorem text_isOk_iff (content : Json) :
    (∃ text, Content.text content = .ok text) ↔ HasText content := by
  unfold Content.text Json.elements HasText
  cases content.elements? with
  | none => exact iff_of_false (fun ⟨_, h⟩ => by cases h) (fun ⟨_, h, _⟩ => by cases h)
  | some chunks =>
    simp only [Option.some.injEq, exists_eq_left']
    rw [← mapM_chunkText_iff]
    show (∃ text, (chunks.mapM chunkText >>= joinFrom 0) = .ok text) ↔ _
    cases chunks.mapM chunkText with
    | error fault => exact iff_of_false (fun ⟨_, h⟩ => by cases h) (fun ⟨_, h, _⟩ => by cases h)
    | ok pieces =>
      simp only [Except.ok.injEq, exists_eq_left']
      exact joinFrom_isOk_iff 0 pieces

end Content

namespace Tool

/-! ## Arguments -/

/-- A JSON text that is refused for the length of an integer. -/
def IsOverlong (arguments : Json) : Prop :=
  ∃ text count, arguments = .string text ∧ Json.read text = .error (.tooManyDigits count)

/-- What is sent of the arguments of a call: anything but a string as it is, and the object that a
JSON text holds. -/
def Sends (arguments sent : Json) : Prop :=
  (arguments.string? = none ∧ sent = arguments) ∨
    ∃ text members, arguments = .string text ∧ Json.read text = .ok (.object members) ∧
      sent = .object members

theorem isOverlong_string {text : String} :
    IsOverlong (.string text) ↔ ∃ count, Json.read text = .error (.tooManyDigits count) :=
  ⟨fun ⟨_, count, heq, hread⟩ => ⟨count, Json.string.inj heq ▸ hread⟩,
    fun ⟨count, hread⟩ => ⟨text, count, rfl, hread⟩⟩

theorem sends_string {text : String} {sent : Json} :
    Sends (.string text) sent ↔
      ∃ members, Json.read text = .ok (.object members) ∧ sent = .object members := by
  constructor
  · rintro (⟨h, -⟩ | ⟨_, members, heq, hread, hsent⟩)
    · cases h
    · exact ⟨members, Json.string.inj heq ▸ hread, hsent⟩
  · rintro ⟨members, hread, hsent⟩
    exact .inr ⟨text, members, rfl, hread, hsent⟩

theorem Sends.unique {arguments sent other : Json} (h : Sends arguments sent)
    (hother : Sends arguments other) : sent = other := by
  rcases h with ⟨hstring, rfl⟩ | ⟨text, members, rfl, hread, rfl⟩
  · rcases hother with ⟨-, rfl⟩ | ⟨_, _, rfl, -, -⟩
    · rfl
    · cases hstring
  · obtain ⟨others, hagain, rfl⟩ := sends_string.mp hother
    rw [hread] at hagain
    exact Except.ok.inj hagain

/-- What becomes of arguments: they are sent, refused with a text, or fail for a long integer. -/
theorem prepare_cases (name arguments : Json) :
    (∃ sent, prepare name arguments = .ok (.send sent) ∧ Sends arguments sent ∧
      ¬IsOverlong arguments) ∨
    (∃ text, prepare name arguments = .ok (.refuse text) ∧ (∀ sent, ¬Sends arguments sent) ∧
      ¬IsOverlong arguments) ∨
    (∃ fault, prepare name arguments = .error fault ∧ IsOverlong arguments) := by
  cases arguments with
  | string text =>
    simp only [sends_string, isOverlong_string]
    unfold prepare
    dsimp only
    cases Json.read text with
    | ok value =>
      cases value with
      | object members => exact .inl ⟨_, rfl, ⟨members, rfl, rfl⟩, nofun⟩
      | _ => exact .inr (.inl ⟨_, rfl, nofun, nofun⟩)
    | error problem =>
      cases problem with
      | malformed problem position => exact .inr (.inl ⟨_, rfl, nofun, nofun⟩)
      | tooManyDigits count => exact .inr (.inr ⟨_, rfl, count, rfl⟩)
  | _ => exact .inl ⟨_, rfl, .inl ⟨rfl, rfl⟩, nofun⟩

/-! ## Calls -/

theorem resultText_isOk_iff (name : Json) (result : ToolResult) :
    (∃ text, resultText name result = .ok text) ↔ Content.HasText result.content := by
  rw [← Content.text_isOk_iff, resultText]
  cases Content.text result.content with
  | error fault => exact iff_of_false (fun ⟨_, h⟩ => by cases h) (fun ⟨_, h⟩ => by cases h)
  | ok text => exact iff_of_true ⟨_, rfl⟩ ⟨text, rfl⟩

/--
**There is a text about a call unless its arguments are overlong, or it is answered with a content
of which no text can be made.** So whatever else the arguments hold, and however the tool server
fails, the model reads about it. Arguments are overlong only if they are a text with more digits in
a row than an integer may have.

That there are no other failures is said of a reader and a printer without bounds of their own: how
deep the arguments may nest is not limited here, nor how long an integer may be that is written into
a text.
-/
theorem call_answers_iff {σ : Type} (invoke : Json → Json → StateM σ (Except Fault ToolResult))
    (name arguments : Json) (state : σ) :
    ((∃ text, (call invoke name arguments state).1 = .ok text) ↔
      ¬IsOverlong arguments ∧ ∀ sent, Sends arguments sent → ∀ result,
        (invoke name sent state).1 = .ok result → Content.HasText result.content) ∧
    (IsOverlong arguments → ∃ text count, arguments = .string text ∧
      Json.Reader.HasDigits count text.toList) := by
  refine ⟨?_, fun ⟨text, count, htext, hread⟩ => ⟨text, count, htext, Json.hasDigits_of_read hread⟩⟩
  rcases prepare_cases name arguments with ⟨sent, hprepare, hsends, hfine⟩ |
    ⟨text, hprepare, hnot, hfine⟩ | ⟨fault, hprepare, hlong⟩
  · have hcall : (call invoke name arguments state).1 =
        outcomeText name (invoke name sent state).1 := by
      rw [call, hprepare]
      rfl
    have hsent : (∀ other, Sends arguments other → ∀ result, (invoke name other state).1 =
          .ok result → Content.HasText result.content) ↔
        ∀ result, (invoke name sent state).1 = .ok result → Content.HasText result.content :=
      ⟨fun h => h sent hsends, fun h other hother => hsends.unique hother ▸ h⟩
    rw [hcall, hsent, and_iff_right hfine]
    cases (invoke name sent state).1 with
    | error fault => exact iff_of_true ⟨_, rfl⟩ (fun _ h => by cases h)
    | ok result =>
      refine (resultText_isOk_iff name result).trans ⟨fun h _ hresult => ?_, fun h => h result rfl⟩
      exact Except.ok.inj hresult ▸ h
  · refine iff_of_true ⟨text, ?_⟩ ⟨hfine, fun sent hsends => absurd hsends (hnot sent)⟩
    rw [call, hprepare]
    rfl
  · refine iff_of_false (fun ⟨text, h⟩ => ?_) (fun h => h.1 hlong)
    rw [call, hprepare] at h
    cases h

/-- A tool server that answers every call with these chunks. -/
def answering (chunks : List Json) (_name _arguments : Json) :
    StateM Unit (Except Fault ToolResult) := pure (.ok ⟨.array chunks, false⟩)

/-- A call whose result has null in the place of a text, and one whose arguments are an integer of
4301 digits. -/
theorem call_escapes :
    call (answering [.object [("type", .string "text"), ("text", .null)]]) (.string "t")
      (.object []) () = (.error (.chunkNotText 0 "NoneType"), ()) ∧
    call (answering []) (.string "t") (.string (.ofList (List.replicate 4301 '9'))) () =
      (.error (.integerTooLong 4301), ()) := by
  have hread : Json.read (.ofList (List.replicate 4301 '9')) = .error (.tooManyDigits 4301) := by
    have hlength : (List.replicate 4301 '9').length = 4301 := List.length_replicate
    have hdigits : ∀ c ∈ List.replicate 4301 '9', c.isDigit = true := by
      intro c hc
      rw [List.eq_of_mem_replicate hc]
      rfl
    have hlong := Json.read_digits hdigits (by rw [List.head?_replicate]; decide)
      (by rw [hlength]; decide)
    rwa [hlength] at hlong
  refine ⟨rfl, ?_⟩
  rw [call, prepare, hread]
  rfl

end Tool

end ToolSchema
