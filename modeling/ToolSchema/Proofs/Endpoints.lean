import ToolSchema.Proofs.Telling
import ToolSchema.Service

/-!
# The two endpoints for chats

One endpoint answers with the outcome of a chat, the other one sends its events. They agree where
the outcome has the right form: each tool call in it has a text as its name and an object or a text
as its arguments, and the counts are integers. Where the model does not keep to that, the stream
ends with an answer like any other, while the service fails to answer the other request.

* `Service.IsReportable` — an event that fits in an outcome
* `Service.EndpointsAgree` — how a stream and a response to the same request go together
* `Service.chat_endpoints` — they do, for every chat whose model says what JSON can hold
* `Service.chat_endpoints_differ` — a chat with an answer that the service fails to give
-/

namespace ToolSchema

open Conversation

namespace Chat

variable {σ : Type}

/-! ## Streams -/

/-- A client that stays is sent all writable events, and then how the chat ended. -/
theorem stream_of_writable (model : Json) {run : Run σ Unit}
    (h : ∀ event ∈ run.told, IsWritableEvent event) :
    stream model [] run =
      (run.told.map ChatEvent.toStream ++ [endEvent model run.result], run.peers) := by
  obtain ⟨events, result, peers⟩ := run
  rw [stream]
  dsimp only [Run.told] at h ⊢
  induction events with
  | nil => rfl
  | cons event rest ih =>
    obtain ⟨event, state⟩ := event
    rw [List.map_cons, List.forall_mem_cons] at h
    rw [streamFrom, Json.unwritable?_eq_none.mpr h.1]
    simp only [List.headD_nil, List.tail_nil, ih h.2]
    rfl

end Chat

namespace Service

/-- The model server replies with nothing but writable values. -/
def RepliesWritable (app : App) : Prop :=
  ∀ reply, .ok reply ∈ app.model.replies → Gives Json.IsWritable reply.content

theorem writablePeers_app : Chat.WritablePeers RepliesWritable App.peers where
  ask prompt app h := by
    show RepliesWritable { app with model := (ModelServer.ask prompt app.model).2 } ∧
      Gives _ (ModelServer.ask prompt app.model).1
    rw [ModelServer.ask]
    cases prompt.check with
    | error fault => exact ⟨h, gives_error fault⟩
    | ok _ =>
      cases hreplies : app.model.replies with
      | nil => exact ⟨fun reply hm => absurd hm List.not_mem_nil, gives_error _⟩
      | cons outcome rest =>
        rw [RepliesWritable, hreplies] at h
        refine ⟨fun reply hm => h reply (List.mem_cons_of_mem _ hm), ?_⟩
        cases outcome with
        | error fault => exact gives_error fault
        | ok reply => exact h reply List.mem_cons_self
  invoke name arguments app h := h

/-! ## What fits in an outcome -/

/-- Arguments that a tool call in an outcome can have. -/
def IsArguments (value : Json) : Prop :=
  (∃ members, value = .object members) ∨ ∃ text, value = .string text

/-- A count that an outcome can have. -/
def IsCount (value : Json) : Prop :=
  ∃ count, Validation.optional Validation.integer value = .valid count

/-- A tool call with a text as its name and proper arguments, or an answer with proper counts, or
any other event. -/
def IsReportable (event : StreamEvent) : Prop :=
  (event.name = "tool_call" → (∃ text, event.data.getD "name" .null = .string text) ∧
    IsArguments (event.data.getD "arguments" .null)) ∧
  (event.name = "message" → IsCount (event.data.getD "eval_count" .null) ∧
    IsCount (event.data.getD "prompt_eval_count" .null))

/-- A call that fits in an outcome. -/
def IsRecordable (call : Chat.CallRecord) : Prop :=
  (∃ text, call.name = .string text) ∧ IsArguments call.arguments

/-- What an outcome says about a call that fits in it. -/
def reported (name arguments result : Json) : Json :=
  .object [("name", name), ("arguments", arguments), ("result", result)]

def reportedCall (call : Chat.CallRecord) : Json :=
  reported call.name call.arguments (.string call.result)

theorem callRecord_of_recordable {call : Chat.CallRecord} (h : IsRecordable call) :
    callRecord call = .ok (reportedCall call) := by
  obtain ⟨name, arguments, result⟩ := call
  obtain ⟨⟨text, rfl⟩, ⟨members, rfl⟩ | ⟨other, rfl⟩⟩ := h <;> rfl

/-- Both parts of a call that come from the model are writable. -/
def IsWritableCall (call : Chat.CallRecord) : Prop :=
  call.name.IsWritable ∧ call.arguments.IsWritable

/-- A writable value is no text to a check unless it is a string. -/
theorem string_eq_invalid {value : Json} (hwritable : value.IsWritable)
    (h : ¬∃ text, value = .string text) :
    ∃ violations, Validation.string value = .invalid violations := by
  cases value with
  | string text => exact absurd ⟨text, rfl⟩ h
  | binary bytes => exact absurd hwritable.self id
  | _ => exact ⟨_, rfl⟩

theorem checkArguments_eq_invalid {value : Json} (hwritable : value.IsWritable)
    (h : ¬IsArguments value) :
    ∃ violations, CallForm.checkArguments value = .invalid violations := by
  obtain ⟨hobject, hstring⟩ := not_or.mp h
  obtain ⟨violations, hviolations⟩ := string_eq_invalid hwritable hstring
  rw [CallForm.checkArguments]
  · rw [hviolations]
    exact ⟨_, rfl⟩
  · rintro members rfl
    exact hobject ⟨members, rfl⟩

theorem callRecord_of_not {call : Chat.CallRecord} (hwritable : IsWritableCall call)
    (h : ¬IsRecordable call) : callRecord call = .error .failed := by
  by_cases hname : ∃ text, call.name = .string text
  · have harguments : ¬IsArguments call.arguments := fun hg => h ⟨hname, hg⟩
    obtain ⟨text, hname⟩ := hname
    obtain ⟨violations, hviolations⟩ := checkArguments_eq_invalid hwritable.2 harguments
    rw [callRecord, hname, hviolations]
    rfl
  · obtain ⟨violations, hviolations⟩ := string_eq_invalid hwritable.1 hname
    rw [callRecord, hviolations]
    rfl

theorem mapM_callRecord_of_recordable {calls : List Chat.CallRecord}
    (h : ∀ call ∈ calls, IsRecordable call) :
    calls.mapM callRecord = .ok (calls.map reportedCall) := by
  induction calls with
  | nil => rfl
  | cons call rest ih =>
    rw [List.forall_mem_cons] at h
    rw [List.mapM_cons, callRecord_of_recordable h.1, ih h.2]
    rfl

theorem mapM_callRecord_of_not {calls : List Chat.CallRecord}
    (hwritable : ∀ call ∈ calls, IsWritableCall call) (h : ¬∀ call ∈ calls, IsRecordable call) :
    calls.mapM callRecord = .error .failed := by
  induction calls with
  | nil => exact absurd (fun _ hm => absurd hm List.not_mem_nil) h
  | cons call rest ih =>
    rw [List.forall_mem_cons] at hwritable
    rw [List.mapM_cons]
    by_cases hcall : IsRecordable call
    · have hrest : ¬∀ call ∈ rest, IsRecordable call :=
        fun hall => h (List.forall_mem_cons.mpr ⟨hcall, hall⟩)
      rw [callRecord_of_recordable hcall, ih hwritable.2 hrest]
      rfl
    · rw [callRecord_of_not hwritable.1 hcall]
      rfl

theorem tokenCount_of_isCount {value : Json} (h : IsCount value) :
    ∃ count, tokenCount value = .ok (.ofInt? count) := by
  obtain ⟨count, hcount⟩ := h
  exact ⟨count, by rw [tokenCount, hcount]; rfl⟩

theorem tokenCount_of_not {value : Json} (h : ¬IsCount value) :
    tokenCount value = .error .failed := by
  rw [tokenCount]
  cases hcount : Validation.optional Validation.integer value with
  | valid count => exact absurd ⟨count, hcount⟩ h
  | invalid violations => rfl

/-- An outcome that can be told. -/
def IsTellable (outcome : Chat.Outcome) : Prop :=
  (∀ call ∈ outcome.calls, IsRecordable call) ∧ IsCount outcome.evalCount ∧
    IsCount outcome.promptEvalCount

theorem isWritable_reportedCall {call : Chat.CallRecord} (h : IsWritableCall call) :
    (reportedCall call).IsWritable := by
  refine Json.isWritable_object.mpr ?_
  simp only [List.forall_mem_cons]
  exact ⟨h.1, h.2, Json.isWritable_string _, fun _ hm => absurd hm List.not_mem_nil⟩

/-- The body of the response with an outcome. -/
def outcomeBody (model content : String) (calls evalCount promptEvalCount : Json) : Json :=
  .object [("model", .string model),
    ("message", .object [("role", .string "assistant"), ("content", .string content)]),
    ("tool_calls_executed", calls), ("eval_count", evalCount),
    ("prompt_eval_count", promptEvalCount)]

theorem writable?_ofInt? (count : Option Int) :
    (Json.ofInt? count).writable? = some (.ofInt? count) := by
  cases count <;> rfl

theorem writable?_outcomeBody (model content : String) {calls sent : Json}
    (h : calls.writable? = some sent) (evalCount promptEvalCount : Option Int) :
    (outcomeBody model content calls (.ofInt? evalCount) (.ofInt? promptEvalCount)).writable? =
      some (outcomeBody model content sent (.ofInt? evalCount) (.ofInt? promptEvalCount)) := by
  simp only [outcomeBody, Json.writable?, Json.writableMembers?, h, writable?_ofInt?]
  rfl

/-- An outcome that can be told is sent, with the calls in it as far as they can be sent. -/
theorem chatOutcome_of_tellable {outcome : Chat.Outcome} {model : String}
    (hmodel : outcome.model = .string model)
    (hwritable : ∀ call ∈ outcome.calls, IsWritableCall call)
    (h : IsTellable outcome) :
    ∃ sent evalCount promptEvalCount,
      (Json.array (outcome.calls.map reportedCall)).writable? = some sent ∧
      ((Json.array (outcome.calls.map reportedCall)).HasFiniteNumbers →
        sent = .array (outcome.calls.map reportedCall)) ∧
      chatOutcome outcome = .ok (.plain 200 (.json
        (outcomeBody model outcome.content sent evalCount promptEvalCount))) := by
  obtain ⟨hcalls, heval, hprompt⟩ := h
  obtain ⟨evalCount, heval⟩ := tokenCount_of_isCount heval
  obtain ⟨promptEvalCount, hprompt⟩ := tokenCount_of_isCount hprompt
  obtain ⟨sent, hsent, hsame⟩ := Json.IsWritable.exists_writable
    (.array (outcome.calls.map reportedCall)) (Json.isWritable_array.mpr
      (List.forall_mem_map.mpr (fun call hm => isWritable_reportedCall (hwritable call hm))))
  refine ⟨sent, .ofInt? evalCount, .ofInt? promptEvalCount, hsent, hsame, ?_⟩
  rw [chatOutcome, mapM_callRecord_of_recordable hcalls, heval, hprompt, hmodel]
  show Handled.send (outcomeBody model outcome.content _ _ _) = _
  rw [Handled.send, writable?_outcomeBody model outcome.content hsent]

/-- The service fails to send any other outcome. -/
theorem chatOutcome_of_not {outcome : Chat.Outcome}
    (hwritable : ∀ call ∈ outcome.calls, IsWritableCall call) (h : ¬IsTellable outcome) :
    chatOutcome outcome = .error .failed := by
  rw [chatOutcome]
  by_cases hcalls : ∀ call ∈ outcome.calls, IsRecordable call
  · rw [mapM_callRecord_of_recordable hcalls]
    by_cases heval : IsCount outcome.evalCount
    · have hprompt : ¬IsCount outcome.promptEvalCount := fun hp => h ⟨hcalls, heval, hp⟩
      obtain ⟨evalCount, heval⟩ := tokenCount_of_isCount heval
      rw [heval, tokenCount_of_not hprompt]
      rfl
    · rw [tokenCount_of_not heval]
      rfl
  · rw [mapM_callRecord_of_not hwritable hcalls]
    rfl

/-! ## What a stream says -/

/-- The stream ends with an answer. -/
def EndsInAnswer (events : List StreamEvent) : Prop :=
  ∃ front answer last, events = front ++ [answer, last] ∧ answer.name = "message" ∧
    last.name = "done"

/-- The stream ends with an error of this code. -/
def EndsInError (code : String) (events : List StreamEvent) : Prop :=
  ∃ front last, events = front ++ [last] ∧ last.name = "error" ∧
    last.data.getD "code" .null = .string code

/-- A tool call and the result right behind it, as an outcome tells them. -/
def pair? (first second : StreamEvent) : Option Json :=
  if first.name = "tool_call" ∧ second.name = "tool_result" then
    some (reported (first.data.getD "name" .null) (first.data.getD "arguments" .null)
      (second.data.getD "result" .null))
  else none

/-- The pairs of a tool call and the result right behind it, in order. -/
def callPairs : List StreamEvent → List Json
  | first :: second :: rest => (pair? first second).toList ++ callPairs (second :: rest)
  | _ => []

theorem callPairs_cons_of_ne {event : StreamEvent} (h : event.name ≠ "tool_call")
    (rest : List StreamEvent) : callPairs (event :: rest) = callPairs rest := by
  cases rest with
  | nil => rfl
  | cons next rest =>
    rw [callPairs, pair?, if_neg (fun hboth => h hboth.1)]
    rfl

/-- Calls that are told with their results are all pairs. -/
theorem callPairs_records (records : List Chat.CallRecord) (rest : List StreamEvent) :
    callPairs ((records.flatMap Chat.CallRecord.events).map ChatEvent.toStream ++ rest) =
      records.map reportedCall ++ callPairs rest := by
  induction records with
  | nil => rfl
  | cons record records ih =>
    rw [List.flatMap_cons, List.map_append, List.append_assoc]
    simp only [Chat.CallRecord.events, List.map_cons, List.map_nil, List.cons_append,
      List.nil_append]
    rw [callPairs, callPairs_cons_of_ne (by simp [ChatEvent.toStream]), ih]
    rfl

theorem isReportable_of_other {event : StreamEvent} (hcall : event.name ≠ "tool_call")
    (hmessage : event.name ≠ "message") : IsReportable event :=
  ⟨fun h => absurd h hcall, fun h => absurd h hmessage⟩

theorem isReportable_toolCall {name arguments : Json} :
    IsReportable (ChatEvent.toStream (.toolCall name arguments)) ↔
      (∃ text, name = .string text) ∧ IsArguments arguments :=
  ⟨fun h => h.1 rfl,
    fun h => ⟨fun _ => h, fun hname => absurd hname (by simp [ChatEvent.toStream])⟩⟩

theorem isReportable_message {text : String} {model evalCount promptEvalCount : Json} :
    IsReportable (ChatEvent.toStream (.message text model evalCount promptEvalCount)) ↔
      IsCount evalCount ∧ IsCount promptEvalCount :=
  ⟨fun h => h.2 rfl,
    fun h => ⟨fun hname => absurd hname (by simp [ChatEvent.toStream]), fun _ => h⟩⟩

/-- Calls with their results are reported if the calls fit in an outcome. -/
theorem isReportable_records {records : List Chat.CallRecord} :
    (∀ event ∈ (records.flatMap Chat.CallRecord.events).map ChatEvent.toStream,
      IsReportable event) ↔ ∀ call ∈ records, IsRecordable call := by
  induction records with
  | nil => simp
  | cons record records ih =>
    rw [List.flatMap_cons, List.map_append, List.forall_mem_append, ih, List.forall_mem_cons]
    refine and_congr_left' ?_
    simp only [Chat.CallRecord.events, List.map_cons, List.map_nil, List.forall_mem_cons]
    rw [isReportable_toolCall]
    exact ⟨fun h => h.1, fun h => ⟨h, isReportable_of_other (by simp [ChatEvent.toStream])
      (by simp [ChatEvent.toStream]), fun _ hm => absurd hm List.not_mem_nil⟩⟩

/-- The events of a chat with this outcome. -/
def outcomeEvents (model : Json) (outcome : Chat.Outcome) : List StreamEvent :=
  (outcome.calls.flatMap Chat.CallRecord.events).map ChatEvent.toStream ++
    [ChatEvent.toStream (.message outcome.content outcome.model outcome.evalCount
      outcome.promptEvalCount), Chat.endEvent model (.ok ())]

theorem isReportable_outcomeEvents (model : Json) (outcome : Chat.Outcome) :
    (∀ event ∈ outcomeEvents model outcome, IsReportable event) ↔ IsTellable outcome := by
  rw [outcomeEvents, List.forall_mem_append, isReportable_records, IsTellable]
  refine and_congr_right' ?_
  simp only [List.forall_mem_cons]
  rw [isReportable_message]
  exact ⟨fun h => h.1, fun h => ⟨h, isReportable_of_other (by simp [Chat.endEvent])
    (by simp [Chat.endEvent]), fun _ hm => absurd hm List.not_mem_nil⟩⟩

theorem callPairs_outcomeEvents (model : Json) (outcome : Chat.Outcome) :
    callPairs (outcomeEvents model outcome) = outcome.calls.map reportedCall := by
  rw [outcomeEvents, callPairs_records, callPairs_cons_of_ne (by simp [ChatEvent.toStream])]
  exact List.append_nil _

/-! ## Agreement -/

/-- How the events of a stream and a response go together. -/
structure EndpointsAgree (events : List StreamEvent) (response : Response) : Prop where
  ends : EndsInAnswer events ∨ ∃ code, EndsInError code events
  /-- The response tells an outcome if all fits in it. -/
  answered : response.status = 200 ↔
    EndsInAnswer events ∧ ∀ event ∈ events, IsReportable event
  /-- The service fails if something does not. -/
  crashed : response = Response.crashed ↔
    EndsInAnswer events ∧ ¬∀ event ∈ events, IsReportable event
  failed : ∀ code, (∃ message details, response = .error 502 code message details) ↔
    EndsInError code events
  /-- The outcome is that of the stream. Numbers that are not finite are left out of it. -/
  same : response.status = 200 → ∃ front answer last model content calls evalCount promptEvalCount,
    events = front ++ [answer, last] ∧
      answer.data.getD "model" .null = .string model ∧
      answer.data.getD "content" .null = .string content ∧
      response.body = .json (outcomeBody model content calls evalCount promptEvalCount) ∧
      (Json.array (callPairs events)).writable? = some calls ∧
      ((Json.array (callPairs events)).HasFiniteNumbers → calls = .array (callPairs events))

/-- A stream does not end in both ways. -/
theorem not_endsInError {events : List StreamEvent} (h : EndsInAnswer events) (code : String) :
    ¬EndsInError code events := by
  obtain ⟨front, answer, last, rfl, -, hlast⟩ := h
  rintro ⟨others, other, heq, hother, -⟩
  have heq := congrArg List.getLast? heq
  simp only [List.getLast?_append, List.getLast?_singleton, List.getLast?_cons_cons,
    Option.some_or, Option.some_inj] at heq
  rw [heq, hother] at hlast
  exact absurd hlast (by decide)

theorem endsInError_concat (front : List StreamEvent) {last : StreamEvent} {code : String}
    (hname : last.name = "error") (hcode : last.data.getD "code" .null = .string code)
    (other : String) : EndsInError other (front ++ [last]) ↔ code = other := by
  constructor
  · rintro ⟨others, event, heq, -, hother⟩
    obtain ⟨-, heq⟩ := List.append_inj' heq rfl
    cases heq
    exact Json.string.inj (hcode.symm.trans hother)
  · rintro rfl
    exact ⟨front, last, rfl, hname, hcode⟩

theorem endsInAnswer_outcomeEvents (model : Json) (outcome : Chat.Outcome) :
    EndsInAnswer (outcomeEvents model outcome) :=
  ⟨_, _, _, rfl, rfl, rfl⟩

/-- Both endpoints speak of a fault under the same code. -/
theorem exists_code (model : Json) (fault : Fault) :
    ∃ code, (Chat.errorEvent model fault).name = "error" ∧
      (Chat.errorEvent model fault).data.getD "code" .null = .string code ∧
      ∃ message details, chatFailure model fault = .error 502 code message details := by
  cases fault <;> exact ⟨_, rfl, rfl, _, _, rfl⟩

theorem error_inj {code other message text : String} {details more : Members}
    (h : Response.error 502 code message details = .error 502 other text more) : code = other := by
  simp only [Response.error, Response.plain] at h
  simp_all

/-- A chat with an outcome is told by both endpoints. -/
theorem agree_of_outcome {model : String} {outcome : Chat.Outcome}
    (hmodel : outcome.model = .string model)
    (hwritable : ∀ call ∈ outcome.calls, IsWritableCall call) :
    EndpointsAgree (outcomeEvents (.string model) outcome)
      (conclude .silent (chatOutcome outcome)) := by
  have hends := endsInAnswer_outcomeEvents (.string model) outcome
  have hreport := isReportable_outcomeEvents (.string model) outcome
  by_cases htell : IsTellable outcome
  · obtain ⟨sent, evalCount, promptEvalCount, hsent, hsame, hresponse⟩ :=
      chatOutcome_of_tellable hmodel hwritable htell
    have hall := hreport.mpr htell
    rw [hresponse]
    refine ⟨.inl hends, iff_of_true rfl ⟨hends, hall⟩, iff_of_false ?_ (fun h => h.2 hall),
      fun code => iff_of_false ?_ (not_endsInError hends code), fun _ => ?_⟩
    · exact fun h => absurd (congrArg Response.status h) (show 200 ≠ 500 by decide)
    · rintro ⟨message, details, h⟩
      exact absurd (congrArg Response.status h) (show 200 ≠ 502 by decide)
    · refine ⟨_, _, _, model, outcome.content, sent, evalCount, promptEvalCount, rfl, hmodel, rfl,
        rfl, ?_, ?_⟩ <;> rwa [callPairs_outcomeEvents]
  · have hnotall := (not_congr hreport).mpr htell
    rw [chatOutcome_of_not hwritable htell]
    refine ⟨.inl hends, iff_of_false (by decide) (fun h => hnotall h.2),
      iff_of_true rfl ⟨hends, hnotall⟩, fun code => iff_of_false ?_ (not_endsInError hends code),
      fun h => absurd h (by decide)⟩
    rintro ⟨message, details, h⟩
    exact absurd (congrArg Response.status h) (show 500 ≠ 502 by decide)

/-- A chat that failed is told as failed by both. -/
theorem agree_of_fault (model : Json) (front : List StreamEvent) (fault : Fault) :
    EndpointsAgree (front ++ [Chat.endEvent model (.error fault)])
      (conclude .silent (.ok (chatFailure model fault))) := by
  obtain ⟨code, hname, hcode, message, details, hfailure⟩ := exists_code model fault
  have herror := endsInError_concat front hname hcode
  have hnot : ¬EndsInAnswer (front ++ [Chat.errorEvent model fault]) :=
    fun h => not_endsInError h code ((herror code).mpr rfl)
  rw [hfailure]
  have hstatus : (502 : Nat) ≠ 200 := by decide
  refine ⟨.inr ⟨code, (herror code).mpr rfl⟩, iff_of_false hstatus (fun h => hnot h.1),
    iff_of_false ?_ (fun h => hnot h.1), fun other => ?_, fun h => absurd h hstatus⟩
  · exact fun h => absurd (congrArg Response.status h) (show 502 ≠ 500 by decide)
  · rw [Chat.endEvent, herror]
    constructor
    · rintro ⟨text, more, h⟩
      exact error_inj h
    · rintro rfl
      exact ⟨message, details, rfl⟩

/-- The model of a chat has a name. -/
theorem exists_modelName {app : App} {content : Option Json} {toolbox : Toolbox}
    {query : Chat.Query} (h : readChat app content = .ok (toolbox, query)) :
    ∃ model, query.model = .string model := by
  rw [readChat] at h
  cases hstarted : app.isStarted with
  | false =>
    rw [hstarted] at h
    cases h
  | true =>
    rw [hstarted] at h
    cases htools : Handled.ofFallible (Toolbox.ofList app.tools) with
    | error interruption =>
      rw [htools] at h
      cases h
    | ok found =>
      rw [htools] at h
      cases hform : readForm (ChatForm.check .request) content with
      | error interruption =>
        rw [hform] at h
        cases h
      | ok form =>
        rw [hform] at h
        cases h
        exact ⟨_, rfl⟩

/-- The calls of an outcome are writable if all is that was told. -/
theorem isWritableCall_of_told {calls : List Chat.CallRecord} {rest : List ChatEvent}
    (h : ∀ event ∈ calls.flatMap Chat.CallRecord.events ++ rest, Chat.IsWritableEvent event) :
    ∀ call ∈ calls, IsWritableCall call := by
  intro call hcall
  refine Chat.isWritableEvent_toolCall.mp (h (.toolCall call.name call.arguments) ?_)
  exact List.mem_append_left _ (List.mem_flatMap.mpr ⟨call, hcall, List.mem_cons_self⟩)

section

variable (naming : Naming) {app : App} {request : Request} {content : Option Json}
  {toolbox : Toolbox} {query : Chat.Query} (hwritable : RepliesWritable app)
  (hcontent : request.content? = .ok content)
  (hread : readChat app content = .ok (toolbox, query))

include hread hwritable in
/-- What is told in a chat can be sent if the replies of the model can. -/
theorem told_converse :
    ∀ event ∈ (converse naming toolbox query app).told, Chat.IsWritableEvent event := by
  obtain ⟨model, hmodel⟩ := exists_modelName hread
  have hmodelwritable : query.model.IsWritable := hmodel ▸ Json.isWritable_string model
  exact (Chat.honours_converse writablePeers_app naming _ hmodelwritable app hwritable).1

include hcontent hread in
theorem serve_chat : (serve naming .chat request app).1 =
    chatResponse query.model (converse naming toolbox query app) := by
  simp only [serve, withContent, hcontent, chat, hread]

include hwritable hcontent hread in
theorem serve_chatStream : (serve naming .chatStream request app).1 =
    .ok (.plain 200 (.events ((converse naming toolbox query app).told.map ChatEvent.toStream ++
      [Chat.endEvent query.model (converse naming toolbox query app).result]))) := by
  simp only [serve, withContent, hcontent, chatStream, hread,
    Chat.stream_of_writable query.model (told_converse naming hwritable hread)]

end

/--
**The two endpoints for chats agree**, but for outcomes that cannot be told. The request is one to
chat, the model replies with writable values or fails, and the tool server does whatever it wants.
No other end of a stream is possible, and no other response.
-/
theorem chat_endpoints (naming : Naming) {app : App} {request : Request} {content : Option Json}
    {toolbox : Toolbox} {query : Chat.Query} (hwritable : RepliesWritable app)
    (hcontent : request.content? = .ok content)
    (hread : readChat app content = .ok (toolbox, query)) :
    ∃ events, (serve naming .chatStream request app).1 = .ok (.plain 200 (.events events)) ∧
      EndpointsAgree events (conclude .silent (serve naming .chat request app).1) := by
  refine ⟨_, serve_chatStream naming hwritable hcontent hread, ?_⟩
  rw [serve_chat naming hcontent hread, chatResponse]
  have htold := told_converse naming hwritable hread
  obtain ⟨model, hmodel⟩ := exists_modelName hread
  have horder : (converse naming toolbox query app).IsOrderly (Chat.IsAnswerOf query.model) :=
    Chat.orderly_converse naming _ query app
  obtain ⟨outcome, houtcome, hresult, hfound, htolds⟩ | ⟨fault, hresult, hfound⟩ :=
    Chat.outcome_cases horder
  · rw [htolds] at htold
    have hevents : (converse naming toolbox query app).told.map ChatEvent.toStream ++
        [Chat.endEvent query.model (.ok ())] = outcomeEvents (.string model) outcome := by
      rw [htolds, outcomeEvents, List.map_append, List.append_assoc, houtcome, hmodel]
      rfl
    rw [hfound, hresult, hevents]
    exact agree_of_outcome (houtcome.trans hmodel) (isWritableCall_of_told htold)
  · rw [hfound, hresult]
    exact agree_of_fault query.model _ fault

/-! ## Two chats -/

/-- A started service without tools whose model makes these replies. -/
def serviceOf (replies : List Json) : App where
  settings := ⟨"127.0.0.1", 8000, "http://localhost:11434", "m", none, none, 10, [], "INFO"⟩
  isStarted := true
  model := ⟨replies.map (fun reply => .ok (.value reply)), [], [], false⟩
  bridge := ⟨.string "", none, ⟨.array [], [], [], [], [], 0, []⟩⟩
  tools := []

/-- A request to chat about nothing much. -/
def greeting : Request where
  method := "POST"
  scheme := "http".toList
  server := ⟨"testserver".toList, none⟩
  path := []
  query := []
  headers := []
  payload := .json (.object [("messages", .array [.object [("role", .string "user")]])])

/-- The model calls a tool with these arguments. -/
def callWith (arguments : Json) : Json :=
  .object [("message", .object [("tool_calls", .array [.object [("function",
    .object [("name", .string "t"), ("arguments", arguments)])]])])]

def farewell : Json := .object [("message", .object [("content", .string "Bye.")])]

theorem repliesWritable_serviceOf {replies : List Json} (h : ∀ reply ∈ replies, reply.IsWritable)
    (hobject : ∀ reply ∈ replies, ∃ members, reply = .object members) :
    RepliesWritable (serviceOf replies) := by
  intro reply hreply
  obtain ⟨value, hvalue, heq⟩ := List.mem_map.mp hreply
  obtain ⟨members, rfl⟩ := hobject value hvalue
  cases heq
  exact gives_ok (h _ hvalue)

/-- A call of a tool that is not there, and an answer, are told by both endpoints. -/
theorem chat_endpoints_farewell :
    RepliesWritable (serviceOf [callWith (.object []), farewell]) ∧
    ∃ content toolbox query, greeting.content? = .ok content ∧
      readChat (serviceOf [callWith (.object []), farewell]) content = .ok (toolbox, query) ∧
      ∃ events, (serve (Schema.map fun _ => .null) .chatStream greeting
          (serviceOf [callWith (.object []), farewell])).1 = .ok (.plain 200 (.events events)) ∧
        EndpointsAgree events (conclude .silent (serve (Schema.map fun _ => .null) .chat greeting
          (serviceOf [callWith (.object []), farewell])).1) := by
  have hwritable : RepliesWritable (serviceOf [callWith (.object []), farewell]) :=
    repliesWritable_serviceOf (by decide) (by simp [callWith, farewell])
  exact ⟨hwritable, _, _, _, rfl, rfl, chat_endpoints _ hwritable rfl rfl⟩

/-- Where a tool is called with a number, the stream ends with an answer, and the service fails to
answer the other request. -/
theorem chat_endpoints_differ :
    ∃ events, (serve (Schema.map fun _ => .null) .chatStream greeting
        (serviceOf [callWith (.int 5), farewell])).1 = .ok (.plain 200 (.events events)) ∧
      EndsInAnswer events ∧
      conclude .silent (serve (Schema.map fun _ => .null) .chat greeting
        (serviceOf [callWith (.int 5), farewell])).1 = Response.crashed := by
  have hwritable : RepliesWritable (serviceOf [callWith (.int 5), farewell]) :=
    repliesWritable_serviceOf (by decide) (by simp [callWith, farewell])
  refine ⟨_, serve_chatStream _ hwritable rfl rfl, ?_, rfl⟩
  exact endsInAnswer_outcomeEvents (.string "m") ⟨Thinking.strip "Bye.", .string "m",
    [⟨.string "t", .int 5, "Error: unknown tool 't'"⟩], .null, .null⟩

end Service

end ToolSchema
