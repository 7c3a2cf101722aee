import ToolSchema.Chat.Rehearsal
import ToolSchema.Proofs.Telling

/-!
# The outcome of every chat

Whoever waits for the outcome of a chat learns all that its listeners are told: the calls with their
results, and the answer; or the fault that has ended the chat. A chat that ends without either of
them is not met. Of all faults, that one has no cause in what is asked of a value or of a peer
(`Fault.HasCause`), so no chat ends with it unless the model server hands it over.

* `Fails`, `Conversation.Fails` — the faults of a result, and those of a conversation
* `Chat.fails_converse` — a chat ends with no fault but one that has a cause
* `Chat.outcome_tells_all` — what is told of a chat is its outcome
-/

namespace ToolSchema

variable {σ α β : Type} {P : Fault → Prop}

/-! ## Faults and their causes -/

/-- Anything can go wrong but that a conversation ends without an answer. -/
def Fault.HasCause (fault : Fault) : Prop := fault ≠ .noFinalMessage

/-- A fault that is given has `P`. -/
def Fails (P : Fault → Prop) (result : Except Fault α) : Prop :=
  ∀ fault, result = .error fault → P fault

theorem fails_ok (value : α) : Fails P (.ok value) := by
  rintro _ ⟨⟩

theorem fails_error {fault : Fault} (h : P fault) : Fails P (.error fault : Except Fault α) := by
  rintro _ ⟨⟩
  exact h

theorem Fails.bind {first : Except Fault α} {next : α → Except Fault β} (hfirst : Fails P first)
    (hnext : ∀ value, Fails P (next value)) : Fails P (first >>= next) := by
  cases first with
  | error fault => exact fails_error (hfirst fault rfl)
  | ok value => exact hnext value

theorem Fails.mapM {f : α → Except Fault β} {items : List α} (h : ∀ item, Fails P (f item)) :
    Fails P (items.mapM f) := by
  induction items with
  | nil => exact fails_ok []
  | cons item rest ih =>
    rw [List.mapM_cons]
    exact (h item).bind fun _ => ih.bind fun _ => fails_ok _

namespace Conversation

variable {I : σ → Prop}

/-- From peers with `I` on, the faults of a conversation have `P`, and the peers keep `I`. -/
def Fails (I : σ → Prop) (P : Fault → Prop) (program : Conversation σ α) : Prop :=
  ∀ state, I state → I (program state).peers ∧ ToolSchema.Fails P (program state).result

theorem fails_ofExcept {result : Except Fault α} (h : ToolSchema.Fails P result) :
    Fails I P (ofExcept result) :=
  fun _ hI => ⟨hI, h⟩

theorem fails_perform {action : StateM σ (Except Fault α)}
    (h : ∀ state, I state → I (action state).2 ∧ ToolSchema.Fails P (action state).1) :
    Fails I P (perform action) := h

theorem fails_pure (value : α) : Fails I P (pure value : Conversation σ α) :=
  fun _ hI => ⟨hI, fails_ok value⟩

theorem fails_tell (event : ChatEvent) : Fails I P (tell event : Conversation σ Unit) :=
  fun _ hI => ⟨hI, fails_ok ()⟩

theorem Fails.bind {first : Conversation σ α} {next : α → Conversation σ β}
    (hfirst : Fails I P first) (hnext : ∀ value, Fails I P (next value)) :
    Fails I P (first >>= next) := by
  intro state hI
  obtain ⟨hbetween, hfault⟩ := hfirst state hI
  rcases hf : first state with ⟨events, fault | value, between⟩
  · rw [hf] at hbetween hfault
    rw [bind_of_error hf]
    exact ⟨hbetween, fails_error (hfault fault rfl)⟩
  · rw [hf] at hbetween
    rw [bind_of_ok hf rfl]
    exact hnext value between hbetween

end Conversation

/-! ## What values and tools can fail with -/

theorem Json.fails_elements (value : Json) : Fails Fault.HasCause value.elements := by
  unfold elements
  split
  · exact fails_ok _
  · exact fails_error (by rintro ⟨⟩)

theorem Json.fails_hashable (value : Json) : Fails Fault.HasCause value.hashable := by
  unfold hashable
  split
  · exact fails_error (by rintro ⟨⟩)
  · exact fails_error (by rintro ⟨⟩)
  · exact fails_error (by rintro ⟨⟩)
  · exact fails_ok _

namespace Content

theorem fails_resourcePreview (text : Json) : Fails Fault.HasCause (resourcePreview text) := by
  cases text with
  | string _ | array _ | binary _ => exact fails_ok _
  | _ => exact fails_error (by rintro ⟨⟩)

theorem fails_chunkText (chunk : Json) : Fails Fault.HasCause (chunkText chunk) := by
  have hresource : ∀ resource, Fails Fault.HasCause (resourceText resource) := by
    intro resource
    unfold resourceText
    dsimp only
    split
    · exact (fails_resourcePreview _).bind fun _ => fails_ok _
    · exact fails_ok _
  unfold chunkText
  split
  · exact fails_ok _
  · exact fails_ok _
  · exact fails_ok _
  · exact (hresource _).bind fun _ => fails_ok _
  · exact fails_ok _
  · exact fails_ok _

theorem fails_joinFrom (index : Nat) (pieces : List Json) :
    Fails Fault.HasCause (joinFrom index pieces) := by
  induction pieces generalizing index with
  | nil => exact fails_ok ""
  | cons piece rest ih =>
    cases piece with
    | string text => exact (ih (index + 1)).bind fun _ => fails_ok _
    | _ => exact fails_error (by rintro ⟨⟩)

theorem fails_text (content : Json) : Fails Fault.HasCause (Content.text content) :=
  (Json.fails_elements content).bind fun _ =>
    (Fails.mapM fails_chunkText).bind fun _ => fails_joinFrom 0 _

end Content

/-- A call does not fail with what the tool server fails with, for that becomes a text. -/
theorem Tool.fails_call (invoke : Json → Json → StateM σ (Except Fault ToolResult))
    (name arguments : Json) (state : σ) :
    Fails Fault.HasCause (call invoke name arguments state).1 := by
  rw [call]
  cases hprepare : prepare name arguments with
  | error fault =>
    unfold prepare at hprepare
    split at hprepare
    · split at hprepare
      · cases hprepare
      · cases hprepare
      · cases hprepare
        exact fails_error (by rintro ⟨⟩)
      · cases hprepare
    · cases hprepare
  | ok preparation =>
    cases preparation with
    | refuse text => exact fails_ok text
    | send sent =>
      show Fails _ (outcomeText name (invoke name sent state).1)
      cases (invoke name sent state).1 with
      | error fault => exact fails_ok _
      | ok result => exact (Content.fails_text result.content).bind fun _ => fails_ok _

theorem Traced.fails_conclude (traced : Traced α) : Fails Fault.HasCause traced.conclude := by
  unfold conclude
  split
  · exact fails_ok _
  · exact fails_error (by rintro ⟨⟩)

theorem Descriptor.fails_definition (naming : Naming) (tool : Descriptor) :
    Fails Fault.HasCause (tool.definition naming) := by
  have hparameters : Fails Fault.HasCause tool.parameters := by
    have hdocument : Fails Fault.HasCause (Convert.document tool.document (.ofName tool.name)) :=
      Traced.fails_conclude _
    unfold parameters
    cases hresult : Convert.document tool.document (.ofName tool.name) with
    | error fault => exact fails_error (hdocument fault hresult)
    | ok built => exact fails_ok _
  exact hparameters.bind fun _ => fails_ok _

/-! ## What chats can fail with -/

namespace Chat

open Conversation (fails_ofExcept fails_perform fails_pure fails_tell)

theorem fails_memberD (value : Json) (name : String) (other : Json) :
    Fails Fault.HasCause (memberD value name other) := by
  unfold memberD
  split
  · exact fails_ok _
  · split
    · exact fails_error (by rintro ⟨⟩)
    · exact fails_error (by rintro ⟨⟩)

theorem fails_readResponse (response : Json) : Fails Fault.HasCause (readResponse response) :=
  (fails_memberD _ _ _).bind fun _ => (fails_memberD _ _ _).bind fun _ => fails_ok _

theorem fails_readCall (call : Json) : Fails Fault.HasCause (readCall call) :=
  (fails_memberD _ _ _).bind fun _ => (fails_memberD _ _ _).bind fun _ =>
    (fails_memberD _ _ _).bind fun _ => fails_ok _

theorem fails_withoutThinking (content : Json) :
    Fails Fault.HasCause (withoutThinking content) := by
  cases content with
  | string text => exact fails_ok _
  | _ => exact fails_error (by rintro ⟨⟩)

theorem fails_requestCount (limit : Json) : Fails Fault.HasCause (requestCount limit) := by
  unfold requestCount
  split
  · exact fails_ok _
  · exact fails_error (by rintro ⟨⟩)
  · exact fails_error (by rintro ⟨⟩)

/-- Peers whose model server fails for no other reason than one with a cause while `I` holds, which
they keep. -/
structure CausalPeers (I : σ → Prop) (peers : Peers σ) : Prop where
  ask : ∀ prompt state, I state →
    I (peers.ask prompt state).2 ∧ Fails Fault.HasCause (peers.ask prompt state).1
  invoke : ∀ name arguments state, I state → I (peers.invoke name arguments state).2

theorem fails_answer {I : σ → Prop} (setting : Setting) (response message : Json) :
    Conversation.Fails I Fault.HasCause (answer setting response message) :=
  (fails_ofExcept (fails_memberD _ _ _)).bind fun _ =>
    (fails_ofExcept (fails_withoutThinking _)).bind fun _ =>
      (fails_ofExcept (fails_memberD _ _ _)).bind fun _ =>
        (fails_ofExcept (fails_memberD _ _ _)).bind fun _ => fails_tell _

section

variable {I : σ → Prop} {peers : Peers σ} {toolbox : Toolbox} (hpeers : CausalPeers I peers)

include hpeers

theorem fails_execute (name arguments : Json) :
    Conversation.Fails I Fault.HasCause (execute peers toolbox name arguments) := by
  have hfind : Fails Fault.HasCause (toolbox.find? name) :=
    (Json.fails_hashable name).bind fun _ => fails_ok _
  refine (fails_ofExcept hfind).bind ?_
  rintro (_ | tool)
  · exact fails_pure _
  · exact fails_perform fun state hI =>
      ⟨Tool.keeps_call hpeers.invoke _ _ hI, Tool.fails_call peers.invoke _ _ state⟩

theorem fails_makeCalls (calls : List Json) :
    Conversation.Fails I Fault.HasCause (makeCalls peers toolbox calls) := by
  induction calls with
  | nil => exact fails_pure []
  | cons call rest ih =>
    have hcall : Conversation.Fails I Fault.HasCause (makeCall peers toolbox call) := by
      refine (fails_ofExcept (fails_readCall call)).bind ?_
      rintro ⟨name, arguments⟩
      exact (fails_tell _).bind fun _ => (fails_execute hpeers name arguments).bind fun _ =>
        (fails_tell _).bind fun _ => fails_pure _
    exact hcall.bind fun _ => ih.bind fun _ => fails_pure _

theorem fails_rounds (setting : Setting) (remaining : Nat) (history : List Json) :
    Conversation.Fails I Fault.HasCause (rounds peers setting remaining history) := by
  induction remaining generalizing history with
  | zero => exact fails_ofExcept (fails_error (by rintro ⟨⟩))
  | succ remaining ih =>
    rw [rounds]
    refine (fails_perform (hpeers.ask _)).bind fun response => ?_
    refine (fails_ofExcept (fails_readResponse response)).bind ?_
    rintro ⟨message, calls⟩
    dsimp only
    split
    · exact fails_answer setting response message
    · split
      · exact fails_ofExcept (fails_error (by rintro ⟨⟩))
      · have hentry : Fails Fault.HasCause (assistantEntry message calls) :=
          (fails_memberD _ _ _).bind fun _ => fails_ok _
        refine (fails_ofExcept hentry).bind fun said => ?_
        refine (fails_ofExcept (Json.fails_elements calls)).bind fun calls => ?_
        exact (fails_makeCalls hpeers calls).bind fun results => ih _

/-- Every chat that fails has a cause to. -/
theorem fails_converse (naming : Naming) (limit : Json) (query : Query) :
    Conversation.Fails I Fault.HasCause (converse peers naming toolbox limit query) := by
  have hdefinitions : Fails Fault.HasCause (toolbox.definitions naming) :=
    Fails.mapM fun entry => entry.2.fails_definition naming
  refine (fails_ofExcept hdefinitions).bind fun definitions => ?_
  refine (fails_ofExcept (fails_requestCount limit)).bind fun count => ?_
  exact fails_rounds hpeers _ count query.messages

end

/-! ## Outcomes -/

/-- How a chat with this model ends: with an answer behind calls and their results, of which the
outcome is made up, or with a fault, which is the outcome. In that case the last call may be
without a result. -/
inductive Ends (model : Json) (run : Run σ Unit) : Prop
  | answered (records : List CallRecord) (content : String) (evalCount promptEvalCount : Json)
      (result : run.result = .ok ())
      (told : run.told = records.flatMap CallRecord.events ++
        [.message content model evalCount promptEvalCount])
      (outcome : outcome run = .ok ⟨content, model, records, evalCount, promptEvalCount⟩)
  | failed (records : List CallRecord) (rest : List ChatEvent) (fault : Fault)
      (result : run.result = .error fault) (cut : IsCutShort rest)
      (told : run.told = records.flatMap CallRecord.events ++ rest)
      (outcome : outcome run = .error fault)

theorem ends_of_orderly {run : Run σ Unit} {model : Json} (h : run.IsOrderly (IsAnswerOf model)) :
    Ends model run := by
  obtain ⟨records, rest, htold, hrest⟩ := h
  rcases outcome_cases ⟨records, rest, htold, hrest⟩ with
    ⟨result, hmodel, hok, houtcome, hevents⟩ | ⟨fault, herror, houtcome⟩
  · subst hmodel
    exact .answered result.calls result.content result.evalCount result.promptEvalCount hok hevents
      houtcome
  · rw [herror] at hrest
    exact .failed records rest fault herror hrest htold houtcome

/--
**The outcome of a chat is what its events tell.** They are pairs of a call and its result, with the
same name, and then one answer; or, if the chat fails, at most one call without a result. The
outcome holds the answer and the calls, each with its arguments and its result, in order; if the
chat fails, so does the outcome, with the same fault. Whatever the limit is, it never fails for want
of an answer, as long as the model server does not pretend that.
-/
theorem outcome_tells_all (peers : Peers σ) (naming : Naming) (toolbox : Toolbox) (limit : Json)
    (query : Query) (state : σ) :
    Ends query.model (converse peers naming toolbox limit query state) ∧
    ∀ I, CausalPeers I peers → I state →
      outcome (converse peers naming toolbox limit query state) ≠ .error .noFinalMessage := by
  have hends : Ends query.model (converse peers naming toolbox limit query state) :=
    ends_of_orderly (orderly_converse naming limit query state)
  refine ⟨hends, fun I hpeers hI => ?_⟩
  cases hends with
  | answered _ _ _ _ _ _ houtcome =>
    rw [houtcome]
    rintro ⟨⟩
  | failed _ _ fault hresult _ _ houtcome =>
    have hcause := (fails_converse hpeers naming limit query state hI).2 fault hresult
    rw [houtcome]
    exact fun h => hcause (Except.error.inj h)

/-! ## A chat that is cut short -/

/-- The script of the model server holds no fault without a cause. -/
def RepliesWithCause (state : Rehearsal) : Prop :=
  ∀ fault, .error fault ∈ state.model.replies → fault.HasCause

theorem fails_content (reply : Reply) : Fails Fault.HasCause reply.content := by
  unfold Reply.content
  split
  · exact fails_ok _
  · exact fails_ok _
  · split
    · exact fails_error (by rintro ⟨⟩)
    · exact fails_ok _
  · exact fails_error (by rintro ⟨⟩)

theorem fails_check (prompt : Prompt) : Fails Fault.HasCause prompt.check := by
  have hsized : ∀ value, Fails Fault.HasCause (Prompt.checkSized value) := by
    intro value
    unfold Prompt.checkSized
    split
    · exact fails_ok ()
    · exact fails_error (by rintro ⟨⟩)
  exact (hsized _).bind fun _ => hsized _

theorem causalPeers_rehearsal : CausalPeers RepliesWithCause Rehearsal.peers where
  ask prompt state h := by
    show RepliesWithCause { state with model := (ModelServer.ask prompt state.model).2 } ∧
      Fails _ (ModelServer.ask prompt state.model).1
    rw [ModelServer.ask]
    cases hcheck : prompt.check with
    | error fault => exact ⟨h, fails_error (fails_check prompt fault hcheck)⟩
    | ok _ =>
      cases hreplies : state.model.replies with
      | nil => exact ⟨fun _ hm => absurd hm List.not_mem_nil, fails_error (by rintro ⟨⟩)⟩
      | cons outcome rest =>
        rw [RepliesWithCause, hreplies] at h
        refine ⟨fun fault hm => h fault (List.mem_cons_of_mem _ hm), ?_⟩
        cases outcome with
        | error fault => exact fails_error (h fault List.mem_cons_self)
        | ok reply => exact fails_content reply
  invoke _ _ _ h := h

/-- The model calls a tool that is not there, and then one whose name is a list. -/
def listedCalls : Json := .object [("message", .object [("tool_calls", .array [
  .object [("function", .object [("name", .string "t")])],
  .object [("function", .object [("name", .array [])])]])])]

/-- Peers of which the model would break off after these calls. -/
def listedStart : Rehearsal :=
  .start [.ok (.value listedCalls), .error (.raised "ConnectionError" "gone")] []

/-- The run of the chat with these peers. -/
def listedRun : Run Rehearsal Unit :=
  converse Rehearsal.peers (Schema.map fun _ => .null) ⟨[]⟩ (.int 3) ⟨.string "m", [], .null⟩
    listedStart

/-- The second call has no result, for no tool can be looked up by a list. -/
theorem outcome_tells_all_listed :
    CausalPeers RepliesWithCause Rehearsal.peers ∧ RepliesWithCause listedStart ∧
    Ends (.string "m") listedRun ∧ outcome listedRun ≠ .error .noFinalMessage ∧
    listedRun.told = [.toolCall (.string "t") (.object []),
      .toolResult (.string "t") "Error: unknown tool 't'", .toolCall (.array []) (.object [])] ∧
    outcome listedRun = .error (.notHashable "list") := by
  have hstart : RepliesWithCause listedStart := by
    intro fault hfault
    rcases List.mem_cons.mp hfault with h | h
    · cases h
    · cases List.mem_singleton.mp h
      rintro ⟨⟩
  obtain ⟨hends, hcause⟩ := outcome_tells_all Rehearsal.peers (Schema.map fun _ => .null) ⟨[]⟩
    (.int 3) ⟨.string "m", [], .null⟩ listedStart
  exact ⟨causalPeers_rehearsal, hstart, hends, hcause _ causalPeers_rehearsal hstart, rfl, rfl⟩

end Chat

end ToolSchema
