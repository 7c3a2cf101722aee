import ToolSchema.Proofs.Conversing
import ToolSchema.Proofs.Writable

/-!
# What chats tell

A chat tells of calls, each right before its result, and of an answer if there is one. Where it
fails, the last call may be without a result. This holds whatever the peers say; if all that the
model says is writable, so is all that is told.

* `Run.IsOrderly` — the order of what is told
* `Chat.orderly_converse` — every chat keeps it
* `Conversation.Honours` — what is told, where the peers keep an invariant
* `Chat.honours_converse` — chats with writable peers tell writable events
-/

namespace ToolSchema

variable {σ α β : Type}

/-! ## Order -/

/-- At most a call that has no result. -/
def IsCutShort (events : List ChatEvent) : Prop :=
  events = [] ∨ ∃ name arguments, events = [.toolCall name arguments]

/-- Calls are told with their results; what comes behind is `last` if the run has succeeded, and at
most another call if not. -/
def Run.IsOrderly (last : List ChatEvent → Prop) (run : Run σ α) : Prop :=
  ∃ (records : List Chat.CallRecord) (rest : List ChatEvent),
    run.told = records.flatMap Chat.CallRecord.events ++ rest ∧
      match run.result with
      | .ok _ => last rest
      | .error _ => IsCutShort rest

namespace Conversation

/-- Nothing but calls with their results is told. -/
def NothingElse (rest : List ChatEvent) : Prop := rest = []

/-- All runs of a conversation are orderly. -/
def Orderly (last : List ChatEvent → Prop) (program : Conversation σ α) : Prop :=
  ∀ state, (program state).IsOrderly last

theorem orderly_of_silent {program : Conversation σ α} (h : ∀ state, (program state).events = []) :
    Orderly NothingElse program := by
  intro state
  refine ⟨[], [], by simp [Run.told, h], ?_⟩
  cases (program state).result with
  | error fault => exact .inl rfl
  | ok value => rfl

theorem orderly_ofExcept (result : Except Fault α) :
    Orderly NothingElse (ofExcept result : Conversation σ α) :=
  orderly_of_silent (fun _ => rfl)

theorem orderly_perform (action : StateM σ (Except Fault α)) :
    Orderly NothingElse (perform action) :=
  orderly_of_silent (fun _ => rfl)

theorem orderly_pure (value : α) : Orderly NothingElse (pure value : Conversation σ α) :=
  orderly_of_silent (fun _ => rfl)

/-- A failure may come at any point. -/
theorem orderly_fail {last : List ChatEvent → Prop} (fault : Fault) :
    Orderly last (ofExcept (.error fault) : Conversation σ α) :=
  fun _ => ⟨[], [], rfl, .inl rfl⟩

theorem Orderly.bind {first : Conversation σ α} {next : α → Conversation σ β}
    {last : List ChatEvent → Prop} (hfirst : Orderly NothingElse first)
    (hnext : ∀ value, Orderly last (next value)) : Orderly last (first >>= next) := by
  intro state
  obtain ⟨records, rest, htold, hrest⟩ := hfirst state
  rcases hf : first state with ⟨events, fault | value, between⟩
  · rw [hf] at htold hrest
    rw [bind_of_error hf]
    exact ⟨records, rest, htold, hrest⟩
  · rw [hf] at htold hrest
    obtain ⟨more, final, hmore, hfinal⟩ := hnext value between
    rw [bind_of_ok hf rfl]
    refine ⟨records ++ more, final, ?_, hfinal⟩
    have hnothing : rest = [] := hrest
    rw [hnothing, List.append_nil] at htold
    show List.map Prod.fst (events ++ (next value between).events) = _
    rw [List.map_append, List.flatMap_append, List.append_assoc, ← hmore, ← htold]
    rfl

end Conversation

namespace Chat

open Conversation

variable {peers : Peers σ} {toolbox : Toolbox}

/-- A call is told right before its result, and without one if it fails. -/
theorem orderly_makeCall (call : Json) : Orderly NothingElse (makeCall peers toolbox call) := by
  rw [makeCall]
  refine (orderly_ofExcept _).bind ?_
  rintro ⟨name, arguments⟩ state
  have hsilent : (execute peers toolbox name arguments state).events = [] :=
    events_execute name arguments state
  show ((Conversation.tell (.toolCall name arguments) >>= fun _ =>
    execute peers toolbox name arguments >>= fun text =>
      Conversation.tell (.toolResult name text) >>= fun _ => pure (toolEntry name text))
        state).IsOrderly _
  rcases hx : execute peers toolbox name arguments state with ⟨events, fault | text, after⟩
  · rw [hx] at hsilent
    subst hsilent
    rw [bind_of_ok (tell_eq _ _) (bind_of_error hx)]
    exact ⟨[], _, rfl, .inr ⟨name, arguments, rfl⟩⟩
  · rw [hx] at hsilent
    subst hsilent
    rw [bind_of_ok (tell_eq _ _) (bind_of_ok hx rfl)]
    exact ⟨[⟨name, arguments, text⟩], [], rfl, rfl⟩

theorem orderly_makeCalls (calls : List Json) :
    Orderly NothingElse (makeCalls peers toolbox calls) := by
  induction calls with
  | nil => exact orderly_pure []
  | cons call rest ih =>
    exact (orderly_makeCall call).bind (fun _ => ih.bind (fun _ => orderly_pure _))

/-- Nothing but an answer of this model is told. -/
def IsAnswerOf (model : Json) (rest : List ChatEvent) : Prop :=
  ∃ text evalCount promptEvalCount, rest = [.message text model evalCount promptEvalCount]

theorem orderly_answer (setting : Setting) (response message : Json) :
    Orderly (IsAnswerOf setting.model) (answer setting response message : Conversation σ Unit) := by
  rw [answer]
  refine (orderly_ofExcept _).bind (fun content => ?_)
  refine (orderly_ofExcept _).bind (fun text => ?_)
  refine (orderly_ofExcept _).bind (fun evalCount => ?_)
  refine (orderly_ofExcept _).bind (fun promptEvalCount => ?_)
  exact fun state => ⟨[], _, rfl, text, evalCount, promptEvalCount, rfl⟩

theorem orderly_rounds (setting : Setting) (remaining : Nat) (history : List Json) :
    Orderly (IsAnswerOf setting.model) (rounds peers setting remaining history) := by
  induction remaining generalizing history with
  | zero => exact orderly_fail _
  | succ remaining ih =>
    rw [rounds]
    refine (orderly_perform _).bind (fun response => ?_)
    refine (orderly_ofExcept _).bind ?_
    rintro ⟨message, calls⟩
    dsimp only
    split
    · exact orderly_answer setting response message
    · split
      · exact orderly_fail _
      · refine (orderly_ofExcept _).bind (fun said => ?_)
        refine (orderly_ofExcept _).bind (fun calls => ?_)
        exact (orderly_makeCalls calls).bind (fun results => ih _)

/-- Every chat tells its calls with their results, and then its answer. -/
theorem orderly_converse (naming : Naming) (limit : Json) (query : Query) :
    Orderly (IsAnswerOf query.model) (converse peers naming toolbox limit query) := by
  rw [converse]
  refine (orderly_ofExcept _).bind (fun definitions => ?_)
  refine (orderly_ofExcept _).bind (fun count => ?_)
  exact orderly_rounds _ count query.messages

/-! ## Outcomes -/

theorem collectFrom_records (records calls : List CallRecord) (rest : List ChatEvent) :
    collectFrom none calls (records.flatMap CallRecord.events ++ rest) =
      collectFrom none (calls ++ records) rest := by
  induction records generalizing calls with
  | nil => simp
  | cons record records ih =>
    rw [List.flatMap_cons, List.append_assoc]
    show collectFrom none (calls ++ [record]) (records.flatMap CallRecord.events ++ rest) = _
    rw [ih, List.append_assoc, List.singleton_append]

theorem collect_cutShort (records : List CallRecord) {rest : List ChatEvent}
    (h : IsCutShort rest) : collect (records.flatMap CallRecord.events ++ rest) = none := by
  rw [collect, collectFrom_records]
  obtain rfl | ⟨name, arguments, rfl⟩ := h <;> rfl

/-- How a chat ended: with an answer after calls, or with a fault that is its outcome too. -/
theorem outcome_cases {run : Run σ Unit} {model : Json} (h : run.IsOrderly (IsAnswerOf model)) :
    (∃ result : Outcome, result.model = model ∧ run.result = .ok () ∧ outcome run = .ok result ∧
      run.told = result.calls.flatMap CallRecord.events ++
        [.message result.content model result.evalCount result.promptEvalCount]) ∨
    ∃ fault, run.result = .error fault ∧ outcome run = .error fault := by
  obtain ⟨records, rest, htold, hrest⟩ := h
  rw [Run.told] at htold
  rcases hr : run.result with fault | ⟨⟩
  · rw [hr] at hrest
    refine .inr ⟨fault, rfl, ?_⟩
    rw [outcome, htold, collect_cutShort records hrest, hr]
  · rw [hr] at hrest
    obtain ⟨text, evalCount, promptEvalCount, rfl⟩ := hrest
    refine .inl ⟨⟨text, model, records, evalCount, promptEvalCount⟩, rfl, rfl, ?_, htold⟩
    rw [outcome, htold, collect, collectFrom_records]
    rfl

end Chat

/-! ## Content -/

/-- A value that is given has `P`. -/
def Gives (P : α → Prop) (result : Except Fault α) : Prop := ∀ value, result = .ok value → P value

theorem gives_ok {P : α → Prop} {value : α} (h : P value) : Gives P (.ok value) := by
  rintro _ ⟨⟩
  exact h

theorem gives_error {P : α → Prop} (fault : Fault) : Gives P (.error fault) := by
  rintro _ ⟨⟩

theorem gives_any (result : Except Fault α) : Gives (fun _ => True) result :=
  fun _ _ => trivial

theorem Gives.bind {P : α → Prop} {Q : β → Prop} {first : Except Fault α}
    {next : α → Except Fault β} (hfirst : Gives P first) (hnext : ∀ value, P value →
      Gives Q (next value)) : Gives Q (first >>= next) := by
  cases first with
  | error fault => exact gives_error fault
  | ok value => exact hnext value (hfirst value rfl)

namespace Conversation

/-- From peers with `I` on, only events with `E` are told, the peers keep `I`, and a value that is
given has `P`. -/
def Honours (I : σ → Prop) (E : ChatEvent → Prop) (P : α → Prop) (program : Conversation σ α) :
    Prop :=
  ∀ state, I state → (∀ event ∈ (program state).told, E event) ∧ I (program state).peers ∧
    Gives P (program state).result

variable {I : σ → Prop} {E : ChatEvent → Prop} {P : α → Prop} {Q : β → Prop}

theorem honours_ofExcept {result : Except Fault α} (h : Gives P result) :
    Honours I E P (ofExcept result) :=
  fun _ hI => ⟨fun _ hm => absurd hm List.not_mem_nil, hI, h⟩

theorem honours_pure {value : α} (h : P value) : Honours I E P (pure value : Conversation σ α) :=
  honours_ofExcept (gives_ok h)

theorem honours_fail (fault : Fault) :
    Honours I E P (ofExcept (.error fault) : Conversation σ α) :=
  honours_ofExcept (gives_error fault)

theorem honours_tell {event : ChatEvent} (h : E event) :
    Honours I E (fun _ => True) (Conversation.tell event : Conversation σ Unit) :=
  fun _ hI => ⟨fun _ hm => by rw [List.mem_singleton.mp hm]; exact h, hI, gives_ok trivial⟩

theorem honours_perform {action : StateM σ (Except Fault α)}
    (h : ∀ state, I state → I (action state).2 ∧ Gives P (action state).1) :
    Honours I E P (perform action) :=
  fun state hI => ⟨fun _ hm => absurd hm List.not_mem_nil, h state hI⟩

theorem Honours.bind {first : Conversation σ α} {next : α → Conversation σ β}
    (hfirst : Honours I E P first) (hnext : ∀ value, P value → Honours I E Q (next value)) :
    Honours I E Q (first >>= next) := by
  intro state hI
  obtain ⟨htold, hbetween, hvalue⟩ := hfirst state hI
  rcases hf : first state with ⟨events, fault | value, between⟩
  · rw [hf] at htold hbetween
    rw [bind_of_error hf]
    exact ⟨htold, hbetween, gives_error fault⟩
  · rw [hf] at htold hbetween hvalue
    obtain ⟨hmore, hafter, hlast⟩ := hnext value (hvalue value rfl) between hbetween
    rw [bind_of_ok hf rfl]
    refine ⟨?_, hafter, hlast⟩
    show ∀ event ∈ List.map Prod.fst (events ++ (next value between).events), E event
    rw [List.map_append, List.forall_mem_append]
    exact ⟨htold, hmore⟩

end Conversation

/-- A call leaves the peers to the tool server or as they are. -/
theorem Tool.keeps_call {I : σ → Prop} {invoke : Json → Json → StateM σ (Except Fault ToolResult)}
    (hinvoke : ∀ name arguments state, I state → I (invoke name arguments state).2)
    (name arguments : Json) {state : σ} (hI : I state) : I (call invoke name arguments state).2 := by
  rw [call]
  rcases prepare name arguments with fault | ⟨sent | text⟩
  · exact hI
  · exact hinvoke name sent state hI
  · exact hI

namespace Chat

open Conversation

/-- An event that can be sent. -/
def IsWritableEvent (event : ChatEvent) : Prop := event.toStream.data.IsWritable

/-- Peers whose model says nothing but writable values while `I` holds, which they keep. -/
structure WritablePeers (I : σ → Prop) (peers : Peers σ) : Prop where
  ask : ∀ prompt state, I state →
    I (peers.ask prompt state).2 ∧ Gives Json.IsWritable (peers.ask prompt state).1
  invoke : ∀ name arguments state, I state → I (peers.invoke name arguments state).2

theorem gives_memberD {value other : Json} (h : value.IsWritable) (hother : other.IsWritable)
    (name : String) : Gives Json.IsWritable (memberD value name other) := by
  cases value with
  | object members =>
    refine gives_ok ?_
    cases hl : members.lookup name with
    | none => exact hother
    | some value => exact Json.Everywhere.under h hl
  | record _ => exact absurd h.self id
  | _ => exact gives_error _

theorem isWritable_emptyArray : (Json.array []).IsWritable := Json.everywhere_of_leaf rfl trivial

theorem isWritable_emptyObject : (Json.object []).IsWritable := Json.everywhere_of_leaf rfl trivial

/-- Both values are writable. -/
def AreWritable (values : Json × Json) : Prop := values.1.IsWritable ∧ values.2.IsWritable

/-- What is read of a writable response is writable. -/
theorem gives_readResponse {response : Json} (h : response.IsWritable) :
    Gives AreWritable (readResponse response) := by
  refine (gives_memberD h Json.isWritable_null _).bind (fun message hmessage => ?_)
  have hmessage := hmessage.orElse isWritable_emptyObject
  refine (gives_memberD hmessage Json.isWritable_null _).bind (fun calls hcalls => ?_)
  exact gives_ok ⟨hmessage, hcalls.orElse isWritable_emptyArray⟩

theorem gives_readCall {call : Json} (h : call.IsWritable) : Gives AreWritable (readCall call) := by
  refine (gives_memberD h Json.isWritable_null _).bind (fun function hfunction => ?_)
  have hfunction := hfunction.orElse isWritable_emptyObject
  refine (gives_memberD hfunction (Json.isWritable_string "") _).bind (fun name hname => ?_)
  refine (gives_memberD hfunction Json.isWritable_null _).bind (fun arguments harguments => ?_)
  exact gives_ok ⟨hname, harguments.orElse isWritable_emptyObject⟩

/-! ### Writable events -/

theorem isWritableEvent_toolCall {name arguments : Json} :
    IsWritableEvent (.toolCall name arguments) ↔ name.IsWritable ∧ arguments.IsWritable := by
  refine Json.isWritable_object.trans ?_
  simp only [List.forall_mem_cons]
  exact ⟨fun h => ⟨h.1, h.2.1⟩, fun h => ⟨h.1, h.2, fun _ hm => absurd hm List.not_mem_nil⟩⟩

theorem isWritableEvent_toolResult {name : Json} (hname : name.IsWritable) (text : String) :
    IsWritableEvent (.toolResult name text) := by
  refine Json.isWritable_object.mpr ?_
  simp only [List.forall_mem_cons]
  exact ⟨hname, Json.isWritable_string text, fun _ h => absurd h List.not_mem_nil⟩

theorem isWritableEvent_message (text : String) {model evalCount promptEvalCount : Json}
    (hmodel : model.IsWritable) (heval : evalCount.IsWritable)
    (hprompt : promptEvalCount.IsWritable) :
    IsWritableEvent (.message text model evalCount promptEvalCount) := by
  refine Json.isWritable_object.mpr ?_
  simp only [List.forall_mem_cons]
  exact ⟨Json.isWritable_string text, hmodel, heval, hprompt, fun _ h => absurd h List.not_mem_nil⟩

section

variable {I : σ → Prop} {peers : Peers σ} {toolbox : Toolbox} (hpeers : WritablePeers I peers)

include hpeers

theorem honours_execute (name arguments : Json) :
    Honours I IsWritableEvent (fun _ => True) (execute peers toolbox name arguments) := by
  rw [execute]
  refine (honours_ofExcept (gives_any _)).bind ?_
  rintro (_ | tool) -
  · exact honours_pure trivial
  · exact honours_perform (fun state hI => ⟨Tool.keeps_call hpeers.invoke _ _ hI, gives_any _⟩)

theorem honours_makeCall {call : Json} (h : call.IsWritable) :
    Honours I IsWritableEvent (fun _ => True) (makeCall peers toolbox call) := by
  refine (honours_ofExcept (gives_readCall h)).bind ?_
  rintro ⟨name, arguments⟩ ⟨hname, harguments⟩
  refine (honours_tell (isWritableEvent_toolCall.mpr ⟨hname, harguments⟩)).bind (fun _ _ => ?_)
  refine (honours_execute hpeers name arguments).bind (fun text _ => ?_)
  refine (honours_tell (isWritableEvent_toolResult hname text)).bind (fun _ _ => ?_)
  exact honours_pure trivial

theorem honours_makeCalls {calls : List Json} (h : ∀ call ∈ calls, call.IsWritable) :
    Honours I IsWritableEvent (fun _ => True) (makeCalls peers toolbox calls) := by
  induction calls with
  | nil => exact honours_pure trivial
  | cons call rest ih =>
    rw [List.forall_mem_cons] at h
    refine (honours_makeCall hpeers h.1).bind (fun _ _ => ?_)
    exact (ih h.2).bind (fun _ _ => honours_pure trivial)

omit hpeers in
theorem honours_answer (setting : Setting) (hmodel : setting.model.IsWritable)
    {response message : Json} (hresponse : response.IsWritable) (hmessage : message.IsWritable) :
    Honours I IsWritableEvent (fun _ => True) (answer setting response message) := by
  refine (honours_ofExcept (gives_memberD hmessage Json.isWritable_null _)).bind (fun _ _ => ?_)
  refine (honours_ofExcept (gives_any _)).bind (fun text _ => ?_)
  refine (honours_ofExcept (gives_memberD hresponse Json.isWritable_null _)).bind
    (fun _ heval => ?_)
  refine (honours_ofExcept (gives_memberD hresponse Json.isWritable_null _)).bind
    (fun _ hprompt => ?_)
  exact honours_tell (isWritableEvent_message text hmodel heval hprompt)

theorem honours_rounds (setting : Setting) (hmodel : setting.model.IsWritable) (remaining : Nat)
    (history : List Json) :
    Honours I IsWritableEvent (fun _ => True) (rounds peers setting remaining history) := by
  induction remaining generalizing history with
  | zero => exact honours_fail _
  | succ remaining ih =>
    rw [rounds]
    refine (honours_perform (hpeers.ask _)).bind (fun response hresponse => ?_)
    refine (honours_ofExcept (gives_readResponse hresponse)).bind ?_
    rintro ⟨message, calls⟩ ⟨hmessage, hcalls⟩
    dsimp only
    split
    · exact honours_answer setting hmodel hresponse hmessage
    · split
      · exact honours_fail _
      · refine (honours_ofExcept (gives_any _)).bind (fun said _ => ?_)
        refine (honours_ofExcept (fun _ helements => hcalls.elements helements)).bind
          (fun calls hcalls => ?_)
        exact (honours_makeCalls hpeers hcalls).bind (fun results _ => ih _)

/-- A chat with writable peers, about a model with a writable name, tells writable events. -/
theorem honours_converse (naming : Naming) (limit : Json) {query : Query}
    (hmodel : query.model.IsWritable) :
    Honours I IsWritableEvent (fun _ => True) (converse peers naming toolbox limit query) := by
  refine (honours_ofExcept (gives_any _)).bind (fun definitions _ => ?_)
  refine (honours_ofExcept (gives_any _)).bind (fun count _ => ?_)
  exact honours_rounds hpeers _ hmodel count query.messages

end

end Chat

end ToolSchema
