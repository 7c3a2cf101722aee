import ToolSchema.Chat.Outcome

/-!
# Runs of conversations

How runs are put together: a step that succeeds hands on its value and the state of the peers, and a
fault ends all. `Conversation` is a lawful monad, and `Conversation.bind_eq_ok` takes a run that
succeeded apart.

* `Run.told` — the events of a run
* `Chat.CallRecord.events` — the two events of a call that was answered
* `Chat.makeCall_of_text` — what is told of a call, given the text about it
-/

namespace ToolSchema

variable {σ α β : Type}

/-- The events that a run tells. -/
def Run.told (run : Run σ α) : List ChatEvent := run.events.map Prod.fst

namespace Conversation

/-! ## Steps -/

theorem tell_eq (event : ChatEvent) (peers : σ) :
    tell event peers = ⟨[(event, peers)], .ok (), peers⟩ := rfl

theorem bind_of_ok {first : Conversation σ α} {next : α → Conversation σ β}
    {peers between after : σ} {front back : List (ChatEvent × σ)} {value : α}
    {result : Except Fault β} (h : first peers = ⟨front, .ok value, between⟩)
    (hnext : next value between = ⟨back, result, after⟩) :
    (first >>= next) peers = ⟨front ++ back, result, after⟩ := by
  show andThen first next peers = _
  simp only [andThen, h, hnext]

theorem bind_of_error {first : Conversation σ α} {next : α → Conversation σ β} {peers between : σ}
    {events : List (ChatEvent × σ)} {fault : Fault}
    (h : first peers = ⟨events, .error fault, between⟩) :
    (first >>= next) peers = ⟨events, .error fault, between⟩ := by
  show andThen first next peers = _
  simp only [andThen, h]

/-- A run of two steps that succeeded is a run of the one and then of the other. -/
theorem bind_eq_ok {first : Conversation σ α} {next : α → Conversation σ β} {peers after : σ}
    {events : List (ChatEvent × σ)} {value : β} :
    (first >>= next) peers = ⟨events, .ok value, after⟩ ↔
      ∃ a front between back, first peers = ⟨front, .ok a, between⟩ ∧
        next a between = ⟨back, .ok value, after⟩ ∧ events = front ++ back := by
  rcases hf : first peers with ⟨front, _ | a, between⟩
  · rw [bind_of_error hf]
    constructor
    · intro h
      cases h
    · rintro ⟨_, _, _, _, h, _⟩
      cases h
  · rcases hn : next a between with ⟨back, result, last⟩
    rw [bind_of_ok hf hn]
    constructor
    · intro h
      cases h
      exact ⟨a, front, between, back, rfl, hn, rfl⟩
    · rintro ⟨_, _, _, _, h, hback, rfl⟩
      cases h
      rw [hn] at hback
      cases hback
      rfl

theorem id_map_eq (first : Conversation σ α) : id <$> first = first := by
  funext peers
  rcases hf : first peers with ⟨events, _ | a, after⟩
  · exact bind_of_error hf
  · exact (bind_of_ok hf rfl).trans (by simp)

theorem bind_assoc_eq {γ : Type} (first : Conversation σ α) (next : α → Conversation σ β)
    (last : β → Conversation σ γ) :
    first >>= next >>= last = first >>= fun a => next a >>= last := by
  funext peers
  rcases hf : first peers with ⟨events, _ | a, between⟩
  · rw [bind_of_error (bind_of_error hf), bind_of_error hf]
  · rcases hn : next a between with ⟨more, _ | b, after⟩
    · rw [bind_of_error (bind_of_ok hf hn), bind_of_ok hf (bind_of_error hn)]
    · rcases hl : last b after with ⟨back, result, final⟩
      rw [bind_of_ok (bind_of_ok hf hn) hl, bind_of_ok hf (bind_of_ok hn hl), List.append_assoc]

instance : LawfulMonad (Conversation σ) :=
  LawfulMonad.mk' _ id_map_eq (fun _ _ => rfl) bind_assoc_eq

/-- What is looked at without the peers goes on with its value. -/
theorem ofExcept_ok (value : α) : (ofExcept (.ok value) : Conversation σ α) = pure value := rfl

end Conversation

/-! ## Calls -/

namespace Chat

/-- The events of a call and of its result. -/
def CallRecord.events (record : CallRecord) : List ChatEvent :=
  [.toolCall record.name record.arguments, .toolResult record.name record.result]

/-- The entry of a call in the history. -/
def CallRecord.entry (record : CallRecord) : Json := toolEntry record.name record.result

variable {peers : Peers σ} {toolbox : Toolbox}

/-- Nothing is told while a tool is called. -/
theorem events_execute (name arguments : Json) (state : σ) :
    (execute peers toolbox name arguments state).events = [] := by
  rw [execute]
  cases toolbox.find? name with
  | error fault => rfl
  | ok found =>
    cases found with
    | none => rfl
    | some tool =>
      rw [Conversation.ofExcept_ok, pure_bind]
      rfl

end Chat

end ToolSchema
