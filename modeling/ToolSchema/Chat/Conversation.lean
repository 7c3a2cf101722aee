import ToolSchema.ModelServer
import ToolSchema.Tool

/-!
# Conversations

A conversation talks to two peers, the model server and the tool server, whose state has a type `σ`
of their own. While it runs it tells events to whoever listens. `Run` is what can be told about a
conversation afterwards: the events, each with the state of the peers at that moment, the result and
the final state. A listener who leaves at an event has seen the peers do what that state shows and
nothing more.

`Conversation` is the monad of such runs: events are told in order, and a fault ends all.
-/

namespace ToolSchema

/-- What a listener is told. -/
inductive ChatEvent where
  /-- The model calls a tool. -/
  | toolCall (name arguments : Json)
  /-- The tool has answered, or the text says why not. -/
  | toolResult (name : Json) (text : String)
  /-- The model has answered. -/
  | message (text : String) (model evalCount promptEvalCount : Json)
  deriving DecidableEq, Repr

/-- The two peers of a conversation. -/
structure Peers (σ : Type) where
  /-- Asks the model. -/
  ask : Prompt → StateM σ (Except Fault Json)
  /-- Calls a tool by name with arguments. -/
  invoke : Json → Json → StateM σ (Except Fault ToolResult)

/-- What happened in a conversation. -/
structure Run (σ α : Type) where
  /-- The events, each with the state of the peers when it was told. -/
  events : List (ChatEvent × σ)
  result : Except Fault α
  peers : σ

/-- A conversation, from the state of the peers at its start. -/
def Conversation (σ α : Type) : Type := σ → Run σ α

namespace Conversation

variable {σ α β : Type}

/-- A conversation that gives a value and tells nothing. -/
def give (value : α) : Conversation σ α := fun peers => ⟨[], .ok value, peers⟩

/-- A conversation that goes on with what another one gives. -/
def andThen (first : Conversation σ α) (next : α → Conversation σ β) : Conversation σ β :=
  fun peers =>
    let run := first peers
    match run.result with
    | .error fault => ⟨run.events, .error fault, run.peers⟩
    | .ok value =>
      let later := next value run.peers
      ⟨run.events ++ later.events, later.result, later.peers⟩

instance : Monad (Conversation σ) where
  pure := give
  bind := andThen

/-- Tells an event. -/
def tell (event : ChatEvent) : Conversation σ Unit := fun peers => ⟨[(event, peers)], .ok (), peers⟩

/-- A result that does not hang on the peers. -/
def ofExcept (result : Except Fault α) : Conversation σ α := fun peers => ⟨[], result, peers⟩

/-- Asks the peers. -/
def perform (action : StateM σ (Except Fault α)) : Conversation σ α := fun peers =>
  let (result, peers) := action peers
  ⟨[], result, peers⟩

end Conversation

end ToolSchema
