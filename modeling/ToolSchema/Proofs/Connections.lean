import Mathlib.Logic.ExistsUnique
import ToolSchema.Bridge

/-!
# Connections of a bridge

The log of a tool server tells which clients were made, which of them entered and exited, and what
each was used for. Together with the outcomes of the entries it tells at each point whose connection
is open. A bridge keeps in step with its log, whatever is asked of it and whatever fails.

* `Bridge.IsOpen` — the connection of a client is open after some traffic
* `Bridge.IsRegular` — each line of a log is allowed after the lines before it
* `Bridge.Books` — what holds of a bridge and its log between two operations
* `Bridge.books_perform`, `Bridge.books_run` — operations keep it
* `Bridge.connection_accounting` — the bridge is connected exactly while one client is
-/

namespace ToolSchema

/-- What can be asked of a bridge. -/
inductive BridgeOperation where
  | connect
  | listTools
  /-- To list the tools and to keep some of them, unless the choice fails. -/
  | discover (keep : List Descriptor → Except Fault (List Descriptor))
  | callTool (name arguments : Json)
  | disconnect

namespace ClientAction

/-- A client is made. -/
def isCreation : ClientAction → Bool
  | .create _ => true
  | _ => false

/-- Something is asked of the server. -/
def IsRequest : ClientAction → Prop
  | .list | .call _ _ => True
  | .create _ | .enter | .exit => False

end ClientAction

namespace Bridge

/-- A bridge that was just made, to a server that has seen no client. -/
def unconnected (url : Json) (server : ToolServer) : Bridge :=
  ⟨url, none, { server with clients := 0, traffic := [] }⟩

/-- Carries out an operation. Of its answer nothing is kept but a failure. -/
def perform : BridgeOperation → StateM Bridge (Except Fault Unit)
  | .connect => Except.map (fun _ => ()) <$> connect
  | .listTools => Except.map (fun _ => ()) <$> listTools
  | .discover keep => Except.map (fun _ => ()) <$> discoverBy keep
  | .callTool name arguments => Except.map (fun _ => ()) <$> callTool name arguments
  | .disconnect => disconnect

/-- The bridge after some operations, one after another. -/
def run (operations : List BridgeOperation) (bridge : Bridge) : Bridge :=
  operations.foldl (fun bridge operation => (perform operation bridge).2) bridge

/-! ## Reading a log -/

/-- How a client enters. Each client takes an outcome from the script, in the order of numbers. -/
def entryOf (entries : Script Unit) (client : Nat) : Except Fault Unit :=
  (entries[client]?).getD (.ok ())

/--
By this traffic the client has entered, its entry did not fail, and it has not exited since. A
client that was told to exit has exited, even if that fails.
-/
structure IsOpen (entries : Script Unit) (traffic : List Traffic) (client : Nat) : Prop where
  entered : ⟨client, .enter⟩ ∈ traffic
  succeeded : entryOf entries client = .ok ()
  stayed : ⟨client, .exit⟩ ∉ traffic

/--
What may happen after some traffic. A client is made only if no connection is open, with the next
number, and enters at once; what is asked of the server goes through the one open connection, and
nothing but this one is closed.
-/
def Allowed (entries : Script Unit) (past : List Traffic) (event : Traffic) : Prop :=
  match event.action with
  | .create _ => (∀ client, ¬IsOpen entries past client) ∧
      event.client = past.countP (·.action.isCreation)
  | .enter => ∃ earlier url, past = earlier ++ [⟨event.client, .create url⟩]
  | .list | .call _ _ | .exit => ∀ client, IsOpen entries past client ↔ client = event.client

/-- Each line of the log is allowed after those before it. -/
def IsRegular (entries : Script Unit) (traffic : List Traffic) : Prop :=
  ∀ past event rest, traffic = past ++ event :: rest → Allowed entries past event

/-- The clients that have exited, as often as they did. -/
def exited (traffic : List Traffic) : List Nat :=
  traffic.filterMap (fun event =>
    match event.action with
    | .exit => some event.client
    | _ => none)

/-- An open connection stays open, and what is asked of the server leaves open what it went
through. -/
structure LeavesOpen (before after : Bridge) : Prop where
  kept : ∀ client, before.client = some client → after.client = some client
  asked : ∃ more, after.server.traffic = before.server.traffic ++ more ∧
    ∀ event ∈ more, event.action.IsRequest → after.client = some event.client

variable {entries : Script Unit} {traffic : List Traffic} {client other : Nat}

theorem isRegular_nil : IsRegular entries [] := by
  intro past event rest h
  simp at h

/-- A log goes on with whatever is allowed after it. -/
theorem IsRegular.concat (h : IsRegular entries traffic) {event : Traffic}
    (hevent : Allowed entries traffic event) : IsRegular entries (traffic ++ [event]) := by
  intro past other rest hsplit
  rcases List.eq_nil_or_concat rest with rfl | ⟨front, last, rfl⟩
  · obtain ⟨rfl, hsame⟩ := List.append_inj' hsplit rfl
    cases hsame
    exact hevent
  · have hsplit : traffic ++ [event] = (past ++ other :: front) ++ [last] := by
      simpa using hsplit
    obtain ⟨hpast, -⟩ := List.append_inj' hsplit rfl
    exact h past other front hpast

/-- Nothing but entries and exits changes who is connected. -/
theorem isOpen_concat {action : ClientAction} (henter : action ≠ .enter) (hexit : action ≠ .exit) :
    IsOpen entries (traffic ++ [⟨other, action⟩]) client ↔ IsOpen entries traffic client := by
  have hmem : ∀ {last : ClientAction}, action ≠ last →
      (⟨client, last⟩ ∈ traffic ++ [⟨other, action⟩] ↔ ⟨client, last⟩ ∈ traffic) := by
    intro last hlast
    rw [List.mem_append, List.mem_singleton, Traffic.mk.injEq]
    exact or_iff_left (fun hsame => hlast hsame.2.symm)
  constructor
  · rintro ⟨hentered, hsucceeded, hstayed⟩
    exact ⟨(hmem henter).mp hentered, hsucceeded, fun h => hstayed ((hmem hexit).mpr h)⟩
  · rintro ⟨hentered, hsucceeded, hstayed⟩
    exact ⟨(hmem henter).mpr hentered, hsucceeded, fun h => hstayed ((hmem hexit).mp h)⟩

/-- A client that has not exited is connected when it enters with success. -/
theorem isOpen_entered (hnew : ⟨other, .exit⟩ ∉ traffic) :
    IsOpen entries (traffic ++ [⟨other, .enter⟩]) client ↔
      IsOpen entries traffic client ∨ (client = other ∧ entryOf entries other = .ok ()) := by
  have hexit : ∀ c, ⟨c, .exit⟩ ∈ traffic ++ [⟨other, .enter⟩] ↔
      (⟨c, .exit⟩ : Traffic) ∈ traffic := by
    intro c
    simp
  constructor
  · rintro ⟨hentered, hsucceeded, hstayed⟩
    rw [hexit] at hstayed
    rcases List.mem_append.mp hentered with hentered | hlast
    · exact .inl ⟨hentered, hsucceeded, hstayed⟩
    · cases List.mem_singleton.mp hlast
      exact .inr ⟨rfl, hsucceeded⟩
  · rintro (⟨hentered, hsucceeded, hstayed⟩ | ⟨rfl, hsucceeded⟩)
    · exact ⟨List.mem_append_left _ hentered, hsucceeded, by rwa [hexit]⟩
    · exact ⟨List.mem_append_right _ (List.mem_singleton_self _), hsucceeded, by rwa [hexit]⟩

/-- A client that exits is connected no more. -/
theorem isOpen_exited :
    IsOpen entries (traffic ++ [⟨other, .exit⟩]) client ↔
      IsOpen entries traffic client ∧ client ≠ other := by
  constructor
  · rintro ⟨hentered, hsucceeded, hstayed⟩
    refine ⟨⟨by simpa using hentered, hsucceeded, fun h => ?_⟩, ?_⟩
    · exact hstayed (List.mem_append_left _ h)
    · rintro rfl
      exact hstayed (List.mem_append_right _ (List.mem_singleton_self _))
  · rintro ⟨⟨hentered, hsucceeded, hstayed⟩, hne⟩
    refine ⟨List.mem_append_left _ hentered, hsucceeded, fun h => ?_⟩
    rcases List.mem_append.mp h with h | h
    · exact hstayed h
    · cases List.mem_singleton.mp h
      exact hne rfl

/-! ## What an operation can do -/

/-- A new client is made and enters. It is kept if its entry does not fail. -/
structure Meets (before after : Bridge) : Prop where
  closed : before.client = none
  client : after.client =
    ((before.server.entries.nextD ()).1.map (fun _ => before.server.clients)).toOption
  entries : after.server.entries = (before.server.entries.nextD ()).2
  clients : after.server.clients = before.server.clients + 1
  traffic : after.server.traffic = before.server.traffic ++
    [⟨before.server.clients, .create before.url⟩] ++ [⟨before.server.clients, .enter⟩]

/-- The client of the open connection does something; the bridge has `kept` as its client then. -/
structure Uses (before after : Bridge) (client : Nat) (action : ClientAction)
    (kept : Option Nat) : Prop where
  opened : before.client = some client
  left : after.client = kept
  entries : after.server.entries = before.server.entries
  clients : after.server.clients = before.server.clients
  traffic : after.server.traffic = before.server.traffic ++ [⟨client, action⟩]

/-- At most a new client is made. -/
def Connects (before after : Bridge) : Prop := after = before ∨ Meets before after

/-- At most one thing is asked of the server, through the open connection. -/
def Asks (before after : Bridge) : Prop :=
  after = before ∨ ∃ client action, ClientAction.IsRequest action ∧
    Uses before after client action (some client)

/-- The server after a new client was made and was told to enter. -/
def afterEntry (url : Json) (server : ToolServer) : ToolServer :=
  let made := { server with
    entries := (server.entries.nextD ()).2, clients := server.clients + 1 }
  (made.log server.clients (.create url)).log server.clients .enter

/-- Where no connection is open, a new client is made, whose number is given if it can enter. -/
theorem connect_of_closed (url : Json) (server : ToolServer) :
    connect ⟨url, none, server⟩ =
      ((server.entries.nextD ()).1.map (fun _ => server.clients),
        ⟨url, ((server.entries.nextD ()).1.map (fun _ => server.clients)).toOption,
          afterEntry url server⟩) := by
  rcases hentry : server.entries.nextD () with ⟨fault | entry, rest⟩
  · simp only [connect, afterEntry, hentry]
    rfl
  · simp only [connect, afterEntry, hentry]
    rfl

/-- Either the connection is open and nothing happens, or a new client is made. A client that is
given is the one of the open connection. -/
theorem connect_cases (bridge : Bridge) :
    (∃ fault between, connect bridge = (.error fault, between) ∧ Connects bridge between) ∨
      ∃ client between, connect bridge = (.ok client, between) ∧
        between.client = some client ∧ Connects bridge between := by
  obtain ⟨url, opened, server⟩ := bridge
  cases opened with
  | some client => exact .inr ⟨client, _, rfl, rfl, .inl rfl⟩
  | none =>
    have hmeets : Meets ⟨url, none, server⟩
        ⟨url, ((server.entries.nextD ()).1.map (fun _ => server.clients)).toOption,
          afterEntry url server⟩ := ⟨rfl, rfl, rfl, rfl, rfl⟩
    rw [connect_of_closed]
    cases hentry : (server.entries.nextD ()).1 with
    | error fault =>
      rw [hentry] at hmeets
      exact .inl ⟨fault, _, rfl, .inr hmeets⟩
    | ok entry =>
      rw [hentry] at hmeets
      exact .inr ⟨server.clients, _, rfl, rfl, .inr hmeets⟩

/-- A list of the tools is asked for through the open connection, if there is one then. -/
theorem listTools_cases (bridge : Bridge) :
    ∃ between, Connects bridge between ∧ Asks between (listTools bridge).2 := by
  obtain ⟨fault, between, hconnect, hconnects⟩ |
    ⟨client, between, hconnect, hopened, hconnects⟩ := connect_cases bridge
  · refine ⟨between, hconnects, .inl ?_⟩
    rw [listTools, hconnect]
  · refine ⟨between, hconnects, .inr ⟨client, .list, trivial, ?_⟩⟩
    rw [listTools, hconnect]
    exact ⟨hopened, hopened, rfl, rfl, rfl⟩

/-- So is a call. -/
theorem callTool_cases (name arguments : Json) (bridge : Bridge) :
    ∃ between, Connects bridge between ∧ Asks between (callTool name arguments bridge).2 := by
  obtain ⟨fault, between, hconnect, hconnects⟩ |
    ⟨client, between, hconnect, hopened, hconnects⟩ := connect_cases bridge
  · refine ⟨between, hconnects, .inl ?_⟩
    rw [callTool, hconnect]
  · refine ⟨between, hconnects, .inr ⟨client, .call name arguments, trivial, ?_⟩⟩
    rw [callTool, hconnect]
    exact ⟨hopened, hopened, rfl, rfl, rfl⟩

/-- **What an operation can do** that is no disconnection: it connects if need be, and then asks the
server for something at most once. -/
theorem perform_cases {operation : BridgeOperation} (h : operation ≠ .disconnect)
    (bridge : Bridge) :
    ∃ between, Connects bridge between ∧ Asks between (perform operation bridge).2 := by
  cases operation with
  | connect =>
    obtain ⟨fault, between, hconnect, hconnects⟩ |
      ⟨client, between, hconnect, -, hconnects⟩ := connect_cases bridge
    all_goals
      refine ⟨between, hconnects, .inl ?_⟩
      show (connect bridge).2 = between
      rw [hconnect]
  | listTools => exact listTools_cases bridge
  | discover keep => exact listTools_cases bridge
  | callTool name arguments => exact callTool_cases name arguments bridge
  | disconnect => exact absurd rfl h

/-- A disconnection closes the connection, if one is open, and does nothing else. -/
theorem disconnect_cases (bridge : Bridge) :
    (bridge.client = none ∧ (perform .disconnect bridge).2 = bridge) ∨
      ∃ client, Uses bridge (perform .disconnect bridge).2 client .exit none := by
  obtain ⟨url, opened, server⟩ := bridge
  cases opened with
  | none => exact .inl ⟨rfl, rfl⟩
  | some client => exact .inr ⟨client, rfl, rfl, rfl, rfl, rfl⟩

/-! ## Books -/

/-- What holds of a bridge and its log between two operations. -/
structure Books (entries : Script Unit) (bridge : Bridge) : Prop where
  /-- Each client has taken an outcome from the script of entries. -/
  taken : bridge.server.entries = entries.drop bridge.server.clients
  counted : bridge.server.traffic.countP (·.action.isCreation) = bridge.server.clients
  numbered : ∀ event ∈ bridge.server.traffic, event.client < bridge.server.clients
  holds : ∀ client, IsOpen entries bridge.server.traffic client ↔ bridge.client = some client
  regular : IsRegular entries bridge.server.traffic
  exits : (exited bridge.server.traffic).Nodup

theorem books_unconnected (url : Json) (server : ToolServer) :
    Books server.entries (unconnected url server) where
  taken := rfl
  counted := rfl
  numbered := fun _ hm => (List.not_mem_nil hm).elim
  holds := fun _ => ⟨fun h => (List.not_mem_nil h.entered).elim, nofun⟩
  regular := isRegular_nil
  exits := List.nodup_nil

theorem nextD_drop (entries : Script Unit) (client : Nat) :
    Script.nextD (entries.drop client) () = (entryOf entries client, entries.drop (client + 1)) := by
  rw [entryOf]
  cases hentry : entries[client]? with
  | none =>
    have hlength : entries.length ≤ client := List.getElem?_eq_none_iff.mp hentry
    rw [List.drop_eq_nil_of_le hlength, List.drop_eq_nil_of_le (by omega)]
    rfl
  | some outcome =>
    obtain ⟨hlt, hentry⟩ := List.getElem?_eq_some_iff.mp hentry
    rw [List.drop_eq_getElem_cons hlt, hentry]
    rfl

theorem exited_append (front back : List Traffic) :
    exited (front ++ back) = exited front ++ exited back :=
  List.filterMap_append

/-- The books stay right when a new client is made. -/
theorem Books.meets {before after : Bridge} (h : Books entries before)
    (hmeets : Meets before after) : Books entries after := by
  have hnext := nextD_drop entries before.server.clients
  rw [← h.taken] at hnext
  have hnone : ∀ client, ¬IsOpen entries before.server.traffic client := by
    intro client hopen
    have hclient := (h.holds client).mp hopen
    rw [hmeets.closed] at hclient
    cases hclient
  have hcreated : Allowed entries before.server.traffic
      ⟨before.server.clients, .create before.url⟩ := ⟨hnone, h.counted.symm⟩
  have hentered : Allowed entries
      (before.server.traffic ++ [⟨before.server.clients, .create before.url⟩])
      ⟨before.server.clients, .enter⟩ := ⟨_, _, rfl⟩
  -- The new number does not occur in the log so far.
  have hnew : (⟨before.server.clients, .exit⟩ : Traffic) ∉
      before.server.traffic ++ [⟨before.server.clients, .create before.url⟩] := by
    intro hm
    rcases List.mem_append.mp hm with hm | hm
    · exact Nat.lt_irrefl _ (h.numbered _ hm)
    · cases List.mem_singleton.mp hm
  refine ⟨?_, ?_, ?_, ?_, ?_, ?_⟩
  · rw [hmeets.entries, hmeets.clients, hnext]
  · rw [hmeets.traffic, hmeets.clients, List.countP_append, List.countP_append, h.counted]
    rfl
  · rw [hmeets.traffic, hmeets.clients]
    intro event hm
    simp only [List.mem_append, List.mem_singleton] at hm
    rcases hm with (hm | rfl) | rfl
    · exact Nat.lt_succ_of_lt (h.numbered event hm)
    · exact Nat.lt_succ_self _
    · exact Nat.lt_succ_self _
  · intro client
    have hsame : IsOpen entries (before.server.traffic ++
          [⟨before.server.clients, .create before.url⟩]) client ↔
        IsOpen entries before.server.traffic client :=
      isOpen_concat (by simp) (by simp)
    rw [hmeets.traffic, isOpen_entered hnew, hsame, or_iff_right (hnone client), hmeets.client,
      hnext]
    cases hentry : entryOf entries before.server.clients with
    | ok entry =>
      show client = before.server.clients ∧ _ ↔ some before.server.clients = some client
      simp [eq_comm]
    | error fault =>
      show client = before.server.clients ∧ _ ↔ none = some client
      simp
  · rw [hmeets.traffic]
    exact (h.regular.concat hcreated).concat hentered
  · rw [hmeets.traffic, exited_append, exited_append]
    simpa [exited] using h.exits

/-- The books stay right when the client of the open connection does what is allowed, if it is told
rightly who is connected afterwards. -/
theorem Books.uses {before after : Bridge} {action : ClientAction} {kept : Option Nat}
    (h : Books entries before) (huses : Uses before after client action kept)
    (haction : action.isCreation = false)
    (hallowed : Allowed entries before.server.traffic ⟨client, action⟩)
    (hholds : ∀ other, IsOpen entries (before.server.traffic ++ [⟨client, action⟩]) other ↔
      kept = some other)
    (hexits : (exited (before.server.traffic ++ [⟨client, action⟩])).Nodup) :
    Books entries after := by
  have hknown : client < before.server.clients :=
    h.numbered _ ((h.holds client).mpr huses.opened).entered
  refine ⟨?_, ?_, ?_, ?_, ?_, ?_⟩
  · rw [huses.entries, huses.clients]
    exact h.taken
  · rw [huses.traffic, huses.clients, List.countP_append, h.counted]
    simp [haction]
  · rw [huses.traffic, huses.clients]
    intro event hm
    rcases List.mem_append.mp hm with hm | hm
    · exact h.numbered event hm
    · rw [List.mem_singleton.mp hm]
      exact hknown
  · intro other
    rw [huses.traffic, huses.left]
    exact hholds other
  · rw [huses.traffic]
    exact h.regular.concat hallowed
  · rw [huses.traffic]
    exact hexits

/-- The client of the open connection is the one that the log tells. -/
theorem Books.isOpen_iff {bridge : Bridge} (h : Books entries bridge)
    (hopened : bridge.client = some client) (other : Nat) :
    IsOpen entries bridge.server.traffic other ↔ other = client := by
  rw [h.holds other, hopened, Option.some.injEq]
  exact eq_comm

/-- The books stay right when something is asked of the server. -/
theorem Books.asks {before after : Bridge} (h : Books entries before)
    (hasks : Asks before after) : Books entries after := by
  rcases hasks with rfl | ⟨client, action, hrequest, huses⟩
  · exact h
  · have hopen := h.isOpen_iff huses.opened
    have hother : action.isCreation = false ∧ action ≠ .enter ∧ action ≠ .exit := by
      cases action with
      | list | call name arguments => simp [ClientAction.isCreation]
      | _ => exact hrequest.elim
    obtain ⟨hcreation, henter, hexit⟩ := hother
    have hallowed : Allowed entries before.server.traffic ⟨client, action⟩ := by
      cases action with
      | list | call name arguments => exact hopen
      | _ => exact hrequest.elim
    refine h.uses huses hcreation hallowed (fun other => ?_) ?_
    · rw [isOpen_concat henter hexit, h.holds other, huses.opened]
    · rw [exited_append]
      cases action with
      | list | call name arguments => simpa [exited] using h.exits
      | _ => exact hrequest.elim

/-- The books stay right when the connection is closed. -/
theorem Books.leaves {before after : Bridge} (h : Books entries before)
    (huses : Uses before after client .exit none) : Books entries after := by
  have hopen := h.isOpen_iff huses.opened
  refine h.uses huses rfl hopen (fun other => ?_) ?_
  · rw [isOpen_exited, hopen other]
    simp
  · -- The client was connected, so that it has not exited yet.
    have hstayed := ((hopen client).mpr rfl).stayed
    have hnew : client ∉ exited before.server.traffic := by
      intro hm
      obtain ⟨⟨other, action⟩, hevent, hexit⟩ := List.mem_filterMap.mp hm
      cases action with
      | exit =>
        cases hexit
        exact hstayed hevent
      | _ => cases hexit
    rw [exited_append, List.nodup_append]
    refine ⟨h.exits, List.pairwise_singleton _ client, fun one hone other hother => ?_⟩
    rw [List.mem_singleton.mp hother]
    rintro rfl
    exact hnew hone

/-- Every operation keeps the books right. -/
theorem books_perform {bridge : Bridge} (h : Books entries bridge)
    (operation : BridgeOperation) : Books entries (perform operation bridge).2 := by
  by_cases hdisconnect : operation = .disconnect
  · subst hdisconnect
    rcases disconnect_cases bridge with ⟨-, hsame⟩ | ⟨client, huses⟩
    · rwa [hsame]
    · exact h.leaves huses
  · obtain ⟨between, hconnects, hasks⟩ := perform_cases hdisconnect bridge
    have hbetween : Books entries between := by
      rcases hconnects with rfl | hmeets
      · exact h
      · exact h.meets hmeets
    exact hbetween.asks hasks

/-- So does any number of them, one after another. -/
theorem books_run {bridge : Bridge} (h : Books entries bridge)
    (operations : List BridgeOperation) : Books entries (run operations bridge) := by
  induction operations generalizing bridge with
  | nil => exact h
  | cons operation rest ih => exact ih (books_perform h operation)

/-! ## Connections -/

/-- No operation but a disconnection closes a connection. -/
theorem leavesOpen_perform {operation : BridgeOperation} (h : operation ≠ .disconnect)
    (bridge : Bridge) : LeavesOpen bridge (perform operation bridge).2 := by
  obtain ⟨between, hconnects, hasks⟩ := perform_cases h bridge
  constructor
  · intro client hopened
    have hbetween : between = bridge := by
      rcases hconnects with hsame | hmeets
      · exact hsame
      · rw [hmeets.closed] at hopened
        cases hopened
    subst hbetween
    rcases hasks with hsame | ⟨other, action, -, huses⟩
    · rwa [hsame]
    · rw [huses.left, ← huses.opened, hopened]
  · have hsilent : ∃ more, between.server.traffic = bridge.server.traffic ++ more ∧
        ∀ event ∈ more, ¬event.action.IsRequest := by
      rcases hconnects with rfl | hmeets
      · exact ⟨[], (List.append_nil _).symm, fun _ hm => (List.not_mem_nil hm).elim⟩
      · refine ⟨_, hmeets.traffic.trans (List.append_assoc _ _ _), ?_⟩
        simp [ClientAction.IsRequest]
    obtain ⟨more, hmore, hsilent⟩ := hsilent
    rcases hasks with hsame | ⟨client, action, -, huses⟩
    · rw [hsame]
      exact ⟨more, hmore, fun event hm hrequest => absurd hrequest (hsilent event hm)⟩
    · refine ⟨more ++ [⟨client, action⟩], ?_, fun event hm hrequest => ?_⟩
      · rw [huses.traffic, hmore, List.append_assoc]
      · rcases List.mem_append.mp hm with hm | hm
        · exact absurd hrequest (hsilent event hm)
        · rw [List.mem_singleton.mp hm]
          exact huses.left

/--
**A bridge is connected exactly while one client is.** After any operations on a new bridge,
whatever becomes of entries, requests, results and exits: the bridge counts as connected if and only
if there is one client that has entered with success and has not exited, and this is the client that
it holds. No client has exited twice; each client was made while no connection was open, and all
that was asked of the server went through the connection that was open then. Whatever is done next,
if it is no disconnection, leaves the connection open, and so does a request that it makes, also if
it fails.
-/
theorem connection_accounting (url : Json) (server : ToolServer)
    (operations : List BridgeOperation) :
    let bridge := run operations (unconnected url server)
    let traffic := bridge.server.traffic
    (bridge.isConnected = true ↔ ∃! client, IsOpen server.entries traffic client) ∧
      (∀ client, IsOpen server.entries traffic client ↔ bridge.client = some client) ∧
      (exited traffic).Nodup ∧ IsRegular server.entries traffic ∧
      ∀ operation, operation ≠ .disconnect → LeavesOpen bridge (perform operation bridge).2 := by
  intro bridge traffic
  have hbooks : Books server.entries bridge :=
    books_run (books_unconnected url server) operations
  refine ⟨?_, hbooks.holds, hbooks.exits, hbooks.regular,
    fun operation h => leavesOpen_perform h bridge⟩
  rw [isConnected, Option.isSome_iff_exists]
  constructor
  · rintro ⟨client, hclient⟩
    exact ⟨client, (hbooks.holds client).mpr hclient,
      fun other hother => (hbooks.isOpen_iff hclient other).mp hother⟩
  · rintro ⟨client, hopen, -⟩
    exact ⟨client, (hbooks.holds client).mp hopen⟩

end Bridge

end ToolSchema
