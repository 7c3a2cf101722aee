import ToolSchema.Proofs.Connections
import ToolSchema.Proofs.Trace
import ToolSchema.Service.App

/-!
# The start of a service

A service that is given a tool server connects to it when it starts, lists the tools and sums up
each of them in a line. If anything goes wrong on the way it takes the connection back and goes on.
The connection and the tools are in step then, except that tools stay listed if one of them cannot
be summed up. And it goes on unless the connection fails to close; this failure ends the start.

* `ToolServer.Advertises`, `App.Offers` — the tools that a server lists, and those that count
* `App.Course` — how a start can go
* `App.start_course` — it does not go otherwise
* `App.start_consistent` — when a start ends well, and when it leaves tools and connection in step
-/

namespace ToolSchema

namespace ToolServer

/-- The server lists tools when it is next asked, and these are their descriptors, in its order. -/
def Advertises (server : ToolServer) (descriptors : List Descriptor) : Prop :=
  ∃ listing tools, (server.listings.nextD server.tools).1 = .ok listing ∧
    listing.elements? = some tools ∧
    List.Forall₂ (fun tool descriptor => Descriptor.ofTool tool = .ok descriptor) tools descriptors

end ToolServer

namespace Descriptor

theorem filter_isWithin (limit : Int) (descriptors : List Descriptor) (index : Nat) :
    ((descriptors.zipIdx index).filter (fun indexed =>
      isWithin (some limit) indexed.2)).map Prod.fst = descriptors.take (limit.toNat - index) := by
  induction descriptors generalizing index with
  | nil => rw [List.zipIdx_nil, List.filter_nil, List.map_nil, List.take_nil]
  | cons descriptor rest ih =>
    rw [List.zipIdx_cons, List.filter_cons]
    by_cases hwithin : isWithin (some limit) index = true
    · have hbelow : (index : Int) < limit := of_decide_eq_true hwithin
      have hcount : limit.toNat - index = (limit.toNat - (index + 1)) + 1 := by omega
      rw [if_pos hwithin, List.map_cons, ih, hcount, List.take_succ_cons]
    · have hbeyond : ¬(index : Int) < limit := fun h => hwithin (decide_eq_true h)
      have hcount : limit.toNat - index = 0 := by omega
      have hnext : limit.toNat - (index + 1) = 0 := by omega
      rw [if_neg hwithin, ih, hcount, hnext, List.take_zero, List.take_zero]

theorem limited_some (limit : Int) (descriptors : List Descriptor) :
    limited (some limit) descriptors = descriptors.take limit.toNat :=
  filter_isWithin limit descriptors 0

theorem limited_none (descriptors : List Descriptor) : limited none descriptors = descriptors := by
  have hall : ∀ indexed ∈ descriptors.zipIdx, isWithin none indexed.2 = true := fun _ _ => rfl
  rw [limited, List.filter_eq_self.mpr hall, List.zipIdx_map_fst]

end Descriptor

namespace Bridge

theorem readListing_eq_ok {listing : Json} {descriptors : List Descriptor} :
    readListing listing = .ok descriptors ↔ ∃ tools, listing.elements? = some tools ∧
      List.Forall₂ (fun tool descriptor => Descriptor.ofTool tool = .ok descriptor)
        tools descriptors := by
  rw [readListing]
  cases listing.elements? with
  | none =>
    constructor
    · intro h
      cases h
    · rintro ⟨tools, h, -⟩
      cases h
  | some tools =>
    constructor
    · intro h
      exact ⟨tools, rfl, mapM_eq_ok.mp h⟩
    · rintro ⟨others, helements, h⟩
      cases helements
      exact mapM_eq_ok.mpr h

/-- What a bridge reads of a listing is what the server advertises. -/
theorem advertises_iff {server : ToolServer} {descriptors : List Descriptor} :
    server.Advertises descriptors ↔
      (server.listings.nextD server.tools).1.bind readListing = .ok descriptors := by
  rw [ToolServer.Advertises]
  cases (server.listings.nextD server.tools).1 with
  | error fault =>
    constructor
    · rintro ⟨listing, tools, h, -⟩
      cases h
    · intro h
      cases h
  | ok listing =>
    refine Iff.trans ?_ readListing_eq_ok.symm
    constructor
    · rintro ⟨other, tools, hlisting, helements, htools⟩
      cases hlisting
      exact ⟨tools, helements, htools⟩
    · rintro ⟨tools, helements, htools⟩
      exact ⟨listing, tools, rfl, helements, htools⟩

/-- Where the first client fails to enter, nothing is found, and no connection is open. -/
theorem discover_of_refused (limit : Option Int) (url : Json) {server : ToolServer} {fault : Fault}
    (h : (server.entries.nextD ()).1 = .error fault) :
    discover limit ⟨url, none, server⟩ = (.error fault, ⟨url, none, afterEntry url server⟩) := by
  rw [discover, discoverBy, listTools, connect_of_closed, h]
  rfl

/-- Where it enters, the tools are listed, and the connection stays open. -/
theorem discover_of_entered (limit : Option Int) (url : Json) {server : ToolServer}
    (h : (server.entries.nextD ()).1 = .ok ()) :
    ∃ after, after.exits = server.exits ∧ discover limit ⟨url, none, server⟩ =
      (((server.listings.nextD server.tools).1.bind readListing).map (Descriptor.limited limit),
        ⟨url, some server.clients, after⟩) := by
  have hmap : ∀ found : Except Fault (List Descriptor), found.map (Descriptor.limited limit) =
      found.bind (fun found => .ok (Descriptor.limited limit found)) := by
    intro found
    cases found <;> rfl
  rw [discover, discoverBy, listTools, connect_of_closed, h, hmap]
  refine ⟨(afterEntry url { server with
    listings := (server.listings.nextD server.tools).2 }).log server.clients .list, rfl, rfl⟩

end Bridge

namespace App

/-- The settings name a tool server, and the first client can enter. -/
def Opens (settings : Settings) (server : ToolServer) : Prop :=
  settings.toolServerUrl.getD "" ≠ "" ∧ (server.entries.nextD ()).1 = .ok ()

/-- These are the first tools that the server advertises, as many as the settings allow. -/
def Offers (settings : Settings) (server : ToolServer) (tools : List Descriptor) : Prop :=
  ∃ advertised, server.Advertises advertised ∧
    tools = match settings.maxTools with
      | none => advertised
      | some limit => advertised.take limit.toNat

/-- Either the service is connected and has the tools that it should offer, or it is not connected
and has none. -/
def InStep (settings : Settings) (server : ToolServer) (app : App) : Prop :=
  (app.bridge.isConnected = true ∧ Offers settings server app.tools) ∨
    (app.bridge.isConnected = false ∧ app.tools = [])

/-- The service connects and finds tools one of which cannot be summed up. -/
def MeetsUndescribed (settings : Settings) (server : ToolServer) : Prop :=
  Opens settings server ∧
    ∃ tools, Offers settings server tools ∧ ∃ tool ∈ tools, isDescribed tool = false

/-- The service connects, finds no tools or one that cannot be summed up, and fails to close the
connection that it takes back for this. -/
def FailsToClose (settings : Settings) (server : ToolServer) : Prop :=
  Opens settings server ∧
    (∀ tools, Offers settings server tools → ∃ tool ∈ tools, isDescribed tool = false) ∧
    ∃ fault, (server.exits.nextD ()).1 = .error fault

/-- What comes of a start. -/
structure EndsWith (started : Except Fault Unit × App) (result : Except Fault Unit)
    (connected : Bool) (tools : List Descriptor) : Prop where
  result : started.1 = result
  connected : started.2.bridge.isConnected = connected
  tools : started.2.tools = tools

/-- How a start can go. -/
inductive Course (settings : Settings) (server : ToolServer)
    (started : Except Fault Unit × App) : Prop where
  /-- No connection is opened. -/
  | unopened (hclosed : ¬Opens settings server) (hends : EndsWith started (.ok ()) false [])
  /-- The tools cannot be listed. The connection is taken back. -/
  | unlisted (hopens : Opens settings server) (hnone : ∀ tools, ¬Offers settings server tools)
      (hends : EndsWith started (server.exits.nextD ()).1 false [])
  /-- The tools are found. -/
  | listed {tools : List Descriptor} (hopens : Opens settings server)
      (hoffers : Offers settings server tools) (hdescribed : ∀ tool ∈ tools, isDescribed tool = true)
      (hends : EndsWith started (.ok ()) true tools)
  /-- The tools are found, but not all of them can be summed up. The connection is taken back. -/
  | undescribed {tools : List Descriptor} (hopens : Opens settings server)
      (hoffers : Offers settings server tools) (hmeets : ∃ tool ∈ tools, isDescribed tool = false)
      (hends : EndsWith started (server.exits.nextD ()).1 false tools)

variable {settings : Settings} {server : ToolServer} {tools : List Descriptor}

/-- The tools to be offered are those that a bridge finds. -/
theorem offers_iff : Offers settings server tools ↔
    ((server.listings.nextD server.tools).1.bind Bridge.readListing).map
      (Descriptor.limited settings.maxTools) = .ok tools := by
  have hlimited : ∀ advertised, Descriptor.limited settings.maxTools advertised =
      match settings.maxTools with
      | none => advertised
      | some limit => advertised.take limit.toNat := by
    intro advertised
    cases settings.maxTools with
    | none => exact Descriptor.limited_none advertised
    | some limit => exact Descriptor.limited_some limit advertised
  simp only [Offers, Bridge.advertises_iff, ← hlimited]
  cases (server.listings.nextD server.tools).1.bind Bridge.readListing with
  | error fault =>
    constructor
    · rintro ⟨advertised, h, -⟩
      cases h
    · intro h
      cases h
  | ok found =>
    constructor
    · rintro ⟨advertised, h, rfl⟩
      cases h
      rfl
    · intro h
      cases h
      exact ⟨found, rfl, rfl⟩

/-- There is only one way to offer tools. -/
theorem Offers.unique {others : List Descriptor} (h : Offers settings server tools)
    (hothers : Offers settings server others) : others = tools := by
  have hsame := (offers_iff.mp hothers).symm.trans (offers_iff.mp h)
  cases hsame
  rfl

theorem all_isDescribed_eq_false :
    tools.all isDescribed = false ↔ ∃ tool ∈ tools, isDescribed tool = false := by
  simp

/-- A start goes in one of these ways. -/
theorem start_course (settings : Settings) (model : ModelServer) (server : ToolServer) :
    Course settings server (start (make settings model server)) := by
  by_cases hurl : settings.toolServerUrl.getD "" = ""
  · refine .unopened (fun h => h.1 hurl) ?_
    rw [start, make, hurl, if_pos rfl]
    exact ⟨rfl, rfl, rfl⟩
  · have hnamed : Json.string (settings.toolServerUrl.getD "") ≠ .string "" := by
      intro h
      exact hurl (Json.string.inj h)
    rw [start, make, if_neg hnamed, connectTools]
    cases hentry : (server.entries.nextD ()).1 with
    | error fault =>
      -- What is done about this failure is to disconnect, and there is nothing to close.
      refine .unopened (fun h => ?_) ?_
      · rw [Opens, hentry] at h
        cases h.2
      · rw [Bridge.discover_of_refused _ _ hentry]
        exact ⟨rfl, rfl, rfl⟩
    | ok entry =>
      have hopens : Opens settings server := ⟨hurl, hentry⟩
      obtain ⟨after, hexits, hdiscover⟩ :=
        Bridge.discover_of_entered settings.maxTools (.string (settings.toolServerUrl.getD "")) hentry
      rw [hdiscover]
      cases hfound : ((server.listings.nextD server.tools).1.bind Bridge.readListing).map
          (Descriptor.limited settings.maxTools) with
      | error fault =>
        refine .unlisted hopens (fun tools h => ?_) ?_
        · rw [offers_iff, hfound] at h
          cases h
        · rw [← hexits]
          exact ⟨rfl, rfl, rfl⟩
      | ok tools =>
        have hoffers : Offers settings server tools := offers_iff.mpr hfound
        cases hdescribed : tools.all isDescribed with
        | true =>
          refine .listed hopens hoffers (List.all_eq_true.mp hdescribed) ?_
          simp only [hdescribed, if_true]
          exact ⟨rfl, rfl, rfl⟩
        | false =>
          refine .undescribed hopens hoffers (all_isDescribed_eq_false.mp hdescribed) ?_
          simp only [hdescribed, Bool.false_eq_true, if_false]
          rw [← hexits]
          exact ⟨rfl, rfl, rfl⟩

/-- A connection that is to be taken back fails to close if and only if its client fails to exit. -/
theorem exit_eq_ok_iff (hopens : Opens settings server)
    (hback : ∀ tools, Offers settings server tools → ∃ tool ∈ tools, isDescribed tool = false) :
    (server.exits.nextD ()).1 = .ok () ↔ ¬FailsToClose settings server := by
  constructor
  · rintro hexit ⟨-, -, fault, hfault⟩
    rw [hexit] at hfault
    cases hfault
  · intro h
    cases hexit : (server.exits.nextD ()).1 with
    | ok result => rfl
    | error fault => exact absurd ⟨hopens, hback, fault, hexit⟩ h

/-- If the tools to be offered can all be summed up, there is none among them that cannot. -/
theorem Offers.not_undescribed (h : Offers settings server tools)
    (hdescribed : ∀ tool ∈ tools, isDescribed tool = true) {others : List Descriptor}
    (hothers : Offers settings server others) : ¬∃ tool ∈ others, isDescribed tool = false := by
  rintro ⟨tool, hm, hundescribed⟩
  rw [h.unique hothers] at hm
  rw [hdescribed tool hm] at hundescribed
  cases hundescribed

/--
**How a start ends.** Whatever the settings are, and whatever the model server and the tool server
do: the start ends well unless a connection that it takes back fails to close, and then no
connection is open. Connection and tools are in step afterwards unless the service meets a tool that
it cannot sum up. And it is connected if and only if it could connect, list the tools and sum up all
of them.
-/
theorem start_consistent (settings : Settings) (model : ModelServer) (server : ToolServer) :
    let started := start (make settings model server)
    (started.1 = .ok () ↔ ¬FailsToClose settings server) ∧
      (∀ fault, started.1 = .error fault → started.2.bridge.isConnected = false) ∧
      (InStep settings server started.2 ↔ ¬MeetsUndescribed settings server) ∧
      (started.2.bridge.isConnected = true ↔ Opens settings server ∧
        ∃ tools, Offers settings server tools ∧ ∀ tool ∈ tools, isDescribed tool = true) := by
  intro started
  cases start_course settings model server with
  | unopened hclosed hends =>
    obtain ⟨hresult, hconnected, htools⟩ := hends
    refine ⟨?_, fun _ _ => hconnected, ?_, ?_⟩
    · exact iff_of_true hresult (fun h => hclosed h.1)
    · exact iff_of_true (.inr ⟨hconnected, htools⟩) (fun h => hclosed h.1)
    · exact iff_of_false (by rw [hconnected]; nofun) (fun h => hclosed h.1)
  | unlisted hopens hnone hends =>
    obtain ⟨hresult, hconnected, htools⟩ := hends
    refine ⟨?_, fun _ _ => hconnected, ?_, ?_⟩
    · rw [hresult]
      exact exit_eq_ok_iff hopens (fun tools h => absurd h (hnone tools))
    · refine iff_of_true (.inr ⟨hconnected, htools⟩) ?_
      rintro ⟨-, tools, hoffers, -⟩
      exact hnone tools hoffers
    · refine iff_of_false (by rw [hconnected]; nofun) ?_
      rintro ⟨-, tools, hoffers, -⟩
      exact hnone tools hoffers
  | listed hopens hoffers hdescribed hends =>
    obtain ⟨hresult, hconnected, htools⟩ := hends
    refine ⟨?_, ?_, ?_, ?_⟩
    · refine iff_of_true hresult ?_
      rintro ⟨-, hback, -⟩
      exact hoffers.not_undescribed hdescribed hoffers (hback _ hoffers)
    · intro fault hfault
      rw [hresult] at hfault
      cases hfault
    · refine iff_of_true (.inl ⟨hconnected, by rwa [htools]⟩) ?_
      rintro ⟨-, others, hothers, hundescribed⟩
      exact hoffers.not_undescribed hdescribed hothers hundescribed
    · exact iff_of_true hconnected ⟨hopens, _, hoffers, hdescribed⟩
  | undescribed hopens hoffers hmeets hends =>
    obtain ⟨hresult, hconnected, htools⟩ := hends
    refine ⟨?_, fun _ _ => hconnected, ?_, ?_⟩
    · rw [hresult]
      exact exit_eq_ok_iff hopens (fun others hothers => by rwa [hoffers.unique hothers])
    · -- One tool at least stays listed, the one that cannot be summed up.
      refine iff_of_false ?_ (fun h => h ⟨hopens, _, hoffers, hmeets⟩)
      rintro (⟨h, -⟩ | ⟨-, h⟩)
      · rw [hconnected] at h
        cases h
      · obtain ⟨tool, hm, -⟩ := hmeets
        rw [← htools, h] at hm
        exact List.not_mem_nil hm
    · refine iff_of_false (by rw [hconnected]; nofun) ?_
      rintro ⟨-, others, hothers, hdescribed⟩
      exact hothers.not_undescribed hdescribed hoffers hmeets

/-! ## Two starts -/

/-- A service that is given a tool server, whose listings and exits come as in these scripts. -/
def ofServer (tools : List Json) (listings : Script Json) (exits : Script Unit) : App :=
  make ⟨"127.0.0.1", 8000, "http://localhost:11434", "m", some "http://127.0.0.1:8080/mcp", none, 8,
    [], "INFO"⟩ ⟨[], [], [], false⟩ ⟨.array tools, [], listings, [], exits, 0, []⟩

/-- A tool whose description is a number. -/
def numbered : Json := .object [("name", .string "t"), ("description", .int 5)]

/-- A start that fails since a connection fails to close, and one that leaves a tool without a
connection. -/
theorem start_inconsistent :
    (start (ofServer [] [.error (.raised "ConnectionError" "refused")]
      [.error (.raised "RuntimeError" "closed")])).1 = .error (.raised "RuntimeError" "closed") ∧
    (start (ofServer [numbered] [] [])).1 = .ok () ∧
    (start (ofServer [numbered] [] [])).2.bridge.isConnected = false ∧
    (start (ofServer [numbered] [] [])).2.tools.length = 1 :=
  ⟨rfl, rfl, rfl, rfl⟩

end App

end ToolSchema
