import ToolSchema.Proofs.NestedResolution
import ToolSchema.Proofs.Trace

/-!
# Pointers in flight as a state

The definitions pass the pointers in flight as an argument. A program may hold them in one set for
the whole of a conversion instead: it puts what it follows into the set and takes it out again when
it is done below, also where it is stopped there. `Stateful` is such a program; it stops at a value
that no schema can hold, and where calls are nested too deeply.

* `Stateful.Keeps` — a program that leaves the set as it was, whether or not it comes to its end
* `Stateful.Performs` — a program that does what a trace says
* `Json.keeps_resolveStateful`, `Json.performs_resolveStateful` — both for the resolution
-/

namespace ToolSchema

/-- What a program holds: the pointers in flight, and what it has reported. -/
structure Flight where
  inFlight : List String
  log : List Notice
  deriving DecidableEq, Repr

/-- Why a program stops before its end. -/
inductive Halt where
  | fault (fault : Fault)
  /-- Too many calls are nested. -/
  | tooDeep
  deriving Repr

abbrev Stateful := ExceptT Halt (StateM Flight)

namespace Stateful

variable {α β : Type}

def report (notice : Notice) : Stateful Unit :=
  modify (fun flight => { flight with log := flight.log ++ [notice] })

/-- Reports a notice, and stops at a value that no schema can hold. -/
def record : Mark → Stateful Unit
  | .notice notice => report notice
  | .unsupported typeName => throw (.fault (.unsupportedValue typeName))

/-- Records what a trace holds, up to where it stops. -/
def perform (traced : Traced α) : Stateful α := do
  traced.trace.forM record
  return traced.value

/-- Runs `body` with more pointers in flight, and takes them out when it ends or stops. -/
def during (pointers : List String) (body : Stateful α) : Stateful α := do
  modify (fun flight => { flight with inFlight := pointers ++ flight.inFlight })
  try body
  finally
    modify (fun flight =>
      { flight with inFlight := flight.inFlight.filter (fun pointer => pointer ∉ pointers) })

/-- Follows the chain of references from a node, for as long as `body` runs at its end. -/
def dereferenced (root node : Json) (body : Json → Stateful α) : Stateful α := do
  let chain := Json.dereference root (← get).inFlight node
  chain.notice.toList.forM report
  during chain.followed (body chain.node)

/-! ## Steps -/

theorem bind_eq (first : Stateful α) (next : α → Stateful β) (flight : Flight) :
    (first >>= next) flight =
      match first flight with
      | (.ok a, after) => next a after
      | (.error halt, after) => (.error halt, after) := by
  simp only [bind, ExceptT.bind, ExceptT.mk, StateT.bind]
  rcases first flight with ⟨_ | _, after⟩ <;> rfl

/-- What is taken out at the end is taken out of what the body leaves. -/
theorem during_eq (pointers : List String) (body : Stateful α) (flight : Flight) :
    during pointers body flight =
      match body { flight with inFlight := pointers ++ flight.inFlight } with
      | (result, after) =>
        (result, { after with
          inFlight := after.inFlight.filter (fun pointer => pointer ∉ pointers) }) := by
  rw [during, bind_eq]
  show tryFinally body (modify (fun after => { after with
    inFlight := after.inFlight.filter (fun pointer => pointer ∉ pointers) }) : Stateful PUnit)
      { flight with inFlight := pointers ++ flight.inFlight } = _
  simp only [tryFinally, tryFinally', Functor.map, ExceptT.map, ExceptT.mk, bind, StateT.bind]
  rcases body { flight with inFlight := pointers ++ flight.inFlight } with ⟨_ | _, after⟩ <;> rfl

/-- A chain is followed from what is in flight, and what it reports is reported before the body. -/
theorem dereferenced_eq (root node : Json) (body : Json → Stateful α) (flight : Flight) :
    dereferenced root node body flight =
      during (Json.dereference root flight.inFlight node).followed
        (body (Json.dereference root flight.inFlight node).node)
        { flight with
          log := flight.log ++ (Json.dereference root flight.inFlight node).notice.toList } := by
  rw [dereferenced, bind_eq]
  show ((Json.dereference root flight.inFlight node).notice.toList.forM report >>= fun _ =>
    during (Json.dereference root flight.inFlight node).followed
      (body (Json.dereference root flight.inFlight node).node)) flight = _
  cases (Json.dereference root flight.inFlight node).notice with
  | none =>
    rw [bind_eq, Option.toList_none, List.append_nil]
    rfl
  | some notice =>
    rw [bind_eq]
    rfl

/-! ## What is in flight afterwards -/

/-- The same pointers are in flight afterwards, also if the program stops. -/
def Keeps (program : Stateful α) : Prop :=
  ∀ flight, (program flight).2.inFlight = flight.inFlight

theorem keeps_pure (a : α) : Keeps (pure a) := fun _ => rfl

theorem keeps_throw (halt : Halt) : Keeps (throw halt : Stateful α) := fun _ => rfl

theorem Keeps.bind {first : Stateful α} {next : α → Stateful β} (h : Keeps first)
    (hnext : ∀ a, Keeps (next a)) : Keeps (first >>= next) := by
  intro flight
  have hfirst := h flight
  rw [bind_eq]
  cases hf : first flight with
  | mk result after =>
    rw [hf] at hfirst
    cases result with
    | error halt => exact hfirst
    | ok a => exact (hnext a after).trans hfirst

theorem Keeps.mapM {f : β → Stateful α} {items : List β} (h : ∀ item ∈ items, Keeps (f item)) :
    Keeps (items.mapM f) := by
  induction items with
  | nil => exact keeps_pure []
  | cons item rest ih =>
    rw [List.forall_mem_cons] at h
    rw [List.mapM_cons]
    exact h.1.bind (fun _ => (ih h.2).bind (fun _ => keeps_pure _))

theorem keeps_record : (mark : Mark) → Keeps (record mark)
  | .notice _ => fun _ => rfl
  | .unsupported _ => keeps_throw _

theorem keeps_perform (traced : Traced α) : Keeps (perform traced) := by
  have htrace : ∀ marks : List Mark, Keeps (marks.forM record) := by
    intro marks
    induction marks with
    | nil => exact keeps_pure ()
    | cons mark rest ih => exact (keeps_record mark).bind (fun _ => ih)
  exact (htrace traced.trace).bind (fun _ => keeps_pure _)

/-- Pointers that were not in flight can be put there and taken out again. -/
theorem filter_not_mem {pointers inFlight : List String}
    (hnew : ∀ pointer ∈ pointers, pointer ∉ inFlight) :
    (pointers ++ inFlight).filter (fun pointer => pointer ∉ pointers) = inFlight := by
  have hout : pointers.filter (fun pointer => pointer ∉ pointers) = [] := by simp
  have hkept : inFlight.filter (fun pointer => pointer ∉ pointers) = inFlight := by
    rw [List.filter_eq_self]
    intro pointer hp
    rw [decide_eq_true_eq]
    exact fun hm => hnew pointer hm hp
  rw [List.filter_append, hout, hkept, List.nil_append]

theorem inFlight_during {pointers : List String} {body : Stateful α} (h : Keeps body)
    {flight : Flight} (hnew : ∀ pointer ∈ pointers, pointer ∉ flight.inFlight) :
    (during pointers body flight).2.inFlight = flight.inFlight := by
  have hbody := h { flight with inFlight := pointers ++ flight.inFlight }
  rw [during_eq]
  show List.filter _ (body { flight with inFlight := pointers ++ flight.inFlight }).2.inFlight = _
  rw [hbody]
  exact filter_not_mem hnew

/-- A chain follows no pointer that is in flight, so that the set is restored behind it. -/
theorem keeps_dereferenced (root node : Json) {body : Json → Stateful α}
    (h : ∀ found, Keeps (body found)) : Keeps (dereferenced root node body) := by
  intro flight
  obtain ⟨_, hfollowed⟩ := Json.followed_dereference root flight.inFlight node
  rw [dereferenced_eq]
  exact inFlight_during (h _) (fun pointer hp => (hfollowed pointer hp).2.1)

/-! ## Doing what a trace says -/

/-- With these pointers in flight, the program does what the trace says. -/
def Performs (program : Stateful α) (inFlight : List String) (traced : Traced α) : Prop :=
  ∀ log, program ⟨inFlight, log⟩ = perform traced ⟨inFlight, log⟩

variable {inFlight : List String}

theorem performs_pure (a : α) : Performs (pure a) inFlight ⟨a, []⟩ := fun _ => rfl

theorem performs_perform (traced : Traced α) : Performs (perform traced) inFlight traced :=
  fun _ => rfl

theorem Performs.bind {first : Stateful α} {next : α → Stateful β} {traced : Traced α} {b : β}
    {back : List Mark} (h : Performs first inFlight traced)
    (hnext : Performs (next traced.value) inFlight ⟨b, back⟩) :
    Performs (first >>= next) inFlight ⟨b, traced.trace ++ back⟩ := by
  obtain ⟨a, trace⟩ := traced
  replace hnext : Performs (next a) inFlight ⟨b, back⟩ := hnext
  intro log
  rw [bind_eq, h log]
  clear h
  induction trace generalizing log with
  | nil => exact hnext log
  | cons mark rest ih =>
    cases mark with
    | notice notice => exact ih (log ++ [notice])
    | unsupported typeName => rfl

theorem Performs.map {program : Stateful α} {traced : Traced α}
    (h : Performs program inFlight traced) (f : α → β) :
    Performs (do return f (← program)) inFlight (traced.map f) := by
  have hmap : Performs (program >>= fun a => pure (f a)) inFlight
      ⟨f traced.value, traced.trace ++ []⟩ := h.bind (performs_pure (f traced.value))
  rwa [List.append_nil] at hmap

/-- Results that are there one by one are there one after another. -/
theorem Performs.mapM {γ : Type} (f : β → Stateful α) {call : β → Option γ}
    (trace : γ → Traced α) {items : List β}
    (h : ∀ item ∈ items, ∀ result, call item = some result →
      Performs (f item) inFlight (trace result))
    {results : List γ} (hc : items.mapM call = some results) :
    Performs (items.mapM f) inFlight (Traced.sequence (results.map trace)) := by
  induction items generalizing results with
  | nil =>
    cases hc
    exact performs_pure []
  | cons item rest ih =>
    rw [List.forall_mem_cons] at h
    rw [List.mapM_cons] at hc ⊢
    obtain ⟨first, hfirst, hc⟩ := Option.bind_eq_some_iff.mp hc
    obtain ⟨others, hothers, hc⟩ := Option.bind_eq_some_iff.mp hc
    cases hc
    exact (h.1 first hfirst).bind ((ih h.2 hothers).map ((trace first).value :: ·))

/-- What a trace says does not depend on what is in flight, and does not change it. -/
theorem perform_inFlight (traced : Traced α) (inFlight other : List String) (log : List Notice) :
    perform traced ⟨inFlight, log⟩ =
      ((perform traced ⟨other, log⟩).1, ⟨inFlight, (perform traced ⟨other, log⟩).2.log⟩) := by
  obtain ⟨a, trace⟩ := traced
  induction trace generalizing log with
  | nil => rfl
  | cons mark rest ih =>
    cases mark with
    | notice notice => exact ih (log ++ [notice])
    | unsupported typeName => rfl

theorem Performs.during {pointers : List String} {body : Stateful α} {traced : Traced α}
    (h : Performs body (pointers ++ inFlight) traced)
    (hnew : ∀ pointer ∈ pointers, pointer ∉ inFlight) :
    Performs (during pointers body) inFlight traced := by
  intro log
  rw [during_eq]
  show (match body ⟨pointers ++ inFlight, log⟩ with | (result, after) => _) = _
  rw [h log, perform_inFlight traced (pointers ++ inFlight) inFlight,
    perform_inFlight traced inFlight inFlight]
  simp only [filter_not_mem hnew]

theorem Performs.dereferenced {root node : Json} {body : Json → Stateful α} {traced : Traced α}
    (h : Performs (body (Json.dereference root inFlight node).node)
      ((Json.dereference root inFlight node).followed ++ inFlight) traced) :
    Performs (dereferenced root node body) inFlight
      (traced.after (Json.dereference root inFlight node).notice) := by
  intro log
  obtain ⟨_, hfollowed⟩ := Json.followed_dereference root inFlight node
  rw [dereferenced_eq]
  have hduring := h.during (fun pointer hp => (hfollowed pointer hp).2.1)
  cases hn : (Json.dereference root inFlight node).notice with
  | none =>
    rw [Option.toList_none, List.append_nil]
    exact hduring log
  | some notice => exact hduring (log ++ [notice])

end Stateful

/-! ## Resolution -/

/-- What a resolution reports, as a trace. -/
def Resolved.traced {α : Type} (resolved : Resolved α) : Traced α :=
  ⟨resolved.value, resolved.notices.map .notice⟩

namespace Json

open Stateful

/-- One call of a resolution, with `call` for the calls that it makes. -/
def resolveStep (call : Json → Stateful Json) (root value : Json) : Stateful Json :=
  match value with
  | .object members =>
    match Members.reference? members with
    | none => do
      let below ← members.mapM (fun member => do return (member.1, ← call member.2))
      return .object below
    | some pointer => do
      match target root (← get).inFlight members pointer with
      | .error notice =>
        report notice
        return .object members
      | .ok found => during [pointer] (call found)
  | .array items => do return .array (← items.mapM call)
  | value => pure value

/-- Resolution with at most `limit` nested calls. -/
def resolveStateful (root : Json) : (limit : Nat) → (value : Json) → Stateful Json
  | 0, _ => throw .tooDeep
  | limit + 1, value => resolveStep (resolveStateful root limit) root value

variable {root : Json}

/-- **A resolution leaves the pointers in flight as they were**, however deep it may go. -/
theorem keeps_resolveStateful (root : Json) : (limit : Nat) → (value : Json) →
    Keeps (resolveStateful root limit value)
  | 0, _ => keeps_throw .tooDeep
  | limit + 1, value => by
    have hcall := keeps_resolveStateful root limit
    rw [resolveStateful]
    cases value with
    | object members =>
      rw [resolveStep]
      split
      · exact (Keeps.mapM (fun member _ => (hcall member.2).bind (fun _ => keeps_pure _))).bind
          (fun _ => keeps_pure _)
      · next pointer hr =>
        intro flight
        rw [bind_eq]
        show ((match target root flight.inFlight members pointer with
          | .error notice => _
          | .ok found => _ : Stateful Json) flight).2.inFlight = flight.inFlight
        cases ht : target root flight.inFlight members pointer with
        | error notice => rfl
        | ok found =>
          refine inFlight_during (hcall found) (fun other ho => ?_)
          rw [List.mem_singleton.mp ho]
          exact not_mem_inFlight_of_target ht
    | array items => exact (Keeps.mapM (fun item _ => hcall item)).bind (fun _ => keeps_pure _)
    | _ => exact keeps_pure _

/-- **A resolution that is deep enough does what the definition says.** -/
theorem performs_resolveStateful (root : Json) : (limit : Nat) → {inFlight : List String} →
    {value : Json} → {resolved : Resolved Json} →
    resolveWithin root limit inFlight value = some resolved →
      Performs (resolveStateful root limit value) inFlight resolved.traced
  | 0, _, _, _, h => by cases h
  | limit + 1, inFlight, value, resolved, h => by
    have hcall : ∀ {inFlight value resolved}, resolveWithin root limit inFlight value =
        some resolved → Performs (resolveStateful root limit value) inFlight resolved.traced :=
      performs_resolveStateful root limit
    rw [resolveWithin] at h
    rw [resolveStateful]
    cases value with
    | object members =>
      rw [resolveVia] at h
      rw [resolveStep]
      cases hr : Members.reference? members with
      | none =>
        rw [hr] at h
        obtain ⟨below, hbelow, h⟩ := Option.bind_eq_some_iff.mp h
        cases h
        have hmember : ∀ member ∈ members, ∀ result : String × Resolved Json,
            (resolveWithin root limit inFlight member.2).map (fun found => (member.1, found)) =
              some result →
            Performs (do return (member.1, ← resolveStateful root limit member.2)) inFlight
              (result.2.traced.map (fun value => (result.1, value))) := by
          intro member _ result hm
          obtain ⟨found, hf, rfl⟩ := Option.map_eq_some_iff.mp hm
          exact (hcall hf).map (fun value => (member.1, value))
        have hobject := (Performs.mapM _ _ hmember hbelow).map Json.object
        simp only [Traced.sequence, Traced.map, Resolved.traced, List.map_map, List.flatMap_map]
          at hobject
        rw [Resolved.traced, List.map_flatMap]
        exact hobject
      | some pointer =>
        rw [hr] at h
        intro log
        show (match target root inFlight members pointer with
          | .error notice => _
          | .ok found => _ : Stateful Json) ⟨inFlight, log⟩ = _
        cases ht : target root inFlight members pointer with
        | error notice =>
          simp only [ht] at h
          cases h
          rfl
        | ok found =>
          simp only [ht] at h
          refine (hcall h).during (fun other ho => ?_) log
          rw [List.mem_singleton.mp ho]
          exact not_mem_inFlight_of_target ht
    | array items =>
      obtain ⟨below, hbelow, h⟩ := Option.bind_eq_some_iff.mp h
      cases h
      have hitem : ∀ item ∈ items, ∀ result, resolveWithin root limit inFlight item = some result →
          Performs (resolveStateful root limit item) inFlight result.traced :=
        fun item _ result hm => hcall hm
      have harray := (Performs.mapM _ _ hitem hbelow).map Json.array
      simp only [Traced.sequence, Traced.map, Resolved.traced, List.map_map, List.flatMap_map]
        at harray
      rw [Resolved.traced, List.map_flatMap]
      exact harray
    | _ =>
      cases h
      exact performs_pure _

end Json

end ToolSchema
