import Pyronova.Execution
import Pyronova.Rotation

/-!
# One accept loop's listeners

The listeners of a group are polled in rotation for one stream of connections.  An accept error is
logged and backed off inside the call; a call may be dropped while it waits, and the next one
continues from where the rotation stands.
-/

namespace Pyronova

/-- What the accept loop reads of an I/O error. -/
structure IoError where
  rawOsError : Option Int
  text : String

/-- A bound socket of a group, with the address it is bound to. -/
structure Listener (Socket Addr Acceptor : Type*) where
  socket : Socket
  addr : Addr
  tls : Option Acceptor

structure ListenerError (Addr : Type*) where
  step : String
  addr : Addr
  source : IoError

/-- A connection one of a group's listeners accepted. -/
structure Accepted (Stream Addr Acceptor : Type*) where
  stream : Stream
  remote : Addr
  tls : Option Acceptor

/-- A group's registered sockets, and where the next poll starts. -/
structure AcceptSource (Socket Acceptor : Type*) where
  listeners : List (Socket × Option Acceptor)
  next : Nat

/-- `EMFILE`, `ENFILE`, `ENOBUFS` and `ENOMEM` of Linux. -/
def isExhaustionCode (code : Int) : Bool :=
  code == 24 || code == 23 || code == 105 || code == 12

def isResourceExhaustion (error : IoError) : Bool := error.rawOsError.any isExhaustionCode

/-- Milliseconds after an accept that failed for lack of fds, sockets or kernel memory. -/
def exhaustionBackoff : Nat := 250

/-- Milliseconds after an accept that failed for one connection's reason. -/
def transientBackoff : Nat := 10

/-- How long an accept error is backed off. -/
def handleAcceptError (error : IoError) : Nat :=
  if isResourceExhaustion error then exhaustionBackoff else transientBackoff

namespace AcceptSource

section Building

variable {Std Socket Addr Acceptor : Type*}

/-- One socket registered with the current runtime. -/
def register (fromStd : Std → Except IoError Socket) (listener : Listener Std Addr Acceptor) :
    Except (ListenerError Addr) (Socket × Option Acceptor) :=
  match fromStd listener.socket with
  | .error source => .error ⟨"register with the runtime", listener.addr, source⟩
  | .ok socket => .ok (socket, listener.tls)

/-- The group's sockets registered in order, up to the first that fails. -/
def new (fromStd : Std → Except IoError Socket) (group : List (Listener Std Addr Acceptor)) :
    Except (ListenerError Addr) (AcceptSource Socket Acceptor) :=
  (group.mapM (register fromStd)).map fun listeners => ⟨listeners, 0⟩

theorem tls_of_register {fromStd : Std → Except IoError Socket}
    {listener : Listener Std Addr Acceptor} {socket : Socket} {tls : Option Acceptor}
    (registered : register fromStd listener = .ok (socket, tls)) : tls = listener.tls := by
  unfold register at registered
  cases opened : fromStd listener.socket with
  | error source => simp [opened] at registered
  | ok found =>
      rw [opened] at registered
      exact (Prod.mk.inj (Except.ok.inj registered)).2.symm

theorem map_tls_of_mapM {fromStd : Std → Except IoError Socket} :
    ∀ {group : List (Listener Std Addr Acceptor)} {listeners : List (Socket × Option Acceptor)},
      group.mapM (register fromStd) = .ok listeners →
        listeners.map Prod.snd = group.map Listener.tls
  | [], listeners, registered => by
      obtain rfl := Except.ok.inj registered
      rfl
  | listener :: group, listeners, registered => by
      rw [List.mapM_cons] at registered
      cases first : register fromStd listener with
      | error source => simp [first, bind, Except.bind] at registered
      | ok pair =>
          cases others : group.mapM (register fromStd) with
          | error source => simp [first, others, bind, Except.bind] at registered
          | ok rest =>
              simp only [first, others, bind, Except.bind, pure, Except.pure] at registered
              obtain rfl := Except.ok.inj registered
              rw [List.map_cons, List.map_cons, map_tls_of_mapM others, tls_of_register first]

/-- A source starts its rotation at the first of the group's listeners. -/
theorem new_eq_ok {fromStd : Std → Except IoError Socket}
    {group : List (Listener Std Addr Acceptor)} {source : AcceptSource Socket Acceptor}
    (built : new fromStd group = .ok source) :
    source.next = 0 ∧ source.listeners.map Prod.snd = group.map Listener.tls := by
  unfold new at built
  cases registered : group.mapM (register fromStd) with
  | error error => simp [registered, Except.map] at built
  | ok listeners =>
      rw [registered] at built
      obtain rfl := Except.ok.inj built
      exact ⟨rfl, map_tls_of_mapM registered⟩

end Building

variable {Socket Stream Addr Acceptor : Type*}

/-- What `accept` on one socket gives. -/
abbrev Outcome (Stream Addr : Type*) := Except IoError (Stream × Addr)

/-- One poll of every listener from `next` on, up to the first that is ready. -/
def poll (source : AcceptSource Socket Acceptor) (ready : Nat → Option (Outcome Stream Addr)) :
    Option (Outcome Stream Addr × Nat) :=
  Rotation.round source.listeners.length source.next ready

/-- The rotation begins behind the listener that answered. -/
def advance (source : AcceptSource Socket Acceptor) (index : Nat) : AcceptSource Socket Acceptor :=
  { source with next := Rotation.after source.listeners.length index }

/-- Where a call of `accept` stands. -/
inductive Phase
  | idle
  | polling
  | backingOff (millis : Nat)

/-- A source between two events, with the results it took and the connections it returned, each
with the listener it came from. -/
structure State (Socket Stream Addr Acceptor : Type*) where
  source : AcceptSource Socket Acceptor
  phase : Phase
  taken : List (Outcome Stream Addr × Nat)
  returned : List (Accepted Stream Addr Acceptor × Nat)

/-- What happens to a source: a call, a poll that finds its listeners ready or not, the end of a
pause, and a call dropped while it waits. -/
inductive Event (Stream Addr : Type*)
  | call
  | poll (ready : Nat → Option (Outcome Stream Addr))
  | elapsed
  | drop

/-- One result taken from the listener at `index`: a connection ends the call, an error pauses
it.  `configure` sets the stream's `TCP_NODELAY` and `TCP_QUICKACK`. -/
def take (configure : Stream → Stream) (state : State Socket Stream Addr Acceptor)
    (index : Fin state.source.listeners.length) (result : Outcome Stream Addr) :
    State Socket Stream Addr Acceptor :=
  match result with
  | .ok (stream, remote) =>
      { source := state.source.advance index
        phase := .idle
        taken := state.taken ++ [(result, index.val)]
        returned := state.returned ++
          [(⟨configure stream, remote, (state.source.listeners.get index).2⟩, index.val)] }
  | .error error =>
      { source := state.source.advance index
        phase := .backingOff (handleAcceptError error)
        taken := state.taken ++ [(result, index.val)]
        returned := state.returned }

/-- One event on a source; only a waiting call polls, wakes or is dropped. -/
def step (configure : Stream → Stream) (state : State Socket Stream Addr Acceptor) :
    Event Stream Addr → Option (State Socket Stream Addr Acceptor)
  | .call =>
      match state.phase with
      | .idle => some { state with phase := .polling }
      | _ => none
  | .poll ready =>
      match state.phase with
      | .polling =>
          match found : state.source.poll ready with
          | none => some state
          | some (result, index) =>
              some (take configure state ⟨index, Rotation.round_place_lt found⟩ result)
      | _ => none
  | .elapsed =>
      match state.phase with
      | .backingOff _ => some { state with phase := .polling }
      | _ => none
  | .drop =>
      match state.phase with
      | .idle => none
      | _ => some { state with phase := .idle }

/-- A source that has not been called yet. -/
def machine (configure : Stream → Stream) (source : AcceptSource Socket Acceptor) :
    Machine (State Socket Stream Addr Acceptor) (Event Stream Addr) where
  init := { source, phase := .idle, taken := [], returned := [] }
  step := step configure

variable {configure : Stream → Stream} {before after : State Socket Stream Addr Acceptor}

theorem take_spec (configure : Stream → Stream)
    (index : Fin before.source.listeners.length) (result : Outcome Stream Addr) :
    (take configure before index result).source = before.source.advance index ∧
      (take configure before index result).taken = before.taken ++ [(result, index.val)] ∧
      ((take configure before index result).returned = before.returned ∨
        ∃ stream remote, result = .ok (stream, remote) ∧
          (take configure before index result).returned = before.returned ++
            [(⟨configure stream, remote, (before.source.listeners.get index).2⟩,
              index.val)]) := by
  cases result with
  | error error => exact ⟨rfl, rfl, .inl rfl⟩
  | ok pair => exact ⟨rfl, rfl, .inr ⟨pair.1, pair.2, rfl, rfl⟩⟩

/-- Everything an event does: a poll that finds a ready listener takes its result, any other event
leaves the rotation and what was taken. -/
theorem step_cases {event : Event Stream Addr}
    (stepped : step configure before event = some after) :
    (∃ ready result, ∃ index : Fin before.source.listeners.length, event = .poll ready ∧
      before.source.poll ready = some (result, index.val) ∧
      after = take configure before index result) ∨
    ((∀ ready, event = .poll ready → before.source.poll ready = none) ∧
      after.source = before.source ∧ after.taken = before.taken ∧
      after.returned = before.returned) := by
  cases event with
  | call =>
      right
      simp only [step] at stepped
      split at stepped
      · obtain rfl := Option.some.inj stepped
        exact ⟨fun _ same => (by cases same), rfl, rfl, rfl⟩
      · cases stepped
  | poll ready =>
      simp only [step] at stepped
      split at stepped
      · split at stepped
        · obtain rfl := Option.some.inj stepped
          right
          refine ⟨?_, rfl, rfl, rfl⟩
          rintro _ ⟨⟩
          assumption
        · obtain rfl := Option.some.inj stepped
          exact .inl ⟨ready, _, _, rfl, ‹_›, rfl⟩
      · cases stepped
  | elapsed =>
      right
      simp only [step] at stepped
      split at stepped
      · obtain rfl := Option.some.inj stepped
        exact ⟨fun _ same => (by cases same), rfl, rfl, rfl⟩
      · cases stepped
  | drop =>
      right
      simp only [step] at stepped
      split at stepped
      · cases stepped
      · obtain rfl := Option.some.inj stepped
        exact ⟨fun _ same => (by cases same), rfl, rfl, rfl⟩

/-- The listeners and the record of a source with at least one listener. -/
structure Invariant (source : AcceptSource Socket Acceptor) (configure : Stream → Stream)
    (state : State Socket Stream Addr Acceptor) : Prop where
  listeners : state.source.listeners = source.listeners
  next_lt : state.source.next < source.listeners.length
  returned : ∀ accepted index, (accepted, index) ∈ state.returned →
    (source.listeners[index]?).map Prod.snd = some accepted.tls ∧
      ∃ stream, accepted.stream = configure stream ∧
        (Except.ok (stream, accepted.remote), index) ∈ state.taken

theorem Invariant.step {source : AcceptSource Socket Acceptor}
    (invariant : Invariant source configure before) {event : Event Stream Addr}
    (stepped : step configure before event = some after) : Invariant source configure after := by
  rcases step_cases stepped with ⟨ready, result, index, -, -, rfl⟩ | ⟨-, sources, taken, returned⟩
  · obtain ⟨advanced, recorded, carried⟩ := take_spec configure index result
    refine ⟨?_, ?_, ?_⟩
    · rw [advanced]
      exact invariant.listeners
    · rw [advanced, ← invariant.listeners]
      exact Rotation.after_lt index.isLt
    · intro accepted place member
      rw [recorded]
      rcases carried with same | ⟨stream, remote, rfl, extended⟩
      · rw [same] at member
        obtain ⟨tls, stream, configured, arrived⟩ := invariant.returned accepted place member
        exact ⟨tls, stream, configured, List.mem_append_left _ arrived⟩
      · rw [extended, List.mem_append, List.mem_singleton] at member
        rcases member with member | member
        · obtain ⟨tls, stream, configured, arrived⟩ := invariant.returned accepted place member
          exact ⟨tls, stream, configured, List.mem_append_left _ arrived⟩
        · obtain ⟨rfl, rfl⟩ := Prod.mk.inj member
          refine ⟨?_, stream, rfl, List.mem_append_right _ (List.mem_singleton.mpr rfl)⟩
          rw [← invariant.listeners, List.getElem?_eq_getElem index.isLt]
          rfl
  · refine ⟨sources ▸ invariant.listeners, sources ▸ invariant.next_lt, ?_⟩
    rw [returned, taken]
    exact invariant.returned

theorem Invariant.runFrom {source : AcceptSource Socket Acceptor}
    {events : List (Event Stream Addr)} (invariant : Invariant source configure before)
    (execution : (machine configure source).runFrom before events = some after) :
    Invariant source configure after := by
  induction events generalizing before with
  | nil =>
      obtain rfl := Option.some.inj execution
      exact invariant
  | cons event events induction =>
      obtain ⟨middle, stepped, later⟩ := Option.bind_eq_some_iff.mp execution
      exact induction (invariant.step stepped) later

theorem Invariant.initial {source : AcceptSource Socket Acceptor}
    (start : source.next < source.listeners.length) :
    Invariant source configure
      (machine configure source : Machine (State Socket Stream Addr Acceptor) _).init :=
  ⟨rfl, start, fun _ _ member => by cases member⟩

/-- The polls a schedule makes, each with what it finds ready. -/
def polls (events : List (Event Stream Addr)) : List (Nat → Option (Outcome Stream Addr)) :=
  events.filterMap fun event =>
    match event with
    | .poll ready => some ready
    | _ => none

@[simp] theorem polls_poll (ready : Nat → Option (Outcome Stream Addr))
    (events : List (Event Stream Addr)) : polls (.poll ready :: events) = ready :: polls events :=
  rfl

/-- The polls of a run go around in rotation. -/
theorem rounds_of_runFrom {source : AcceptSource Socket Acceptor}
    {events : List (Event Stream Addr)}
    (execution : (machine configure source).runFrom before events = some after) :
    ∃ fresh, after.taken = before.taken ++ fresh ∧
      Rotation.Rounds before.source.listeners.length before.source.next (polls events) fresh
        after.source.next := by
  induction events generalizing before with
  | nil =>
      obtain rfl := Option.some.inj execution
      exact ⟨[], (List.append_nil _).symm, .nil _⟩
  | cons event events induction =>
      obtain ⟨middle, stepped, later⟩ := Option.bind_eq_some_iff.mp execution
      obtain ⟨fresh, taken, rounds⟩ := induction later
      rcases step_cases stepped with
        ⟨ready, result, index, rfl, found, rfl⟩ | ⟨quiet, sources, same, -⟩
      · obtain ⟨advanced, recorded, -⟩ := take_spec configure index result
        rw [advanced] at rounds
        refine ⟨(result, index.val) :: fresh, ?_, .answered found rounds⟩
        rw [taken, recorded, List.append_assoc]
        rfl
      · rw [sources] at rounds
        refine ⟨fresh, taken.trans (by rw [same]), ?_⟩
        cases event with
        | poll ready => exact .quiet (quiet ready rfl) rounds
        | call => exact rounds
        | elapsed => exact rounds
        | drop => exact rounds

/-- Whatever the listeners of a group answer and whenever a call is dropped, a listener that stays
ready is passed over fewer times than there are listeners, the rotation stays among them, and a
connection carries the acceptor of the listener it was taken from. -/
theorem accept_fair {Std : Type*} {fromStd : Std → Except IoError Socket}
    {group : List (Listener Std Addr Acceptor)} {source : AcceptSource Socket Acceptor}
    (built : new fromStd group = .ok source) (nonempty : group ≠ [])
    (configure : Stream → Stream) (past : List (Event Stream Addr))
    (before : State Socket Stream Addr Acceptor)
    (reached : (machine configure source).run past = some before) :
    before.source.next < group.length ∧
      (∀ accepted index, (accepted, index) ∈ before.returned →
        (group[index]?).map Listener.tls = some accepted.tls ∧
          ∃ ready ∈ polls past, ∃ stream, accepted.stream = configure stream ∧
            ready index = some (.ok (stream, accepted.remote))) ∧
      ∀ (events : List (Event Stream Addr)) (after : State Socket Stream Addr Acceptor),
        (machine configure source).runFrom before events = some after →
          ∀ place < group.length,
            (∀ ready ∈ polls events, (ready place).isSome = true) →
              ∃ fresh, after.taken = before.taken ++ fresh ∧
                List.Forall₂ (fun ready result => ready result.2 = some result.1)
                  (polls events) fresh ∧
                ∀ others, others <:+: fresh → (∀ result ∈ others, result.2 ≠ place) →
                  others.length ≤ group.length - 1 := by
  obtain ⟨begins, acceptors⟩ := new_eq_ok built
  have size : source.listeners.length = group.length := by
    have lengths := congrArg List.length acceptors
    rwa [List.length_map, List.length_map] at lengths
  have start : source.next < source.listeners.length := by
    rw [begins, size]
    exact List.length_pos_iff.mpr nonempty
  have initially : Invariant source configure
      (machine configure source : Machine (State Socket Stream Addr Acceptor) _).init :=
    .initial start
  have invariant := initially.runFrom reached
  refine ⟨size ▸ invariant.next_lt, ?_, ?_⟩
  · intro accepted index member
    obtain ⟨tls, stream, configured, arrived⟩ := invariant.returned accepted index member
    have same : (group[index]?).map Listener.tls = some accepted.tls := by
      rw [← List.getElem?_map, ← acceptors, List.getElem?_map]
      exact tls
    obtain ⟨taken, recorded, rounds⟩ := rounds_of_runFrom reached
    rw [recorded] at arrived
    obtain ⟨ready, polled, answered⟩ := rounds.exists_of_mem arrived
    exact ⟨same, ready, polled, stream, configured, answered⟩
  · intro events after execution place inside stays
    obtain ⟨fresh, taken, rounds⟩ := rounds_of_runFrom execution
    rw [invariant.listeners] at rounds
    have within : place < source.listeners.length := size ▸ inside
    refine ⟨fresh, taken, rounds.forall₂_of_ready invariant.next_lt within stays, ?_⟩
    intro others window passed
    have bounded := rounds.length_lt_of_infix invariant.next_lt within stays window passed
    omega

/-- A plain listener and a TLS one: a connection is taken from the second, then both stay ready. -/
theorem accept_fair_two :
    ∃ before after : State Nat Nat Nat String,
      before.source.next < 2 ∧ before.returned = [(⟨5, 9, some "tls"⟩, 1)] ∧
        ∃ fresh, after.taken = before.taken ++ fresh ∧
          fresh.map (fun result => result.2) = [0, 1, 0] ∧
            ∀ others, others <:+: fresh → (∀ result ∈ others, result.2 ≠ 0) →
              others.length ≤ 1 := by
  have reached : (machine id ⟨[(0, none), (1, some "tls")], 0⟩ :
      Machine (State Nat Nat Nat String) (Event Nat Nat)).run
        [.call, .poll fun index => if index = 1 then some (.ok (5, 9)) else none] =
      some { source := ⟨[(0, none), (1, some "tls")], 0⟩, phase := .idle,
             taken := [(.ok (5, 9), 1)], returned := [(⟨5, 9, some "tls"⟩, 1)] } := rfl
  have fair := @accept_fair Nat Nat Nat String Nat Except.ok
    [⟨0, 80, none⟩, ⟨1, 443, some "tls"⟩] _ rfl (List.cons_ne_nil _ _) id _ _ reached
  let events : List (Event Nat Nat) :=
    [.call, .poll fun index => some (.ok (index, 9)), .call,
      .poll fun index => some (.ok (index, 9)), .call, .poll fun index => some (.ok (index, 9))]
  obtain ⟨fresh, taken, -, passed⟩ := fair.2.2 events _ rfl 0 (by decide) (by decide)
  refine ⟨_, _, fair.1, rfl, fresh, taken, ?_, passed⟩
  rw [List.append_cancel_left taken.symm]
  rfl

end AcceptSource

end Pyronova
