import Pyronova.BodyStream
import Pyronova.Execution

/-!
# Concurrent readers of one body stream

A reader runs with the interpreter lock held, takes the stream's mutex with it still held, and gives
up the interpreter lock alone while it blocks in the receive.  It needs that lock back before it can
let go of the mutex.  A second reader that enters meanwhile waits for the mutex with the interpreter
lock in its hands, and neither moves again.
-/

namespace Pyronova

namespace BodyReaders

open BodyStream

variable {Thread ReadError : Type*}

/-- What called `__next__`: a handler, or the loop of `read` with its buffer. -/
inductive Caller
  | handler
  | read (limit : Option Nat) (buffer : Bytes)
  deriving DecidableEq

/-- A method that is about to take the mutex. -/
inductive Method
  | next (caller : Caller)
  | drainCount
  deriving DecidableEq

/-- A blocking receive under `py.detach`; `drain_count` keeps its running total there. -/
inductive Receiving
  | next (caller : Caller)
  | drainCount (total : UInt64)
  deriving DecidableEq

/-- What the closure under `py.detach` returned. -/
inductive Detached (ReadError : Type*)
  | next (caller : Caller) (message : Option (ChunkMsg ReadError))
  | drainCount (drained : Except (StreamFailure ReadError) UInt64)

/-- Where a Python thread stands. -/
inductive Phase (ReadError : Type*)
  /-- Outside the stream's methods, with the reply of its last call. -/
  | idle (reply : Option (Reply ReadError))
  /-- In `self.lock()`. -/
  | locking (method : Method)
  /-- Holds the mutex, has not looked at the state. -/
  | locked (method : Method)
  /-- Blocked in a receive, the interpreter lock given up. -/
  | receiving (receiving : Receiving)
  /-- Received; `py.detach` waits for the interpreter lock. -/
  | reattaching (detached : Detached ReadError)
  /-- Holds both locks again. -/
  | attached (detached : Detached ReadError)

/-- The thread is inside a method. -/
def Phase.Reading : Phase ReadError → Prop
  | .idle _ => False
  | _ => True

/-- The thread is inside a method and holds the mutex. -/
def Phase.HoldsMutex : Phase ReadError → Prop
  | .idle _ | .locking _ => False
  | _ => True

/-- The thread is inside a method and holds the interpreter lock. -/
def Phase.HoldsGil : Phase ReadError → Prop
  | .locking _ | .locked _ | .attached _ => True
  | _ => False

theorem Phase.HoldsMutex.reading {phase : Phase ReadError} (holds : phase.HoldsMutex) :
    phase.Reading := by
  cases phase <;> trivial

/-- A reader holds one lock or the other. -/
theorem Phase.Reading.holds {phase : Phase ReadError} (reading : phase.Reading) :
    phase.HoldsGil ∨ phase.HoldsMutex := by
  cases phase <;> simp_all [Phase.Reading, Phase.HoldsGil, Phase.HoldsMutex]

/-- Threads, the two locks, the stream and its channel. -/
structure State (Thread ReadError : Type*) where
  gil : Option Thread
  mutex : Option Thread
  phase : Thread → Phase ReadError
  stream : StreamState ReadError
  queue : List (ChunkMsg ReadError)
  feederAlive : Bool

inductive Event (Thread ReadError : Type*)
  /-- A thread outside the methods takes, or gives up, the interpreter lock. -/
  | acquireGil (thread : Thread)
  | releaseGil (thread : Thread)
  | call (thread : Thread) (call : Call)
  /-- A reader takes its next step. -/
  | advance (thread : Thread)
  | send (message : ChunkMsg ReadError)
  | dropSender

/-- Entering a method; `read` returns at once when it asks for nothing. -/
def enter : Call → Phase ReadError
  | .next => .locking (.next .handler)
  | .read limit =>
      if satisfied limit [] then .idle (some (.bytes [])) else .locking (.next (.read limit []))
  | .drainCount => .locking .drainCount

/-- What the caller of `__next__` does with its result, the interpreter lock in hand. -/
def resume : Caller → Except (StreamError ReadError) Bytes → Phase ReadError
  | .handler, result => .idle (some (Reply.ofBytes result))
  | .read limit buffer, .ok chunk =>
      if satisfied limit (buffer ++ chunk) then .idle (some (.bytes (buffer ++ chunk)))
      else .locking (.next (.read limit (buffer ++ chunk)))
  | .read _ buffer, .error .stopIteration => .idle (some (.bytes buffer))
  | .read _ _, .error raised => .idle (some (.raised raised))

/-- What a method does on finding the stream closed, or `none` if it is open. -/
def onClosed : Method → StreamState ReadError → Option (Phase ReadError)
  | _, .opened => none
  | .next caller, .finished => some (resume caller (.error .stopIteration))
  | .next caller, .failed failure => some (resume caller (.error (.failure failure)))
  | .drainCount, .finished => some (.idle (some (.raised .alreadyRead)))
  | .drainCount, .failed failure => some (.idle (some (.raised (.failure failure))))

/-- The receive a method blocks in. -/
def blockIn : Method → Receiving
  | .next caller => .next caller
  | .drainCount => .drainCount 0

/-- A reader after a receive: `drain_count` goes on receiving until the end. -/
def onMessage : Receiving → Option (ChunkMsg ReadError) → Phase ReadError
  | .next caller, message => .reattaching (.next caller message)
  | .drainCount total, message =>
      match Received.of message with
      | .chunk chunk => .receiving (.drainCount (total + UInt64.ofNat chunk.length))
      | .ended => .reattaching (.drainCount (.ok total))
      | .failed failure => .reattaching (.drainCount (.error failure))

/-- The rest of a method once it holds both locks again: the state it leaves, and the thread after
the mutex is released. -/
def settle : Detached ReadError → StreamState ReadError × Phase ReadError
  | .next caller message =>
      let (result, stream) := afterReceive (Received.of message)
      (stream, resume caller result)
  | .drainCount (.ok total) => (.finished, .idle (some (.count total)))
  | .drainCount (.error failure) => (.failed failure, .idle (some (.raised (.failure failure))))

/-- What a blocking receive returns, with the queue it leaves; `none` while it blocks. -/
def tryReceive (state : State Thread ReadError) :
    Option (Option (ChunkMsg ReadError) × List (ChunkMsg ReadError)) :=
  match state.queue, state.feederAlive with
  | message :: queue, _ => some (some message, queue)
  | [], false => some (none, [])
  | [], true => none

variable [DecidableEq Thread]

/-- The thread moves to `phase`. -/
def State.goto (state : State Thread ReadError) (thread : Thread) (phase : Phase ReadError) :
    State Thread ReadError :=
  { state with phase := Function.update state.phase thread phase }

/-- One step of a thread inside a method. -/
def advance (state : State Thread ReadError) (thread : Thread) :
    Option (State Thread ReadError) :=
  match state.phase thread with
  | .idle _ => none
  | .locking method =>
      if state.mutex = none then
        some { state.goto thread (.locked method) with mutex := some thread }
      else
        none
  | .locked method =>
      match onClosed method state.stream with
      | some phase => some { state.goto thread phase with mutex := none }
      | none => some { state.goto thread (.receiving (blockIn method)) with gil := none }
  | .receiving receiving =>
      match tryReceive state with
      | none => none
      | some (message, queue) =>
          some { state.goto thread (onMessage receiving message) with queue }
  | .reattaching detached =>
      if state.gil = none then
        some { state.goto thread (.attached detached) with gil := some thread }
      else
        none
  | .attached detached =>
      let (stream, phase) := settle detached
      some { state.goto thread phase with stream, mutex := none }

def step (state : State Thread ReadError) :
    Event Thread ReadError → Option (State Thread ReadError)
  | .acquireGil thread =>
      match state.phase thread with
      | .idle _ => if state.gil = none then some { state with gil := some thread } else none
      | _ => none
  | .releaseGil thread =>
      match state.phase thread with
      | .idle _ => if state.gil = some thread then some { state with gil := none } else none
      | _ => none
  | .call thread call =>
      match state.phase thread with
      | .idle _ => if state.gil = some thread then some (state.goto thread (enter call)) else none
      | _ => none
  | .advance thread => advance state thread
  | .send message =>
      if state.feederAlive ∧ state.queue.length < channelCapacity then
        some { state with queue := state.queue ++ [message] }
      else
        none
  | .dropSender => if state.feederAlive then some { state with feederAlive := false } else none

/-- Any number of threads sharing one stream, before the first call. -/
def readersMachine (Thread ReadError : Type*) [DecidableEq Thread] :
    Machine (State Thread ReadError) (Event Thread ReadError) where
  init :=
    { gil := none
      mutex := none
      phase := fun _ => .idle none
      stream := .opened
      queue := []
      feederAlive := true }
  step := step

/-! ## Progress -/

/-- A step of a Python thread, not of the feeder. -/
def Event.OfThread : Event Thread ReadError → Prop
  | .send _ | .dropSender => False
  | _ => True

/-- With a message queued or the sender gone, some thread can step unless every reader has
returned. -/
def Progresses (state : State Thread ReadError) : Prop :=
  state.queue ≠ [] ∨ state.feederAlive = false → (∃ reader, (state.phase reader).Reading) →
    ∃ event after, event.OfThread ∧ step state event = some after

/-- A thread enters a method only while no other is inside one with the mutex; `read(0)` does not
touch the stream. -/
def Uncontended (state : State Thread ReadError) : Event Thread ReadError → Prop
  | .call _ call => call = .read (some 0) ∨ state.mutex = none
  | _ => True

instance (state : State Thread ReadError) :
    ∀ event, Decidable (Uncontended state event)
  | .call _ _ => inferInstanceAs (Decidable (_ ∨ _))
  | .acquireGil _ | .releaseGil _ | .advance _ | .send _ | .dropSender =>
      inferInstanceAs (Decidable True)

/-- One reader at a time, holding the locks its phase says. -/
structure Ordered (state : State Thread ReadError) : Prop where
  gil : ∀ thread, (state.phase thread).Reading →
    ((state.phase thread).HoldsGil ↔ state.gil = some thread)
  mutex : ∀ thread, (state.phase thread).HoldsMutex ↔ state.mutex = some thread
  alone : ∀ thread other, (state.phase thread).Reading → (state.phase other).Reading →
    thread = other

/-- A step of the only thread that may be reading keeps the order if its own locks are right. -/
theorem ordered_update {state : State Thread ReadError} {thread : Thread}
    (others : ∀ other, other ≠ thread → ¬ (state.phase other).Reading)
    {after : State Thread ReadError} (same : ∀ other, other ≠ thread →
      after.phase other = state.phase other)
    (gil : (after.phase thread).Reading →
      ((after.phase thread).HoldsGil ↔ after.gil = some thread))
    (mutex : (after.phase thread).HoldsMutex ↔ after.mutex = some thread)
    (owner : ∀ other, after.mutex = some other → other = thread) : Ordered after := by
  have reading_eq : ∀ other, (after.phase other).Reading → other = thread := by
    intro other reading
    by_contra different
    rw [same other different] at reading
    exact others other different reading
  refine ⟨?_, ?_, ?_⟩
  · intro other reading
    obtain rfl := reading_eq other reading
    exact gil reading
  · intro other
    by_cases is : other = thread
    · subst is
      exact mutex
    · constructor
      · intro holds
        rw [same other is] at holds
        exact absurd holds.reading (others other is)
      · intro owned
        exact absurd (owner other owned) is
  · intro other another reading readingToo
    rw [reading_eq other reading, reading_eq another readingToo]

@[simp] theorem goto_phase_self (state : State Thread ReadError) (thread : Thread)
    (phase : Phase ReadError) : (state.goto thread phase).phase thread = phase := by
  simp [State.goto]

theorem goto_phase_of_ne (state : State Thread ReadError) {thread other : Thread}
    (phase : Phase ReadError) (different : other ≠ thread) :
    (state.goto thread phase).phase other = state.phase other := by
  simp [State.goto, different]

@[simp] theorem goto_gil (state : State Thread ReadError) (thread : Thread)
    (phase : Phase ReadError) : (state.goto thread phase).gil = state.gil := rfl

@[simp] theorem goto_mutex (state : State Thread ReadError) (thread : Thread)
    (phase : Phase ReadError) : (state.goto thread phase).mutex = state.mutex := rfl

/-- A thread that leaves `__next__` with the interpreter lock has returned or enters it again. -/
theorem resume_cases (caller : Caller) (result : Except (StreamError ReadError) Bytes) :
    (∃ reply, resume caller result = .idle reply) ∨
      ∃ method, resume caller result = .locking method := by
  unfold resume
  split
  · exact Or.inl ⟨_, rfl⟩
  · split
    · exact Or.inl ⟨_, rfl⟩
    · exact Or.inr ⟨_, rfl⟩
  · exact Or.inl ⟨_, rfl⟩
  · exact Or.inl ⟨_, rfl⟩

/-- So has a method that gives the mutex back. -/
theorem settle_cases (detached : Detached ReadError) :
    (∃ reply, (settle detached).2 = .idle reply) ∨
      ∃ method, (settle detached).2 = .locking method := by
  rcases detached with ⟨caller, message⟩ | total | failure
  · exact resume_cases caller _
  · exact Or.inl ⟨_, rfl⟩
  · exact Or.inl ⟨_, rfl⟩

theorem onClosed_cases {method : Method} {stream : StreamState ReadError}
    {phase : Phase ReadError} (closed : onClosed method stream = some phase) :
    (∃ reply, phase = .idle reply) ∨ ∃ method, phase = .locking method := by
  unfold onClosed at closed
  split at closed
  · simp at closed
  all_goals
    obtain rfl := Option.some.inj closed
    first
      | exact resume_cases _ _
      | exact Or.inl ⟨_, rfl⟩

/-- A receive is made without the interpreter lock and with the mutex. -/
theorem onMessage_holds (receiving : Receiving) (message : Option (ChunkMsg ReadError)) :
    ¬ (onMessage receiving message).HoldsGil ∧ (onMessage receiving message).HoldsMutex := by
  unfold onMessage
  split
  · simp [Phase.HoldsGil, Phase.HoldsMutex]
  · split <;> simp [Phase.HoldsGil, Phase.HoldsMutex]

/-- A thread that gives the mutex back keeps the interpreter lock. -/
theorem ordered_release {state after : State Thread ReadError} {thread : Thread}
    (others : ∀ other, other ≠ thread → ¬ (state.phase other).Reading)
    {phase : Phase ReadError} (left : (∃ reply, phase = .idle reply) ∨
      ∃ method, phase = .locking method)
    (owned : state.gil = some thread) (phases : after.phase = (state.goto thread phase).phase)
    (gil : after.gil = state.gil) (mutex : after.mutex = none) : Ordered after := by
  refine ordered_update others (fun other different => ?_) ?_ ?_ (by simp [mutex])
  · rw [phases, goto_phase_of_ne state phase different]
  · rw [phases, goto_phase_self, gil, owned]
    rcases left with ⟨reply, rfl⟩ | ⟨method, rfl⟩ <;> simp [Phase.Reading, Phase.HoldsGil]
  · rw [phases, goto_phase_self, mutex]
    rcases left with ⟨reply, rfl⟩ | ⟨method, rfl⟩ <;> simp [Phase.HoldsMutex]

theorem ordered_advance {state after : State Thread ReadError} {thread : Thread}
    (ordered : Ordered state) (fired : advance state thread = some after) : Ordered after := by
  have others (reading : (state.phase thread).Reading) :
      ∀ other, other ≠ thread → ¬ (state.phase other).Reading :=
    fun other different readingToo => different (ordered.alone other thread readingToo reading)
  have owner (holds : (state.phase thread).HoldsMutex) :
      ∀ other, state.mutex = some other → other = thread := by
    intro other owned
    rw [(ordered.mutex thread).mp holds] at owned
    exact (Option.some.inj owned).symm
  have gil := ordered.gil thread
  have mutex := ordered.mutex thread
  unfold advance at fired
  cases current : state.phase thread with
  | idle reply => simp [current] at fired
  | locking method =>
      simp only [current] at fired gil others
      split at fired
      · obtain rfl := Option.some.inj fired
        refine ordered_update (others trivial) (fun other different => ?_) ?_ ?_ ?_
        · exact goto_phase_of_ne state _ different
        · simpa [Phase.Reading, Phase.HoldsGil] using gil
        · simp [Phase.HoldsMutex]
        · simp
      · simp at fired
  | locked method =>
      simp only [current] at fired gil others owner mutex
      split at fired
      · rename_i phase closed
        obtain rfl := Option.some.inj fired
        exact ordered_release (others trivial) (onClosed_cases closed) ((gil trivial).mp trivial)
          rfl rfl rfl
      · obtain rfl := Option.some.inj fired
        refine ordered_update (others trivial) (fun other different => ?_) ?_ ?_ ?_
        · exact goto_phase_of_ne state _ different
        · simp [Phase.HoldsGil]
        · simpa [Phase.HoldsMutex] using mutex
        · exact owner trivial
  | receiving receiving =>
      simp only [current] at fired gil others owner mutex
      split at fired
      · simp at fired
      · rename_i message queue _
        obtain rfl := Option.some.inj fired
        obtain ⟨detached, holds⟩ := onMessage_holds receiving message
        have without : state.gil ≠ some thread := fun owned => (gil trivial).mpr owned
        refine ordered_update (others trivial) (fun other different => ?_) ?_ ?_ ?_
        · exact goto_phase_of_ne state _ different
        · intro _
          rw [goto_phase_self]
          exact iff_of_false detached without
        · rw [goto_phase_self]
          exact iff_of_true holds (mutex.mp trivial)
        · exact owner trivial
  | reattaching detached =>
      simp only [current] at fired gil others owner mutex
      split at fired
      · obtain rfl := Option.some.inj fired
        refine ordered_update (others trivial) (fun other different => ?_) ?_ ?_ ?_
        · exact goto_phase_of_ne state _ different
        · simp [Phase.HoldsGil]
        · simpa [Phase.HoldsMutex] using mutex
        · exact owner trivial
      · simp at fired
  | attached detached =>
      simp only [current] at fired gil others
      obtain rfl := Option.some.inj fired
      exact ordered_release (others trivial) (settle_cases detached) ((gil trivial).mp trivial)
        rfl rfl rfl

/-- Entering while nobody holds the mutex makes the thread the only reader. -/
theorem ordered_call {state : State Thread ReadError} {thread : Thread} {call : Call}
    {reply : Option (Reply ReadError)} (ordered : Ordered state)
    (outside : state.phase thread = .idle reply) (owned : state.gil = some thread)
    (uncontended : Uncontended state (.call thread call)) :
    Ordered (state.goto thread (enter call)) := by
  rcases uncontended with rfl | free
  · -- `read(0)` leaves the thread outside.
    have same : ∀ other, ((state.goto thread (enter (.read (some 0)))).phase other).Reading =
          (state.phase other).Reading ∧
        ((state.goto thread (enter (.read (some 0)))).phase other).HoldsGil =
          (state.phase other).HoldsGil ∧
        ((state.goto thread (enter (.read (some 0)))).phase other).HoldsMutex =
          (state.phase other).HoldsMutex := by
      intro other
      by_cases is : other = thread
      · subst is
        rw [goto_phase_self, outside]
        exact ⟨rfl, rfl, rfl⟩
      · rw [goto_phase_of_ne state _ is]
        exact ⟨rfl, rfl, rfl⟩
    refine ⟨?_, ?_, ?_⟩
    · intro other reading
      rw [(same other).1] at reading
      rw [(same other).2.1]
      exact ordered.gil other reading
    · intro other
      rw [(same other).2.2]
      exact ordered.mutex other
    · intro other another reading readingToo
      rw [(same other).1] at reading
      rw [(same another).1] at readingToo
      exact ordered.alone other another reading readingToo
  · have others : ∀ other, other ≠ thread → ¬ (state.phase other).Reading := by
      intro other different reading
      rcases reading.holds with gil | mutex
      · have same := (ordered.gil other reading).mp gil
        rw [owned] at same
        exact different (Option.some.inj same).symm
      · have held := (ordered.mutex other).mp mutex
        rw [free] at held
        simp at held
    have entered : (∃ reply, @enter ReadError call = .idle reply) ∨
        ∃ method, @enter ReadError call = .locking method := by
      cases call with
      | next => exact Or.inr ⟨_, rfl⟩
      | drainCount => exact Or.inr ⟨_, rfl⟩
      | read limit =>
          rw [enter]
          split
          · exact Or.inl ⟨_, rfl⟩
          · exact Or.inr ⟨_, rfl⟩
    exact ordered_release others entered owned rfl rfl free

/-- An uncontended step keeps one reader at a time. -/
theorem ordered_step {state after : State Thread ReadError} {event : Event Thread ReadError}
    (ordered : Ordered state) (uncontended : Uncontended state event)
    (fired : step state event = some after) : Ordered after := by
  cases event with
  | advance thread => exact ordered_advance ordered fired
  | send message =>
      simp only [step] at fired
      split at fired
      · obtain rfl := Option.some.inj fired
        exact ⟨ordered.gil, ordered.mutex, ordered.alone⟩
      · simp at fired
  | dropSender =>
      simp only [step] at fired
      split at fired
      · obtain rfl := Option.some.inj fired
        exact ⟨ordered.gil, ordered.mutex, ordered.alone⟩
      · simp at fired
  | acquireGil thread =>
      simp only [step] at fired
      split at fired
      · rename_i reply outside
        split at fired
        · rename_i free
          obtain rfl := Option.some.inj fired
          refine ⟨?_, ordered.mutex, ordered.alone⟩
          intro other reading
          have without := ordered.gil other reading
          rw [free] at without
          refine iff_of_false (fun holds => by simpa using without.mp holds) ?_
          rintro ⟨⟩
          simp [outside, Phase.Reading] at reading
        · simp at fired
      · simp at fired
  | releaseGil thread =>
      simp only [step] at fired
      split at fired
      · rename_i reply outside
        split at fired
        · rename_i owned
          obtain rfl := Option.some.inj fired
          refine ⟨?_, ordered.mutex, ordered.alone⟩
          intro other reading
          refine iff_of_false (fun holds => ?_) (by simp)
          have same := (ordered.gil other reading).mp holds
          rw [owned] at same
          obtain rfl := Option.some.inj same
          simp [outside, Phase.Reading] at reading
        · simp at fired
      · simp at fired
  | call thread call =>
      simp only [step] at fired
      split at fired
      · rename_i reply outside
        split at fired
        · rename_i owned
          obtain rfl := Option.some.inj fired
          exact ordered_call ordered outside owned uncontended
        · simp at fired
      · simp at fired

theorem progresses_of_advance {state : State Thread ReadError} (reader : Thread)
    (enabled : (advance state reader).isSome) :
    ∃ event after, event.OfThread ∧ step state event = some after := by
  obtain ⟨after, fired⟩ := Option.isSome_iff_exists.mp enabled
  exact ⟨.advance reader, after, trivial, fired⟩

/-- With one reader at a time there is no deadlock. -/
theorem progresses_of_ordered {state : State Thread ReadError} (ordered : Ordered state) :
    Progresses state := by
  rintro input ⟨reader, reading⟩
  cases current : state.phase reader with
  | idle reply => simp [current, Phase.Reading] at reading
  | locking method =>
      have free : state.mutex = none := by
        by_contra taken
        obtain ⟨other, owned⟩ := Option.ne_none_iff_exists'.mp taken
        have holds := (ordered.mutex other).mpr owned
        obtain rfl := ordered.alone other reader holds.reading reading
        rw [current] at holds
        exact holds
      apply progresses_of_advance reader
      simp [advance, current, free]
  | locked method =>
      apply progresses_of_advance reader
      simp only [advance, current]
      split <;> rfl
  | receiving receiving =>
      have ready : (tryReceive state).isSome := by
        unfold tryReceive
        rcases input with queued | gone
        · cases messages : state.queue with
          | nil => exact absurd messages queued
          | cons message queue => rfl
        · rw [gone]
          cases state.queue <;> rfl
      obtain ⟨received, ready⟩ := Option.isSome_iff_exists.mp ready
      apply progresses_of_advance reader
      simp [advance, current, ready]
  | reattaching detached =>
      cases owner : state.gil with
      | none =>
          apply progresses_of_advance reader
          simp [advance, current, owner]
      | some other =>
          -- The owner is not a reader: it would be this one, which has given the lock up.
          have outside : ¬ (state.phase other).Reading := by
            intro readingToo
            obtain rfl := ordered.alone other reader readingToo reading
            have holds := (ordered.gil other reading).mpr owner
            rw [current] at holds
            exact holds
          refine ⟨.releaseGil other, { state with gil := none }, trivial, ?_⟩
          cases phase : state.phase other with
          | idle reply => rw [step, phase, if_pos owner]
          | locking | locked | receiving | reattaching | attached =>
              exact absurd (by rw [phase]; trivial) outside
  | attached detached =>
      apply progresses_of_advance reader
      simp [advance, current]

/-- Readers that enter one at a time never block each other, whatever the feeder does. -/
theorem readers_progress_along {Thread ReadError : Type*} [DecidableEq Thread]
    {schedule : List (Event Thread ReadError)}
    (uncontended : (readersMachine Thread ReadError).AllSteps Uncontended schedule) :
    (readersMachine Thread ReadError).AllStates Progresses schedule := by
  have initial : Ordered (readersMachine Thread ReadError).init := by
    refine ⟨?_, ?_, ?_⟩ <;> simp [readersMachine, Phase.Reading, Phase.HoldsMutex]
  intro front before state reached
  have ordered : Ordered state :=
    Machine.allStates_of_allSteps initial ordered_step uncontended front before state reached
  exact progresses_of_ordered ordered

/-- One reader takes a chunk, returns, and another reads on. -/
def takeTurns : List (Event Bool Unit) :=
  [.acquireGil false, .call false .next, .advance false, .advance false, .send (.data [1]),
    .advance false, .advance false, .advance false, .releaseGil false,
    .acquireGil true, .call true .drainCount]

theorem readers_progress_takeTurns :
    (readersMachine Bool Unit).AllStates Progresses takeTurns ∧
      ((readersMachine Bool Unit).run takeTurns).isSome := by
  refine ⟨readers_progress_along ?_, by decide⟩
  apply Machine.MeetsFrom.allSteps
  decide

/-- A reader blocks in its receive, a second one enters, and the feeder is dropped. -/
def enterDuringReceive : List (Event Bool Unit) :=
  [.acquireGil false, .call false .next, .advance false, .advance false, .acquireGil true,
    .call true .next, .dropSender, .advance false]

/-- The two readers wait for each other's lock, and no event is left that could fire. -/
theorem enterDuringReceive_deadlocks :
    ∃ state, (readersMachine Bool Unit).run enterDuringReceive = some state ∧
      ¬ Progresses state ∧ ∀ event, (readersMachine Bool Unit).step state event = none := by
  have stuck : ∃ state, (readersMachine Bool Unit).run enterDuringReceive = some state ∧
      state.feederAlive = false ∧ (state.phase false).Reading ∧
      ∀ event, (readersMachine Bool Unit).step state event = none := by
    refine ⟨_, rfl, rfl, trivial, ?_⟩
    intro event
    cases event with
    | acquireGil thread | releaseGil thread | advance thread => cases thread <;> rfl
    | call thread call => cases thread <;> rfl
    | send message => rfl
    | dropSender => rfl
  obtain ⟨state, reached, dropped, reading, disabled⟩ := stuck
  refine ⟨state, reached, ?_, disabled⟩
  intro progresses
  obtain ⟨event, after, -, fired⟩ := progresses (Or.inr dropped) ⟨false, reading⟩
  rw [show step state event = none from disabled event] at fired
  simp at fired

end BodyReaders

end Pyronova
