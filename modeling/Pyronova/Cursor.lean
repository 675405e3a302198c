import Mathlib.Tactic
import Pyronova.Execution

/-!
# The streaming cursor

A driver task sends a query's rows into a bounded channel.  Threads that share the cursor take
turns: one takes the receiver out of the shared state and waits on the channel with it, the others
wait on a condition variable until it is back.  The one with the receiver takes what the channel
has, up to a batch, and puts the batch into the shared buffer when it gives the receiver back.
-/

namespace Pyronova

/-- Messages the channel holds, and the most a batch takes. -/
def CURSOR_CAPACITY : Nat := 8

/-- A task on the database runtime that ended without its output. -/
inductive TaskError
  | panicked (message : String)
  | cancelled
  | runtimeGone
  deriving DecidableEq, Repr

/-- Where the channel's receiver is. -/
inductive Receiver
  | here
  /-- A thread is waiting on the channel with it. -/
  | checkedOut
  /-- End of stream. -/
  | closed
  deriving DecidableEq, Repr

/-- What a thread calling `__next__` does next. -/
inductive Turn (Msg : Type*)
  | deliver (msg : Option Msg)
  | receive

/-- How a call of `__next__` ends. -/
inductive NextOutcome (Msg : Type*)
  | message (msg : Msg)
  | stopIteration
  | failed (error : TaskError)
  deriving DecidableEq, Repr

/-- Where a call of `__next__` is. -/
inductive NextPhase (Msg : Type*)
  /-- Before its first `claim`. -/
  | calling
  /-- In `wait_for_turn`, before the lock. -/
  | retrying
  /-- On the condition variable. -/
  | waiting (signalled : Bool)
  /-- In `recv_batch`, before the first message. -/
  | awaiting
  /-- In `recv_batch`, taking what else is there. -/
  | draining (batch : List Msg)
  /-- Back from `recv_batch`, before the lock. -/
  | returned (received : Except TaskError (List Msg))
  /-- The lock released, before `notify_all`. -/
  | notifying (outcome : NextOutcome Msg)
  | done (outcome : NextOutcome Msg)
  deriving DecidableEq, Repr

/-- The channel, the shared state, the calls so far, and what has passed: the messages sent, those
given back with the receiver, and those delivered with the call each went to. -/
structure Cursor (Msg : Type*) where
  queue : List Msg
  ended : Bool
  receiverGone : Bool
  rx : Receiver
  buf : List Msg
  calls : List (NextPhase Msg)
  sent : List Msg
  received : List Msg
  delivered : List (Nat × Msg)

namespace NextPhase

variable {Msg : Type*}

/-- The call has the receiver. -/
def holds : NextPhase Msg → Bool
  | awaiting | draining _ | returned _ => true
  | _ => false

def outcome : NextPhase Msg → Option (NextOutcome Msg)
  | notifying outcome | done outcome => some outcome
  | _ => none

/-- The call's receive failed. -/
def failed : NextPhase Msg → Bool
  | returned (.error _) | notifying (.failed _) | done (.failed _) => true
  | _ => false

/-- The call has not had its turn. -/
def turnless : NextPhase Msg → Bool
  | calling | retrying | waiting _ => true
  | _ => false

/-- What `notify_all` does to a call. -/
def notified : NextPhase Msg → NextPhase Msg
  | waiting _ => waiting true
  | phase => phase

end NextPhase

namespace Cursor

variable {Msg : Type*}

inductive Event (Msg : Type*)
  /-- The driver's `send`. -/
  | send (msg : Msg)
  /-- The driver is finished. -/
  | finish
  /-- A thread calls `__next__`. -/
  | call
  /-- The next step of a call. -/
  | advance (call : Nat)
  /-- The task of a call's `recv_batch` fails. -/
  | fail (call : Nat) (error : TaskError)
  /-- A call wakes up though nothing signalled it. -/
  | wake (call : Nat)

/-- A thread's turn, or `none` while another has the receiver. -/
def claim (cursor : Cursor Msg) : Option (Turn Msg) × Cursor Msg :=
  match cursor.buf with
  | msg :: buf => (some (.deliver (some msg)), { cursor with buf })
  | [] =>
      match cursor.rx with
      | .here => (some .receive, { cursor with rx := .checkedOut })
      | .checkedOut => (none, cursor)
      | .closed => (some (.deliver none), cursor)

def setCall (cursor : Cursor Msg) (call : Nat) (phase : NextPhase Msg) : Cursor Msg :=
  { cursor with calls := cursor.calls.set call phase }

def deliver (cursor : Cursor Msg) (call : Nat) (msg : Msg) : Cursor Msg :=
  { cursor with delivered := cursor.delivered ++ [(call, msg)] }

/-- A call claims its turn; without one it goes on as `blocked`. -/
def takeTurn (cursor : Cursor Msg) (call : Nat) (blocked : NextPhase Msg) : Cursor Msg :=
  match cursor.claim with
  | (none, cursor) => cursor.setCall call blocked
  | (some (.deliver (some msg)), cursor) =>
      (cursor.deliver call msg).setCall call (.done (.message msg))
  | (some (.deliver none), cursor) => cursor.setCall call (.done .stopIteration)
  | (some .receive, cursor) => cursor.setCall call .awaiting

/-- `receive` under the lock: the receiver and the batch are given back, and the first message of
what is buffered is taken. -/
def giveBack (cursor : Cursor Msg) (call : Nat) (batch : List Msg) : Cursor Msg :=
  let rx := if batch.isEmpty then .closed else .here
  let received := cursor.received ++ batch
  match cursor.buf ++ batch with
  | [] => { cursor with rx, received, buf := [] }.setCall call (.notifying .stopIteration)
  | msg :: buf =>
      ({ cursor with rx, received, buf }.deliver call msg).setCall call (.notifying (.message msg))

/-- The next step of a call. -/
def advanceCall (cursor : Cursor Msg) (call : Nat) : NextPhase Msg → Option (Cursor Msg)
  | .calling => some (cursor.takeTurn call .retrying)
  | .retrying => some (cursor.takeTurn call (.waiting false))
  | .waiting true => some (cursor.takeTurn call (.waiting false))
  | .waiting false => none
  | .awaiting =>
      match cursor.queue with
      | msg :: queue => some ({ cursor with queue }.setCall call (.draining [msg]))
      | [] => if cursor.ended then some (cursor.setCall call (.returned (.ok []))) else none
  | .draining batch =>
      if batch.length < CURSOR_CAPACITY then
        match cursor.queue with
        | msg :: queue => some ({ cursor with queue }.setCall call (.draining (batch ++ [msg])))
        | [] => some (cursor.setCall call (.returned (.ok batch)))
      else some (cursor.setCall call (.returned (.ok batch)))
  | .returned (.ok batch) => some (cursor.giveBack call batch)
  | .returned (.error error) =>
      some ({ cursor with rx := .closed }.setCall call (.notifying (.failed error)))
  | .notifying outcome =>
      some ({ cursor with calls := cursor.calls.map NextPhase.notified }.setCall call
        (.done outcome))
  | .done _ => none

/-- The failed task drops the receiver, and with it what the channel held. -/
def failCall (cursor : Cursor Msg) (call : Nat) (error : TaskError) :
    NextPhase Msg → Option (Cursor Msg)
  | .awaiting | .draining _ =>
      some ({ cursor with receiverGone := true, queue := [] }.setCall call
        (.returned (.error error)))
  | _ => none

def step (cursor : Cursor Msg) : Event Msg → Option (Cursor Msg)
  | .send msg =>
      if cursor.ended = false ∧ cursor.receiverGone = false ∧
          cursor.queue.length < CURSOR_CAPACITY then
        some { cursor with queue := cursor.queue ++ [msg], sent := cursor.sent ++ [msg] }
      else none
  | .finish => some { cursor with ended := true }
  | .call => some { cursor with calls := cursor.calls ++ [.calling] }
  | .advance call => cursor.calls[call]?.bind (cursor.advanceCall call)
  | .fail call error => cursor.calls[call]?.bind (cursor.failCall call error)
  | .wake call =>
      match cursor.calls[call]? with
      | some (.waiting false) => some (cursor.takeTurn call (.waiting false))
      | _ => none

end Cursor

/-- A cursor from its construction. -/
def cursorMachine (Msg : Type*) : Machine (Cursor Msg) (Cursor.Event Msg) where
  init :=
    { queue := [], ended := false, receiverGone := false, rx := .here, buf := [], calls := []
      sent := [], received := [], delivered := [] }
  step := Cursor.step

/-! ## What every interleaving keeps -/

namespace Cursor

variable {Msg : Type*}

/-- The call has been given no message. -/
def Undelivered (cursor : Cursor Msg) (call : Nat) : Prop :=
  ∀ msg, (call, msg) ∉ cursor.delivered

/-- The receiver is out, and `batch` has been taken with it. -/
def Out (cursor : Cursor Msg) (batch : List Msg) : Prop :=
  cursor.rx = .checkedOut ∧ cursor.receiverGone = false ∧
    cursor.received ++ batch ++ cursor.queue = cursor.sent

/-- The call has this outcome rightly. -/
def Reached (cursor : Cursor Msg) (call : Nat) : NextOutcome Msg → Prop
  | .message msg => ∀ other, (call, other) ∈ cursor.delivered ↔ other = msg
  | .stopIteration => cursor.Undelivered call ∧ cursor.rx = .closed
  | .failed _ => cursor.Undelivered call ∧ cursor.rx = .closed ∧ cursor.receiverGone = true

/-- What a call's phase says of the shared state. -/
def Agrees (cursor : Cursor Msg) (call : Nat) : NextPhase Msg → Prop
  | .calling | .retrying | .waiting _ => cursor.Undelivered call
  | .awaiting => cursor.Undelivered call ∧ cursor.Out []
  | .draining batch => cursor.Undelivered call ∧ cursor.Out batch ∧ batch ≠ []
  | .returned (.ok batch) =>
      cursor.Undelivered call ∧ cursor.Out batch ∧
        (batch = [] → cursor.ended = true ∧ cursor.queue = [])
  | .returned (.error _) =>
      cursor.Undelivered call ∧ cursor.rx = .checkedOut ∧ cursor.receiverGone = true
  | .notifying outcome | .done outcome => cursor.Reached call outcome

/-- What holds of the shared state, whatever the calls are at. -/
structure Sound (cursor : Cursor Msg) : Prop where
  buffer : cursor.rx ≠ .here → cursor.buf = []
  order : cursor.delivered.map Prod.snd ++ cursor.buf = cursor.received
  once : (cursor.delivered.map Prod.fst).Nodup
  kept : cursor.rx ≠ .checkedOut → cursor.receiverGone = false →
    cursor.received ++ cursor.queue = cursor.sent
  usable : cursor.rx = .here → cursor.receiverGone = false
  ends : cursor.rx = .closed →
    cursor.ended = true ∧ cursor.queue = [] ∨ cursor.receiverGone = true

/-- The call is at this phase. -/
def At (cursor : Cursor Msg) (call : Nat) (phase : NextPhase Msg) : Prop :=
  cursor.calls[call]? = some phase

/-- No two calls pass the test. -/
def AtMostOne (cursor : Cursor Msg) (test : NextPhase Msg → Bool) : Prop :=
  ∀ first second p q, cursor.At first p → cursor.At second q →
    test p = true → test q = true → first = second

/-- Some call passes the test. -/
def SomeCall (cursor : Cursor Msg) (test : NextPhase Msg → Bool) : Prop :=
  ∃ call phase, cursor.At call phase ∧ test phase = true

/-- The receiver is with one call at most, one receive has failed at most, and who waits without a
signal will get one. -/
structure Consistent (cursor : Cursor Msg) : Prop where
  sound : cursor.Sound
  known : ∀ entry ∈ cursor.delivered, entry.1 < cursor.calls.length
  phases : ∀ call phase, cursor.At call phase → cursor.Agrees call phase
  holder : cursor.AtMostOne NextPhase.holds
  held : cursor.rx = .checkedOut → cursor.SomeCall NextPhase.holds
  failure : cursor.AtMostOne NextPhase.failed
  raised : cursor.receiverGone = true → cursor.SomeCall NextPhase.failed
  woken : ∀ call, cursor.At call (.waiting false) → cursor.rx = .checkedOut ∨
    ∃ other outcome, cursor.At other (.notifying outcome)

/-- A call with the receiver has it. -/
theorem Agrees.checkedOut {cursor : Cursor Msg} {call : Nat} {phase : NextPhase Msg}
    (agrees : cursor.Agrees call phase) (holds : phase.holds = true) :
    cursor.rx = .checkedOut := by
  cases phase with
  | awaiting => exact agrees.2.1
  | draining batch => exact agrees.2.1.1
  | returned received =>
      cases received with
      | ok batch => exact agrees.2.1.1
      | error error => exact agrees.2.1
  | calling | retrying | waiting | notifying | done => cases holds

/-- A call that goes by nothing but its own deliveries and the end of the stream. -/
theorem Agrees.frame {cursor after : Cursor Msg} {call : Nat} {phase : NextPhase Msg}
    (agrees : cursor.Agrees call phase) (free : phase.holds = false)
    (closed : cursor.rx = .closed → after.rx = .closed)
    (gone : cursor.receiverGone = true → after.receiverGone = true)
    (delivered : ∀ msg, (call, msg) ∈ after.delivered ↔ (call, msg) ∈ cursor.delivered) :
    after.Agrees call phase := by
  have undelivered (before : cursor.Undelivered call) : after.Undelivered call := by
    intro msg member
    exact before msg ((delivered msg).mp member)
  have reached (outcome : NextOutcome Msg) (before : cursor.Reached call outcome) :
      after.Reached call outcome := by
    cases outcome with
    | message msg =>
        intro other
        rw [delivered other]
        exact before other
    | stopIteration => exact ⟨undelivered before.1, closed before.2⟩
    | failed error => exact ⟨undelivered before.1, closed before.2.1, gone before.2.2⟩
  cases phase with
  | calling | retrying | waiting => exact undelivered agrees
  | notifying outcome => exact reached outcome agrees
  | done outcome => exact reached outcome agrees
  | awaiting | draining | returned => cases free

theorem Agrees.gone {cursor : Cursor Msg} {call : Nat} {phase : NextPhase Msg}
    (agrees : cursor.Agrees call phase) (failed : phase.failed = true) :
    cursor.receiverGone = true := by
  unfold NextPhase.failed at failed
  split at failed
  · exact agrees.2.2
  · exact agrees.2.2
  · exact agrees.2.2
  · cases failed

/-! ## One call moves on -/

theorem at_setCall {cursor : Cursor Msg} {call other : Nat} {after phase : NextPhase Msg}
    (there : (cursor.setCall call after).At other phase) :
    other = call ∧ phase = after ∨ other ≠ call ∧ cursor.At other phase := by
  rw [At, Cursor.setCall, List.getElem?_set] at there
  split at there
  · rename_i same
    split at there
    · exact .inl ⟨same.symm, (Option.some.inj there).symm⟩
    · cases there
  · rename_i different
    exact .inr ⟨Ne.symm different, there⟩

theorem setCall_at_other {cursor : Cursor Msg} {call other : Nat} {phase : NextPhase Msg}
    (there : cursor.At other phase) (different : other ≠ call) (after : NextPhase Msg) :
    (cursor.setCall call after).At other phase := by
  rw [At, Cursor.setCall, List.getElem?_set_ne (Ne.symm different)]
  exact there

theorem setCall_at_self {cursor : Cursor Msg} {call : Nat} {before : NextPhase Msg}
    (found : cursor.At call before) (after : NextPhase Msg) :
    (cursor.setCall call after).At call after := by
  have inside : call < cursor.calls.length := (List.getElem?_eq_some_iff.mp found).1
  rw [At, Cursor.setCall, List.getElem?_set_self inside]

theorem AtMostOne.setCall {cursor : Cursor Msg} {test : NextPhase Msg → Bool} {call : Nat}
    {before after : NextPhase Msg} (most : cursor.AtMostOne test) (found : cursor.At call before)
    (sole : test after = true → test before = true ∨ ¬ cursor.SomeCall test) :
    (cursor.setCall call after).AtMostOne test := by
  have alone (passes : test after = true) (other : Nat) (phase : NextPhase Msg)
      (there : cursor.At other phase) (others : test phase = true) : other = call := by
    rcases sole passes with already | none
    · exact most other call phase before there found others already
    · exact absurd ⟨other, phase, there, others⟩ none
  intro first second p q atFirst atSecond firstPasses secondPasses
  rcases at_setCall atFirst with ⟨rfl, rfl⟩ | ⟨_, firstBefore⟩ <;>
    rcases at_setCall atSecond with ⟨rfl, rfl⟩ | ⟨_, secondBefore⟩
  · rfl
  · exact (alone firstPasses second q secondBefore secondPasses).symm
  · exact alone secondPasses first p firstBefore firstPasses
  · exact most first second p q firstBefore secondBefore firstPasses secondPasses

theorem SomeCall.setCall {cursor : Cursor Msg} {test : NextPhase Msg → Bool} {call : Nat}
    {before after : NextPhase Msg} (found : cursor.At call before)
    (passes : test after = true ∨ test before = false ∧ cursor.SomeCall test) :
    (cursor.setCall call after).SomeCall test := by
  rcases passes with own | ⟨free, other, phase, there, passes⟩
  · exact ⟨call, after, setCall_at_self found after, own⟩
  · have different : other ≠ call := by
      rintro rfl
      obtain rfl := Option.some.inj (found.symm.trans there)
      rw [free] at passes
      cases passes
    exact ⟨other, phase, setCall_at_other there different after, passes⟩

/-- What one call's move has to show, with `shared` the shared state after it. -/
structure Moves (cursor shared : Cursor Msg) (call : Nat) (before after : NextPhase Msg) :
    Prop where
  calls : shared.calls = cursor.calls
  sound : shared.Sound
  known : ∀ entry ∈ shared.delivered, entry ∈ cursor.delivered ∨ entry.1 = call
  own : shared.Agrees call after
  others : ∀ other phase, other ≠ call → cursor.At other phase → cursor.Agrees other phase →
    shared.Agrees other phase
  holder : after.holds = true → before.holds = true ∨ cursor.rx ≠ .checkedOut
  held : shared.rx = .checkedOut →
    after.holds = true ∨ before.holds = false ∧ cursor.rx = .checkedOut
  failure : after.failed = true → before.failed = true ∨ cursor.receiverGone = false
  raised : shared.receiverGone = true →
    after.failed = true ∨ before.failed = false ∧ cursor.receiverGone = true
  woken : shared.rx = .checkedOut ∨ (∃ outcome, after = .notifying outcome) ∨
    after ≠ .waiting false ∧ ∀ other, cursor.At other (.waiting false) →
      ∃ third outcome, third ≠ call ∧ cursor.At third (.notifying outcome)

theorem Consistent.setCall {cursor shared : Cursor Msg} {call : Nat}
    {before after : NextPhase Msg} (consistent : cursor.Consistent)
    (found : cursor.At call before) (moves : Moves cursor shared call before after) :
    (shared.setCall call after).Consistent := by
  have inside : call < cursor.calls.length := (List.getElem?_eq_some_iff.mp found).1
  have same : shared.At = cursor.At := by
    funext other phase
    rw [At, At, moves.calls]
  have someSame : shared.SomeCall = cursor.SomeCall := by
    funext test
    rw [SomeCall, SomeCall, same]
  have foundShared : shared.At call before := by
    rw [same]
    exact found
  constructor
  case sound => exact ⟨moves.sound.1, moves.sound.2, moves.sound.3, moves.sound.4, moves.sound.5,
    moves.sound.6⟩
  case known =>
    intro entry member
    simp only [Cursor.setCall, List.length_set, moves.calls]
    rcases moves.known entry member with earlier | own
    · exact consistent.known entry earlier
    · rw [own]
      exact inside
  case phases =>
    intro other phase there
    rcases at_setCall there with ⟨rfl, rfl⟩ | ⟨different, there⟩
    · exact moves.own
    · rw [same] at there
      exact moves.others other phase different there (consistent.phases other phase there)
  case holder =>
    refine AtMostOne.setCall ?_ foundShared fun holds => (moves.holder holds).imp_right ?_
    · rw [AtMostOne, same]
      exact consistent.holder
    · rintro free ⟨other, phase, there, others⟩
      rw [same] at there
      exact free ((consistent.phases other phase there).checkedOut others)
  case held =>
    intro out
    refine SomeCall.setCall foundShared ((moves.held out).imp_right ?_)
    rintro ⟨free, before⟩
    rw [someSame]
    exact ⟨free, consistent.held before⟩
  case failure =>
    refine AtMostOne.setCall ?_ foundShared fun failed => (moves.failure failed).imp_right ?_
    · rw [AtMostOne, same]
      exact consistent.failure
    · rintro present ⟨other, phase, there, others⟩
      rw [same] at there
      rw [(consistent.phases other phase there).gone others] at present
      cases present
  case raised =>
    intro gone
    refine SomeCall.setCall foundShared ((moves.raised gone).imp_right ?_)
    rintro ⟨free, before⟩
    rw [someSame]
    exact ⟨free, consistent.raised before⟩
  case woken =>
    intro other there
    rcases moves.woken with out | ⟨outcome, rfl⟩ | ⟨notWaiting, signal⟩
    · exact .inl out
    · exact .inr ⟨call, outcome, setCall_at_self foundShared _⟩
    · rcases at_setCall there with ⟨-, rfl⟩ | ⟨-, there⟩
      · exact absurd rfl notWaiting
      · rw [same] at there
        obtain ⟨third, outcome, different, notifying⟩ := signal other there
        rw [← same] at notifying
        exact .inr ⟨third, outcome, setCall_at_other notifying different after⟩

section Moving

variable {cursor : Cursor Msg} {call : Nat} {before after : NextPhase Msg}

theorem Consistent.undelivered (consistent : cursor.Consistent) (found : cursor.At call before)
    (turnless : before.turnless = true) : cursor.Undelivered call := by
  have agrees := consistent.phases call before found
  cases before with
  | calling | retrying | waiting => exact agrees
  | awaiting | draining | returned | notifying | done => cases turnless

theorem holds_of_turnless (turnless : before.turnless = true) : before.holds = false := by
  cases before <;> first | rfl | cases turnless

theorem failed_of_turnless (turnless : before.turnless = true) : before.failed = false := by
  cases before <;> first | rfl | cases turnless

/-- Where the receiver is not out, who waits without a signal has a signal coming from another. -/
theorem Consistent.signal (consistent : cursor.Consistent) (found : cursor.At call before)
    (turnless : before.turnless = true) (free : cursor.rx ≠ .checkedOut) (other : Nat)
    (waits : cursor.At other (.waiting false)) :
    ∃ third outcome, third ≠ call ∧ cursor.At third (.notifying outcome) := by
  rcases consistent.woken other waits with out | ⟨third, outcome, notifying⟩
  · exact absurd out free
  · refine ⟨third, outcome, ?_, notifying⟩
    rintro rfl
    obtain rfl := Option.some.inj (found.symm.trans notifying)
    cases turnless

/-- A delivery from the buffer. -/
theorem Sound.deliver (sound : cursor.Sound) (undelivered : cursor.Undelivered call) {msg : Msg}
    {buf : List Msg} (buffered : cursor.buf = msg :: buf) :
    ({ cursor with buf }.deliver call msg).Sound := by
  have here : cursor.rx = .here := by
    by_contra away
    rw [sound.buffer away] at buffered
    cases buffered
  constructor
  case buffer =>
    intro away
    exact absurd here away
  case order =>
    rw [Cursor.deliver, List.map_append, ← sound.order, buffered]
    simp
  case once =>
    rw [Cursor.deliver, List.map_append]
    refine List.Nodup.append sound.once (List.nodup_singleton _) ?_
    rw [List.map_singleton, List.disjoint_singleton]
    intro member
    obtain ⟨⟨other, earlier⟩, recorded, rfl⟩ := List.mem_map.mp member
    exact undelivered earlier recorded
  case kept => exact sound.kept
  case usable => exact sound.usable
  case ends => exact sound.ends

theorem mem_deliver_other {other : Nat} (different : other ≠ call) (shared : Cursor Msg)
    (msg earlier : Msg) :
    (other, earlier) ∈ (shared.deliver call msg).delivered ↔
      (other, earlier) ∈ shared.delivered := by
  simp [Cursor.deliver, different]

theorem reached_deliver {shared : Cursor Msg} (undelivered : shared.Undelivered call) (msg : Msg) :
    (shared.deliver call msg).Reached call (.message msg) := by
  intro other
  simp [Cursor.deliver, undelivered other]

theorem known_deliver {shared : Cursor Msg} (same : shared.delivered = cursor.delivered)
    (msg : Msg) :
    ∀ entry ∈ (shared.deliver call msg).delivered, entry ∈ cursor.delivered ∨ entry.1 = call := by
  intro entry member
  rcases List.mem_append.mp member with earlier | own
  · rw [same] at earlier
    exact .inl earlier
  · rw [List.mem_singleton.mp own]
    exact .inr rfl

theorem Consistent.takeTurn (consistent : cursor.Consistent) (found : cursor.At call before)
    (turnless : before.turnless = true) {blocked : NextPhase Msg}
    (waits : blocked.turnless = true) : (cursor.takeTurn call blocked).Consistent := by
  have undelivered := consistent.undelivered found turnless
  have free := holds_of_turnless turnless
  have unfailed := failed_of_turnless turnless
  unfold Cursor.takeTurn Cursor.claim
  cases buffered : cursor.buf with
  | cons msg buf =>
      have sound := consistent.sound.deliver undelivered buffered
      have here : cursor.rx = .here := by
        by_contra away
        rw [consistent.sound.buffer away] at buffered
        cases buffered
      have inside : cursor.rx ≠ .checkedOut := by
        rw [here]
        decide
      refine consistent.setCall found
        { calls := rfl, sound, known := known_deliver rfl msg
          own := reached_deliver undelivered msg
          others := ?_, holder := nofun, held := ?_, failure := nofun, raised := ?_, woken := ?_ }
      · intro other phase different there agrees
        have others : phase.holds = false := by
          by_contra holds
          exact inside (agrees.checkedOut (by simpa using holds))
        exact agrees.frame others id id fun earlier => mem_deliver_other different _ msg earlier
      · intro out
        exact absurd out inside
      · intro gone
        exact .inr ⟨unfailed, gone⟩
      · exact .inr (.inr ⟨nofun, consistent.signal found turnless inside⟩)
  | nil =>
      cases place : cursor.rx with
      | here =>
          have inside : cursor.rx ≠ .checkedOut := by
            rw [place]
            decide
          have present := consistent.sound.usable place
          refine consistent.setCall found
            { calls := rfl, sound := ?_, known := fun entry member => .inl member, own := ?_
              others := ?_, holder := fun _ => .inr inside, held := fun _ => .inl rfl
              failure := nofun, raised := fun gone => .inr ⟨unfailed, gone⟩, woken := .inl rfl }
          · have order := consistent.sound.order
            rw [buffered] at order
            exact ⟨fun _ => rfl, order, consistent.sound.once, fun away => absurd rfl away, nofun,
              nofun⟩
          · refine ⟨undelivered, rfl, present, ?_⟩
            rw [List.append_nil]
            exact consistent.sound.kept inside present
          · intro other phase different there agrees
            have others : phase.holds = false := by
              by_contra holds
              exact inside (agrees.checkedOut (by simpa using holds))
            refine agrees.frame others ?_ id fun _ => Iff.rfl
            intro closed
            rw [place] at closed
            cases closed
      | checkedOut =>
          refine consistent.setCall found
            { calls := rfl, sound := consistent.sound, known := fun entry member => .inl member
              own := ?_, others := fun _ _ _ _ agrees => agrees, holder := ?_
              held := fun out => .inr ⟨free, out⟩, failure := ?_
              raised := fun gone => .inr ⟨unfailed, gone⟩, woken := .inl place }
          · cases blocked with
            | calling | retrying | waiting => exact undelivered
            | awaiting | draining | returned | notifying | done => cases waits
          · rw [holds_of_turnless waits]
            nofun
          · rw [failed_of_turnless waits]
            nofun
      | closed =>
          have inside : cursor.rx ≠ .checkedOut := by
            rw [place]
            decide
          refine consistent.setCall found
            { calls := rfl, sound := consistent.sound, known := fun entry member => .inl member
              own := ⟨undelivered, place⟩, others := fun _ _ _ _ agrees => agrees, holder := nofun
              held := fun out => absurd out inside, failure := nofun
              raised := fun gone => .inr ⟨unfailed, gone⟩, woken := ?_ }
          exact .inr (.inr ⟨nofun, consistent.signal found turnless inside⟩)

/-! ## The call with the receiver -/

/-- Another call does not have the receiver, and has not come to an end of the stream. -/
theorem Consistent.others_of_holds (consistent : cursor.Consistent) (found : cursor.At call before)
    (holds : before.holds = true) {shared : Cursor Msg}
    (gone : cursor.receiverGone = true → shared.receiverGone = true)
    (delivered : ∀ other msg, other ≠ call →
      ((other, msg) ∈ shared.delivered ↔ (other, msg) ∈ cursor.delivered)) :
    ∀ other phase, other ≠ call → cursor.At other phase → cursor.Agrees other phase →
      shared.Agrees other phase := by
  intro other phase different there agrees
  have out : cursor.rx = .checkedOut := (consistent.phases call before found).checkedOut holds
  have others : phase.holds = false := by
    by_contra also
    exact different (consistent.holder other call phase before there found (by simpa using also)
      holds)
  refine agrees.frame others ?_ gone fun msg => delivered other msg different
  intro closed
  rw [out] at closed
  cases closed

/-- The receiver stays out: only the channel and the batch change. -/
theorem Consistent.keeps (consistent : cursor.Consistent) (found : cursor.At call before)
    (holds : before.holds = true) (still : after.holds = true) (queue : List Msg)
    (unfailed : after.failed = before.failed) (own : { cursor with queue }.Agrees call after) :
    ({ cursor with queue }.setCall call after).Consistent := by
  have out : cursor.rx = .checkedOut := (consistent.phases call before found).checkedOut holds
  refine consistent.setCall found
    { calls := rfl, sound := ?_, known := fun entry member => .inl member, own
      others := consistent.others_of_holds found holds id fun _ _ _ => Iff.rfl
      holder := fun _ => .inl holds, held := fun _ => .inl still
      failure := fun failed => .inl (unfailed ▸ failed), raised := ?_, woken := .inl out }
  · exact ⟨consistent.sound.buffer, consistent.sound.order, consistent.sound.once,
      fun away => absurd out away, consistent.sound.usable, fun closed => by
        rw [out] at closed
        cases closed⟩
  · intro gone
    cases failed : before.failed with
    | true => exact .inl (unfailed.trans failed)
    | false => exact .inr ⟨rfl, gone⟩

theorem Consistent.receive (consistent : cursor.Consistent) (found : cursor.At call .awaiting)
    {next : Cursor Msg} (fired : cursor.advanceCall call .awaiting = some next) :
    next.Consistent := by
  obtain ⟨undelivered, out, present, whole⟩ := consistent.phases call _ found
  simp only [advanceCall] at fired
  split at fired
  · rename_i msg queue queued
    obtain rfl := Option.some.inj fired
    refine consistent.keeps found rfl rfl queue rfl ⟨undelivered, ⟨out, present, ?_⟩, nofun⟩
    rw [← whole, queued]
    simp
  · rename_i empty
    split at fired
    · rename_i ended
      obtain rfl := Option.some.inj fired
      exact consistent.keeps found rfl rfl cursor.queue rfl
        ⟨undelivered, ⟨out, present, whole⟩, fun _ => ⟨ended, empty⟩⟩
    · cases fired

theorem Consistent.drain (consistent : cursor.Consistent) {batch : List Msg}
    (found : cursor.At call (.draining batch)) {next : Cursor Msg}
    (fired : cursor.advanceCall call (.draining batch) = some next) : next.Consistent := by
  obtain ⟨undelivered, ⟨out, present, whole⟩, begun⟩ := consistent.phases call _ found
  have returns : (cursor.setCall call (.returned (.ok batch))).Consistent :=
    consistent.keeps found rfl rfl cursor.queue rfl
      ⟨undelivered, ⟨out, present, whole⟩, fun empty => absurd empty begun⟩
  simp only [advanceCall] at fired
  split at fired
  · split at fired
    · rename_i msg queue queued
      obtain rfl := Option.some.inj fired
      refine consistent.keeps found rfl rfl queue rfl ⟨undelivered, ⟨out, present, ?_⟩, by simp⟩
      rw [← whole, queued]
      simp
    · obtain rfl := Option.some.inj fired
      exact returns
  · obtain rfl := Option.some.inj fired
    exact returns

theorem Consistent.giveBack (consistent : cursor.Consistent) {batch : List Msg}
    (found : cursor.At call (.returned (.ok batch))) : (cursor.giveBack call batch).Consistent := by
  obtain ⟨undelivered, ⟨out, present, whole⟩, ended⟩ := consistent.phases call _ found
  have away : cursor.rx ≠ .here := by
    rw [out]
    decide
  have empty : cursor.buf = [] := consistent.sound.buffer away
  have order := consistent.sound.order
  rw [empty, List.append_nil] at order
  rw [Cursor.giveBack, empty, List.nil_append]
  cases batch with
  | nil =>
      have atEnd := ended rfl
      rw [List.append_nil] at whole
      refine consistent.setCall found
        { calls := rfl, sound := ?_, known := fun entry member => .inl member
          own := ⟨undelivered, rfl⟩
          others := consistent.others_of_holds found rfl id fun _ _ _ => Iff.rfl
          holder := nofun, held := nofun, failure := nofun
          raised := fun gone => .inr ⟨rfl, gone⟩, woken := .inr (.inl ⟨_, rfl⟩) }
      refine ⟨fun _ => rfl, ?_, consistent.sound.once, fun _ _ => ?_, nofun, fun _ => .inl atEnd⟩
      · rw [List.append_nil, List.append_nil]
        exact order
      · rw [List.append_nil]
        exact whole
  | cons msg buf =>
      refine consistent.setCall found
        { calls := rfl, sound := ?_, known := known_deliver rfl msg
          own := reached_deliver undelivered msg
          others := consistent.others_of_holds found rfl id fun other earlier different =>
            mem_deliver_other different _ msg earlier
          holder := nofun, held := nofun, failure := nofun
          raised := fun gone => .inr ⟨rfl, gone⟩, woken := .inr (.inl ⟨_, rfl⟩) }
      have before : Sound { cursor with
          rx := .here, received := cursor.received ++ msg :: buf, buf := msg :: buf } := by
        refine ⟨fun elsewhere => absurd rfl elsewhere, ?_, consistent.sound.once, fun _ _ => whole,
          fun _ => present, nofun⟩
        rw [order]
      exact before.deliver undelivered rfl

theorem Consistent.giveUp (consistent : cursor.Consistent) {error : TaskError}
    (found : cursor.At call (.returned (.error error))) :
    ({ cursor with rx := .closed }.setCall call (.notifying (.failed error))).Consistent := by
  obtain ⟨undelivered, out, gone⟩ := consistent.phases call _ found
  have away : cursor.rx ≠ .here := by
    rw [out]
    decide
  refine consistent.setCall found
    { calls := rfl, sound := ?_, known := fun entry member => .inl member
      own := ⟨undelivered, rfl, gone⟩
      others := consistent.others_of_holds found rfl id fun _ _ _ => Iff.rfl
      holder := nofun, held := nofun, failure := fun _ => .inl rfl, raised := fun _ => .inl rfl
      woken := .inr (.inl ⟨_, rfl⟩) }
  refine ⟨fun _ => consistent.sound.buffer away, consistent.sound.order, consistent.sound.once,
    fun _ present => ?_, nofun, fun _ => .inr gone⟩
  rw [gone] at present
  cases present

theorem Consistent.fail (consistent : cursor.Consistent) {phase : NextPhase Msg}
    (found : cursor.At call phase) {error : TaskError} {next : Cursor Msg}
    (fired : cursor.failCall call error phase = some next) : next.Consistent := by
  have lost (holds : phase.holds = true) (undelivered : cursor.Undelivered call)
      (present : cursor.receiverGone = false) :
      ({ cursor with receiverGone := true, queue := [] }.setCall call
        (.returned (.error error))).Consistent := by
    have out : cursor.rx = .checkedOut := (consistent.phases call phase found).checkedOut holds
    have away : cursor.rx ≠ .here := by
      rw [out]
      decide
    refine consistent.setCall found
      { calls := rfl, sound := ?_, known := fun entry member => .inl member
        own := ⟨undelivered, out, rfl⟩
        others := consistent.others_of_holds found holds (fun _ => rfl) fun _ _ _ => Iff.rfl
        holder := fun _ => .inl holds, held := fun _ => .inl rfl, failure := fun _ => .inr present
        raised := fun _ => .inl rfl, woken := .inl out }
    exact ⟨consistent.sound.buffer, consistent.sound.order, consistent.sound.once, nofun,
      fun here => absurd here away, fun _ => .inr rfl⟩
  have agrees := consistent.phases call phase found
  cases phase with
  | awaiting =>
      obtain rfl := Option.some.inj fired
      exact lost rfl agrees.1 agrees.2.2.1
  | draining batch =>
      obtain rfl := Option.some.inj fired
      exact lost rfl agrees.1 agrees.2.1.2.1
  | calling | retrying | waiting | returned | notifying | done => cases fired

/-! ## Signals -/

theorem at_notified {phase : NextPhase Msg}
    (there : At { cursor with calls := cursor.calls.map NextPhase.notified } call phase) :
    ∃ earlier, cursor.At call earlier ∧ phase = earlier.notified := by
  rw [At, List.getElem?_map] at there
  obtain ⟨earlier, found, rfl⟩ := Option.map_eq_some_iff.mp there
  exact ⟨earlier, found, rfl⟩

theorem notified_at {phase : NextPhase Msg} (there : cursor.At call phase) :
    At { cursor with calls := cursor.calls.map NextPhase.notified } call phase.notified := by
  rw [At, List.getElem?_map, show cursor.calls[call]? = some phase from there]
  rfl

theorem notified_ne_unsignalled (phase : NextPhase Msg) : phase.notified ≠ .waiting false := by
  cases phase <;> nofun

@[simp] theorem notified_holds (phase : NextPhase Msg) : phase.notified.holds = phase.holds := by
  cases phase <;> rfl

@[simp] theorem notified_failed (phase : NextPhase Msg) : phase.notified.failed = phase.failed := by
  cases phase <;> rfl

theorem Consistent.notifyAll (consistent : cursor.Consistent) :
    Consistent { cursor with calls := cursor.calls.map NextPhase.notified } := by
  have most (test : NextPhase Msg → Bool) (same : ∀ phase, test phase.notified = test phase)
      (before : cursor.AtMostOne test) :
      AtMostOne { cursor with calls := cursor.calls.map NextPhase.notified } test := by
    intro first second p q atFirst atSecond firstPasses secondPasses
    obtain ⟨p, firstBefore, rfl⟩ := at_notified atFirst
    obtain ⟨q, secondBefore, rfl⟩ := at_notified atSecond
    rw [same] at firstPasses secondPasses
    exact before first second p q firstBefore secondBefore firstPasses secondPasses
  have someCall (test : NextPhase Msg → Bool) (same : ∀ phase, test phase.notified = test phase)
      (before : cursor.SomeCall test) :
      SomeCall { cursor with calls := cursor.calls.map NextPhase.notified } test := by
    obtain ⟨call, phase, there, passes⟩ := before
    exact ⟨call, phase.notified, notified_at there, (same phase).trans passes⟩
  refine
    { sound := ⟨consistent.sound.1, consistent.sound.2, consistent.sound.3, consistent.sound.4,
        consistent.sound.5, consistent.sound.6⟩
      known := ?_, phases := ?_, holder := most _ notified_holds consistent.holder
      held := fun out => someCall _ notified_holds (consistent.held out)
      failure := most _ notified_failed consistent.failure
      raised := fun gone => someCall _ notified_failed (consistent.raised gone), woken := ?_ }
  · intro entry member
    rw [List.length_map]
    exact consistent.known entry member
  · intro call phase there
    obtain ⟨earlier, found, rfl⟩ := at_notified there
    have agrees := consistent.phases call earlier found
    cases earlier <;> exact agrees
  · intro call there
    obtain ⟨earlier, -, same⟩ := at_notified there
    exact absurd same.symm (notified_ne_unsignalled earlier)

theorem Consistent.notify (consistent : cursor.Consistent) {outcome : NextOutcome Msg}
    (found : cursor.At call (.notifying outcome)) :
    ({ cursor with calls := cursor.calls.map NextPhase.notified }.setCall call
      (.done outcome)).Consistent := by
  have signalled := consistent.notifyAll
  have reached := consistent.phases call _ found
  refine signalled.setCall (notified_at found)
    { calls := rfl, sound := signalled.sound, known := fun entry member => .inl member
      own := reached, others := fun _ _ _ _ agrees => agrees, holder := nofun
      held := fun out => .inr ⟨rfl, out⟩, failure := ?_, raised := ?_, woken := ?_ }
  · intro failed
    cases outcome <;> first | exact .inl rfl | cases failed
  · intro gone
    cases outcome <;> first | exact .inl rfl | exact .inr ⟨rfl, gone⟩
  · refine .inr (.inr ⟨nofun, fun other there => ?_⟩)
    obtain ⟨earlier, -, same⟩ := at_notified there
    exact absurd same.symm (notified_ne_unsignalled earlier)

/-! ## The whole cursor -/

theorem Consistent.send (consistent : cursor.Consistent) (msg : Msg)
    (running : cursor.ended = false) (present : cursor.receiverGone = false) :
    Consistent { cursor with queue := cursor.queue ++ [msg], sent := cursor.sent ++ [msg] } := by
  have sound := consistent.sound
  have kept {batch : List Msg} (whole : cursor.received ++ batch ++ cursor.queue = cursor.sent) :
      cursor.received ++ batch ++ (cursor.queue ++ [msg]) = cursor.sent ++ [msg] := by
    rw [← whole, List.append_assoc _ cursor.queue]
  have notEnded (ended : cursor.ended = true) : False := by
    rw [running] at ended
    cases ended
  refine { consistent with sound := ?_, phases := ?_ }
  · refine ⟨sound.buffer, sound.order, sound.once, fun away _ => ?_, sound.usable, fun closed => ?_⟩
    · have whole := sound.kept away present
      rw [← whole, List.append_assoc]
    · rcases sound.ends closed with ⟨ended, -⟩ | gone
      · exact (notEnded ended).elim
      · exact .inr gone
  · intro call phase there
    have agrees := consistent.phases call phase there
    cases phase with
    | calling | retrying | waiting => exact agrees
    | awaiting =>
        obtain ⟨undelivered, out, present, whole⟩ := agrees
        exact ⟨undelivered, out, present, kept whole⟩
    | draining batch =>
        obtain ⟨undelivered, ⟨out, present, whole⟩, begun⟩ := agrees
        exact ⟨undelivered, ⟨out, present, kept whole⟩, begun⟩
    | returned received =>
        cases received with
        | error error => exact agrees
        | ok batch =>
            obtain ⟨undelivered, ⟨out, present, whole⟩, ended⟩ := agrees
            exact ⟨undelivered, ⟨out, present, kept whole⟩,
              fun empty => (notEnded (ended empty).1).elim⟩
    | notifying outcome | done outcome => cases outcome <;> exact agrees

theorem Consistent.finish (consistent : cursor.Consistent) :
    Consistent { cursor with ended := true } := by
  have sound := consistent.sound
  refine { consistent with sound := ?_, phases := ?_ }
  · refine ⟨sound.buffer, sound.order, sound.once, sound.kept, sound.usable, fun closed => ?_⟩
    exact (sound.ends closed).imp_left fun atEnd => ⟨rfl, atEnd.2⟩
  · intro call phase there
    have agrees := consistent.phases call phase there
    cases phase with
    | calling | retrying | waiting | awaiting | draining => exact agrees
    | returned received =>
        cases received with
        | error error => exact agrees
        | ok batch =>
            obtain ⟨undelivered, out, ended⟩ := agrees
            exact ⟨undelivered, out, fun empty => ⟨rfl, (ended empty).2⟩⟩
    | notifying outcome | done outcome => cases outcome <;> exact agrees

/-- A new call is none of the earlier ones. -/
theorem at_call {phase : NextPhase Msg}
    (there : At { cursor with calls := cursor.calls ++ [.calling] } call phase) :
    cursor.At call phase ∨ call = cursor.calls.length ∧ phase = .calling := by
  rw [At, List.getElem?_append] at there
  split at there
  · exact .inl there
  · rw [List.getElem?_singleton] at there
    split at there
    · exact .inr ⟨by omega, (Option.some.inj there).symm⟩
    · cases there

theorem call_at {phase : NextPhase Msg} (there : cursor.At call phase) :
    At { cursor with calls := cursor.calls ++ [.calling] } call phase := by
  have inside : call < cursor.calls.length := (List.getElem?_eq_some_iff.mp there).1
  rw [At, List.getElem?_append_left inside]
  exact there

theorem Consistent.newCall (consistent : cursor.Consistent) :
    Consistent { cursor with calls := cursor.calls ++ [.calling] } := by
  have most (test : NextPhase Msg → Bool) (fails : test .calling = false)
      (before : cursor.AtMostOne test) :
      AtMostOne { cursor with calls := cursor.calls ++ [.calling] } test := by
    intro first second p q atFirst atSecond firstPasses secondPasses
    rcases at_call atFirst with firstBefore | ⟨-, rfl⟩
    · rcases at_call atSecond with secondBefore | ⟨-, rfl⟩
      · exact before first second p q firstBefore secondBefore firstPasses secondPasses
      · rw [fails] at secondPasses
        cases secondPasses
    · rw [fails] at firstPasses
      cases firstPasses
  have someCall (test : NextPhase Msg → Bool) (before : cursor.SomeCall test) :
      SomeCall { cursor with calls := cursor.calls ++ [.calling] } test := by
    obtain ⟨call, phase, there, passes⟩ := before
    exact ⟨call, phase, call_at there, passes⟩
  have sound := consistent.sound
  refine
    { sound := ⟨sound.1, sound.2, sound.3, sound.4, sound.5, sound.6⟩, known := ?_, phases := ?_
      holder := most _ rfl consistent.holder, held := fun out => someCall _ (consistent.held out)
      failure := most _ rfl consistent.failure
      raised := fun gone => someCall _ (consistent.raised gone), woken := ?_ }
  · intro entry member
    have before := consistent.known entry member
    rw [List.length_append]
    omega
  · intro call phase there
    rcases at_call there with before | ⟨rfl, rfl⟩
    · have agrees := consistent.phases call phase before
      cases phase <;> exact agrees
    · intro msg member
      exact absurd (consistent.known _ member) (lt_irrefl _)
  · intro call there
    rcases at_call there with before | ⟨-, new⟩
    · rcases consistent.woken call before with out | ⟨other, outcome, notifying⟩
      · exact .inl out
      · exact .inr ⟨other, outcome, call_at notifying⟩
    · cases new

theorem Consistent.step {next : Cursor Msg} {event : Event Msg} (consistent : cursor.Consistent)
    (fired : cursor.step event = some next) : next.Consistent := by
  cases event with
  | send msg =>
      simp only [Cursor.step] at fired
      split at fired
      · rename_i ready
        obtain rfl := Option.some.inj fired
        exact consistent.send msg ready.1 ready.2.1
      · cases fired
  | finish =>
      obtain rfl := Option.some.inj fired
      exact consistent.finish
  | call =>
      obtain rfl := Option.some.inj fired
      exact consistent.newCall
  | advance call =>
      obtain ⟨phase, found, fired⟩ := Option.bind_eq_some_iff.mp fired
      cases phase with
      | calling | retrying =>
          obtain rfl := Option.some.inj fired
          exact consistent.takeTurn found rfl rfl
      | waiting signalled =>
          cases signalled with
          | false => cases fired
          | true =>
              obtain rfl := Option.some.inj fired
              exact consistent.takeTurn found rfl rfl
      | awaiting => exact consistent.receive found fired
      | draining batch => exact consistent.drain found fired
      | returned received =>
          cases received with
          | ok batch =>
              obtain rfl := Option.some.inj fired
              exact consistent.giveBack found
          | error error =>
              obtain rfl := Option.some.inj fired
              exact consistent.giveUp found
      | notifying outcome =>
          obtain rfl := Option.some.inj fired
          exact consistent.notify found
      | done outcome => cases fired
  | fail call error =>
      obtain ⟨phase, found, fired⟩ := Option.bind_eq_some_iff.mp fired
      exact consistent.fail found fired
  | wake call =>
      simp only [Cursor.step] at fired
      split at fired
      · rename_i found
        obtain rfl := Option.some.inj fired
        exact consistent.takeTurn found rfl rfl
      · cases fired

theorem consistent_of_reachable (reachable : (cursorMachine Msg).Reachable cursor) :
    cursor.Consistent := by
  refine Machine.Reachable.invariant ?_ (fun consistent fired => consistent.step fired) reachable
  have none (call : Nat) (phase : NextPhase Msg) : ¬ At (cursorMachine Msg).init call phase :=
    nofun
  exact
    { sound := ⟨fun _ => rfl, rfl, List.nodup_nil, fun _ _ => rfl, fun _ => rfl, nofun⟩
      known := nofun, phases := fun call phase there => absurd there (none call phase)
      holder := fun first _ p _ there => absurd there (none first p), held := nofun
      failure := fun first _ p _ there => absurd there (none first p), raised := nofun
      woken := fun call there => absurd there (none call _) }

/-! ## What a caller gets -/

theorem Consistent.mem_delivered (consistent : cursor.Consistent) (call : Nat) (msg : Msg) :
    (call, msg) ∈ cursor.delivered ↔
      ∃ phase, cursor.At call phase ∧ phase.outcome = some (.message msg) := by
  constructor
  · intro member
    have inside := consistent.known _ member
    obtain ⟨phase, there⟩ : ∃ phase, cursor.At call phase := ⟨_, List.getElem?_eq_getElem inside⟩
    refine ⟨phase, there, ?_⟩
    have agrees := consistent.phases call phase there
    have reached (outcome : NextOutcome Msg) (agrees : cursor.Reached call outcome) :
        outcome = .message msg := by
      cases outcome with
      | message other => rw [(agrees msg).mp member]
      | stopIteration => exact absurd member (agrees.1 msg)
      | failed error => exact absurd member (agrees.1 msg)
    cases phase with
    | calling | retrying | waiting => exact absurd member (agrees msg)
    | awaiting | draining => exact absurd member (agrees.1 msg)
    | returned received => cases received <;> exact absurd member (agrees.1 msg)
    | notifying outcome | done outcome => exact congrArg some (reached outcome agrees)
  · rintro ⟨phase, there, same⟩
    have agrees := consistent.phases call phase there
    cases phase with
    | notifying outcome | done outcome =>
        obtain rfl := Option.some.inj same
        exact (agrees msg).mpr rfl
    | calling | retrying | waiting | awaiting | draining | returned => cases same

/-- A failed receive, once its call has given the receiver up, is that call's error alone. -/
theorem Consistent.existsUnique_failed (consistent : cursor.Consistent)
    (closed : cursor.rx = .closed) (gone : cursor.receiverGone = true) :
    ∃! call, ∃ phase error, cursor.At call phase ∧ phase.outcome = some (.failed error) := by
  obtain ⟨call, phase, there, failed⟩ := consistent.raised gone
  have free : phase.holds = false := by
    by_contra holds
    have out := (consistent.phases call phase there).checkedOut (by simpa using holds)
    rw [closed] at out
    cases out
  have raised : ∃ error, phase.outcome = some (.failed error) := by
    unfold NextPhase.failed at failed
    split at failed
    · cases free
    · exact ⟨_, rfl⟩
    · exact ⟨_, rfl⟩
    · cases failed
  obtain ⟨error, raised⟩ := raised
  refine ⟨call, ⟨phase, error, there, raised⟩, ?_⟩
  rintro other ⟨otherPhase, otherError, otherThere, otherRaised⟩
  have otherFailed : otherPhase.failed = true := by
    cases otherPhase with
    | notifying outcome | done outcome =>
        obtain rfl := Option.some.inj otherRaised
        rfl
    | calling | retrying | waiting | awaiting | draining | returned => cases otherRaised
  exact consistent.failure other call otherPhase phase otherThere there otherFailed failed

theorem Consistent.stopped (consistent : cursor.Consistent) {phase : NextPhase Msg}
    (there : cursor.At call phase) (stop : phase.outcome = some .stopIteration) :
    cursor.buf = [] ∧ (cursor.ended = true ∧ cursor.queue = [] ∨
      ∃! failing, ∃ phase error, cursor.At failing phase ∧
        phase.outcome = some (.failed error)) := by
  have closed : cursor.rx = .closed := by
    have agrees := consistent.phases call phase there
    cases phase with
    | notifying outcome | done outcome =>
        obtain rfl := Option.some.inj stop
        exact agrees.2
    | calling | retrying | waiting | awaiting | draining | returned => cases stop
  have away : cursor.rx ≠ .here := by
    rw [closed]
    decide
  refine ⟨consistent.sound.buffer away, (consistent.sound.ends closed).imp_right ?_⟩
  exact consistent.existsUnique_failed closed

/-- Who waits without a signal waits for another call, which has the receiver or is about to
signal. -/
theorem Consistent.waits_for (consistent : cursor.Consistent)
    (waits : cursor.At call (.waiting false)) :
    ∃ other phase, other ≠ call ∧ cursor.At other phase ∧
      (phase.holds = true ∨ ∃ outcome, phase = .notifying outcome) := by
  have different {other : Nat} {phase : NextPhase Msg} (there : cursor.At other phase)
      (unlike : phase ≠ .waiting false) : other ≠ call := by
    rintro rfl
    exact unlike (Option.some.inj (there.symm.trans waits))
  rcases consistent.woken call waits with out | ⟨other, outcome, notifying⟩
  · obtain ⟨other, phase, there, holds⟩ := consistent.held out
    refine ⟨other, phase, different there ?_, there, .inl holds⟩
    rintro rfl
    cases holds
  · exact ⟨other, _, different notifying nofun, notifying, .inr ⟨outcome, rfl⟩⟩

theorem advance_of_at {phase : NextPhase Msg} (there : cursor.At call phase)
    (running : ∀ outcome, phase ≠ .done outcome) (awake : phase ≠ .waiting false) :
    (∃ next, cursor.step (.advance call) = some next) ∨
      phase = .awaiting ∧ cursor.queue = [] ∧ cursor.ended = false := by
  rw [Cursor.step, show cursor.calls[call]? = some phase from there, Option.bind_some]
  cases phase with
  | calling | retrying | notifying => exact .inl ⟨_, rfl⟩
  | waiting signalled =>
      cases signalled with
      | false => exact absurd rfl awake
      | true => exact .inl ⟨_, rfl⟩
  | awaiting =>
      simp only [advanceCall]
      cases cursor.queue with
      | cons msg queue => exact .inl ⟨_, rfl⟩
      | nil =>
          cases cursor.ended with
          | true => exact .inl ⟨_, rfl⟩
          | false => exact .inr ⟨trivial, rfl, rfl⟩
  | draining batch =>
      simp only [advanceCall]
      split
      · split <;> exact .inl ⟨_, rfl⟩
      · exact .inl ⟨_, rfl⟩
  | returned received => cases received <;> exact .inl ⟨_, rfl⟩
  | done outcome => exact absurd rfl (running outcome)

/-- While a call is not done, some call can go on, or one waits for the driver. -/
theorem Consistent.progress (consistent : cursor.Consistent) {phase : NextPhase Msg}
    (there : cursor.At call phase) (running : ∀ outcome, phase ≠ .done outcome) :
    (∃ other next, cursor.step (.advance other) = some next) ∨
      ∃ other, cursor.At other .awaiting ∧ cursor.queue = [] ∧ cursor.ended = false := by
  have goes {other : Nat} {phase : NextPhase Msg} (there : cursor.At other phase)
      (running : ∀ outcome, phase ≠ .done outcome) (awake : phase ≠ .waiting false) :
      (∃ other next, cursor.step (.advance other) = some next) ∨
        ∃ other, cursor.At other .awaiting ∧ cursor.queue = [] ∧ cursor.ended = false := by
    rcases advance_of_at there running awake with enabled | ⟨rfl, empty, unfinished⟩
    · exact .inl ⟨other, enabled⟩
    · exact .inr ⟨other, there, empty, unfinished⟩
  by_cases awake : phase = .waiting false
  · rw [awake] at there
    obtain ⟨other, active, -, at_other, holds | ⟨outcome, rfl⟩⟩ := consistent.waits_for there
    · refine goes at_other ?_ ?_
      · rintro outcome rfl
        cases holds
      · rintro rfl
        cases holds
    · exact goes at_other nofun nofun
  · exact goes there running awake

end Moving

end Cursor

/-- What the channel gave is delivered once and in its order, the end comes after all of it, and
whoever waits unsignalled waits for a call that goes on. -/
theorem cursor_delivers {Msg : Type*} (cursor : Cursor Msg)
    (reachable : (cursorMachine Msg).Reachable cursor) :
    cursor.delivered.map Prod.snd ++ cursor.buf = cursor.received ∧
      (cursor.rx ≠ .checkedOut → cursor.receiverGone = false →
        cursor.received ++ cursor.queue = cursor.sent) ∧
      (cursor.delivered.map Prod.fst).Nodup ∧
      (∀ call msg, (call, msg) ∈ cursor.delivered ↔
        ∃ phase, cursor.At call phase ∧ phase.outcome = some (.message msg)) ∧
      (∀ call phase, cursor.At call phase → phase.outcome = some .stopIteration →
        cursor.buf = [] ∧ (cursor.ended = true ∧ cursor.queue = [] ∨
          ∃! failing, ∃ phase error, cursor.At failing phase ∧
            phase.outcome = some (.failed error))) ∧
      (∀ call, cursor.At call (.waiting false) →
        ∃ other phase, other ≠ call ∧ cursor.At other phase ∧
          (phase.holds = true ∨ ∃ outcome, phase = .notifying outcome)) ∧
      ∀ call phase, cursor.At call phase → (∀ outcome, phase ≠ .done outcome) →
        (∃ other next, cursor.step (.advance other) = some next) ∨
          ∃ other, cursor.At other .awaiting ∧ cursor.queue = [] ∧ cursor.ended = false := by
  have consistent := Cursor.consistent_of_reachable reachable
  refine ⟨consistent.sound.order, consistent.sound.kept, consistent.sound.once,
    consistent.mem_delivered, ?_, ?_, ?_⟩
  · intro call phase there stop
    exact consistent.stopped there stop
  · intro call waits
    exact consistent.waits_for waits
  · intro call phase there running
    exact consistent.progress there running

/-- Two calls: the first has given the receiver back and not yet signalled the second. -/
def givenBack : List (Cursor.Event Nat) :=
  [.call, .call, .send 7, .advance 0, .advance 1, .advance 1, .advance 0, .advance 0, .advance 0]

theorem cursor_delivers_givenBack :
    ∃ cursor, (cursorMachine Nat).run givenBack = some cursor ∧
      cursor.delivered = [(0, 7)] ∧ cursor.At 1 (.waiting false) ∧
      ∃ other phase, other ≠ 1 ∧ cursor.At other phase ∧
        (phase.holds = true ∨ ∃ outcome, phase = .notifying outcome) := by
  refine ⟨_, rfl, rfl, rfl, ?_⟩
  exact (cursor_delivers _ ⟨givenBack, rfl⟩).2.2.2.2.2.1 1 rfl

theorem waiting_without_holder :
    ¬ ∀ cursor : Cursor Nat, (cursorMachine Nat).Reachable cursor →
      ∀ call, cursor.At call (.waiting false) →
        ∃ other phase, other ≠ call ∧ cursor.At other phase ∧ phase.holds = true := by
  intro claimed
  obtain ⟨other, phase, different, there, holds⟩ := claimed _ ⟨givenBack, rfl⟩ 1 rfl
  match other with
  | 0 =>
      obtain rfl := Option.some.inj there
      cases holds
  | 1 => exact different rfl
  | other + 2 => cases there

end Pyronova
