import Mathlib.Tactic
import Pyronova.Execution
import Pyronova.Failures
import Pyronova.Router
import Pyronova.WorkQueue

/-!
# The bridge to the main interpreter

Calls of the main interpreter come from the TPC threads through a bounded queue to a few threads
that run them.  A call waits for its reply and gives up by its budget, which starts once the body
has been read; clients disconnect and threads panic at any moment.  The queue closes with the last
reference to the bridge, and its threads are joined.
-/

namespace Pyronova

/-- `config::BridgeConfig`. -/
structure BridgeConfig where
  workers : ℕ+
  capacity : ℕ+

/-- `REQUEST_BUDGET`, in milliseconds. -/
def REQUEST_BUDGET : Nat := 30000

/-- The task that feeds a streamed body to its handler. -/
inductive BridgeFeeder
  | absent
  | feeding
  | ended
  | aborted
  deriving DecidableEq, Repr

/-- How a call ends for its client. -/
inductive BridgeAnswer (Reply : Type*)
  /-- With what the bridge replied. -/
  | replied (result : Except Failures.Logged Reply)
  | gaveUp (logged : Failures.Logged)
  /-- The client is gone, and the future with it. -/
  | disconnected

/-- Where `dispatch_to_bridge` is. -/
inductive BridgeCaller (Reply : Type*)
  | collecting
  /-- In `await_streamed_reply`, while the body is read. -/
  | streaming
  | awaiting (since : Nat)
  /-- With the reply, making the response of it. -/
  | responding (result : Except Failures.Logged Reply)
  | ended (answer : BridgeAnswer Reply) (time : Nat)

/-- The reply channel. -/
inductive BridgeReply (Reply : Type*)
  | absent
  | pending
  | sent (result : Except Failures.Logged Reply)
  | closed

/-- A request on its way through the bridge; its `GilWorkItem` is the item of the same number. -/
structure BridgeCall (Reply : Type*) where
  /-- The TPC thread that serves the client. -/
  thread : Nat
  tag : Failures.RequestTag
  caller : BridgeCaller Reply
  feeder : BridgeFeeder
  reply : BridgeReply Reply
  /-- How often a bridge thread ran the handler. -/
  runs : Nat
  /-- Since when the caller waits with the body read. -/
  waits : Option Nat
  /-- What the handler failed with. -/
  raised : Option Failures.HandlerError
  /-- What the request added to the log and to `DROPPED_REQUESTS`. -/
  journal : Failures.Journal

/-- Where the bridge is in its life. -/
inductive BridgePhase
  | spawning
  | serving
  /-- `join_all`, from thread `next` on, for a thread that did not start if one did not. -/
  | closing (failed : Option Nat) (next : Nat)
  | closed (failed : Option Nat)
  /-- `shutdown_join` found another reference. -/
  | abandoned

structure BridgeServer (Reply : Type*) where
  clock : Nat
  phase : BridgePhase
  /-- The TPC threads, and which of them still have their reference to the bridge. -/
  holders : List Bool
  work : WorkQueue
  /-- The bridge threads that are in a handler. -/
  running : List Nat
  calls : List (BridgeCall Reply)

inductive BridgeEvent (Reply : Type*)
  /-- `Builder::spawn` of the next bridge thread. -/
  | spawn (started : Bool)
  | spawned
  /-- A TPC thread gets its reference. -/
  | share
  /-- The last reference of a TPC thread goes. -/
  | leave (thread : Nat)
  | shutdown
  | join
  | arrive (thread : Nat) (tag : Failures.RequestTag) (body : RequestBody)
  | bodyEnds (call : Nat)
  | bodyFails (call : Nat) (reject : BodyReject String)
  | feederEnds (call : Nat)
  /-- The caller notices that the feeder has ended. -/
  | bodyRead (call : Nat)
  | receive (call : Nat)
  | respond (call : Nat)
  | timeout (call : Nat)
  | disconnect (call : Nat)
  | pickup (worker : Nat)
  /-- `is_closed`, before the handler is run. -/
  | look (worker : Nat)
  /-- `call_handler_with_hooks` returns, its failure as it is before it is logged. -/
  | complete (worker : Nat) (result : Except Failures.HandlerError Reply)
  /-- `recv` fails, as every sender is gone. -/
  | hangUp (worker : Nat)
  | panic (worker : Nat)
  | tick

namespace BridgeCall

variable {Reply : Type*}

/-- The receiving end of the reply channel is dropped. -/
def callerGone (call : BridgeCall Reply) : Bool :=
  match call.caller with
  | .ended .. => true
  | _ => false

/-- `fail`: the error is logged and answered. -/
def fail (call : BridgeCall Reply) (journal : Failures.Journal) (error : Failures.HandlerError)
    (now : Nat) : BridgeCall Reply :=
  let (logged, journal) := journal.log call.tag error
  { call with journal, caller := .ended (.gaveUp logged) now }

/-- `fail(refuse(..))`. -/
def giveUp (call : BridgeCall Reply) (refusal : Failures.Refusal) (now : Nat) : BridgeCall Reply :=
  let (error, journal) := call.journal.refuse refusal
  call.fail journal error now

/-- `feeder.abort()`, where there is one. -/
def abort (call : BridgeCall Reply) : BridgeCall Reply :=
  { call with feeder := if call.feeder = .absent then .absent else .aborted }

/-- A handler's result; a failure is logged on the thread that ran it. -/
def settle (call : BridgeCall Reply) :
    Except Failures.HandlerError Reply → Except Failures.Logged Reply × BridgeCall Reply
  | .ok reply => (.ok reply, call)
  | .error error =>
      let (logged, journal) := call.journal.log call.tag error
      (.error logged, { call with journal, raised := some error })

/-- `Sender::send`, which a dropped receiver refuses. -/
def send (call : BridgeCall Reply) (result : Except Failures.Logged Reply) : BridgeCall Reply :=
  { call with reply := if call.callerGone then .closed else .sent result }

/-- The item is dropped, and the sender with it. -/
def drop (call : BridgeCall Reply) : BridgeCall Reply := { call with reply := .closed }

end BridgeCall

namespace BridgeServer

variable {Reply : Type*}

def start (config : BridgeConfig) : BridgeServer Reply where
  clock := 0
  phase := .spawning
  holders := []
  work := .new config.capacity
  running := []
  calls := []

def setCall (server : BridgeServer Reply) (id : Nat) (call : BridgeCall Reply) :
    BridgeServer Reply :=
  { server with calls := server.calls.set id call }

/-- The request is put on the queue; a refused one stops its feeder. -/
def dispatch (server : BridgeServer Reply) (id : Nat) (call : BridgeCall Reply) :
    BridgeServer Reply :=
  match server.work.trySend id with
  | .ok work =>
      { server with
        work
        calls := server.calls.set id
          (if call.feeder = .feeding then { call with caller := .streaming, reply := .pending }
          else
            { call with
              caller := .awaiting server.clock
              reply := .pending
              waits := some server.clock }) }
  | .error .full =>
      server.setCall id (call.abort.giveUp (.overloaded "gil=True bridge queue") server.clock)
  | .error .disconnected =>
      server.setCall id (call.abort.giveUp (.poolClosed "gil=True bridge") server.clock)

/-- A request for the main interpreter.  A streamed body is dispatched at once, its feeder started;
a buffered one is collected first. -/
def arrive (server : BridgeServer Reply) (thread : Nat) (tag : Failures.RequestTag)
    (body : RequestBody) : BridgeServer Reply :=
  let call (feeder : BridgeFeeder) : BridgeCall Reply :=
    { thread, tag, feeder
      caller := .collecting
      reply := .absent
      runs := 0
      waits := none
      raised := none
      journal := { dropped := 0, lines := [] } }
  let added (feeder : BridgeFeeder) : BridgeServer Reply :=
    { server with work := server.work.add, calls := server.calls ++ [call feeder] }
  match body with
  | .buffered => added .absent
  | .streamed => (added .feeding).dispatch server.calls.length (call .feeding)

/-- A TPC thread still has its reference. -/
def isHeld (server : BridgeServer Reply) : Bool := server.holders.contains true

def leave (server : BridgeServer Reply) (thread : Nat) : Option (BridgeServer Reply) :=
  if server.holders[thread]? = some true ∧
      ∀ call ∈ server.calls, call.thread = thread → call.callerGone = true then
    let left := { server with holders := server.holders.set thread false }
    -- The bridge goes with the last reference once `shutdown_join` has given its own up.
    match server.phase with
    | .abandoned => some (if left.isHeld then left else { left with work := left.work.close })
    | _ => some left
  else none

/-- `shutdown_join`. -/
def shutdown (server : BridgeServer Reply) : BridgeServer Reply :=
  if server.isHeld then { server with phase := .abandoned }
  else { server with phase := .closing none 0, work := server.work.close }

/-- The next thread is joined, or all have been. -/
def join (server : BridgeServer Reply) (failed : Option Nat) (next : Nat) :
    Option (BridgeServer Reply) :=
  match server.work.workers[next]? with
  | some .gone => some { server with phase := .closing failed (next + 1) }
  | some _ => none
  | none => some { server with phase := .closed failed }

/-- A worker that has taken a call runs its handler, or drops it as its caller is gone. -/
def look (server : BridgeServer Reply) (worker : Nat) : Option (BridgeServer Reply) :=
  server.work.finish worker |>.bind fun (id, work) => server.calls[id]?.bind fun call =>
    if worker ∈ server.running then none
    else if call.callerGone then
      some { server with work, calls := server.calls.set id call.drop }
    else
      some
        { server with
          running := worker :: server.running
          calls := server.calls.set id { call with runs := call.runs + 1 } }

/-- The handler that a worker runs is done. -/
def complete (server : BridgeServer Reply) (worker : Nat)
    (result : Except Failures.HandlerError Reply) : Option (BridgeServer Reply) :=
  server.work.finish worker |>.bind fun (id, work) => server.calls[id]?.bind fun call =>
    if worker ∈ server.running then
      let (result, call) := call.settle result
      some
        { server with
          work
          running := server.running.filter (· ≠ worker)
          calls := server.calls.set id (call.send result) }
    else none

/-- A bridge thread panics; what it has is dropped, and with the last thread what is queued. -/
def panic (server : BridgeServer Reply) (worker : Nat) : BridgeServer Reply :=
  let work := server.work.lose worker
  { server with
    work
    running := server.running.filter (· ≠ worker)
    calls := List.zipWith (fun call (before, after) => if before = after then call else call.drop)
      server.calls (server.work.items.zip work.items) }

/-- What an event does to the call it is about. -/
def callStep (server : BridgeServer Reply) (id : Nat) (call : BridgeCall Reply) :
    BridgeEvent Reply → Option (BridgeServer Reply)
  | .bodyEnds _ =>
      match call.caller with
      | .collecting => some (server.dispatch id call)
      | _ => none
  | .bodyFails _ reject =>
      match call.caller with
      | .collecting =>
          some (server.setCall id (call.fail call.journal (.bodyRejected reject) server.clock))
      | _ => none
  | .feederEnds _ =>
      if call.feeder = .feeding then some (server.setCall id { call with feeder := .ended })
      else none
  | .bodyRead _ =>
      match call.caller with
      | .streaming =>
          if call.feeder = .feeding then none
          else
            some (server.setCall id
              { call with caller := .awaiting server.clock, waits := some server.clock })
      | _ => none
  | .receive _ =>
      match call.caller, call.reply with
      | .streaming, .sent result | .awaiting _, .sent result =>
          some (server.setCall id { call with caller := .responding result })
      | .streaming, .closed | .awaiting _, .closed =>
          some (server.setCall id
            (call.giveUp (.workerLost "the gil=True bridge dropped the request") server.clock))
      | _, _ => none
  | .respond _ =>
      match call.caller with
      | .responding result =>
          some (server.setCall id { call with caller := .ended (.replied result) server.clock })
      | _ => none
  | .timeout _ =>
      match call.caller, call.reply with
      | .awaiting since, .pending =>
          if since + REQUEST_BUDGET ≤ server.clock then
            some (server.setCall id (call.giveUp .timeout server.clock))
          else none
      | _, _ => none
  | .disconnect _ =>
      if call.callerGone then none
      else some (server.setCall id { call with caller := .ended .disconnected server.clock })
  | _ => none

/-- The call an event is about. -/
def call? : BridgeEvent Reply → Option Nat
  | .bodyEnds call | .bodyFails call _ | .feederEnds call | .bodyRead call | .receive call
  | .respond call | .timeout call | .disconnect call => some call
  | _ => none

def step (config : BridgeConfig) (server : BridgeServer Reply) (event : BridgeEvent Reply) :
    Option (BridgeServer Reply) :=
  match event, server.phase with
  | .spawn started, .spawning =>
      if server.work.workers.length < config.workers then
        if started then some { server with work := server.work.hire }
        else
          some
            { server with
              phase := .closing (some server.work.workers.length) 0
              work := server.work.close }
      else none
  | .spawned, .spawning =>
      if server.work.workers.length = config.workers then some { server with phase := .serving }
      else none
  | .share, .serving => some { server with holders := server.holders ++ [true] }
  | .leave thread, _ => server.leave thread
  | .shutdown, .serving => some server.shutdown
  | .join, .closing failed next => server.join failed next
  | .arrive thread tag body, _ =>
      if server.holders[thread]? = some true then some (server.arrive thread tag body) else none
  | .pickup worker, _ => (server.work.take worker).map fun (_, work) => { server with work }
  | .look worker, _ => server.look worker
  | .complete worker result, _ => server.complete worker result
  | .hangUp worker, _ => (server.work.leave worker).map fun work => { server with work }
  | .panic worker, _ =>
      match server.work.workers[worker]? with
      | some .gone | none => none
      | some _ => some (server.panic worker)
  | .tick, _ => some { server with clock := server.clock + 1 }
  | event, _ =>
      (call? event).bind fun id => server.calls[id]?.bind fun call => server.callStep id call event

end BridgeServer

/-- The bridge and its callers, in any order of steps. -/
def bridgeMachine (Reply : Type*) (config : BridgeConfig) :
    Machine (BridgeServer Reply) (BridgeEvent Reply) where
  init := .start config
  step := BridgeServer.step config

/-! ## One call -/

namespace BridgeCall

variable {Reply : Type*}

/-- What the caller gave up for. -/
def surrender (call : BridgeCall Reply) : Option Failures.HandlerError :=
  match call.caller with
  | .ended (.gaveUp logged) _ => some logged.error
  | _ => none

/-- What is so when a caller gives up, by what it gave up for. -/
def Reason (call : BridgeCall Reply) (time : Nat) : Failures.HandlerError → Prop
  | .bodyRejected _ => call.reply = .absent
  | .refused (.overloaded _) | .refused (.poolClosed _) =>
      call.reply = .absent ∧ call.feeder ≠ .feeding
  | .refused (.workerLost _) => call.reply = .closed
  | .refused .timeout => ∃ since, call.waits = some since ∧ since + REQUEST_BUDGET ≤ time
  | _ => False

/-- The call is where its item is. -/
def At (call : BridgeCall Reply) : ItemPlace → Prop
  | .outside => call.runs = 0 ∧ call.reply = .absent ∧ call.raised = none ∧
      (call.caller = .collecting ∨ call.callerGone = true)
  | .queued => call.runs = 0 ∧ call.reply = .pending ∧ call.raised = none ∧
      call.caller ≠ .collecting
  | .taken _ => call.runs ≤ 1 ∧ call.reply = .pending ∧ call.raised = none ∧
      call.caller ≠ .collecting
  | .done => call.runs ≤ 1 ∧ (call.reply = .closed ∨ ∃ result, call.reply = .sent result) ∧
      ((call.raised ≠ none ∨ ∃ result, call.reply = .sent result) → call.runs = 1) ∧
      call.caller ≠ .collecting

/-- The caller is where the reply allows it to be. -/
def Waits (call : BridgeCall Reply) (clock : Nat) : Prop :=
  match call.caller with
  | .collecting | .streaming => call.waits = none
  | .awaiting since => call.waits = some since ∧ since ≤ clock
  | .responding result => call.reply = .sent result
  | .ended (.replied result) _ => call.reply = .sent result
  | .ended (.gaveUp logged) time => logged.requestId = call.tag.id ∧ call.Reason time logged.error
  | .ended .disconnected _ => True

/-- `refuse` made the error. -/
def isRefused : Failures.HandlerError → Bool
  | .refused _ => true
  | _ => false

/-- What the request added to the log and to the count of dropped requests: what its handler failed
with and what its caller gave up for, each once. -/
structure Journaled (call : BridgeCall Reply) (surrender : Option Failures.HandlerError) :
    Prop where
  dropped : call.journal.dropped = if surrender.any isRefused then 1 else 0
  lines : call.journal.lines.Perm
    ((call.raised.toList ++ surrender.toList).map (Failures.HandlerError.line call.tag))

structure Sound (call : BridgeCall Reply) (place : ItemPlace) (clock : Nat) : Prop where
  place : call.At place
  waits : call.Waits clock
  /-- A failure that was sent is the handler's. -/
  failed : ∀ logged, call.reply = .sent (.error logged) →
    call.raised = some logged.error ∧ logged.requestId = call.tag.id
  /-- The budget starts when the body has been read. -/
  fed : call.waits ≠ none → call.feeder ≠ .feeding
  journaled : call.Journaled call.surrender

variable {call : BridgeCall Reply} {place : ItemPlace} {clock time : Nat}

theorem Sound.later (sound : call.Sound place clock) (later : clock ≤ time) :
    call.Sound place time := by
  refine ⟨sound.place, ?_, sound.failed, sound.fed, sound.journaled⟩
  have waits := sound.waits
  unfold Waits at waits ⊢
  split at waits
  · exact waits
  · exact waits
  · exact ⟨waits.1, waits.2.trans later⟩
  · exact waits
  · exact waits
  · exact waits
  · trivial

theorem surrender_eq_none (waiting : call.callerGone = false) : call.surrender = none := by
  unfold callerGone at waiting
  unfold surrender
  split at waiting
  · cases waiting
  · rename_i other
    split
    · rename_i ended
      exact absurd ended (other _ _)
    · rfl

/-- A caller that has not ended gives up. -/
theorem Journaled.fail {error : Failures.HandlerError} {journal : Failures.Journal}
    (journaled : call.Journaled none) (lines : journal.lines = call.journal.lines)
    (dropped : journal.dropped = if isRefused error then 1 else 0) :
    (call.fail journal error time).Journaled (some error) where
  dropped := by simpa [BridgeCall.fail, Failures.Journal.log] using dropped
  lines := by
    have before := journaled.lines
    simp only [Option.toList_none, List.append_nil] at before
    simp only [BridgeCall.fail, Failures.Journal.log, lines, List.map_append, Option.toList_some,
      List.map_cons, List.map_nil]
    exact before.append_right _

/-- A caller that waits, or has its body read, gives up for a reason. -/
theorem Sound.fail {error : Failures.HandlerError} {journal : Failures.Journal}
    {feeder : BridgeFeeder} (sound : call.Sound place clock) (waiting : call.callerGone = false)
    (lines : journal.lines = call.journal.lines)
    (dropped : journal.dropped = if isRefused error then 1 else 0)
    (stopped : call.waits ≠ none → feeder ≠ .feeding)
    (reason : { call with feeder }.Reason clock error) :
    ({ call with feeder }.fail journal error clock).Sound place clock where
  place := by
    have at' := sound.place
    unfold At at at' ⊢
    cases place with
    | outside => exact ⟨at'.1, at'.2.1, at'.2.2.1, .inr rfl⟩
    | queued => exact ⟨at'.1, at'.2.1, at'.2.2.1, by simp [BridgeCall.fail]⟩
    | taken worker => exact ⟨at'.1, at'.2.1, at'.2.2.1, by simp [BridgeCall.fail]⟩
    | done => exact ⟨at'.1, at'.2.1, at'.2.2.1, by simp [BridgeCall.fail]⟩
  waits := ⟨rfl, reason⟩
  failed := sound.failed
  fed := stopped
  journaled := by
    have before := sound.journaled
    rw [surrender_eq_none waiting] at before
    exact Journaled.fail ⟨before.dropped, before.lines⟩ lines dropped

/-- A refusal is counted. -/
theorem Sound.giveUp {refusal : Failures.Refusal} {feeder : BridgeFeeder}
    (sound : call.Sound place clock) (waiting : call.callerGone = false)
    (stopped : call.waits ≠ none → feeder ≠ .feeding)
    (reason : { call with feeder }.Reason clock (.refused refusal)) :
    ({ call with feeder }.giveUp refusal clock).Sound place clock := by
  refine sound.fail waiting rfl ?_ stopped reason
  have before := sound.journaled.dropped
  rw [surrender_eq_none waiting] at before
  change call.journal.dropped + 1 = 1
  rw [before]
  rfl

/-- An item whose reply is to come is queued, or with a bridge thread. -/
theorem Sound.of_pending (sound : call.Sound place clock) (pending : call.reply = .pending) :
    (place = .queued ∨ ∃ worker, place = .taken worker) ∧ call.runs ≤ 1 ∧ call.raised = none ∧
      call.caller ≠ .collecting := by
  have at' := sound.place
  cases place with
  | outside =>
      have absent := at'.2.1
      rw [pending] at absent
      cases absent
  | queued => exact ⟨.inl rfl, by rw [at'.1]; exact Nat.zero_le _, at'.2.2⟩
  | taken worker => exact ⟨.inr ⟨worker, rfl⟩, at'.1, at'.2.2⟩
  | done =>
      obtain closed | ⟨result, sent⟩ := at'.2.1
      · rw [pending] at closed
        cases closed
      · rw [pending] at sent
        cases sent

/-- The reply comes, or is not to come. -/
theorem Waits.reply (waits : call.Waits clock) (pending : call.reply = .pending)
    (reply : BridgeReply Reply) : { call with reply }.Waits clock := by
  have unsent {result : Except Failures.Logged Reply} : call.reply ≠ .sent result := by
    simp [pending]
  cases caller : call.caller with
  | collecting => simpa only [Waits, caller] using waits
  | streaming => simpa only [Waits, caller] using waits
  | awaiting since => simpa only [Waits, caller] using waits
  | responding result =>
      have sent : call.reply = .sent result := by simpa only [Waits, caller] using waits
      exact absurd sent unsent
  | ended answer time =>
      cases answer with
      | replied result =>
          have sent : call.reply = .sent result := by simpa only [Waits, caller] using waits
          exact absurd sent unsent
      | gaveUp logged =>
          simp only [Waits, caller] at waits ⊢
          refine ⟨waits.1, ?_⟩
          have reason := waits.2
          unfold Reason at reason ⊢
          split at reason
          · simp [pending] at reason
          · simp [pending] at reason
          · simp [pending] at reason
          · simp [pending] at reason
          · exact reason
          · exact reason
      | disconnected => simp only [Waits]

theorem Sound.drop (sound : call.Sound place clock) (pending : call.reply = .pending) :
    call.drop.Sound .done clock := by
  obtain ⟨-, runs, raised, started⟩ := sound.of_pending pending
  refine ⟨⟨runs, .inl rfl, ?_, started⟩, sound.waits.reply pending _, ?_, sound.fed,
    ⟨sound.journaled.dropped, sound.journaled.lines⟩⟩
  · rintro (failed | ⟨result, sent⟩)
    · exact absurd raised failed
    · cases sent
  · intro logged sent
    cases sent

theorem reply_send (call : BridgeCall Reply) (result : Except Failures.Logged Reply) :
    (call.send result).reply = .closed ∨ (call.send result).reply = .sent result := by
  unfold BridgeCall.send
  cases call.callerGone
  · exact .inr rfl
  · exact .inl rfl

/-- The handler has run, and its result is sent to a caller that is still there. -/
theorem Sound.settle (sound : call.Sound place clock) (pending : call.reply = .pending)
    (ran : call.runs = 1) (result : Except Failures.HandlerError Reply) :
    ((call.settle result).2.send (call.settle result).1).Sound .done clock := by
  obtain ⟨-, -, raised, started⟩ := sound.of_pending pending
  have journaled := sound.journaled
  have replied := reply_send (call.settle result).2 (call.settle result).1
  have place : (call.settle result).2.runs = 1 ∧ (call.settle result).2.caller = call.caller := by
    cases result with
    | ok reply => exact ⟨ran, rfl⟩
    | error error => exact ⟨ran, rfl⟩
  have at' : ((call.settle result).2.send (call.settle result).1).At .done :=
    ⟨place.1.le, replied.imp_right fun sent => ⟨_, sent⟩, fun _ => place.1,
      fun same => started (place.2.symm.trans same)⟩
  cases result with
  | ok reply =>
      refine ⟨at', sound.waits.reply pending _, ?_, sound.fed,
        ⟨journaled.dropped, journaled.lines⟩⟩
      intro logged sent
      obtain closed | ok := replied
      · rw [closed] at sent
        cases sent
      · rw [ok] at sent
        cases sent
  | error error =>
      refine ⟨at', sound.waits.reply pending _, ?_, sound.fed, ⟨journaled.dropped, ?_⟩⟩
      · intro logged sent
        obtain closed | failed := replied
        · rw [closed] at sent
          cases sent
        · rw [failed] at sent
          obtain rfl := Except.error.inj (BridgeReply.sent.inj sent)
          exact ⟨rfl, rfl⟩
      · have lines := journaled.lines
        rw [raised, Option.toList_none, List.nil_append] at lines
        exact (lines.append_right _).trans List.perm_append_comm

/-- The feeder is no longer feeding. -/
theorem Sound.stop {feeder : BridgeFeeder} (sound : call.Sound place clock)
    (stopped : feeder ≠ .feeding) : { call with feeder }.Sound place clock := by
  refine ⟨sound.place, ?_, sound.failed, fun _ => stopped,
    ⟨sound.journaled.dropped, sound.journaled.lines⟩⟩
  have waits := sound.waits
  cases caller : call.caller with
  | collecting => simpa only [Waits, caller] using waits
  | streaming => simpa only [Waits, caller] using waits
  | awaiting since => simpa only [Waits, caller] using waits
  | responding result => simpa only [Waits, caller] using waits
  | ended answer time =>
      cases answer with
      | replied result => simpa only [Waits, caller] using waits
      | gaveUp logged =>
          simp only [Waits, caller] at waits ⊢
          refine ⟨waits.1, ?_⟩
          have reason := waits.2
          unfold Reason at reason ⊢
          split at reason
          · exact reason
          · exact ⟨reason.1, stopped⟩
          · exact ⟨reason.1, stopped⟩
          · exact reason
          · exact reason
          · exact reason
      | disconnected => simp only [Waits]

/-- A caller that has been dispatched goes on, or one that waits ends without giving up. -/
theorem Sound.moves {caller : BridgeCaller Reply} {waits : Option Nat}
    (sound : call.Sound place clock) (waiting : call.callerGone = false)
    (sent : place ≠ .outside ∨ { call with caller }.callerGone = true)
    (started : caller ≠ .collecting) (quiet : { call with caller }.surrender = none)
    (now : { call with caller, waits }.Waits clock)
    (fed : waits ≠ none → call.feeder ≠ .feeding) :
    { call with caller, waits }.Sound place clock := by
  have journaled := sound.journaled
  rw [surrender_eq_none waiting] at journaled
  refine ⟨?_, now, sound.failed, fed, ?_⟩
  · have at' := sound.place
    cases place with
    | outside =>
        exact ⟨at'.1, at'.2.1, at'.2.2.1, .inr (sent.resolve_left fun other => other rfl)⟩
    | queued => exact ⟨at'.1, at'.2.1, at'.2.2.1, started⟩
    | taken worker => exact ⟨at'.1, at'.2.1, at'.2.2.1, started⟩
    | done => exact ⟨at'.1, at'.2.1, at'.2.2.1, started⟩
  · have same : { call with caller, waits }.surrender = none := quiet
    rw [same]
    exact ⟨journaled.dropped, journaled.lines⟩

/-- A caller past the collecting of its body has been dispatched. -/
theorem Sound.sent (sound : call.Sound place clock) (waiting : call.callerGone = false)
    (started : call.caller ≠ .collecting) : place ≠ .outside := by
  rintro rfl
  obtain collecting | gone := sound.place.2.2.2
  · exact started collecting
  · rw [waiting] at gone
    cases gone

/-- The handler begins to run. -/
theorem Sound.runs {worker : Nat} (sound : call.Sound (.taken worker) clock)
    (unrun : call.runs = 0) :
    { call with runs := call.runs + 1 }.Sound (.taken worker) clock :=
  ⟨⟨(congrArg (· + 1) unrun).le, sound.place.2⟩, sound.waits, sound.failed, sound.fed,
    ⟨sound.journaled.dropped, sound.journaled.lines⟩⟩

end BridgeCall

/-! ## The server -/

namespace BridgeServer

variable {Reply : Type*} {config : BridgeConfig} {server next : BridgeServer Reply}
  {id : Nat} {call after : BridgeCall Reply}

/-- What is so in a phase. -/
def Stands (config : BridgeConfig) (holders : List Bool) (work : WorkQueue) : BridgePhase → Prop
  | .spawning => work.isOpen = true ∧ holders = [] ∧ work.workers.length ≤ config.workers
  | .serving => work.isOpen = true ∧ work.workers.length = config.workers
  | .closing failed next => work.isOpen = false ∧ holders.contains true = false ∧
      (∀ worker < next, work.workers[worker]? = some .gone) ∧
      (failed = none → work.workers.length = config.workers)
  | .closed failed => work.isOpen = false ∧ holders.contains true = false ∧
      (∀ worker : Nat, worker < work.workers.length → work.workers[worker]? = some .gone) ∧
      (failed = none → work.workers.length = config.workers)
  | .abandoned => work.isOpen = holders.contains true ∧ work.workers.length = config.workers

/-- A call that a thread has taken was run if the thread is in a handler. -/
structure Runs (calls : List (BridgeCall Reply)) (items : List ItemPlace) (running : List Nat) :
    Prop where
  ran : ∀ (id worker : Nat) (call : BridgeCall Reply), calls[id]? = some call →
    items[id]? = some (.taken worker) → call.runs = if worker ∈ running then 1 else 0
  busy : ∀ worker ∈ running, ∃ id : Nat, items[id]? = some (.taken worker)

/-- One call changes, and its item's place, and what the thread is in that has or had it. -/
theorem Runs.change {calls : List (BridgeCall Reply)} {items : List ItemPlace}
    {running later : List Nat} {before place : ItemPlace} (runs : Runs calls items running)
    (found : calls[id]? = some call) (here : items[id]? = some before)
    (own : ∀ worker, place = .taken worker → after.runs = if worker ∈ later then 1 else 0)
    (others : ∀ worker, before ≠ .taken worker → place ≠ .taken worker →
      (worker ∈ later ↔ worker ∈ running))
    (left : ∀ worker ∈ later, before = .taken worker → place = .taken worker)
    (lone : ∀ worker other, before = .taken worker ∨ place = .taken worker →
      items[other]? = some (.taken worker) → other = id) :
    Runs (calls.set id after) (items.set id place) later where
  ran other worker there found' here' := by
    rw [List.getElem?_set, if_pos (List.getElem?_eq_some_iff.mp found).1] at found'
    rw [List.getElem?_set, if_pos (List.getElem?_eq_some_iff.mp here).1] at here'
    split at found'
    · rename_i same
      rw [if_pos same] at here'
      obtain rfl := Option.some.inj found'
      exact own worker (Option.some.inj here')
    · rename_i different
      rw [if_neg different] at here'
      have apart : ¬ (before = .taken worker ∨ place = .taken worker) :=
        fun taken => different (lone worker other taken here').symm
      rw [runs.ran other worker there found' here']
      simp only [others worker (fun same => apart (.inl same)) fun same => apart (.inr same)]
  busy worker member := by
    have bound := (List.getElem?_eq_some_iff.mp here).1
    by_cases moved : place = .taken worker
    · exact ⟨id, by rw [List.getElem?_set_self bound, moved]⟩
    · have still : before ≠ .taken worker := fun same => moved (left worker member same)
      obtain ⟨other, there⟩ := runs.busy worker ((others worker still moved).mp member)
      refine ⟨other, ?_⟩
      rw [List.getElem?_set_ne]
      · exact there
      · rintro rfl
        exact still (Option.some.inj (here.symm.trans there))

/-- A call changes that no thread takes up or is done with. -/
theorem Runs.keep {calls : List (BridgeCall Reply)} {items : List ItemPlace}
    {running : List Nat} (runs : Runs calls items running) (found : calls[id]? = some call)
    (same : after.runs = call.runs) : Runs (calls.set id after) items running where
  ran other worker there found' here' := by
    rw [List.getElem?_set, if_pos (List.getElem?_eq_some_iff.mp found).1] at found'
    split at found'
    · rename_i own
      subst own
      obtain rfl := Option.some.inj found'
      exact same.trans (runs.ran _ worker call found here')
    · exact runs.ran other worker there found' here'
  busy := runs.busy

theorem Runs.add {calls : List (BridgeCall Reply)} {items : List ItemPlace} {running : List Nat}
    (runs : Runs calls items running) (call : BridgeCall Reply)
    (length : items.length = calls.length) :
    Runs (calls ++ [call]) (items ++ [.outside]) running where
  ran id worker there found here := by
    rw [List.getElem?_append] at found here
    rw [length] at here
    split at found
    · rename_i old
      rw [if_pos old] at here
      exact runs.ran id worker there found here
    · rename_i late
      rw [if_neg late] at here
      cases List.mem_singleton.mp (List.mem_of_getElem? here)
  busy worker member := by
    obtain ⟨id, here⟩ := runs.busy worker member
    exact ⟨id, (List.getElem?_append_left (List.getElem?_eq_some_iff.mp here).1).trans here⟩

structure Invariant (config : BridgeConfig) (server : BridgeServer Reply) : Prop where
  queue : server.work.Sound
  capacity : server.work.capacity = config.capacity
  items : server.work.items.length = server.calls.length
  calls : ∀ (id : Nat) (call : BridgeCall Reply) (place : ItemPlace),
    server.calls[id]? = some call → server.work.items[id]? = some place →
      call.Sound place server.clock
  /-- Who serves a client has a reference to the bridge. -/
  held : ∀ (id : Nat) (call : BridgeCall Reply), server.calls[id]? = some call →
    call.callerGone = false → server.holders[call.thread]? = some true
  runs : Runs server.calls server.work.items server.running
  stands : Stands config server.holders server.work server.phase

theorem invariant_start : (start config : BridgeServer Reply).Invariant config where
  queue := WorkQueue.sound_new _
  capacity := rfl
  items := rfl
  calls id call place found := by cases found
  held id call found := by cases found
  runs := ⟨fun id worker call found => (by cases found), fun worker member => (by cases member)⟩
  stands := ⟨rfl, rfl, Nat.zero_le _⟩

/-- The queue goes on as it was. -/
theorem Stands.keeps {holders : List Bool} {work after : WorkQueue} {phase : BridgePhase}
    (stands : Stands config holders work phase) (keeps : work.Keeps after) :
    Stands config holders after phase := by
  have isOpen := keeps.isOpen
  have length := keeps.length
  cases phase with
  | spawning => exact ⟨isOpen.trans stands.1, stands.2.1, length.trans_le stands.2.2⟩
  | serving => exact ⟨isOpen.trans stands.1, length.trans stands.2⟩
  | closing failed next =>
      exact ⟨isOpen.trans stands.1, stands.2.1,
        fun worker before => keeps.gone worker (stands.2.2.1 worker before),
        fun none => length.trans (stands.2.2.2 none)⟩
  | closed failed =>
      exact ⟨isOpen.trans stands.1, stands.2.1,
        fun worker bound => keeps.gone worker (stands.2.2.1 worker (length ▸ bound)),
        fun none => length.trans (stands.2.2.2 none)⟩
  | abandoned => exact ⟨isOpen.trans stands.1, length.trans stands.2⟩

theorem calls_set (found : server.calls[id]? = some call) (other : Nat) :
    (server.calls.set id after)[other]? =
      if id = other then some after else server.calls[other]? := by
  rw [List.getElem?_set, if_pos (List.getElem?_eq_some_iff.mp found).1]

/-- One call changes, and the place of its item with it. -/
theorem Invariant.change {work : WorkQueue} {running : List Nat} {place : ItemPlace}
    (invariant : server.Invariant config) (found : server.calls[id]? = some call)
    (queue : work.Sound) (keeps : server.work.Keeps work)
    (items : work.items = server.work.items.set id place)
    (sound : after.Sound place server.clock) (thread : after.thread = call.thread)
    (gone : call.callerGone = true → after.callerGone = true)
    (runs : Runs (server.calls.set id after) work.items running) :
    Invariant config { server with work, running, calls := server.calls.set id after } where
  queue := queue
  capacity := keeps.capacity.trans invariant.capacity
  items := by
    rw [items, List.length_set, List.length_set]
    exact invariant.items
  calls other there whereabouts here at' := by
    rw [calls_set found] at here
    rw [items, List.getElem?_set] at at'
    split at here
    · rename_i same
      obtain rfl := Option.some.inj here
      rw [if_pos same, if_pos (by
        rw [invariant.items]
        exact (List.getElem?_eq_some_iff.mp found).1)] at at'
      obtain rfl := Option.some.inj at'
      exact sound
    · rename_i different
      rw [if_neg different] at at'
      exact invariant.calls other there whereabouts here at'
  held other there here waiting := by
    rw [calls_set found] at here
    split at here
    · obtain rfl := Option.some.inj here
      rw [thread]
      refine invariant.held id call found ?_
      cases before : call.callerGone
      · rfl
      · rw [gone before] at waiting
        cases waiting
    · exact invariant.held other there here waiting
  runs := runs
  stands := invariant.stands.keeps keeps

/-- A call has an item. -/
theorem Invariant.item (invariant : server.Invariant config)
    (found : server.calls[id]? = some call) :
    ∃ place, server.work.items[id]? = some place ∧ call.Sound place server.clock := by
  have bound := (List.getElem?_eq_some_iff.mp found).1
  rw [← invariant.items] at bound
  have here := List.getElem?_eq_getElem bound
  exact ⟨_, here, invariant.calls id call _ found here⟩

/-- One call changes, and its item stays where it is. -/
theorem Invariant.setCall (invariant : server.Invariant config)
    (found : server.calls[id]? = some call)
    (sound : ∀ place, server.work.items[id]? = some place → after.Sound place server.clock)
    (thread : after.thread = call.thread)
    (gone : call.callerGone = true → after.callerGone = true) (runs : after.runs = call.runs) :
    (server.setCall id after).Invariant config := by
  obtain ⟨place, here, -⟩ := invariant.item found
  have same : server.work.items = server.work.items.set id place := by
    obtain ⟨bound, rfl⟩ := List.getElem?_eq_some_iff.mp here
    exact (List.set_getElem_self bound).symm
  exact invariant.change found invariant.queue ⟨rfl, rfl, rfl, fun _ here => here⟩ same
    (sound place here) thread gone (invariant.runs.keep found runs)

theorem Invariant.dispatch (invariant : server.Invariant config)
    (found : server.calls[id]? = some call) (outside : server.work.items[id]? = some .outside)
    (collecting : call.caller = .collecting) : (server.dispatch id call).Invariant config := by
  have sound := invariant.calls id call .outside found outside
  have unread : call.waits = none := by simpa only [BridgeCall.Waits, collecting] using sound.waits
  have waiting : call.callerGone = false := by simp [BridgeCall.callerGone, collecting]
  have none := BridgeCall.surrender_eq_none waiting
  obtain ⟨runs, absent, raised, -⟩ := sound.place
  -- A refused call is answered at once, and nothing feeds it.
  have refused (refusal : Failures.Refusal)
      (reason : call.abort.Reason server.clock (.refused refusal)) :
      (server.setCall id (call.abort.giveUp refusal server.clock)).Invariant config := by
    refine invariant.setCall found ?_ rfl (fun gone => by rw [waiting] at gone; cases gone) rfl
    intro place here
    obtain rfl := Option.some.inj (outside.symm.trans here)
    exact sound.giveUp waiting (fun read => absurd unread read) reason
  have stopped : call.abort.reply = .absent ∧ call.abort.feeder ≠ .feeding := by
    refine ⟨absent, ?_⟩
    unfold BridgeCall.abort
    split <;> simp
  unfold BridgeServer.dispatch
  split
  · rename_i work sent
    obtain ⟨queue, items⟩ := invariant.queue.trySend outside sent
    refine invariant.change found queue (WorkQueue.keeps_trySend sent) items ?_ ?_ ?_ ?_
    · split
      · refine ⟨⟨runs, rfl, raised, by simp⟩, unread, fun _ sent => (by cases sent), sound.fed, ?_⟩
        have journaled := sound.journaled
        rw [none] at journaled
        exact ⟨journaled.dropped, journaled.lines⟩
      · rename_i still
        refine ⟨⟨runs, rfl, raised, by simp⟩, ⟨rfl, Nat.le_refl _⟩, fun _ sent => (by cases sent),
          fun _ => still, ?_⟩
        have journaled := sound.journaled
        rw [none] at journaled
        exact ⟨journaled.dropped, journaled.lines⟩
    · split <;> rfl
    · intro gone
      rw [waiting] at gone
      cases gone
    · rw [items]
      refine invariant.runs.change found outside (fun worker taken => by cases taken)
        (fun _ _ _ => Iff.rfl) (fun worker _ taken => by cases taken) ?_
      rintro worker other (taken | taken)
      · cases taken
      · cases taken
  · exact refused _ stopped
  · exact refused _ stopped

/-- A request that is collecting its body has not been sent, and waits for nothing. -/
theorem Invariant.collecting (invariant : server.Invariant config)
    (found : server.calls[id]? = some call) (collecting : call.caller = .collecting) :
    server.work.items[id]? = some .outside := by
  obtain ⟨place, here, sound⟩ := invariant.item found
  cases place with
  | outside => exact here
  | queued => exact absurd collecting sound.place.2.2.2
  | taken worker => exact absurd collecting sound.place.2.2.2
  | done => exact absurd collecting sound.place.2.2.2

theorem Invariant.callStep {event : BridgeEvent Reply} (invariant : server.Invariant config)
    (found : server.calls[id]? = some call) (fired : server.callStep id call event = some next) :
    next.Invariant config := by
  obtain ⟨place, here, sound⟩ := invariant.item found
  have update {after : BridgeCall Reply} (still : after.Sound place server.clock)
      (thread : after.thread = call.thread)
      (gone : call.callerGone = true → after.callerGone = true) (runs : after.runs = call.runs) :
      (server.setCall id after).Invariant config := by
    refine invariant.setCall found (fun whereabouts there => ?_) thread gone runs
    obtain rfl := Option.some.inj (here.symm.trans there)
    exact still
  have alive (waiting : call.callerGone = false) {gone : Prop} : call.callerGone = true → gone := by
    intro ended
    rw [waiting] at ended
    cases ended
  cases event with
  | bodyEnds _ =>
      simp only [BridgeServer.callStep] at fired
      split at fired
      · rename_i collecting
        obtain rfl := Option.some.inj fired
        exact invariant.dispatch found (invariant.collecting found collecting) collecting
      · cases fired
  | bodyFails _ reject =>
      simp only [BridgeServer.callStep] at fired
      split at fired
      · rename_i collecting
        obtain rfl := Option.some.inj fired
        have waiting : call.callerGone = false := by simp [BridgeCall.callerGone, collecting]
        have dropped := sound.journaled.dropped
        rw [BridgeCall.surrender_eq_none waiting] at dropped
        obtain rfl := Option.some.inj (here.symm.trans (invariant.collecting found collecting))
        exact update (sound.fail waiting rfl dropped sound.fed sound.place.2.1) rfl (alive waiting)
          rfl
      · cases fired
  | feederEnds _ =>
      simp only [BridgeServer.callStep] at fired
      split at fired
      · obtain rfl := Option.some.inj fired
        exact update (sound.stop (by simp)) rfl (fun gone => gone) rfl
      · cases fired
  | bodyRead _ =>
      simp only [BridgeServer.callStep] at fired
      split at fired
      · rename_i streaming
        split at fired
        · cases fired
        · rename_i read
          obtain rfl := Option.some.inj fired
          have waiting : call.callerGone = false := by simp [BridgeCall.callerGone, streaming]
          have sent := sound.sent waiting (by simp [streaming])
          refine update ?_ rfl (alive waiting) rfl
          exact sound.moves waiting (.inl sent) (by simp) rfl ⟨rfl, Nat.le_refl _⟩ fun _ => read
      · cases fired
  | receive _ =>
      simp only [BridgeServer.callStep] at fired
      have replied (waiting : call.callerGone = false) (started : call.caller ≠ .collecting)
          {result : Except Failures.Logged Reply} (sent : call.reply = .sent result) :
          (server.setCall id { call with caller := .responding result }).Invariant config :=
        update
          (sound.moves waiting (.inl (sound.sent waiting started)) (by simp) rfl sent sound.fed)
          rfl (alive waiting) rfl
      have lost (waiting : call.callerGone = false) (closed : call.reply = .closed) :
          (server.setCall id (call.giveUp
            (.workerLost "the gil=True bridge dropped the request") server.clock)).Invariant
              config :=
        update (sound.giveUp waiting sound.fed closed) rfl (alive waiting) rfl
      split at fired
      · rename_i streaming sent
        obtain rfl := Option.some.inj fired
        exact replied (by simp [BridgeCall.callerGone, streaming]) (by simp [streaming]) sent
      · rename_i awaiting sent
        obtain rfl := Option.some.inj fired
        exact replied (by simp [BridgeCall.callerGone, awaiting]) (by simp [awaiting]) sent
      · rename_i streaming closed
        obtain rfl := Option.some.inj fired
        exact lost (by simp [BridgeCall.callerGone, streaming]) closed
      · rename_i awaiting closed
        obtain rfl := Option.some.inj fired
        exact lost (by simp [BridgeCall.callerGone, awaiting]) closed
      · cases fired
  | respond _ =>
      simp only [BridgeServer.callStep] at fired
      split at fired
      · rename_i result responding
        obtain rfl := Option.some.inj fired
        have waiting : call.callerGone = false := by simp [BridgeCall.callerGone, responding]
        have replied : call.reply = .sent result := by
          simpa only [BridgeCall.Waits, responding] using sound.waits
        exact update (sound.moves waiting (.inr rfl) (by simp) rfl replied sound.fed) rfl
          (alive waiting) rfl
      · cases fired
  | timeout _ =>
      simp only [BridgeServer.callStep] at fired
      split at fired
      · rename_i since awaiting pending
        split at fired
        · rename_i late
          obtain rfl := Option.some.inj fired
          have waiting : call.callerGone = false := by simp [BridgeCall.callerGone, awaiting]
          have since : call.waits = some since ∧ since ≤ server.clock := by
            simpa only [BridgeCall.Waits, awaiting] using sound.waits
          exact update (sound.giveUp waiting sound.fed ⟨_, since.1, late⟩) rfl (alive waiting) rfl
        · cases fired
      · cases fired
  | disconnect _ =>
      simp only [BridgeServer.callStep] at fired
      split at fired
      · cases fired
      · rename_i there
        obtain rfl := Option.some.inj fired
        have waiting : call.callerGone = false := by simpa using there
        exact update (sound.moves waiting (.inr rfl) (by simp) rfl trivial sound.fed) rfl
          (alive waiting) rfl
  | _ => cases fired

/-- A request comes in. -/
theorem Invariant.arrive {thread : Nat} {tag : Failures.RequestTag} {body : RequestBody}
    (invariant : server.Invariant config) (holds : server.holders[thread]? = some true) :
    (server.arrive thread tag body).Invariant config := by
  have added (call : BridgeCall Reply) (own : call.thread = thread)
      (sound : call.Sound .outside server.clock) :
      Invariant config
        { server with work := server.work.add, calls := server.calls ++ [call] } := by
    refine ⟨invariant.queue.add, invariant.capacity, ?_, ?_, ?_,
      invariant.runs.add call invariant.items, ?_⟩
    · simp [WorkQueue.add, invariant.items]
    · intro id other place here at'
      have length := invariant.items
      simp only [WorkQueue.add, List.getElem?_append, length] at here at'
      split at here
      · rename_i old
        rw [if_pos old] at at'
        exact invariant.calls id other place here at'
      · rename_i late
        rw [if_neg late] at at'
        obtain rfl := List.mem_singleton.mp (List.mem_of_getElem? here)
        obtain rfl := List.mem_singleton.mp (List.mem_of_getElem? at')
        exact sound
    · intro id other here waiting
      rw [List.getElem?_append] at here
      split at here
      · exact invariant.held id other here waiting
      · obtain rfl := List.mem_singleton.mp (List.mem_of_getElem? here)
        rw [own]
        exact holds
    · exact invariant.stands.keeps ⟨rfl, rfl, rfl, fun _ here => here⟩
  have fresh (feeder : BridgeFeeder) :
      ({ thread, tag, feeder
         caller := .collecting
         reply := .absent
         runs := 0
         waits := none
         raised := none
         journal := { dropped := 0, lines := [] } } : BridgeCall Reply).Sound .outside
        server.clock :=
    ⟨⟨rfl, rfl, rfl, .inl rfl⟩, rfl, fun _ sent => (by cases sent),
      fun waits => absurd rfl waits, ⟨rfl, List.Perm.refl _⟩⟩
  unfold BridgeServer.arrive
  cases body with
  | buffered => exact added _ rfl (fresh .absent)
  | streamed =>
      refine (added _ rfl (fresh .feeding)).dispatch ?_ ?_ rfl
      · exact List.getElem?_concat_length
      · rw [← invariant.items]
        exact List.getElem?_concat_length

/-- A thread has one call at a time. -/
theorem Invariant.lone {worker other : Nat} (invariant : server.Invariant config)
    (taken : server.work.items[id]? = some (.taken worker))
    (also : server.work.items[other]? = some (.taken worker)) : other = id := by
  have busy := (invariant.queue.taken worker id).mpr taken
  have busy' := (invariant.queue.taken worker other).mpr also
  exact QueueWorker.busy.inj (Option.some.inj (busy'.symm.trans busy))

/-- A thread is done with its call. -/
theorem Invariant.runs_finish {worker : Nat} {running : List Nat}
    (invariant : server.Invariant config) (found : server.calls[id]? = some call)
    (taken : server.work.items[id]? = some (.taken worker)) (idle : worker ∉ running)
    (others : ∀ other, other ≠ worker → (other ∈ running ↔ other ∈ server.running)) :
    Runs (server.calls.set id after) (server.work.items.set id .done) running := by
  refine invariant.runs.change found taken (fun other same => by cases same) ?_ ?_ ?_
  · intro other apart _
    exact others other fun same => apart (same ▸ rfl)
  · intro other member same
    obtain rfl := ItemPlace.taken.inj same
    exact absurd member idle
  · rintro other there (same | same) here
    · obtain rfl := ItemPlace.taken.inj same
      exact invariant.lone taken here
    · cases same

theorem Invariant.look {worker : Nat} (invariant : server.Invariant config)
    (fired : server.look worker = some next) : next.Invariant config := by
  obtain ⟨⟨id, work⟩, finished, fired⟩ := Option.bind_eq_some_iff.mp fired
  obtain ⟨call, found, fired⟩ := Option.bind_eq_some_iff.mp fired
  obtain ⟨queue, taken, items⟩ := invariant.queue.finish finished
  have sound := invariant.calls id call _ found taken
  split at fired
  · cases fired
  · rename_i idle
    split at fired
    · rename_i gone
      obtain rfl := Option.some.inj fired
      have runs : Runs (server.calls.set id call.drop) (server.work.items.set id .done)
          server.running := invariant.runs_finish found taken idle fun other _ => Iff.rfl
      exact invariant.change found queue (WorkQueue.keeps_finish finished) items
        (sound.drop sound.place.2.1) rfl (fun gone => gone) (items ▸ runs)
    · obtain rfl := Option.some.inj fired
      have unrun : call.runs = 0 := (invariant.runs.ran id worker call found taken).trans
        (if_neg idle)
      have same : server.work.items = server.work.items.set id (.taken worker) := by
        obtain ⟨bound, here⟩ := List.getElem?_eq_some_iff.mp taken
        rw [← here]
        exact (List.set_getElem_self bound).symm
      refine invariant.change found invariant.queue ⟨rfl, rfl, rfl, fun _ here => here⟩ same
        (sound.runs unrun) rfl (fun gone => gone) ?_
      rw [same]
      refine invariant.runs.change found taken ?_ ?_ (fun other _ same => same) ?_
      · intro other same
        obtain rfl := ItemPlace.taken.inj same
        rw [if_pos List.mem_cons_self, unrun]
      · intro other apart _
        have different : other ≠ worker := fun same => apart (same ▸ rfl)
        rw [List.mem_cons, or_iff_right different]
      · rintro other there (same | same) here
        · obtain rfl := ItemPlace.taken.inj same
          exact invariant.lone taken here
        · obtain rfl := ItemPlace.taken.inj same
          exact invariant.lone taken here

theorem Invariant.complete {worker : Nat} {result : Except Failures.HandlerError Reply}
    (invariant : server.Invariant config) (fired : server.complete worker result = some next) :
    next.Invariant config := by
  obtain ⟨⟨id, work⟩, finished, fired⟩ := Option.bind_eq_some_iff.mp fired
  obtain ⟨call, found, fired⟩ := Option.bind_eq_some_iff.mp fired
  obtain ⟨queue, taken, items⟩ := invariant.queue.finish finished
  have sound := invariant.calls id call _ found taken
  split at fired
  · rename_i member
    obtain rfl := Option.some.inj fired
    have ran : call.runs = 1 := (invariant.runs.ran id worker call found taken).trans
      (if_pos member)
    have runs : Runs
        (server.calls.set id ((call.settle result).2.send (call.settle result).1))
        (server.work.items.set id .done) (server.running.filter (· ≠ worker)) :=
      invariant.runs_finish found taken (by simp) fun other different => by simp [different]
    refine invariant.change found queue (WorkQueue.keeps_finish finished) items
      (sound.settle sound.place.2.1 ran result) ?_ ?_ (items ▸ runs)
    · cases result <;> rfl
    · intro gone
      cases result <;> exact gone
  · cases fired

theorem calls_panic (server : BridgeServer Reply) (worker : Nat)
    (found : (server.panic worker).calls[id]? = some after) :
    ∃ call place, server.calls[id]? = some call ∧ server.work.items[id]? = some place ∧
      ∃ later, (server.work.lose worker).items[id]? = some later ∧
        after = if place = later then call else call.drop := by
  unfold panic at found
  obtain ⟨call, ⟨before, later⟩, here, places, rfl⟩ := List.getElem?_zipWith_eq_some.mp found
  obtain ⟨at', after'⟩ := List.getElem?_zip_eq_some.mp places
  exact ⟨call, before, here, at', later, after', rfl⟩

theorem Invariant.panic {worker : Nat} (invariant : server.Invariant config)
    (known : worker < server.work.workers.length) :
    (server.panic worker).Invariant config where
  queue := invariant.queue.lose known
  capacity := invariant.capacity
  items := by
    simp [BridgeServer.panic, WorkQueue.lose, invariant.items]
  calls id after place found here := by
    obtain ⟨call, before, old, at', later, at'', rfl⟩ := calls_panic server worker found
    obtain rfl : later = place := Option.some.inj (at''.symm.trans here)
    have sound := invariant.calls id call before old at'
    split
    · rename_i same
      exact same ▸ sound
    · rename_i lost
      obtain same | ⟨rfl, pending⟩ := WorkQueue.place_lose at' at''
      · exact absurd same.symm lost
      · refine sound.drop ?_
        obtain rfl | rfl := pending
        · exact sound.place.2.1
        · exact sound.place.2.1
  held id after found waiting := by
    obtain ⟨call, before, old, -, later, -, rfl⟩ := calls_panic server worker found
    split at waiting
    · rename_i same
      rw [if_pos same]
      exact invariant.held id call old waiting
    · rename_i lost
      rw [if_neg lost]
      exact invariant.held id call old waiting
  runs := by
    constructor
    case ran =>
      intro id other after found here
      obtain ⟨call, before, old, at', later, at'', rfl⟩ := calls_panic server worker found
      obtain rfl : later = .taken other := Option.some.inj (at''.symm.trans here)
      obtain same | ⟨done, -⟩ := WorkQueue.place_lose at' at''
      · subst same
        have different : other ≠ worker := by
          rintro rfl
          exact WorkQueue.not_taken_lose at''
        rw [if_pos rfl, invariant.runs.ran id other call old at']
        simp [BridgeServer.panic, different]
      · cases done
    case busy =>
      intro other member
      obtain ⟨member, different⟩ := List.mem_filter.mp member
      obtain ⟨id, here⟩ := invariant.runs.busy other member
      exact ⟨id, WorkQueue.taken_lose here (by simpa using different)⟩
  stands := invariant.stands.keeps (WorkQueue.keeps_lose _ _)

/-- A thread that leaves takes no other thread's reference. -/
theorem mem_set_false {holders : List Bool} {thread other : Nat}
    (holds : holders[other]? = some true) (different : other ≠ thread) :
    (holders.set thread false)[other]? = some true := by
  rw [List.getElem?_set_ne (Ne.symm different)]
  exact holds

theorem Invariant.leave {thread : Nat} (invariant : server.Invariant config)
    (fired : server.leave thread = some next) : next.Invariant config := by
  unfold BridgeServer.leave at fired
  split at fired
  · rename_i enabled
    obtain ⟨holds, ended⟩ := enabled
    have held (id : Nat) (call : BridgeCall Reply) (found : server.calls[id]? = some call)
        (waiting : call.callerGone = false) :
        (server.holders.set thread false)[call.thread]? = some true := by
      refine mem_set_false (invariant.held id call found waiting) fun same => ?_
      rw [ended call (List.mem_of_getElem? found) same] at waiting
      cases waiting
    have stands := invariant.stands
    have some : server.holders.contains true = true :=
      List.contains_iff_mem.mpr (List.mem_of_getElem? holds)
    have rest (work : WorkQueue) (queue : work.Sound) (same : work.capacity = server.work.capacity)
        (items : work.items = server.work.items)
        (stands : Stands config (server.holders.set thread false) work server.phase) :
        Invariant config
          { server with holders := server.holders.set thread false, work } := by
      refine ⟨queue, same.trans invariant.capacity, ?_, ?_, held, items ▸ invariant.runs, stands⟩
      · rw [items]
        exact invariant.items
      · intro id call place found here
        rw [items] at here
        exact invariant.calls id call place found here
    split at fired
    · rename_i abandoned
      obtain rfl := Option.some.inj fired
      rw [abandoned] at stands
      split
      · rename_i still
        refine rest server.work invariant.queue rfl rfl ?_
        rw [abandoned]
        exact ⟨stands.1.trans (some.trans still.symm), stands.2⟩
      · rename_i none
        refine rest server.work.close invariant.queue.close rfl rfl ?_
        rw [abandoned]
        exact ⟨((Bool.not_eq_true _).mp none).symm, stands.2⟩
    · rename_i other
      obtain rfl := Option.some.inj fired
      refine rest server.work invariant.queue rfl rfl ?_
      cases phase : server.phase with
      | spawning =>
          rw [phase] at stands
          rw [stands.2.1] at holds
          cases holds
      | serving =>
          rw [phase] at stands
          exact stands
      | closing failed next =>
          rw [phase] at stands
          rw [stands.2.1] at some
          cases some
      | closed failed =>
          rw [phase] at stands
          rw [stands.2.1] at some
          cases some
      | abandoned => exact absurd phase other
  · cases fired

theorem Invariant.shutdown (invariant : server.Invariant config)
    (serving : server.phase = .serving) : server.shutdown.Invariant config := by
  have stands := invariant.stands
  rw [serving] at stands
  unfold BridgeServer.shutdown
  split
  · rename_i held
    exact ⟨invariant.queue, invariant.capacity, invariant.items, invariant.calls, invariant.held,
      invariant.runs, stands.1.trans held.symm, stands.2⟩
  · rename_i free
    exact ⟨invariant.queue.close, invariant.capacity, invariant.items, invariant.calls,
      invariant.held, invariant.runs, rfl, (Bool.not_eq_true _).mp free,
      fun worker before => absurd before (Nat.not_lt_zero _), fun _ => stands.2⟩

theorem Invariant.join {failed : Option Nat} {following : Nat} (invariant : server.Invariant config)
    (closing : server.phase = .closing failed following)
    (fired : server.join failed following = some next) : next.Invariant config := by
  have stands := invariant.stands
  rw [closing] at stands
  obtain ⟨closed, free, gone, whole⟩ := stands
  unfold BridgeServer.join at fired
  split at fired
  · rename_i here
    obtain rfl := Option.some.inj fired
    refine ⟨invariant.queue, invariant.capacity, invariant.items, invariant.calls, invariant.held,
      invariant.runs, closed, free, fun worker before => ?_, whole⟩
    obtain earlier | rfl := Nat.lt_succ_iff_lt_or_eq.mp before
    · exact gone worker earlier
    · exact here
  · cases fired
  · rename_i none
    obtain rfl := Option.some.inj fired
    refine ⟨invariant.queue, invariant.capacity, invariant.items, invariant.calls, invariant.held,
      invariant.runs, closed, free, fun worker bound => gone worker ?_, whole⟩
    exact bound.trans_le (List.getElem?_eq_none_iff.mp none)

/-- The queue moves, and no item in it. -/
theorem Invariant.queueMoves {work : WorkQueue} (invariant : server.Invariant config)
    (queue : work.Sound) (keeps : server.work.Keeps work)
    (items : ∀ (id : Nat) (place : ItemPlace), work.items[id]? = some place →
      ∃ before, server.work.items[id]? = some before ∧
        ∀ call : BridgeCall Reply, call.Sound before server.clock → call.Sound place server.clock)
    (length : work.items.length = server.work.items.length)
    (runs : Runs server.calls work.items server.running) :
    Invariant config { server with work } where
  queue := queue
  capacity := keeps.capacity.trans invariant.capacity
  items := length.trans invariant.items
  calls id call place found here := by
    obtain ⟨before, at', still⟩ := items id place here
    exact still call (invariant.calls id call before found at')
  held := invariant.held
  runs := runs
  stands := invariant.stands.keeps keeps

theorem Invariant.pickup {worker item : Nat} {work : WorkQueue}
    (invariant : server.Invariant config)
    (fired : server.work.take worker = some (item, work)) :
    Invariant config { server with work } := by
  obtain ⟨queue, queued, items⟩ := invariant.queue.take fired
  refine invariant.queueMoves queue (WorkQueue.keeps_take fired) (fun id place here => ?_) ?_ ?_
  · rw [items, WorkQueue.items_set (WorkQueue.lt_of_place queued)] at here
    split at here
    · rename_i same
      subst same here
      refine ⟨_, queued, fun call sound => ⟨?_, sound.waits, sound.failed, sound.fed,
        sound.journaled⟩⟩
      exact ⟨sound.place.1.trans_le (Nat.zero_le _), sound.place.2⟩
    · exact ⟨place, here, fun call sound => sound⟩
  · rw [items, List.length_set]
  · obtain ⟨call, found⟩ : ∃ call, server.calls[item]? = some call :=
      ⟨_, List.getElem?_eq_getElem (invariant.items ▸ (List.getElem?_eq_some_iff.mp queued).1)⟩
    have unrun : call.runs = 0 := (invariant.calls item call _ found queued).place.1
    have unused (other : Nat) :
        server.work.items[other]? ≠ some (.taken worker) := by
      intro taken
      exact WorkQueue.take_idle fired ((invariant.queue.taken worker other).mpr taken)
    have idle : worker ∉ server.running := by
      intro member
      obtain ⟨other, taken⟩ := invariant.runs.busy worker member
      exact unused other taken
    have same : server.calls = server.calls.set item call := by
      obtain ⟨bound, rfl⟩ := List.getElem?_eq_some_iff.mp found
      exact (List.set_getElem_self bound).symm
    rw [items, same]
    refine invariant.runs.change found queued ?_ (fun _ _ _ => Iff.rfl) ?_ ?_
    · intro other taken
      obtain rfl := ItemPlace.taken.inj taken
      rw [if_neg idle, unrun]
    · intro other _ taken
      cases taken
    · rintro other there (taken | taken) here
      · cases taken
      · obtain rfl := ItemPlace.taken.inj taken
        exact absurd here (unused there)

/-- What an event needs of the phase, and what it does in it. -/
def Phased (config : BridgeConfig) (server next : BridgeServer Reply) : BridgeEvent Reply → Prop
  | .spawn started =>
      server.phase = .spawning ∧ server.work.workers.length < config.workers ∧
        next = if started then { server with phase := .spawning, work := server.work.hire }
          else
            { server with
              phase := .closing (some server.work.workers.length) 0
              work := server.work.close }
  | .spawned =>
      server.phase = .spawning ∧ server.work.workers.length = config.workers ∧
        next = { server with phase := .serving }
  | .share =>
      server.phase = .serving ∧
        next = { server with phase := .serving, holders := server.holders ++ [true] }
  | .shutdown => server.phase = .serving ∧ next = server.shutdown
  | .join => ∃ failed following, server.phase = .closing failed following ∧
      server.join failed following = some next
  | _ => True

theorem phased_of_step {event : BridgeEvent Reply} (fired : server.step config event = some next) :
    Phased config server next event := by
  cases event with
  | spawn started =>
      cases phase : server.phase with
      | spawning =>
          simp only [step, phase] at fired
          split at fired
          · rename_i fewer
            refine ⟨phase, fewer, ?_⟩
            cases started with
            | true => exact (Option.some.inj fired).symm
            | false => exact (Option.some.inj fired).symm
          · cases fired
      | serving | closing | closed | abandoned => simp [step, call?, phase] at fired
  | spawned =>
      cases phase : server.phase with
      | spawning =>
          simp only [step, phase] at fired
          split at fired
          · rename_i whole
            exact ⟨phase, whole, (Option.some.inj fired).symm⟩
          · cases fired
      | serving | closing | closed | abandoned => simp [step, call?, phase] at fired
  | share =>
      cases phase : server.phase with
      | serving =>
          simp only [step, phase] at fired
          exact ⟨phase, (Option.some.inj fired).symm⟩
      | spawning | closing | closed | abandoned => simp [step, call?, phase] at fired
  | shutdown =>
      cases phase : server.phase with
      | serving =>
          simp only [step, phase] at fired
          exact ⟨phase, (Option.some.inj fired).symm⟩
      | spawning | closing | closed | abandoned => simp [step, call?, phase] at fired
  | join =>
      cases phase : server.phase with
      | closing failed following =>
          simp only [step, phase] at fired
          exact ⟨failed, following, phase, fired⟩
      | spawning | serving | closed | abandoned => simp [step, call?, phase] at fired
  | _ => trivial

theorem Invariant.step {event : BridgeEvent Reply} (invariant : server.Invariant config)
    (fired : server.step config event = some next) : next.Invariant config := by
  have stands := invariant.stands
  have phased (phase : BridgePhase) (work : WorkQueue) (queue : work.Sound)
      (capacity : work.capacity = server.work.capacity) (items : work.items = server.work.items)
      (stands : Stands config server.holders work phase) :
      Invariant config { server with phase, work } := by
    refine ⟨queue, capacity.trans invariant.capacity, ?_, ?_, invariant.held,
      items ▸ invariant.runs, stands⟩
    · rw [items]
      exact invariant.items
    · intro id call place found here
      rw [items] at here
      exact invariant.calls id call place found here
  cases event with
  | spawn started =>
      obtain ⟨spawning, fewer, rfl⟩ := phased_of_step fired
      rw [spawning] at stands
      cases started with
      | true =>
          refine phased .spawning _ invariant.queue.hire rfl rfl ⟨stands.1, stands.2.1, ?_⟩
          simpa [WorkQueue.hire] using fewer
      | false =>
          refine phased _ _ invariant.queue.close rfl rfl ⟨rfl, ?_, ?_, ?_⟩
          · rw [stands.2.1]
            rfl
          · exact fun worker before => absurd before (Nat.not_lt_zero _)
          · intro none
            cases none
  | spawned =>
      obtain ⟨spawning, whole, rfl⟩ := phased_of_step fired
      rw [spawning] at stands
      exact phased .serving server.work invariant.queue rfl rfl ⟨stands.1, whole⟩
  | share =>
      obtain ⟨serving, rfl⟩ := phased_of_step fired
      rw [serving] at stands
      refine ⟨invariant.queue, invariant.capacity, invariant.items, invariant.calls, ?_,
        invariant.runs, stands⟩
      intro id call found waiting
      have holds := invariant.held id call found waiting
      rw [List.getElem?_append_left (List.getElem?_eq_some_iff.mp holds).1]
      exact holds
  | leave thread => exact invariant.leave fired
  | shutdown =>
      obtain ⟨serving, rfl⟩ := phased_of_step fired
      exact invariant.shutdown serving
  | join =>
      obtain ⟨failed, following, closing, joined⟩ := phased_of_step fired
      exact invariant.join closing joined
  | arrive thread tag body =>
      obtain ⟨holds, same⟩ := Option.ite_none_right_eq_some.mp fired
      obtain rfl := Option.some.inj same
      exact invariant.arrive holds
  | pickup worker =>
      obtain ⟨⟨item, work⟩, taken, rfl⟩ := Option.map_eq_some_iff.mp fired
      exact invariant.pickup taken
  | look worker => exact invariant.look fired
  | complete worker result => exact invariant.complete fired
  | hangUp worker =>
      obtain ⟨work, left, rfl⟩ := Option.map_eq_some_iff.mp fired
      obtain ⟨queue, items⟩ := invariant.queue.leave left
      refine invariant.queueMoves queue (WorkQueue.keeps_leave left) (fun id place here => ?_) ?_
        (items ▸ invariant.runs)
      · rw [items] at here
        exact ⟨place, here, fun call sound => sound⟩
      · rw [items]
  | panic worker =>
      simp only [BridgeServer.step] at fired
      split at fired
      · cases fired
      · cases fired
      · rename_i here
        obtain rfl := Option.some.inj fired
        exact invariant.panic (List.getElem?_eq_some_iff.mp here).1
  | tick =>
      obtain rfl := Option.some.inj fired
      exact ⟨invariant.queue, invariant.capacity, invariant.items,
        fun id call place found here => (invariant.calls id call place found here).later
          (Nat.le_succ _),
        invariant.held, invariant.runs, stands⟩
  | _ =>
      -- What is left is about one call.
      obtain ⟨call, found, fired⟩ := Option.bind_eq_some_iff.mp fired
      exact invariant.callStep found fired

/-! ### How a call ends -/

theorem calls_dispatch (server : BridgeServer Reply) (id : Nat) (call : BridgeCall Reply) :
    ∃ after, (server.dispatch id call).calls = server.calls.set id after := by
  unfold BridgeServer.dispatch
  split
  · exact ⟨_, rfl⟩
  · exact ⟨_, rfl⟩
  · exact ⟨_, rfl⟩

theorem getElem?_dispatch {other : Nat} (different : other ≠ id) :
    (server.dispatch other call).calls[id]? = server.calls[id]? := by
  obtain ⟨after, calls⟩ := calls_dispatch server other call
  rw [calls, List.getElem?_set_ne different]

theorem calls_complete {worker : Nat} {result : Except Failures.HandlerError Reply}
    (fired : server.complete worker result = some next) :
    ∃ id call after, server.calls[id]? = some call ∧ next.calls = server.calls.set id after ∧
      after.caller = call.caller := by
  obtain ⟨⟨id, work⟩, -, fired⟩ := Option.bind_eq_some_iff.mp fired
  obtain ⟨call, found, fired⟩ := Option.bind_eq_some_iff.mp fired
  split at fired
  · obtain rfl := Option.some.inj fired
    refine ⟨id, call, _, found, rfl, ?_⟩
    cases result <;> rfl
  · cases fired

/-- A call that has ended for its caller has ended. -/
theorem calls_callStep {event : BridgeEvent Reply}
    (fired : server.callStep id call event = some next) :
    ∃ after, next.calls = server.calls.set id after ∧
      (call.callerGone = true → after.caller = call.caller) := by
  have never {caller : BridgeCaller Reply} {same : Prop} (is : call.caller = caller)
      (waits : ∀ answer time, caller ≠ .ended answer time) : call.callerGone = true → same := by
    intro gone
    unfold BridgeCall.callerGone at gone
    split at gone
    · rename_i ended
      exact absurd (is.symm.trans ended) (waits _ _)
    · cases gone
  cases event with
  | bodyEnds _ =>
      simp only [BridgeServer.callStep] at fired
      split at fired
      · rename_i collecting
        obtain rfl := Option.some.inj fired
        obtain ⟨after, calls⟩ := calls_dispatch server id call
        exact ⟨after, calls, never collecting nofun⟩
      · cases fired
  | bodyFails _ reject =>
      simp only [BridgeServer.callStep] at fired
      split at fired
      · rename_i collecting
        obtain rfl := Option.some.inj fired
        exact ⟨_, rfl, never collecting nofun⟩
      · cases fired
  | feederEnds _ =>
      simp only [BridgeServer.callStep] at fired
      split at fired
      · obtain rfl := Option.some.inj fired
        exact ⟨_, rfl, fun _ => rfl⟩
      · cases fired
  | bodyRead _ =>
      simp only [BridgeServer.callStep] at fired
      split at fired
      · rename_i streaming
        split at fired
        · cases fired
        · obtain rfl := Option.some.inj fired
          exact ⟨_, rfl, never streaming nofun⟩
      · cases fired
  | receive _ =>
      simp only [BridgeServer.callStep] at fired
      split at fired
      · rename_i streaming _
        obtain rfl := Option.some.inj fired
        exact ⟨_, rfl, never streaming nofun⟩
      · rename_i awaiting _
        obtain rfl := Option.some.inj fired
        exact ⟨_, rfl, never awaiting nofun⟩
      · rename_i streaming _
        obtain rfl := Option.some.inj fired
        exact ⟨_, rfl, never streaming nofun⟩
      · rename_i awaiting _
        obtain rfl := Option.some.inj fired
        exact ⟨_, rfl, never awaiting nofun⟩
      · cases fired
  | respond _ =>
      simp only [BridgeServer.callStep] at fired
      split at fired
      · rename_i responding
        obtain rfl := Option.some.inj fired
        exact ⟨_, rfl, never responding nofun⟩
      · cases fired
  | timeout _ =>
      simp only [BridgeServer.callStep] at fired
      split at fired
      · rename_i awaiting _
        split at fired
        · obtain rfl := Option.some.inj fired
          exact ⟨_, rfl, never awaiting nofun⟩
        · cases fired
      · cases fired
  | disconnect _ =>
      simp only [BridgeServer.callStep] at fired
      split at fired
      · cases fired
      · rename_i waiting
        obtain rfl := Option.some.inj fired
        exact ⟨_, rfl, fun gone => absurd gone waiting⟩
  | _ => cases fired

theorem calls_leave {thread : Nat} (fired : server.leave thread = some next) :
    next.calls = server.calls := by
  unfold BridgeServer.leave at fired
  split at fired
  · split at fired
    · obtain rfl := Option.some.inj fired
      split <;> rfl
    · obtain rfl := Option.some.inj fired
      rfl
  · cases fired

theorem calls_join {failed : Option Nat} {following : Nat}
    (fired : server.join failed following = some next) : next.calls = server.calls := by
  unfold BridgeServer.join at fired
  split at fired
  · obtain rfl := Option.some.inj fired
    rfl
  · cases fired
  · obtain rfl := Option.some.inj fired
    rfl

theorem step_of_call {event : BridgeEvent Reply} (about : call? event = some id) :
    server.step config event =
      server.calls[id]?.bind fun call => server.callStep id call event := by
  cases event with
  | bodyEnds other | bodyFails other | feederEnds other | bodyRead other | receive other
  | respond other | timeout other | disconnect other =>
      obtain rfl := Option.some.inj about
      rfl
  | _ => cases about

theorem calls_arrive {thread : Nat} {tag : Failures.RequestTag} {body : RequestBody}
    (found : server.calls[id]? = some call) :
    (server.arrive thread tag body).calls[id]? = some call := by
  have bound := (List.getElem?_eq_some_iff.mp found).1
  have old (added : BridgeCall Reply) : (server.calls ++ [added])[id]? = some call :=
    (List.getElem?_append_left bound).trans found
  unfold BridgeServer.arrive
  cases body with
  | buffered => exact old _
  | streamed =>
      exact (getElem?_dispatch (Nat.ne_of_gt bound)).trans (old _)

theorem Invariant.caller_panic {worker : Nat} (invariant : server.Invariant config)
    (found : server.calls[id]? = some call) :
    ∃ after, (server.panic worker).calls[id]? = some after ∧ after.caller = call.caller := by
  have bound : id < (server.panic worker).calls.length := by
    simp only [BridgeServer.panic, List.length_zipWith, List.length_zip, WorkQueue.lose,
      List.length_map, invariant.items]
    simpa using (List.getElem?_eq_some_iff.mp found).1
  have there := List.getElem?_eq_getElem bound
  obtain ⟨before, place, old, -, later, -, same⟩ := calls_panic server worker there
  obtain rfl := Option.some.inj (found.symm.trans old)
  refine ⟨_, there, ?_⟩
  rw [same]
  split <;> rfl

/-- What a caller has ended with stays. -/
theorem Invariant.caller_kept {event : BridgeEvent Reply} (invariant : server.Invariant config)
    (found : server.calls[id]? = some call)
    (gone : call.callerGone = true) (fired : server.step config event = some next) :
    ∃ after, next.calls[id]? = some after ∧ after.caller = call.caller := by
  have same (calls : next.calls = server.calls) :
      ∃ after, next.calls[id]? = some after ∧ after.caller = call.caller :=
    ⟨call, calls ▸ found, rfl⟩
  -- One call changes, and keeps how it ended.
  have set {other : Nat} {before after : BridgeCall Reply}
      (there : server.calls[other]? = some before)
      (calls : next.calls = server.calls.set other after)
      (keeps : before.callerGone = true → after.caller = before.caller) :
      ∃ after, next.calls[id]? = some after ∧ after.caller = call.caller := by
    rw [calls, calls_set there]
    split
    · rename_i own
      subst own
      obtain rfl := Option.some.inj (found.symm.trans there)
      exact ⟨after, rfl, keeps gone⟩
    · exact ⟨call, found, rfl⟩
  cases event with
  | spawn started =>
      obtain ⟨-, -, rfl⟩ := phased_of_step fired
      exact same (by split <;> rfl)
  | spawned =>
      obtain ⟨-, -, rfl⟩ := phased_of_step fired
      exact same rfl
  | share =>
      obtain ⟨-, rfl⟩ := phased_of_step fired
      exact same rfl
  | leave thread => exact same (calls_leave fired)
  | shutdown =>
      obtain ⟨-, rfl⟩ := phased_of_step fired
      refine same ?_
      unfold BridgeServer.shutdown
      split <;> rfl
  | join =>
      obtain ⟨failed, following, -, joined⟩ := phased_of_step fired
      exact same (calls_join joined)
  | arrive thread tag body =>
      obtain ⟨-, same⟩ := Option.ite_none_right_eq_some.mp fired
      obtain rfl := Option.some.inj same
      exact ⟨call, calls_arrive found, rfl⟩
  | pickup worker =>
      obtain ⟨⟨item, work⟩, -, rfl⟩ := Option.map_eq_some_iff.mp fired
      exact same rfl
  | look worker =>
      obtain ⟨⟨other, work⟩, -, fired⟩ := Option.bind_eq_some_iff.mp fired
      obtain ⟨before, there, fired⟩ := Option.bind_eq_some_iff.mp fired
      split at fired
      · cases fired
      · split at fired
        · obtain rfl := Option.some.inj fired
          exact set there rfl fun _ => rfl
        · obtain rfl := Option.some.inj fired
          exact set there rfl fun _ => rfl
  | complete worker result =>
      obtain ⟨other, before, after, there, calls, keeps⟩ := calls_complete fired
      exact set there calls fun _ => keeps
  | hangUp worker =>
      obtain ⟨work, -, rfl⟩ := Option.map_eq_some_iff.mp fired
      exact same rfl
  | panic worker =>
      simp only [BridgeServer.step] at fired
      split at fired
      · cases fired
      · cases fired
      · obtain rfl := Option.some.inj fired
        exact invariant.caller_panic found
  | tick =>
      obtain rfl := Option.some.inj fired
      exact same rfl
  | _ =>
      -- What is left is about one call.
      obtain ⟨before, there, fired⟩ := Option.bind_eq_some_iff.mp fired
      obtain ⟨after, calls, keeps⟩ := calls_callStep fired
      exact set there calls keeps

/-- The call comes to its end by these steps. -/
def Ends (config : BridgeConfig) (server : BridgeServer Reply) (id : Nat)
    (events : List (BridgeEvent Reply)) (answer : BridgeAnswer Reply) : Prop :=
  ∃ next after, (bridgeMachine Reply config).runFrom server events = some next ∧
    next.calls[id]? = some after ∧ after.caller = .ended answer server.clock

theorem ends_of_callStep {event : BridgeEvent Reply} {answer : BridgeAnswer Reply}
    (about : call? event = some id) (found : server.calls[id]? = some call)
    (ended : after.caller = .ended answer server.clock)
    (fired : server.callStep id call event = some (server.setCall id after)) :
    server.Ends config id [event] answer := by
  have there : (server.setCall id after).calls[id]? = some after :=
    List.getElem?_set_self (List.getElem?_eq_some_iff.mp found).1
  refine ⟨server.setCall id after, after, ?_, there, ended⟩
  rw [Machine.runFrom_singleton]
  exact (step_of_call about).trans (by rw [found, Option.bind_some, fired])

theorem ends_respond {result : Except Failures.Logged Reply}
    (found : server.calls[id]? = some call) (responding : call.caller = .responding result) :
    server.Ends config id [.respond id] (.replied result) := by
  have fired : server.callStep id call (.respond id) = some
      (server.setCall id { call with caller := .ended (.replied result) server.clock }) := by
    simp only [BridgeServer.callStep, responding]
  exact ends_of_callStep rfl found rfl fired

/-- A caller whose reply is lost gives up. -/
theorem callStep_receive_closed (closed : call.reply = .closed)
    (waits : call.caller = .streaming ∨ ∃ since, call.caller = .awaiting since) :
    server.callStep id call (.receive id) = some (server.setCall id
      (call.giveUp (.workerLost "the gil=True bridge dropped the request") server.clock)) := by
  obtain streaming | ⟨since, awaiting⟩ := waits
  · simp only [BridgeServer.callStep, streaming, closed]
  · simp only [BridgeServer.callStep, awaiting, closed]

theorem callStep_timeout {since : Nat} (awaiting : call.caller = .awaiting since)
    (pending : call.reply = .pending) (late : since + REQUEST_BUDGET ≤ server.clock) :
    server.callStep id call (.timeout id) =
      some (server.setCall id (call.giveUp .timeout server.clock)) := by
  simp only [BridgeServer.callStep, awaiting, pending, if_pos late]

/-- A caller that waits takes its reply, and the response is made of it. -/
theorem ends_receive {result : Except Failures.Logged Reply}
    (found : server.calls[id]? = some call) (sent : call.reply = .sent result)
    (waits : call.caller = .streaming ∨ ∃ since, call.caller = .awaiting since) :
    server.Ends config id [.receive id, .respond id] (.replied result) := by
  have received : server.callStep id call (.receive id) =
      some (server.setCall id { call with caller := .responding result }) := by
    obtain streaming | ⟨since, awaiting⟩ := waits
    · simp only [BridgeServer.callStep, streaming, sent]
    · simp only [BridgeServer.callStep, awaiting, sent]
  have there : (server.setCall id { call with caller := .responding result }).calls[id]? =
      some { call with caller := .responding result } :=
    List.getElem?_set_self (List.getElem?_eq_some_iff.mp found).1
  have rest : Ends config _ id [.respond id] (.replied result) := ends_respond there rfl
  obtain ⟨next, after, execution, here, ended⟩ := rest
  refine ⟨next, after, ?_, here, ended⟩
  have step : server.step config (.receive id) =
      some (server.setCall id { call with caller := .responding result }) :=
    (step_of_call rfl).trans (by rw [found, Option.bind_some, received])
  exact Option.bind_eq_some_iff.mpr ⟨_, step, execution⟩

end BridgeServer

/-! ## Main theorem -/

/-- What holds of the bridge and its callers in every state. -/
structure BridgeSound {Reply : Type*} (config : BridgeConfig) (server : BridgeServer Reply) :
    Prop where
  /-- No handler runs twice for a request. -/
  once : ∀ (id : Nat) (call : BridgeCall Reply), server.calls[id]? = some call → call.runs ≤ 1
  bounded : server.work.queue.length ≤ config.capacity
  /-- A caller whose reply was sent takes it, and one whose reply is lost gives up. -/
  answers : ∀ (id : Nat) (call : BridgeCall Reply), server.calls[id]? = some call →
    (call.caller = .streaming ∨ ∃ since, call.caller = .awaiting since) →
      (∀ result, call.reply = .sent result →
        server.Ends config id [.receive id, .respond id] (.replied result)) ∧
      (call.reply = .closed →
        server.Ends config id [.receive id] (.gaveUp
          ⟨.refused (.workerLost "the gil=True bridge dropped the request"), call.tag.id⟩))
  responds : ∀ (id : Nat) (call : BridgeCall Reply) (result : Except Failures.Logged Reply),
    server.calls[id]? = some call → call.caller = .responding result →
      server.Ends config id [.respond id] (.replied result)
  /-- Past its budget a caller need not wait. -/
  late : ∀ (id since : Nat) (call : BridgeCall Reply), server.calls[id]? = some call →
    call.caller = .awaiting since → call.reply = .pending →
      since + REQUEST_BUDGET ≤ server.clock →
        server.Ends config id [.timeout id] (.gaveUp ⟨.refused .timeout, call.tag.id⟩)
  /-- What a caller has ended with stays. -/
  final : ∀ (id : Nat) (call : BridgeCall Reply), server.calls[id]? = some call →
    call.callerGone = true → ∀ event next, server.step config event = some next →
      ∃ after, next.calls[id]? = some after ∧ after.caller = call.caller
  /-- A caller that waits for a reply to come waits for an item that someone has. -/
  pending : ∀ (id : Nat) (call : BridgeCall Reply), server.calls[id]? = some call →
    call.reply = .pending →
      (id ∈ server.work.queue ∧ ∃ worker ∈ server.work.workers, worker ≠ .gone) ∨
        ∃ worker : Nat, server.work.workers[worker]? = some (.busy id)
  /-- A reply is that of the one run. -/
  replied : ∀ (id : Nat) (call : BridgeCall Reply) (result : Except Failures.Logged Reply)
      (time : Nat), server.calls[id]? = some call → call.caller = .ended (.replied result) time →
    call.runs = 1 ∧ ∀ logged, result = .error logged →
      call.raised = some logged.error ∧ logged.requestId = call.tag.id
  /-- Giving up has its reason, under the id of the request. -/
  gaveUp : ∀ (id : Nat) (call : BridgeCall Reply) (logged : Failures.Logged) (time : Nat),
    server.calls[id]? = some call → call.caller = .ended (.gaveUp logged) time →
      logged.requestId = call.tag.id ∧ call.Reason time logged.error
  /-- Every failure is logged once, and a refusal counted once. -/
  journaled : ∀ (id : Nat) (call : BridgeCall Reply), server.calls[id]? = some call →
    call.Journaled call.surrender
  /-- The bridge serves with every thread it was to have. -/
  whole : server.phase = .serving → server.work.workers.length = config.workers
  /-- Once its threads are joined, nothing is left with them and no caller waits. -/
  settled : ∀ failed, server.phase = .closed failed →
    (∀ worker ∈ server.work.workers, worker = .gone) ∧ server.work.queue = [] ∧
      ∀ (id : Nat) (call : BridgeCall Reply), server.calls[id]? = some call →
        call.callerGone = true ∧ call.reply ≠ .pending

/-- Three requests for a bridge of one thread and one place: the first is answered, the second gone
before its turn, and the third too many. -/
def threeRequests : List (BridgeEvent Unit) :=
  let tag (id : UInt64) : Failures.RequestTag :=
    { id := .minted id, method := "GET", path := "/p" }
  [.spawn true, .spawned, .share, .arrive 0 (tag 0) .buffered, .bodyEnds 0, .pickup 0, .look 0,
    .arrive 0 (tag 1) .streamed, .arrive 0 (tag 2) .streamed, .complete 0 (.ok ()), .receive 0,
    .respond 0, .disconnect 1, .pickup 0, .look 0, .leave 0, .shutdown, .hangUp 0, .join, .join]

end Pyronova
