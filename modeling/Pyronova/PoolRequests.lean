import Mathlib.Tactic
import Pyronova.Body
import Pyronova.Execution
import Pyronova.Pool

/-!
# Requests in the worker pool

A request's body is collected by its caller, behind an admission gate for large bodies.  The
request then goes into a work queue with the sending end of a reply channel, and the caller waits
at the other end.  A worker takes the request, skips it if its caller is gone, runs it and answers.
An async worker's fetcher thread makes a job of it and schedules a task for it on the engine's loop,
where the handler begins when the loop comes to it.  A job is answered by whoever comes first and
answers itself if it is dropped.  Callers time out and clients disconnect at any moment.
-/

namespace Pyronova

/-- Bodies up to this size pass the admission gate without a permit. -/
def ADMISSION_SKIP_BYTES : Nat := 64 * 1024

/-- Why a worker's answer is no response. -/
inductive WorkFailure (Exc : Type*)
  | raised (exception : Exc)
  | timeout
  | workerLost (what : String)
  deriving DecidableEq, Repr

/-- What travels on a reply channel. -/
abbrev WorkReply (Data Exc : Type*) := Except (WorkFailure Exc) Data

/-- How `run_on_pool` ends for its client. -/
inductive CallerOutcome (Data Exc : Type*)
  | overloaded (what : String)
  | poolClosed (what : String)
  | rejected (reject : BodyReject String)
  | replied (reply : WorkReply Data Exc)
  | timedOut
  | workerLost (what : String)
  /-- The client is gone, and the future with it. -/
  | disconnected

/-- Where `run_on_pool` is. -/
inductive CallerPhase (Data Exc : Type*)
  | collecting
  /-- In `await_reply`. -/
  | awaiting
  /-- With the reply, making the response of it. -/
  | responding (reply : WorkReply Data Exc)
  | ended (outcome : CallerOutcome Data Exc)

/-- How far an `AsyncJob` has come. -/
inductive JobStage
  /-- Returned by `_worker_recv` to the fetcher. -/
  | fetched
  /-- Its task is on the engine's loop. -/
  | scheduled
  /-- Its task has begun with the hooks and the handler. -/
  | started
  deriving DecidableEq, Repr

/-- Where the request and its body are. -/
inductive Place
  | caller
  | queued (lane : Lane)
  /-- Taken by a worker that has not yet looked whether the caller is gone. -/
  | picked (lane : Lane)
  /-- The worker has looked, and found the caller there. -/
  | looked (lane : Lane)
  /-- Run by a sync worker. -/
  | running
  | job (stage : JobStage) (answered : Bool)
  | released
  deriving DecidableEq, Repr

/-- The reply channel. -/
inductive ReplySlot (Data Exc : Type*)
  | absent
  | pending
  | sent (reply : WorkReply Data Exc)
  /-- The sender is gone, and no reply is to come. -/
  | closed

/-- A request, with the number of answers given to it so far. -/
structure PoolCall (Data Exc : Type*) where
  route : RouteId
  kind : HandlerKind
  /-- Bytes of the body buffered so far. -/
  size : Nat
  permit : Bool
  caller : CallerPhase Data Exc
  place : Place
  reply : ReplySlot Data Exc
  handedOut : Bool
  answers : Nat

/-- The pool, the free permits, and every request so far. -/
structure PoolServer (Data Exc : Type*) where
  pool : InterpreterPool Nat
  free : Nat
  /-- Async workers whose fetcher has ended, and whose engine stops. -/
  stopping : Nat
  calls : List (PoolCall Data Exc)

/-- A worker thread ends; with the last one its channel is disconnected and what it held dropped. -/
def InterpreterPool.endWorker {Payload : Type*} (pool : InterpreterPool Payload) (lane : Lane) :
    InterpreterPool Payload :=
  pool.onLane (fun channel =>
    { channel with
      workers := channel.workers.tail
      queue := if channel.workers.tail = [] then [] else channel.queue }) lane

namespace PoolCall

variable {Data Exc : Type*}

/-- The receiving end of the reply channel is dropped, which `is_closed` tells the sender. -/
def callerGone (call : PoolCall Data Exc) : Bool :=
  match call.caller with
  | .ended _ => true
  | _ => false

/-- A sync worker's thread, or an async worker's fetcher, is occupied with the request. -/
def occupies (lane : Lane) (call : PoolCall Data Exc) : Bool :=
  match call.place with
  | .picked own | .looked own => decide (own = lane)
  | .running => decide (lane = .sync)
  | .job .fetched _ => decide (lane = .async)
  | .caller | .queued _ | .job .scheduled _ | .job .started _ | .released => false

/-- `Sender::send`, which a dropped receiver gives back. -/
def send (call : PoolCall Data Exc) (reply : WorkReply Data Exc) : PoolCall Data Exc :=
  { call with
    reply := if call.callerGone then .closed else .sent reply
    answers := call.answers + 1 }

/-- The request is dropped with the sender in it. -/
def drop (call : PoolCall Data Exc) : PoolCall Data Exc :=
  { call with place := .released, reply := .closed }

end PoolCall

namespace PoolServer

variable {Data Exc : Type*}

inductive Event (Data Exc : Type*)
  /-- A request with its `Content-Length`, where it has one that reads as a number. -/
  | arrive (route : RouteId) (kind : HandlerKind) (contentLength : Option Nat)
  /-- A data frame of the body. -/
  | frame (call : Nat) (len : Nat)
  /-- The body cannot be read, or does not come in time. -/
  | readFails (call : Nat) (reject : BodyReject String)
  | bodyEnds (call : Nat)
  /-- A worker takes the next request of its queue. -/
  | pickup (lane : Lane)
  /-- The worker looks whether the caller is gone. -/
  | check (call : Nat)
  /-- `_worker_recv` gives the fetcher a job. -/
  | handOut (call : Nat)
  /-- `_worker_recv` cannot make a `Request` of it, and raises. -/
  | handOutFails (call : Nat) (exception : Exc)
  /-- The fetcher puts the job's task on the loop. -/
  | schedule (call : Nat)
  /-- The loop is closed: the job is dropped, and the fetcher ends. -/
  | scheduleFails (call : Nat)
  /-- A sync worker calls the handler, or the loop begins the job's task. -/
  | start (call : Nat)
  /-- A sync worker is done with its request. -/
  | complete (call : Nat) (reply : WorkReply Data Exc)
  /-- A sync worker lets go of its request without an answer. -/
  | crash (call : Nat)
  | workerSend (call : Nat) (response : WorkReply Data Exc)
  | workerFail (call : Nat) (exception : Exc)
  | workerTimedOut (call : Nat)
  /-- The last reference to a job goes, its task done or cancelled. -/
  | dropJob (call : Nat)
  /-- The caller takes the reply, or finds the channel closed. -/
  | receive (call : Nat)
  | respond (call : Nat)
  | timeout (call : Nat)
  | disconnect (call : Nat)
  /-- `_worker_recv` returns `None` to a fetcher, or raises. -/
  | fetcherEnds
  | endWorker (lane : Lane)

def setCall (server : PoolServer Data Exc) (id : Nat) (call : PoolCall Data Exc) :
    PoolServer Data Exc :=
  { server with calls := server.calls.set id call }

/-- `run_on_pool` returns or is dropped: the permit goes back. -/
def endCall (server : PoolServer Data Exc) (id : Nat) (call : PoolCall Data Exc)
    (outcome : CallerOutcome Data Exc) : PoolServer Data Exc :=
  { server with
    free := server.free + call.permit.toNat
    calls := server.calls.set id { call with permit := false, caller := .ended outcome } }

/-- A body still with its caller is dropped with it. -/
def endCollecting (server : PoolServer Data Exc) (id : Nat) (call : PoolCall Data Exc)
    (outcome : CallerOutcome Data Exc) : PoolServer Data Exc :=
  server.endCall id { call with place := .released } outcome

/-- A request before its body is read; an honestly declared large one needs a permit. -/
def arrive (server : PoolServer Data Exc) (route : RouteId) (kind : HandlerKind)
    (contentLength : Option Nat) : PoolServer Data Exc :=
  let call : PoolCall Data Exc :=
    { route, kind, size := 0, permit := false, caller := .collecting, place := .caller
      reply := .absent, handedOut := false, answers := 0 }
  if contentLength.getD 0 > ADMISSION_SKIP_BYTES then
    if server.free = 0 then
      { server with
        calls := server.calls ++
          [{ call with place := .released, caller := .ended (.overloaded "admission permits") }] }
    else
      { server with
        free := server.free - 1
        calls := server.calls ++ [{ call with permit := true }] }
  else { server with calls := server.calls ++ [call] }

/-- One frame of `collect`, with the pool's admission gate. -/
def frame (server : PoolServer Data Exc) (maxBody : Nat) (id : Nat) (call : PoolCall Data Exc)
    (len : Nat) : PoolServer Data Exc :=
  if saturatingAdd call.size len > maxBody then
    server.endCollecting id call (.rejected .tooLarge)
  else
    match (@admission String ADMISSION_SKIP_BYTES).admitBody
        { free := server.free, permit := call.permit } (call.size + len) with
    | .error _ => server.endCollecting id call (.overloaded "admission permits")
    | .ok gate =>
        { server with
          free := gate.free
          calls := server.calls.set id
            { call with size := call.size + len, permit := gate.permit } }

/-- The collected request is submitted with a new reply channel. -/
def submit (server : PoolServer Data Exc) (id : Nat) (call : PoolCall Data Exc) :
    PoolServer Data Exc :=
  match server.pool.submit { route := call.route, kind := call.kind, payload := id } with
  | (.ok (), pool) =>
      { server with
        pool
        calls := server.calls.set id
          { call with
            caller := .awaiting
            place := .queued (server.pool.lane call.kind)
            reply := .pending } }
  | (.error .full, _) =>
      server.endCollecting id call (.overloaded "sub-interpreter work queue")
  | (.error .closed, _) => server.endCollecting id call (.poolClosed "sub-interpreter pool")

/-- Workers of the lane that take no more requests. -/
def retired (server : PoolServer Data Exc) : Lane → Nat
  | .sync => 0
  | .async => server.stopping

/-- A sync worker, or a fetcher, that waits for a request. -/
def hasIdle (server : PoolServer Data Exc) (lane : Lane) : Bool :=
  server.calls.countP (PoolCall.occupies lane) + server.retired lane <
    (server.pool.workersOn lane).length

def pickup (server : PoolServer Data Exc) (lane : Lane) : Option (PoolServer Data Exc) :=
  match server.pool.queued lane with
  | [] => none
  | request :: _ =>
      match server.calls[request.payload]? with
      | none => none
      | some call =>
          if server.hasIdle lane then
            some { (server.setCall request.payload { call with place := .picked lane }) with
              pool := server.pool.take lane }
          else none

/-- The one look at the caller, in `serve_sync` and in `next_live`. -/
def check (server : PoolServer Data Exc) (id : Nat) (call : PoolCall Data Exc) :
    Option (PoolServer Data Exc) :=
  match call.place with
  | .picked lane =>
      if call.callerGone then some (server.setCall id call.drop)
      else some (server.setCall id { call with place := .looked lane })
  | _ => none

/-- `worker.serve` in a sync worker, the first step of `_process_request` on an engine's loop. -/
def start (server : PoolServer Data Exc) (id : Nat) (call : PoolCall Data Exc) :
    Option (PoolServer Data Exc) :=
  match call.place with
  | .looked .sync => some (server.setCall id { call with place := .running })
  | .job .scheduled answered =>
      some (server.setCall id { call with place := .job .started answered })
  | _ => none

/-- `AsyncJob::answer`: a second answer is an error of the engine's. -/
def answer (server : PoolServer Data Exc) (id : Nat) (call : PoolCall Data Exc) (stage : JobStage)
    (answered : Bool) (reply : WorkReply Data Exc) : Except String (PoolServer Data Exc) :=
  if answered then .error "this request was already answered"
  else .ok (server.setCall id { call.send reply with place := .job stage true })

/-- An engine call on a job; what it raises, the engine gets. -/
def engineCall (server : PoolServer Data Exc) (id : Nat) (call : PoolCall Data Exc)
    (reply : WorkReply Data Exc) : Option (PoolServer Data Exc) :=
  match call.place with
  | .job stage answered =>
      match server.answer id call stage answered reply with
      | .ok next => some next
      | .error _ => some server
  | _ => none

/-- `Drop` of an `AsyncJob`. -/
def letGo (server : PoolServer Data Exc) (id : Nat) (call : PoolCall Data Exc) (answered : Bool) :
    PoolServer Data Exc :=
  if answered then server.setCall id { call with place := .released }
  else
    server.setCall id
      { call.send (.error (.workerLost
          "the async engine dropped the request without answering it")) with
        place := .released }

/-- A task lets go of its job. -/
def dropJob (server : PoolServer Data Exc) (id : Nat) (call : PoolCall Data Exc) :
    Option (PoolServer Data Exc) :=
  match call.place with
  | .job .scheduled answered | .job .started answered => some (server.letGo id call answered)
  | _ => none

/-- A `_Fetcher.run` is over: the worker takes no more requests. -/
def fetcherDone (server : PoolServer Data Exc) : PoolServer Data Exc :=
  { server with stopping := server.stopping + 1 }

/-- What is queued on the lane is dropped. -/
def discard (server : PoolServer Data Exc) (lane : Lane) : PoolServer Data Exc :=
  { server with
    calls := server.calls.map fun call => if call.place = .queued lane then call.drop else call }

/-- A sync worker ends when it is idle, an async one after its fetcher. -/
def endWorker (server : PoolServer Data Exc) (lane : Lane) : Option (PoolServer Data Exc) :=
  let pool := server.pool.endWorker lane
  let rest := if pool.workersOn lane = [] then server.discard lane else server
  match lane with
  | .sync => if server.hasIdle .sync then some { rest with pool } else none
  | .async =>
      if 0 < server.stopping then some { rest with pool, stopping := server.stopping - 1 } else none

/-- What an event does to the call it is about. -/
def callStep (server : PoolServer Data Exc) (maxBody : Nat) (id : Nat) (call : PoolCall Data Exc) :
    Event Data Exc → Option (PoolServer Data Exc)
  | .frame _ len =>
      match call.caller with
      | .collecting => some (server.frame maxBody id call len)
      | _ => none
  | .readFails _ reject =>
      match call.caller with
      | .collecting => some (server.endCollecting id call (.rejected reject))
      | _ => none
  | .bodyEnds _ =>
      match call.caller with
      | .collecting => some (server.submit id call)
      | _ => none
  | .check _ => server.check id call
  | .handOut _ =>
      if call.place = .looked .async then
        some (server.setCall id { call with place := .job .fetched false, handedOut := true })
      else none
  | .handOutFails _ exception =>
      if call.place = .looked .async then
        some (server.setCall id
          { call.send (.error (.raised exception)) with place := .released }).fetcherDone
      else none
  | .schedule _ =>
      match call.place with
      | .job .fetched answered =>
          some (server.setCall id { call with place := .job .scheduled answered })
      | _ => none
  | .scheduleFails _ =>
      match call.place with
      | .job .fetched answered => some (server.letGo id call answered).fetcherDone
      | _ => none
  | .start _ => server.start id call
  | .complete _ reply =>
      if call.place = .running then
        some (server.setCall id { call.send reply with place := .released })
      else none
  | .crash _ => if call.place = .running then some (server.setCall id call.drop) else none
  | .workerSend _ response => server.engineCall id call response
  | .workerFail _ exception => server.engineCall id call (.error (.raised exception))
  | .workerTimedOut _ => server.engineCall id call (.error .timeout)
  | .dropJob _ => server.dropJob id call
  | .receive _ =>
      match call.caller, call.reply with
      | .awaiting, .sent reply => some (server.setCall id { call with caller := .responding reply })
      | .awaiting, .closed =>
          some (server.endCall id call
            (.workerLost "the sub-interpreter worker dropped the request"))
      | _, _ => none
  | .respond _ =>
      match call.caller with
      | .responding reply => some (server.endCall id call (.replied reply))
      | _ => none
  | .timeout _ =>
      match call.caller with
      | .awaiting => some (server.endCall id call .timedOut)
      | _ => none
  | .disconnect _ =>
      match call.caller with
      | .collecting => some (server.endCollecting id call .disconnected)
      | .awaiting | .responding _ => some (server.endCall id call .disconnected)
      | .ended _ => none
  | .arrive .. | .pickup _ | .fetcherEnds | .endWorker _ => none

/-- The call an event is about. -/
def Event.call : Event Data Exc → Option Nat
  | .arrive .. | .pickup _ | .fetcherEnds | .endWorker _ => none
  | .frame call _ | .readFails call _ | .bodyEnds call | .check call | .handOut call
  | .handOutFails call _ | .schedule call | .scheduleFails call | .start call | .complete call _
  | .crash call | .workerSend call _ | .workerFail call _ | .workerTimedOut call | .dropJob call
  | .receive call | .respond call | .timeout call | .disconnect call => some call

def step (maxBody : Nat) (server : PoolServer Data Exc) (event : Event Data Exc) :
    Option (PoolServer Data Exc) :=
  match event with
  | .arrive route kind contentLength => some (server.arrive route kind contentLength)
  | .pickup lane => server.pickup lane
  | .fetcherEnds => if server.hasIdle .async then some server.fetcherDone else none
  | .endWorker lane => server.endWorker lane
  | event =>
      match event.call with
      | none => none
      | some id => server.calls[id]?.bind fun call => server.callStep maxBody id call event

end PoolServer

/-- Requests through a pool, from its start. -/
def poolServerMachine (Data Exc : Type*) (maxBody : Nat) (pool : InterpreterPool Nat) :
    Machine (PoolServer Data Exc) (PoolServer.Event Data Exc) where
  init := { pool, free := pool.permits, stopping := 0, calls := [] }
  step := PoolServer.step maxBody

/-! ## One request -/

namespace CallerOutcome

variable {Data Exc : Type*}

/-- How a caller that waited for a reply ends: with it, or with one of the two errors, unless its
client is gone. -/
def afterWait : CallerOutcome Data Exc → Bool
  | replied _ | timedOut | workerLost _ | disconnected => true
  | overloaded _ | poolClosed _ | rejected _ => false

end CallerOutcome

namespace PoolCall

variable {Data Exc : Type*}

/-- Someone has the request with its sender. -/
def held (call : PoolCall Data Exc) : Bool :=
  match call.place with
  | .queued _ | .picked _ | .looked _ | .running | .job _ false => true
  | .caller | .job _ true | .released => false

/-- A hook or the handler has begun. -/
def runs (call : PoolCall Data Exc) : Bool :=
  match call.place with
  | .running | .job .started _ => true
  | .caller | .queued _ | .picked _ | .looked _ | .job .fetched _ | .job .scheduled _
  | .released => false

/-- The worker has looked at the caller, and no hook or handler has begun. -/
def unstarted (call : PoolCall Data Exc) : Bool :=
  match call.place with
  | .looked _ | .job .fetched _ | .job .scheduled _ => true
  | .caller | .queued _ | .picked _ | .running | .job .started _ | .released => false

/-- What a request's parts have to do with each other. -/
structure Wired (call : PoolCall Data Exc) : Prop where
  collecting : call.caller = .collecting ↔ call.place = .caller
  absent : call.place = .caller → call.reply = .absent
  pending : call.reply = .pending ↔ call.held = true
  unanswered : call.reply = .absent ∨ call.reply = .pending → call.answers = 0
  sent : ∀ reply, call.reply = .sent reply → call.answers = 1
  once : call.answers ≤ 1
  job : ∀ stage answered, call.place = .job stage answered →
    call.handedOut = true ∧ call.answers = answered.toNat
  handed : call.handedOut = true →
    (∃ stage answered, call.place = .job stage answered) ∨
      call.place = .released ∧ call.answers = 1
  awaiting : call.caller = .awaiting → call.reply ≠ .absent
  lost : call.caller = .awaiting → call.reply = .closed → call.place = .released
  responding : ∀ reply, call.caller = .responding reply → call.reply = .sent reply
  replied : ∀ reply, call.caller = .ended (.replied reply) → call.reply = .sent reply
  outcome : ∀ outcome, call.caller = .ended outcome → call.reply ≠ .absent →
    outcome.afterWait = true

variable {call : PoolCall Data Exc}

/-- A worker or an engine answers. -/
theorem Wired.send (wired : call.Wired) (held : call.held = true) (reply : WorkReply Data Exc)
    {place : Place} (done : place = .released ∨ ∃ stage, place = .job stage true)
    (engine : (∃ stage, place = .job stage true) ∨ call.handedOut = true →
      ∃ stage, call.place = .job stage false) :
    Wired { call.send reply with place } := by
  obtain ⟨collecting, absent, pending, unanswered, sent, once, job, handed, awaiting, lost,
    responding, replied, outcome⟩ := wired
  have zero : call.answers = 0 := unanswered (.inr (pending.mpr held))
  have notCaller : call.place ≠ .caller := by
    intro own
    rw [PoolCall.held, own] at held
    cases held
  have stillPending := pending.mpr held
  constructor <;> grind [PoolCall.send, PoolCall.held, PoolCall.callerGone]

/-- The request is dropped before an engine had it. -/
theorem Wired.drop (wired : call.Wired) (held : call.held = true)
    (early : ∀ stage answered, call.place ≠ .job stage answered) : call.drop.Wired := by
  obtain ⟨collecting, absent, pending, unanswered, sent, once, job, handed, awaiting, lost,
    responding, replied, outcome⟩ := wired
  have stillPending := pending.mpr held
  constructor <;> grind [PoolCall.drop, PoolCall.held]

/-- A caller that waited is done. -/
theorem Wired.endCall (wired : call.Wired) {result : CallerOutcome Data Exc}
    (waited : call.caller = .awaiting ∨ ∃ reply, call.caller = .responding reply)
    (rightly : ∀ reply, result = .replied reply → call.reply = .sent reply)
    (after : result.afterWait = true) :
    Wired { call with permit := false, caller := .ended result } := by
  obtain ⟨collecting, absent, pending, unanswered, sent, once, job, handed, awaiting, lost,
    responding, replied, outcome⟩ := wired
  constructor <;> grind [PoolCall.held]

/-- A caller gives up while it collects the body. -/
theorem Wired.endCollecting (wired : call.Wired) {result : CallerOutcome Data Exc}
    (collects : call.caller = .collecting) (unreplied : ∀ reply, result ≠ .replied reply) :
    Wired { call with place := .released, permit := false, caller := .ended result } := by
  obtain ⟨collecting, absent, pending, unanswered, sent, once, job, handed, awaiting, lost,
    responding, replied, outcome⟩ := wired
  constructor <;> grind [PoolCall.held]

theorem Wired.collect (wired : call.Wired) (size : Nat) (permit : Bool) :
    Wired { call with size, permit } := by
  obtain ⟨collecting, absent, pending, unanswered, sent, once, job, handed, awaiting, lost,
    responding, replied, outcome⟩ := wired
  constructor <;> grind [PoolCall.held]

theorem Wired.submit (wired : call.Wired) (collects : call.caller = .collecting) (lane : Lane) :
    Wired ({ call with
      caller := .awaiting, place := .queued lane, reply := .pending } : PoolCall Data Exc) := by
  obtain ⟨collecting, absent, pending, unanswered, sent, once, job, handed, awaiting, lost,
    responding, replied, outcome⟩ := wired
  constructor <;> grind [PoolCall.held]

/-- The request goes from the queue to a worker, and there to be run. -/
theorem Wired.move (wired : call.Wired) {place : Place}
    (waits : ∃ lane, call.place = .queued lane ∨ call.place = .picked lane ∨
      call.place = .looked lane)
    (moves : (∃ lane, place = .picked lane ∨ place = .looked lane) ∨ place = .running) :
    Wired { call with place } := by
  obtain ⟨collecting, absent, pending, unanswered, sent, once, job, handed, awaiting, lost,
    responding, replied, outcome⟩ := wired
  constructor <;> grind [PoolCall.held]

theorem Wired.handOut (wired : call.Wired) (found : call.place = .looked .async) :
    Wired { call with place := .job .fetched false, handedOut := true } := by
  obtain ⟨collecting, absent, pending, unanswered, sent, once, job, handed, awaiting, lost,
    responding, replied, outcome⟩ := wired
  constructor <;> grind [PoolCall.held]

/-- A job comes a stage further. -/
theorem Wired.advance (wired : call.Wired) {stage : JobStage} {answered : Bool}
    (job : call.place = .job stage answered) (later : JobStage) :
    Wired { call with place := .job later answered } := by
  obtain ⟨collecting, absent, pending, unanswered, sent, once, handOut, handed, awaiting, lost,
    responding, replied, outcome⟩ := wired
  constructor <;> grind [PoolCall.held]

theorem Wired.release (wired : call.Wired) {stage : JobStage}
    (answered : call.place = .job stage true) :
    Wired { call with place := .released } := by
  obtain ⟨collecting, absent, pending, unanswered, sent, once, job, handed, awaiting, lost,
    responding, replied, outcome⟩ := wired
  constructor <;> grind [PoolCall.held]

theorem Wired.receive (wired : call.Wired) {reply : WorkReply Data Exc}
    (waits : call.caller = .awaiting) (arrived : call.reply = .sent reply) :
    Wired { call with caller := .responding reply } := by
  obtain ⟨collecting, absent, pending, unanswered, sent, once, job, handed, awaiting, lost,
    responding, replied, outcome⟩ := wired
  constructor <;> grind [PoolCall.held]

end PoolCall

end Pyronova
