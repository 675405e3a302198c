import Mathlib.Data.PNat.Defs
import Mathlib.Tactic
import Pyronova.Workforce

/-!
# The life of a thread-per-core server's interpreters

A worker is handed over only once its thread exists, so a thread that does not start leaves its
worker with the creator, which ends it along with the rest.  The threads are joined without a time
limit, so nothing is left running when the server returns.
-/

namespace Pyronova

/-- Why a TPC server run could not start, or failed while serving. -/
inductive ServeError (IoError ListenerError : Type*)
  | spawn (thread : String) (source : IoError)
  | listener (error : ListenerError)
  | runtime (thread : String) (source : IoError)
  | panicked (thread payload : String)

def ServeError.isPanicked {IoError ListenerError : Type*} : ServeError IoError ListenerError → Bool
  | .panicked .. => true
  | _ => false

/-- What `serve_tpc_workers` raises. -/
inductive TpcFailure (StartError BridgeError IoError ListenerError : Type*)
  | worker (error : StartError)
  | bridge (error : BridgeError)
  | serve (error : ServeError IoError ListenerError)

/-- Where one TPC thread is. -/
inductive TpcStage (IoError ListenerError : Type*)
  /-- For its worker, on its channel. -/
  | waiting
  /-- It has bound its worker and has no runtime yet. -/
  | bound
  | serving
  /-- `serve_on_this_thread` has returned. -/
  | served (result : Except (ServeError IoError ListenerError) Unit)
  /-- `TpcContext::end` has returned. -/
  | ended (result : Except (ServeError IoError ListenerError) Unit)
  | exited (result : Except (ServeError IoError ListenerError) Unit)

/-- Where the thread that runs the server is. -/
inductive TpcPhase (StartError BridgeError IoError ListenerError : Type*)
  | building
  | bridging
  | watching
  | spawning (next : Nat)
  /-- The thread of worker `next` exists and waits for it. -/
  | handing (next : Nat)
  /-- `join_all`, with the first failure so far, and the failed spawn it is for if there was one. -/
  | joining (next stop : Nat) (first : Option (ServeError IoError ListenerError))
      (failure : Option (ServeError IoError ListenerError))
  /-- `end_all` of the workers from `next` to before `stop`. -/
  | unwinding (next stop : Nat) (failure : TpcFailure StartError BridgeError IoError ListenerError)
  | returned (result : Except (TpcFailure StartError BridgeError IoError ListenerError) Unit)

structure TpcRun (StartError BridgeError IoError ListenerError : Type*) where
  phase : TpcPhase StartError BridgeError IoError ListenerError
  force : Workforce
  /-- The threads started so far. -/
  threads : List (TpcStage IoError ListenerError)
  /-- The server's stop token. -/
  stopped : Bool
  /-- `Py_IsInitialized`. -/
  initialized : Bool

/-- What a TPC thread does next. -/
inductive TpcStep (IoError ListenerError : Type*)
  | bind
  | runtime (outcome : Except IoError Unit)
  /-- A handler starts on the worker, or a collection between requests. -/
  | enter
  | leave
  /-- The accept loop sees the stop token. -/
  | stop
  | fail (error : ListenerError)
  | panic (payload : String)
  /-- `end_on_own_thread` looks at the runtime. -/
  | check
  | finish
  | exit

inductive TpcLifeEvent (StartError BridgeError IoError ListenerError : Type*)
  | construct (outcome : Construction StartError)
  | proceed
  | bridge (outcome : Except BridgeError Unit)
  | watch (outcome : Except IoError Unit)
  | spawn (outcome : Except IoError Unit)
  | handOff
  | endPending
  | join
  /-- SIGINT, seen by the stop watcher, or a stop asked for by the program. -/
  | interrupt
  | finalize
  | thread (index : Nat) (step : TpcStep IoError ListenerError)

/-- `join_all`'s result as the server's. -/
def TpcFailure.report {StartError BridgeError IoError ListenerError : Type*} :
    Option (ServeError IoError ListenerError) →
      Except (TpcFailure StartError BridgeError IoError ListenerError) Unit
  | none => .ok ()
  | some error => .error (.serve error)

def tpcThreadName (index : Nat) : String := "pyronova-tpc-" ++ toString index

namespace TpcStage

variable {IoError ListenerError : Type*}

def isExited : TpcStage IoError ListenerError → Bool
  | .exited _ => true
  | _ => false

/-- The failure a join finds. -/
def failure? : TpcStage IoError ListenerError → Option (ServeError IoError ListenerError)
  | .exited (.error error) => some error
  | _ => none

end TpcStage

namespace TpcRun

variable {StartError BridgeError IoError ListenerError : Type*}

def start : TpcRun StartError BridgeError IoError ListenerError where
  phase := .building
  force := { workers := [], log := [] }
  threads := []
  stopped := false
  initialized := true

def construct (run : TpcRun StartError BridgeError IoError ListenerError)
    (outcome : Construction StartError) : TpcRun StartError BridgeError IoError ListenerError :=
  { run with
    force := run.force.construct outcome
    phase := match outcome with
      | .built => .building
      | .refused error | .failed error =>
          .unwinding 0 run.force.workers.length (.worker error) }

/-- A start that failed before any thread: every worker is ended here. -/
def giveUp (run : TpcRun StartError BridgeError IoError ListenerError)
    (failure : TpcFailure StartError BridgeError IoError ListenerError) :
    TpcRun StartError BridgeError IoError ListenerError :=
  { run with phase := .unwinding 0 run.force.workers.length failure }

def bridge (run : TpcRun StartError BridgeError IoError ListenerError) :
    Except BridgeError Unit → TpcRun StartError BridgeError IoError ListenerError
  | .ok () => { run with phase := .watching }
  | .error error => run.giveUp (.bridge error)

/-- `watch_or_end`. -/
def watch (run : TpcRun StartError BridgeError IoError ListenerError) :
    Except IoError Unit → TpcRun StartError BridgeError IoError ListenerError
  | .ok () => { run with phase := .spawning 0 }
  | .error source => run.giveUp (.serve (.spawn "pyronova-stop" source))

/-- A thread that does not start stops the others, which are joined before any worker is ended. -/
def spawn (run : TpcRun StartError BridgeError IoError ListenerError) (next : Nat) :
    Except IoError Unit → TpcRun StartError BridgeError IoError ListenerError
  | .ok () => { run with phase := .handing next, threads := run.threads ++ [.waiting] }
  | .error source =>
      { run with
        phase := .joining 0 next none (some (.spawn (tpcThreadName next) source))
        stopped := true }

def proceed (total : ℕ+) (run : TpcRun StartError BridgeError IoError ListenerError) :
    Option (TpcRun StartError BridgeError IoError ListenerError) :=
  match run.phase with
  | .building =>
      if run.force.workers.length = total then some { run with phase := .bridging } else none
  | .spawning next =>
      if next = total then some { run with phase := .joining 0 next none none } else none
  | .joining next stop first none =>
      if next = stop then
        some { run with phase := .returned (TpcFailure.report first) }
      else none
  | .joining next stop _ (some failure) =>
      if next = stop then
        some { run with
          phase := .unwinding stop run.force.workers.length (.serve failure) }
      else none
  | .unwinding next stop failure =>
      if next = stop then some { run with phase := .returned (.error failure) } else none
  | _ => none

/-- The next thread has exited: its failure counts if it is the first. -/
def join (run : TpcRun StartError BridgeError IoError ListenerError) (next stop : Nat)
    (first failure : Option (ServeError IoError ListenerError)) :
    Option (TpcRun StartError BridgeError IoError ListenerError) :=
  match run.threads[next]? with
  | some (.exited result) =>
      some { run with
        phase := .joining (next + 1) stop (first.or (TpcStage.exited result).failure?) failure }
  | _ => none

/-- A thread goes on, and its worker with it. -/
def advance (run : TpcRun StartError BridgeError IoError ListenerError) (index : Nat)
    (stage : TpcStage IoError ListenerError) (place : WorkerPlace) (deed : Option (Deed OsThread)) :
    TpcRun StartError BridgeError IoError ListenerError :=
  { run with
    threads := run.threads.set index stage
    force := run.force.move index place deed }

/-- The waiting thread's channel has a slot, so the worker goes over at once. -/
def handOff (run : TpcRun StartError BridgeError IoError ListenerError) (next : Nat) :
    TpcRun StartError BridgeError IoError ListenerError :=
  { run with
    force := run.force.move next .spawned none
    phase := .spawning (next + 1) }

def endPending (run : TpcRun StartError BridgeError IoError ListenerError) (next stop : Nat)
    (failure : TpcFailure StartError BridgeError IoError ListenerError) :
    TpcRun StartError BridgeError IoError ListenerError :=
  { run with
    force := run.force.endHere next
    phase := .unwinding (next + 1) stop failure }

/-- The body of a TPC thread. -/
def threadStep (run : TpcRun StartError BridgeError IoError ListenerError) (index : Nat) :
    TpcStage IoError ListenerError → WorkerPlace → TpcStep IoError ListenerError →
      Option (TpcRun StartError BridgeError IoError ListenerError)
  | .waiting, .spawned, .bind =>
      some (run.advance index .bound .idle (some (.hand .creator (.worker index))))
  | .bound, .idle, .runtime (.ok ()) => some (run.advance index .serving .idle none)
  | .bound, .idle, .runtime (.error source) =>
      some (run.advance index (.served (.error (.runtime (tpcThreadName index) source))) .over none)
  | .serving, .idle, .enter =>
      some (run.advance index .serving .running (some (.use (.worker index))))
  | .serving, .running, .leave => some (run.advance index .serving .idle none)
  | .serving, .idle, .stop =>
      if run.stopped then some (run.advance index (.served (.ok ())) .over none) else none
  | .serving, .idle, .fail error =>
      some (run.advance index (.served (.error (.listener error))) .over none)
  | .bound, .idle, .panic payload | .serving, .idle, .panic payload
  | .served _, .over, .panic payload =>
      -- The unwinding thread drops its worker; it does not reach the stop token.
      some (run.advance index (.exited (.error (.panicked (tpcThreadName index) payload))) .unwound
        (some (.lose (.worker index))))
  | .served result, .over, .check =>
      if run.initialized then some (run.advance index (.served result) .ending none)
      else some (run.advance index (.ended result) .abandoned (some (.lose (.worker index))))
  | .served result, .ending, .finish =>
      some (run.advance index (.ended result) (.ended (.worker index))
        (some (.release (.worker index))))
  | .ended result, _, .exit =>
      some { run with
        threads := run.threads.set index (.exited result)
        stopped := run.stopped || (TpcStage.exited result).failure?.isSome }
  | _, _, _ => none

def step (total : ℕ+) (run : TpcRun StartError BridgeError IoError ListenerError)
    (event : TpcLifeEvent StartError BridgeError IoError ListenerError) :
    Option (TpcRun StartError BridgeError IoError ListenerError) :=
  match event, run.phase with
  | .construct outcome, .building =>
      if run.force.workers.length < total then some (run.construct outcome) else none
  | .proceed, _ => run.proceed total
  | .bridge outcome, .bridging => some (run.bridge outcome)
  | .watch outcome, .watching => some (run.watch outcome)
  | .spawn outcome, .spawning next =>
      if next < total then some (run.spawn next outcome) else none
  | .handOff, .handing next => some (run.handOff next)
  | .endPending, .unwinding next stop failure =>
      if next < stop then some (run.endPending next stop failure) else none
  | .join, .joining next stop first failure =>
      if next < stop then run.join next stop first failure else none
  | .interrupt, _ => some { run with stopped := true }
  | .finalize, .returned _ => some { run with initialized := false }
  | .thread index step, _ =>
      run.threads[index]?.bind fun stage =>
        run.force.workers[index]?.bind fun place => run.threadStep index stage place step
  | _, _ => none

end TpcRun

variable (StartError BridgeError IoError ListenerError : Type*) in
/-- A thread-per-core server's start, its serving and its end, among its threads. -/
def tpcLifeMachine (total : ℕ+) :
    Machine (TpcRun StartError BridgeError IoError ListenerError)
      (TpcLifeEvent StartError BridgeError IoError ListenerError) where
  init := .start
  step := TpcRun.step total

/-! ## Every worker is ended where it is bound -/

namespace TpcStage

variable {IoError ListenerError : Type*}

/-- Where the worker of a thread at a stage is. -/
def fits (index : Nat) (place : WorkerPlace) : TpcStage IoError ListenerError → Prop
  | .waiting => place = .spawned
  | .bound => place = .idle
  | .serving => place = .idle ∨ place = .running
  | .served _ => place = .over ∨ place = .ending
  | .ended _ => place = .ended (.worker index)
  | .exited result => place = .ended (.worker index) ∨
      place = .unwound ∧ ∃ thread payload, result = .error (.panicked thread payload)

end TpcStage

namespace TpcPhase

variable {StartError BridgeError IoError ListenerError : Type*}

/-- Where worker `index` may be in a phase, beside its thread if that was started. -/
def allows (index : Nat) (place : WorkerPlace) (stage : Option (TpcStage IoError ListenerError)) :
    TpcPhase StartError BridgeError IoError ListenerError → Prop
  | .building | .bridging | .watching => place = .pending
  | .spawning _ =>
      match stage with
      | none => place = .pending
      | some stage => stage.fits index place
  | .handing next =>
      match stage with
      | none => place = .pending
      | some stage =>
          if index = next then stage = .waiting ∧ place = .pending else stage.fits index place
  | .joining next _ _ _ =>
      match stage with
      | none => place = .pending
      | some stage => stage.fits index place ∧ (index < next → stage.isExited = true)
  | .unwinding next stop _ =>
      match stage with
      | none => if next ≤ index ∧ index < stop then place = .pending else place = .ended .creator
      | some stage => stage.fits index place ∧ stage.isExited = true
  | .returned _ =>
      match stage with
      | none => place = .ended .creator
      | some stage => stage.fits index place ∧ stage.isExited = true

/-- How many workers and threads there are in a phase, and how far its loop has got. -/
def fits (total workers threads : Nat) :
    TpcPhase StartError BridgeError IoError ListenerError → Prop
  | .building => workers ≤ total ∧ threads = 0
  | .bridging | .watching => workers = total ∧ threads = 0
  | .spawning next => workers = total ∧ threads = next ∧ next ≤ total
  | .handing next => workers = total ∧ threads = next + 1 ∧ next < total
  | .joining next stop _ none => workers = total ∧ threads = total ∧ stop = total ∧ next ≤ stop
  | .joining next stop _ (some _) =>
      workers = total ∧ threads = stop ∧ stop < total ∧ next ≤ stop
  | .unwinding next stop _ =>
      workers ≤ total ∧ threads < total ∧ threads ≤ next ∧ next ≤ stop ∧ stop ≤ workers ∧
        workers ≤ stop + 1
  | .returned _ => workers ≤ total ∧ threads ≤ workers

/-- What the joined threads came to is what is reported. -/
def reports (total : Nat) (threads : List (TpcStage IoError ListenerError)) :
    TpcPhase StartError BridgeError IoError ListenerError → Prop
  | .joining next _ first _ => first = ((threads.take next).filterMap TpcStage.failure?).head?
  | .returned result => threads.length < total ∨
      result = TpcFailure.report (threads.filterMap TpcStage.failure?).head?
  | _ => True

def isReturned : TpcPhase StartError BridgeError IoError ListenerError → Bool
  | .returned _ => true
  | _ => false

end TpcPhase

namespace TpcRun

variable {StartError BridgeError IoError ListenerError : Type*}
  {run next : TpcRun StartError BridgeError IoError ListenerError} {total : ℕ+} {index : Nat}
  {place : WorkerPlace} {stage : TpcStage IoError ListenerError}

/-- A thread whose `serve` failed has stopped the server, unless it panicked. -/
def Stops (run : TpcRun StartError BridgeError IoError ListenerError) : Prop :=
  ∀ (index : Nat) (error : ServeError IoError ListenerError),
    run.threads[index]? = some (.exited (.error error)) → error.isPanicked = false →
      run.stopped = true

structure Invariant (total : ℕ+) (run : TpcRun StartError BridgeError IoError ListenerError) :
    Prop where
  accounts : run.force.Accounts
  fits : run.phase.fits total run.force.workers.length run.threads.length
  allows : ∀ index place, run.force.workers[index]? = some place →
    run.phase.allows index place run.threads[index]?
  reports : run.phase.reports total run.threads
  stops : run.Stops
  initialized : run.initialized = true ∨ run.phase.isReturned = true

/-- What a step of a TPC thread does. -/
structure ThreadMoves (run next : TpcRun StartError BridgeError IoError ListenerError)
    (index : Nat) (place : WorkerPlace) (stage : TpcStage IoError ListenerError)
    (after : WorkerPlace) (later : TpcStage IoError ListenerError)
    (deed : Option (Deed OsThread)) : Prop where
  threads : next.threads = run.threads.set index later
  force : next.force = run.force.move index after deed
  takes : Workforce.Takes index place after deed
  live : stage.isExited = false
  pending : place ≠ .pending
  onThread : run.initialized = true → stage.fits index place → later.fits index after
  phase : next.phase = run.phase
  initialized : next.initialized = run.initialized
  stopped : run.stopped = true → next.stopped = true
  stops : ∀ error, later = .exited (.error error) → error.isPanicked = false → next.stopped = true

section

-- The equations of these are derived here once, not in every proof below that asks for them.
attribute [local simp] TpcRun.step TpcRun.threadStep TpcRun.join TpcRun.proceed TpcRun.construct
  TpcRun.spawn TpcPhase.fits TpcPhase.allows TpcPhase.reports TpcStage.fits Workforce.construct

end

/-- A panicking thread drops its worker. -/
theorem panic_moves (payload : String) (bound : place.custody index = .held (.worker index))
    (live : stage.isExited = false) :
    ThreadMoves run
      (run.advance index (.exited (.error (.panicked (tpcThreadName index) payload))) .unwound
        (some (.lose (.worker index))))
      index place stage .unwound (.exited (.error (.panicked (tpcThreadName index) payload)))
      (some (.lose (.worker index))) := by
  refine ⟨rfl, rfl, ?_, live, ?_, fun _ _ => .inr ⟨rfl, _, _, rfl⟩, rfl, rfl, id, ?_⟩
  · rw [Workforce.Takes, bound]
    exact if_pos rfl
  · rintro rfl
    cases bound
  · intro error same unpanicked
    obtain rfl := Except.error.inj (TpcStage.exited.inj same)
    cases unpanicked

theorem threadStep_moves {step : TpcStep IoError ListenerError}
    (found : run.force.workers[index]? = some place) (fits : stage.fits index place)
    (fired : run.threadStep index stage place step = some next) :
    ∃ after later deed, ThreadMoves run next index place stage after later deed := by
  unfold threadStep at fired
  split at fired
  · obtain rfl := Option.some.inj fired
    exact ⟨.idle, .bound, _, rfl, rfl, rfl, rfl, by simp, fun _ _ => rfl, rfl, rfl, id, by simp⟩
  · obtain rfl := Option.some.inj fired
    exact ⟨.idle, .serving, _, rfl, rfl, rfl, rfl, by simp, fun _ _ => .inl rfl, rfl, rfl, id,
      by simp⟩
  · obtain rfl := Option.some.inj fired
    exact ⟨.over, .served _, _, rfl, rfl, rfl, rfl, by simp, fun _ _ => .inl rfl, rfl, rfl, id,
      by simp⟩
  · obtain rfl := Option.some.inj fired
    exact ⟨.running, .serving, _, rfl, rfl, if_pos rfl, rfl, by simp, fun _ _ => .inr rfl, rfl, rfl,
      id, by simp⟩
  · obtain rfl := Option.some.inj fired
    exact ⟨.idle, .serving, _, rfl, rfl, rfl, rfl, by simp, fun _ _ => .inl rfl, rfl, rfl, id,
      by simp⟩
  · split at fired
    · obtain rfl := Option.some.inj fired
      exact ⟨.over, .served _, _, rfl, rfl, rfl, rfl, by simp, fun _ _ => .inl rfl, rfl, rfl, id,
        by simp⟩
    · cases fired
  · obtain rfl := Option.some.inj fired
    exact ⟨.over, .served _, _, rfl, rfl, rfl, rfl, by simp, fun _ _ => .inl rfl, rfl, rfl, id,
      by simp⟩
  · obtain rfl := Option.some.inj fired
    exact ⟨_, _, _, panic_moves _ rfl rfl⟩
  · obtain rfl := Option.some.inj fired
    exact ⟨_, _, _, panic_moves _ rfl rfl⟩
  · obtain rfl := Option.some.inj fired
    exact ⟨_, _, _, panic_moves _ rfl rfl⟩
  · split at fired
    · obtain rfl := Option.some.inj fired
      exact ⟨.ending, .served _, _, rfl, rfl, rfl, rfl, by simp, fun _ _ => .inr rfl, rfl, rfl, id,
        by simp⟩
    · rename_i finalized
      obtain rfl := Option.some.inj fired
      exact ⟨.abandoned, .ended _, _, rfl, rfl, if_pos rfl, rfl, by simp,
        fun initialized => absurd initialized finalized, rfl, rfl, id, by simp⟩
  · obtain rfl := Option.some.inj fired
    exact ⟨.ended (.worker index), .ended _, _, rfl, rfl, if_pos rfl, rfl, by simp, fun _ _ => rfl,
      rfl, rfl, id, by simp⟩
  · obtain rfl := Option.some.inj fired
    refine ⟨place, .exited _, none, rfl, (Workforce.move_self found).symm, rfl, rfl, ?_,
      fun _ ended => .inl ended, rfl, rfl, fun stopped => by simp [stopped], ?_⟩
    · rw [show place = .ended (.worker index) from fits]
      simp
    · intro error same unpanicked
      obtain rfl := TpcStage.exited.inj same
      simp [TpcStage.failure?]
  · cases fired

theorem Invariant.stage_fits (invariant : run.Invariant total)
    (started : run.threads[index]? = some stage) (found : run.force.workers[index]? = some place) :
    stage.fits index place ∨ stage = .waiting ∧ place = .pending := by
  have located := invariant.allows index place found
  have fits := invariant.fits
  have inside := (List.getElem?_eq_some_iff.mp started).1
  rw [started] at located
  cases phase : run.phase with
  | building | bridging | watching =>
      rw [phase] at fits
      have none := fits.2
      omega
  | spawning following =>
      rw [phase] at located
      exact .inl located
  | handing following =>
      simp only [phase, TpcPhase.allows] at located
      split at located
      · exact .inr located
      · exact .inl located
  | joining following stop first failure =>
      rw [phase] at located
      exact .inl located.1
  | unwinding following stop failure =>
      rw [phase] at located
      exact .inl located.1
  | returned result =>
      rw [phase] at located
      exact .inl located.1

theorem allows_of_live {phase : TpcPhase StartError BridgeError IoError ListenerError}
    {after : WorkerPlace} {later : TpcStage IoError ListenerError}
    (allows : phase.allows index place (some stage)) (live : stage.isExited = false)
    (nonpending : place ≠ .pending) (fits : later.fits index after) :
    phase.allows index after (some later) := by
  have unexited : stage.isExited ≠ true := by
    rw [live]
    exact Bool.false_ne_true
  cases phase with
  | building | bridging | watching => exact absurd allows nonpending
  | spawning following => exact fits
  | handing following =>
      simp only [TpcPhase.allows] at allows ⊢
      split at allows
      · exact absurd allows.2 nonpending
      · rename_i other
        rw [if_neg other]
        exact fits
  | joining following stop first failure =>
      exact ⟨fits, fun early => absurd (allows.2 early) unexited⟩
  | unwinding following stop failure => exact absurd allows.2 unexited
  | returned result => exact absurd allows.2 unexited

/-- A thread that goes on has not been joined, so what the joined ones came to is unchanged. -/
theorem reports_of_live {phase : TpcPhase StartError BridgeError IoError ListenerError}
    {later : TpcStage IoError ListenerError} {threads : List (TpcStage IoError ListenerError)}
    (reports : phase.reports total threads) (allows : phase.allows index place (some stage))
    (live : stage.isExited = false) : phase.reports total (threads.set index later) := by
  have unexited : stage.isExited ≠ true := by
    rw [live]
    exact Bool.false_ne_true
  cases phase with
  | joining following stop first failure =>
      have unjoined : following ≤ index := by
        by_contra early
        exact unexited (allows.2 (by omega))
      simp only [TpcPhase.reports] at reports ⊢
      rw [List.take_set_of_le unjoined]
      exact reports
  | returned result => exact absurd allows.2 unexited
  | _ => trivial

theorem Invariant.thread {step : TpcStep IoError ListenerError} (invariant : run.Invariant total)
    (started : run.threads[index]? = some stage) (found : run.force.workers[index]? = some place)
    (fired : run.threadStep index stage place step = some next) : next.Invariant total := by
  have allows := invariant.allows index place found
  rw [started] at allows
  have fits : stage.fits index place := by
    obtain fits | ⟨rfl, rfl⟩ := invariant.stage_fits started found
    · exact fits
    · unfold threadStep at fired
      split at fired <;> simp_all
  obtain ⟨after, later, deed, step⟩ := threadStep_moves found fits fired
  have initialized : run.initialized = true := by
    refine invariant.initialized.resolve_right fun returned => ?_
    cases phase : run.phase with
    | returned result =>
        rw [phase] at allows
        exact absurd (allows.2.symm.trans step.live) Bool.noConfusion
    | _ => rw [phase] at returned; cases returned
  have inside := (List.getElem?_eq_some_iff.mp started).1
  have lookup (other : Nat) :
      next.threads[other]? = if index = other then some later else run.threads[other]? := by
    rw [step.threads, List.getElem?_set, if_pos inside]
  constructor
  · rw [step.force]
    exact invariant.accounts.move found step.takes
  · rw [step.phase, step.force, step.threads, Workforce.length_move, List.length_set]
    exact invariant.fits
  · intro other there located
    rw [step.force, Workforce.getElem?_move found] at located
    rw [step.phase, lookup]
    split at located
    · rename_i same
      obtain rfl := Option.some.inj located
      subst same
      rw [if_pos rfl]
      exact allows_of_live allows step.live step.pending (step.onThread initialized fits)
    · rename_i other
      rw [if_neg other]
      exact invariant.allows _ there located
  · rw [step.phase, step.threads]
    exact reports_of_live invariant.reports allows step.live
  · intro other error exited unpanicked
    rw [lookup] at exited
    split at exited
    · exact step.stops error (Option.some.inj exited) unpanicked
    · exact step.stopped (invariant.stops other error exited unpanicked)
  · rw [step.initialized]
    exact .inl initialized

theorem Invariant.unreturned (invariant : run.Invariant total)
    (active : run.phase.isReturned = false) : run.initialized = true :=
  invariant.initialized.resolve_right (by rw [active]; exact Bool.false_ne_true)

/-- Only the phase moves on, and perhaps the stop token. -/
theorem Invariant.onward {phase : TpcPhase StartError BridgeError IoError ListenerError}
    {stopped : Bool} (invariant : run.Invariant total)
    (fits : phase.fits total run.force.workers.length run.threads.length)
    (allows : ∀ index place, run.force.workers[index]? = some place →
      run.phase.allows index place run.threads[index]? →
        phase.allows index place run.threads[index]?)
    (reports : phase.reports total run.threads) (kept : run.stopped = true → stopped = true)
    (active : run.phase.isReturned = false) : { run with phase, stopped }.Invariant total where
  accounts := invariant.accounts
  fits := fits
  allows index place found := allows index place found (invariant.allows index place found)
  reports := reports
  stops index error exited unpanicked := kept (invariant.stops index error exited unpanicked)
  initialized := .inl (invariant.unreturned active)

/-- The creator does something with a worker it still has. -/
theorem Invariant.creator {phase : TpcPhase StartError BridgeError IoError ListenerError}
    (invariant : run.Invariant total) (after : WorkerPlace) (deed : Option (Deed OsThread))
    (found : run.force.workers[index]? = some place)
    (takes : Workforce.Takes index place after deed)
    (fits : phase.fits total run.force.workers.length run.threads.length)
    (here : phase.allows index after run.threads[index]?)
    (others : ∀ other there, index ≠ other → run.phase.allows other there run.threads[other]? →
      phase.allows other there run.threads[other]?)
    (reports : phase.reports total run.threads) (active : run.phase.isReturned = false) :
    Invariant total { run with phase, force := run.force.move index after deed } where
  accounts := invariant.accounts.move found takes
  fits := by
    rw [Workforce.length_move]
    exact fits
  allows other there located := by
    rw [Workforce.getElem?_move found] at located
    split at located
    · rename_i same
      subst same
      obtain rfl := Option.some.inj located
      exact here
    · rename_i different
      exact others other there different (invariant.allows other there located)
  reports := reports
  stops := invariant.stops
  initialized := .inl (invariant.unreturned active)

theorem Invariant.construct (invariant : run.Invariant total) (outcome : Construction StartError)
    (phase : run.phase = .building) (more : run.force.workers.length < total) :
    (run.construct outcome).Invariant total := by
  have fits := invariant.fits
  have reports := invariant.reports
  have started := invariant.unreturned (by rw [phase]; rfl)
  rw [phase] at fits
  have unthreaded : run.threads = [] := List.eq_nil_of_length_eq_zero fits.2
  have pending (index : Nat) (place : WorkerPlace) :
      run.force.workers[index]? = some place → place = .pending := by
    have allows := invariant.allows index place
    rw [phase] at allows
    exact allows
  have stops : (run.construct outcome).Stops := invariant.stops
  cases outcome with
  | built =>
      refine ⟨invariant.accounts.construct (.built : Construction StartError), ?_, ?_, trivial,
        stops, .inl started⟩
      · simp only [TpcRun.construct, Workforce.construct, TpcPhase.fits, List.length_append,
          List.length_singleton]
        exact ⟨more, fits.2⟩
      · intro index place found
        simp only [TpcRun.construct, Workforce.construct, TpcPhase.allows] at found ⊢
        obtain old | fresh := List.mem_append.mp (List.mem_of_getElem? found)
        · obtain ⟨earlier, here⟩ := List.mem_iff_getElem?.mp old
          exact pending earlier place here
        · exact List.mem_singleton.mp fresh
  | refused error =>
      refine ⟨invariant.accounts, ?_, ?_, trivial, stops, .inl started⟩
      · exact ⟨Nat.le_of_lt more, fits.2 ▸ total.pos, Nat.le_of_eq fits.2, Nat.zero_le _,
          Nat.le_refl _, Nat.le_succ _⟩
      · intro index place found
        have inside := (List.getElem?_eq_some_iff.mp found).1
        simp only [TpcRun.construct, Workforce.construct, unthreaded, List.getElem?_nil,
          TpcPhase.allows]
        rw [if_pos ⟨Nat.zero_le _, inside⟩]
        exact pending index place found
  | failed error =>
      refine ⟨invariant.accounts.construct (.failed error), ?_, ?_, trivial, stops, .inl started⟩
      · simp only [TpcRun.construct, Workforce.construct, TpcPhase.fits, List.length_append,
          List.length_singleton]
        have positive := total.pos
        have none := fits.2
        omega
      · intro index place found
        simp only [TpcRun.construct, Workforce.construct] at found
        simp only [TpcRun.construct, unthreaded, List.getElem?_nil, TpcPhase.allows]
        rw [List.getElem?_append] at found
        split at found
        · rename_i inside
          rw [if_pos ⟨Nat.zero_le _, inside⟩]
          exact pending index place found
        · rename_i outside
          rw [if_neg (by omega)]
          exact List.mem_singleton.mp (List.mem_of_getElem? found)

/-- Before any thread was started every worker is pending, and may be ended. -/
theorem Invariant.giveUp (invariant : run.Invariant total)
    (failure : TpcFailure StartError BridgeError IoError ListenerError)
    (phase : run.phase = .bridging ∨ run.phase = .watching) :
    (run.giveUp failure).Invariant total := by
  have fits := invariant.fits
  have active : run.phase.isReturned = false := by obtain same | same := phase <;> rw [same] <;> rfl
  have counted : run.force.workers.length = total ∧ run.threads.length = 0 := by
    obtain same | same := phase <;> rw [same] at fits <;> exact fits
  have positive := total.pos
  refine invariant.onward ?_ ?_ trivial id active
  · simp only [TpcPhase.fits]
    omega
  · intro index place found allows
    have pending : place = .pending := by
      obtain same | same := phase <;> rw [same] at allows <;> exact allows
    have inside := (List.getElem?_eq_some_iff.mp found).1
    rw [List.eq_nil_of_length_eq_zero counted.2, List.getElem?_nil]
    simp only [TpcPhase.allows]
    rw [if_pos ⟨Nat.zero_le _, inside⟩]
    exact pending

theorem Invariant.spawn {following : Nat} (invariant : run.Invariant total)
    (outcome : Except IoError Unit) (phase : run.phase = .spawning following)
    (more : following < total) : (run.spawn following outcome).Invariant total := by
  have fits := invariant.fits
  have started := invariant.unreturned (by rw [phase]; rfl)
  rw [phase] at fits
  obtain ⟨full, threads, -⟩ := fits
  cases outcome with
  | ok spawned =>
      refine ⟨invariant.accounts, ?_, ?_, trivial, ?_, .inl started⟩
      · simp only [TpcRun.spawn, TpcPhase.fits, List.length_append, List.length_singleton]
        omega
      · intro index place found
        have allows := invariant.allows index place found
        simp only [phase, TpcPhase.allows] at allows
        simp only [TpcRun.spawn, TpcPhase.allows, List.getElem?_append]
        by_cases earlier : index < run.threads.length
        · rw [if_pos earlier]
          rw [List.getElem?_eq_getElem earlier] at allows ⊢
          simp only [if_neg (show index ≠ following by omega)]
          exact allows
        · rw [if_neg earlier]
          rw [List.getElem?_eq_none (by omega)] at allows
          by_cases here : index = following
          · subst here
            rw [threads, Nat.sub_self, List.getElem?_cons_zero]
            exact (if_pos rfl).mpr ⟨rfl, allows⟩
          · rw [List.getElem?_eq_none (by simp; omega)]
            exact allows
      · intro index error exited unpanicked
        simp only [TpcRun.spawn, List.getElem?_append] at exited
        split at exited
        · exact invariant.stops index error exited unpanicked
        · have member := List.mem_singleton.mp (List.mem_of_getElem? exited)
          cases member
  | error source =>
      refine invariant.onward ?_ ?_ ?_ (fun _ => rfl) (by rw [phase]; rfl)
      · exact ⟨full, threads, more, Nat.zero_le _⟩
      · intro index place found allows
        simp only [phase, TpcPhase.allows] at allows ⊢
        split at allows
        · exact allows
        · exact ⟨allows, fun early => absurd early (Nat.not_lt_zero _)⟩
      · simp [TpcPhase.reports]

theorem Invariant.handOff {following : Nat} (invariant : run.Invariant total)
    (phase : run.phase = .handing following) :
    (run.handOff following).Invariant total := by
  have fits := invariant.fits
  rw [phase] at fits
  obtain ⟨full, threads, more⟩ := fits
  obtain ⟨place, found⟩ : ∃ place, run.force.workers[following]? = some place :=
    ⟨_, List.getElem?_eq_getElem (by omega)⟩
  obtain ⟨stage, started⟩ : ∃ stage, run.threads[following]? = some stage :=
    ⟨_, List.getElem?_eq_getElem (by omega)⟩
  have allows := invariant.allows following place found
  simp only [phase, started, TpcPhase.allows, if_true] at allows
  obtain ⟨rfl, rfl⟩ := allows
  refine invariant.creator .spawned none found rfl ⟨full, threads, more⟩ ?_ ?_ trivial
    (by rw [phase]; rfl)
  · rw [started]
    rfl
  · intro other there different allows
    simp only [phase, TpcPhase.allows] at allows ⊢
    split at allows
    · exact allows
    · rw [if_neg (Ne.symm different)] at allows
      exact allows

theorem Invariant.endPending {following stop : Nat}
    {failure : TpcFailure StartError BridgeError IoError ListenerError}
    (invariant : run.Invariant total) (phase : run.phase = .unwinding following stop failure)
    (more : following < stop) :
    (run.endPending following stop failure).Invariant total := by
  have fits := invariant.fits
  rw [phase] at fits
  simp only [TpcPhase.fits] at fits
  obtain ⟨place, found⟩ : ∃ place, run.force.workers[following]? = some place :=
    ⟨_, List.getElem?_eq_getElem (by omega)⟩
  have unthreaded : run.threads[following]? = none := List.getElem?_eq_none (by omega)
  have allows := invariant.allows following place found
  simp only [phase, unthreaded, TpcPhase.allows, if_pos (And.intro (Nat.le_refl following) more)]
    at allows
  subst allows
  refine invariant.creator (.ended .creator) (some (.release .creator)) found rfl ?_ ?_ ?_ trivial
    (by rw [phase]; rfl)
  · simp only [TpcPhase.fits]
    omega
  · rw [unthreaded]
    simp only [TpcPhase.allows]
    rw [if_neg (by omega)]
    trivial
  · intro other there different allows
    simp only [phase, TpcPhase.allows] at allows ⊢
    split at allows
    · split at allows
      · rw [if_pos (by omega)]
        exact allows
      · rw [if_neg (by omega)]
        exact allows
    · exact allows

theorem Invariant.join {following stop : Nat}
    {first failure : Option (ServeError IoError ListenerError)} (invariant : run.Invariant total)
    (phase : run.phase = .joining following stop first failure) (more : following < stop)
    (fired : run.join following stop first failure = some next) : next.Invariant total := by
  have fits := invariant.fits
  have reports := invariant.reports
  rw [phase] at fits reports
  unfold TpcRun.join at fired
  split at fired
  · rename_i result exited
    obtain rfl := Option.some.inj fired
    refine invariant.onward ?_ ?_ ?_ id (by rw [phase]; rfl)
    · cases failure with
      | none => exact ⟨fits.1, fits.2.1, fits.2.2.1, more⟩
      | some failure => exact ⟨fits.1, fits.2.1, fits.2.2.1, more⟩
    · intro index place found allows
      simp only [phase, TpcPhase.allows] at allows ⊢
      split at allows
      · exact allows
      · rename_i stage started
        refine ⟨allows.1, fun early => ?_⟩
        obtain earlier | rfl := Nat.lt_succ_iff_lt_or_eq.mp early
        · exact allows.2 earlier
        · rw [exited] at started
          rw [← Option.some.inj started]
          rfl
    · simp only [TpcPhase.reports] at reports ⊢
      rw [List.take_add_one, exited, List.filterMap_append, reports, List.head?_append]
      cases result <;> rfl
  · cases fired

theorem Invariant.proceed (invariant : run.Invariant total)
    (fired : run.proceed total = some next) : next.Invariant total := by
  have fits := invariant.fits
  have reports := invariant.reports
  unfold TpcRun.proceed at fired
  split at fired
  · rename_i phase
    split at fired
    · rename_i full
      obtain rfl := Option.some.inj fired
      rw [phase] at fits
      refine invariant.onward ⟨full, fits.2⟩ ?_ trivial id (by rw [phase]; rfl)
      intro index place found allows
      rw [phase] at allows
      exact allows
    · cases fired
  · rename_i last phase
    split at fired
    · rename_i through
      obtain rfl := Option.some.inj fired
      rw [phase] at fits
      obtain ⟨full, threads, -⟩ := fits
      refine invariant.onward ⟨full, threads.trans through, through, Nat.zero_le _⟩ ?_ ?_ id
        (by rw [phase]; rfl)
      · intro index place found allows
        simp only [phase, TpcPhase.allows] at allows ⊢
        split at allows
        · exact allows
        · exact ⟨allows, fun early => absurd early (Nat.not_lt_zero _)⟩
      · simp [TpcPhase.reports]
    · cases fired
  · rename_i last stop first phase
    split at fired
    · rename_i through
      obtain rfl := Option.some.inj fired
      rw [phase] at fits reports
      obtain ⟨full, threads, whole, -⟩ := fits
      refine invariant.onward ⟨Nat.le_of_eq full, by omega⟩ ?_ ?_ id (by rw [phase]; rfl)
      · intro index place found allows
        have inside := (List.getElem?_eq_some_iff.mp found).1
        simp only [phase, TpcPhase.allows] at allows ⊢
        rw [List.getElem?_eq_getElem (by omega)] at allows ⊢
        exact ⟨allows.1, allows.2 (by omega)⟩
      · right
        simp only [TpcPhase.reports] at reports
        rw [reports, List.take_of_length_le (by omega)]
    · cases fired
  · rename_i last stop first failure phase
    split at fired
    · rename_i through
      obtain rfl := Option.some.inj fired
      rw [phase] at fits
      obtain ⟨full, threads, more, -⟩ := fits
      refine invariant.onward ?_ ?_ trivial id (by rw [phase]; rfl)
      · simp only [TpcPhase.fits]
        omega
      · intro index place found allows
        have inside := (List.getElem?_eq_some_iff.mp found).1
        simp only [phase, TpcPhase.allows] at allows ⊢
        split at allows
        · rename_i unthreaded
          have outside := List.getElem?_eq_none_iff.mp unthreaded
          rw [if_pos (by omega)]
          exact allows
        · rename_i stage started
          have early := (List.getElem?_eq_some_iff.mp started).1
          exact ⟨allows.1, allows.2 (by omega)⟩
    · cases fired
  · rename_i last stop failure phase
    split at fired
    · rename_i through
      obtain rfl := Option.some.inj fired
      rw [phase] at fits
      simp only [TpcPhase.fits] at fits
      refine invariant.onward ⟨fits.1, by omega⟩ ?_ (.inl fits.2.1) id (by rw [phase]; rfl)
      intro index place found allows
      simp only [phase, TpcPhase.allows] at allows ⊢
      split at allows
      · rw [if_neg (by omega)] at allows
        exact allows
      · exact allows
    · cases fired
  · cases fired

theorem Invariant.step {event : TpcLifeEvent StartError BridgeError IoError ListenerError}
    (invariant : run.Invariant total) (fired : run.step total event = some next) :
    next.Invariant total := by
  have fits := invariant.fits
  unfold TpcRun.step at fired
  split at fired
  · rename_i outcome phase
    split at fired
    · rename_i more
      obtain rfl := Option.some.inj fired
      exact invariant.construct outcome phase more
    · cases fired
  · exact invariant.proceed fired
  · rename_i outcome phase
    obtain rfl := Option.some.inj fired
    obtain error | ⟨⟩ := outcome
    · exact invariant.giveUp _ (.inl phase)
    · rw [phase] at fits
      refine invariant.onward fits ?_ trivial id (by rw [phase]; rfl)
      intro index place found allows
      rw [phase] at allows
      exact allows
  · rename_i outcome phase
    obtain rfl := Option.some.inj fired
    obtain source | ⟨⟩ := outcome
    · exact invariant.giveUp _ (.inr phase)
    · rw [phase] at fits
      refine invariant.onward ⟨fits.1, fits.2, Nat.zero_le _⟩ ?_ trivial id (by rw [phase]; rfl)
      intro index place found allows
      rw [phase] at allows
      simp only [List.eq_nil_of_length_eq_zero fits.2, List.getElem?_nil]
      exact allows
  · rename_i outcome following phase
    split at fired
    · rename_i more
      obtain rfl := Option.some.inj fired
      exact invariant.spawn outcome phase more
    · cases fired
  · rename_i following phase
    obtain rfl := Option.some.inj fired
    exact invariant.handOff phase
  · rename_i following stop failure phase
    split at fired
    · rename_i more
      obtain rfl := Option.some.inj fired
      exact invariant.endPending phase more
    · cases fired
  · rename_i following stop first failure phase
    split at fired
    · rename_i more
      exact invariant.join phase more fired
    · cases fired
  · obtain rfl := Option.some.inj fired
    exact ⟨invariant.accounts, fits, invariant.allows, invariant.reports, fun _ _ _ _ => rfl,
      invariant.initialized⟩
  · rename_i result phase
    obtain rfl := Option.some.inj fired
    exact ⟨invariant.accounts, fits, invariant.allows, invariant.reports, invariant.stops,
      .inr (by rw [phase]; rfl)⟩
  · obtain ⟨stage, started, fired⟩ := Option.bind_eq_some_iff.mp fired
    obtain ⟨place, found, fired⟩ := Option.bind_eq_some_iff.mp fired
    exact invariant.thread started found fired
  · cases fired

end TpcRun

section Sound

variable {StartError BridgeError IoError ListenerError : Type*}

theorem tpcRun_invariant {total : ℕ+} {run : TpcRun StartError BridgeError IoError ListenerError}
    (reachable :
      (tpcLifeMachine StartError BridgeError IoError ListenerError total).Reachable run) :
    run.Invariant total := by
  refine Machine.Reachable.invariant ?_ ?_ reachable
  case refine_2 => exact fun holds fired => holds.step fired
  constructor
  case accounts => exact fun index => by simp [tpcLifeMachine, TpcRun.start]
  case fits => exact ⟨Nat.zero_le _, rfl⟩
  case allows => exact fun index place found => by simp [tpcLifeMachine, TpcRun.start] at found
  case reports => trivial
  case stops => exact fun index error exited => by simp [tpcLifeMachine, TpcRun.start] at exited
  case initialized => exact .inl rfl

/-- What holds of a thread-per-core server's interpreters and threads at any moment. -/
structure TpcRun.Sound (total : ℕ+) (run : TpcRun StartError BridgeError IoError ListenerError) :
    Prop where
  careful : run.force.Careful
  /-- A server that has returned has no thread left, and has ended every interpreter where it was
  bound, save those that panicking threads dropped. -/
  returned : ∀ result, run.phase = .returned result →
    (∀ stage ∈ run.threads, stage.isExited = true) ∧
      ∀ index < run.force.workers.length, run.force.log.custody? index = some (.released
          (if index < run.threads.length then .worker index else .creator)) ∨
        run.force.log.custody? index = some .lost ∧
          ∃ thread payload, run.threads[index]? = some (.exited (.error (.panicked thread payload)))
  /-- Once all threads were started, the first failure among them is the server's. -/
  reported : ∀ result, run.phase = .returned result → run.threads.length = total →
    result = TpcFailure.report (run.threads.filterMap TpcStage.failure?).head?
  stops : run.Stops
  /-- Nothing is done with an interpreter of a finalized runtime. -/
  finalized : run.initialized = false → ∀ event next, run.step total event = some next →
    next.force = run.force

/-- Two threads: the second does not start, and the first sees the stop token. -/
def secondThreadFails : List (TpcLifeEvent Unit Unit String Unit) :=
  [.construct .built, .construct .built, .proceed, .bridge (.ok ()), .watch (.ok ()),
    .spawn (.ok ()), .handOff, .thread 0 .bind, .thread 0 (.runtime (.ok ())), .thread 0 .enter,
    .spawn (.error "EAGAIN"), .thread 0 .leave, .thread 0 .stop, .thread 0 .check,
    .thread 0 .finish, .thread 0 .exit, .join, .proceed, .endPending, .proceed, .finalize]

end Sound

end Pyronova
