import Mathlib.Tactic
import Pyronova.Pool
import Pyronova.Workforce

/-!
# The life of a pool's interpreters

A pool builds its sub-interpreters on one thread, moves each to a thread of its own and waits for
those threads when it stops.  An interpreter is ended by the thread its thread state is bound to and
is not touched again, whichever step of the start fails and however the threads interleave.  A
worker that is dropped, by a thread that does not start or one that panics, leaks its interpreter; a
thread that does not end in time is given up with its own.
-/

namespace Pyronova

/-- Where `InterpreterPool::new`, and later `PoolThreads::join`, has got to. -/
inductive PoolPhase (StartError SpawnError : Type*)
  | building
  /-- `end_all` of the workers from `next` to before `stop`. -/
  | unwinding (next stop : Nat) (error : PoolError StartError SpawnError)
  | spawning (next : Nat)
  | serving
  /-- The pool is dropped; the threads from `next` to before `stop` are still to be joined. -/
  | joining (next stop : Nat) (gaveUp : List Nat) (failure : Option (Nat × SpawnError))
  | returned (gaveUp : List Nat) (result : Except (PoolError StartError SpawnError) Unit)

structure PoolRun (StartError SpawnError : Type*) where
  phase : PoolPhase StartError SpawnError
  force : Workforce
  queued : Lane → Nat
  /-- `Py_IsInitialized`. -/
  initialized : Bool

/-- What a worker's thread does next. -/
inductive ThreadStep
  | bind
  /-- A sync worker takes a request, or an async worker enters its engine. -/
  | enter
  /-- A sync worker takes a request whose caller is gone. -/
  | skip
  /-- The engine pulls a request. -/
  | pull
  /-- The handler returned, or the engine stopped. -/
  | leave
  /-- A sync worker's channel is closed and empty. -/
  | hangUp
  /-- `end_on_own_thread` looks at the runtime. -/
  | check
  | finish
  /-- A Rust panic outside `with_gil`, which catches those of a handler and of the engine. -/
  | panic
  deriving DecidableEq, Repr

inductive PoolLifeEvent (StartError SpawnError : Type*)
  | construct (outcome : Construction StartError)
  | spawn (outcome : Except SpawnError Unit)
  | endPending
  /-- The current loop has run through. -/
  | proceed
  | submit (lane : Lane)
  /-- The server is done: the last reference to the pool is dropped. -/
  | stop
  | join (timedOut : Bool)
  | finalize
  | thread (index : Nat) (step : ThreadStep)

namespace PoolRun

variable {StartError SpawnError : Type*}

def start : PoolRun StartError SpawnError where
  phase := .building
  force := { workers := [], log := [] }
  queued _ := 0
  initialized := true

/-- The pool's senders are gone. -/
def closed (run : PoolRun StartError SpawnError) : Bool :=
  match run.phase with
  | .joining .. | .returned .. => true
  | _ => false

def move (run : PoolRun StartError SpawnError) (index : Nat) (place : WorkerPlace)
    (deed : Option (Deed OsThread)) : PoolRun StartError SpawnError :=
  { run with force := run.force.move index place deed }

def dequeue (run : PoolRun StartError SpawnError) (lane : Lane) : PoolRun StartError SpawnError :=
  { run with queued := Function.update run.queued lane (run.queued lane - 1) }

/-- The workers before `split.syncWorkers` run `serve_sync`, the others `serve_async`. -/
def laneOf (split : WorkerSplit) (index : Nat) : Lane :=
  if index < split.syncWorkers then .sync else .async

/-- `build_workers`, the sync workers before the async ones. -/
def construct (run : PoolRun StartError SpawnError) (outcome : Construction StartError) :
    PoolRun StartError SpawnError :=
  { run with
    force := run.force.construct outcome
    phase := match outcome with
      | .built => .building
      | .refused error | .failed error =>
          .unwinding 0 run.force.workers.length (.worker error) }

/-- The threads of the workers, the sync ones first.  The closure of a thread that would not start
is dropped with its worker. -/
def spawn (run : PoolRun StartError SpawnError) (next : Nat) :
    Except SpawnError Unit → PoolRun StartError SpawnError
  | .ok () => { run.move next .spawned none with phase := .spawning (next + 1) }
  | .error source =>
      { run.move next .leaked (some (.lose .creator)) with
        phase := .unwinding (next + 1) run.force.workers.length (.spawn next source) }

/-- The next thread is waited for, up to the grace period. -/
def join (run : PoolRun StartError SpawnError) (next stop : Nat) (gaveUp : List Nat)
    (failure : Option (Nat × SpawnError)) (timedOut : Bool) :
    Option (PoolRun StartError SpawnError) :=
  if (run.force.workers[next]?.map WorkerPlace.exited).getD false then
    some { run with phase := .joining (next + 1) stop gaveUp failure }
  else if timedOut then
    some { run with phase := .joining (next + 1) stop (gaveUp ++ [next]) failure }
  else none

/-- What follows a loop that has run through. -/
def proceed (split : WorkerSplit) (run : PoolRun StartError SpawnError) :
    Option (PoolRun StartError SpawnError) :=
  match run.phase with
  | .building =>
      if run.force.workers.length = split.total then some { run with phase := .spawning 0 }
      else none
  | .spawning next =>
      if next = split.total then some { run with phase := .serving } else none
  | .unwinding next stop (.worker error) =>
      if next = stop then some { run with phase := .returned [] (.error (.worker error)) } else none
  | .unwinding next stop (.spawn index source) =>
      if next = stop then some { run with phase := .joining 0 index [] (some (index, source)) }
      else none
  | .joining next stop gaveUp failure =>
      if next = stop then
        some { run with
          phase := .returned gaveUp (match failure with
            | none => .ok ()
            | some (index, source) => .error (.spawn index source)) }
      else none
  | _ => none

/-- The bodies of `serve_sync` and `serve_async`. -/
def threadStep (split : WorkerSplit) (run : PoolRun StartError SpawnError) (index : Nat) :
    WorkerPlace → ThreadStep → Option (PoolRun StartError SpawnError)
  | .spawned, .bind => some (run.move index .idle (some (.hand .creator (.worker index))))
  | .idle, .enter =>
      match laneOf split index with
      | .sync =>
          if 0 < run.queued .sync then
            some ((run.dequeue .sync).move index .running (some (.use (.worker index))))
          else none
      | .async => some (run.move index .running (some (.use (.worker index))))
  | .idle, .skip =>
      if laneOf split index = .sync ∧ 0 < run.queued .sync then some (run.dequeue .sync) else none
  | .running, .pull =>
      if laneOf split index = .async ∧ 0 < run.queued .async then some (run.dequeue .async)
      else none
  | .running, .leave =>
      match laneOf split index with
      | .sync => some (run.move index .idle none)
      | .async => some (run.move index .over none)
  | .idle, .hangUp =>
      if laneOf split index = .sync ∧ run.closed ∧ run.queued .sync = 0 then
        some (run.move index .over none)
      else none
  | .over, .check =>
      if run.initialized then some (run.move index .ending none)
      else some (run.move index .abandoned (some (.lose (.worker index))))
  | .ending, .finish =>
      some (run.move index (.ended (.worker index)) (some (.release (.worker index))))
  | .idle, .panic | .over, .panic | .ending, .panic =>
      some (run.move index .unwound (some (.lose (.worker index))))
  | _, _ => none

def step (split : WorkerSplit) (run : PoolRun StartError SpawnError)
    (event : PoolLifeEvent StartError SpawnError) : Option (PoolRun StartError SpawnError) :=
  match event, run.phase with
  | .construct outcome, .building =>
      if run.force.workers.length < split.total then some (run.construct outcome) else none
  | .spawn outcome, .spawning next =>
      if next < split.total then some (run.spawn next outcome) else none
  | .endPending, .unwinding next stop error =>
      if next < stop then
        some { run with
          force := run.force.endHere next
          phase := .unwinding (next + 1) stop error }
      else none
  | .proceed, _ => run.proceed split
  | .submit lane, .serving =>
      some { run with queued := Function.update run.queued lane (run.queued lane + 1) }
  | .stop, .serving => some { run with phase := .joining 0 split.total [] none }
  | .join timedOut, .joining next stop gaveUp failure =>
      if next < stop then run.join next stop gaveUp failure timedOut else none
  | .finalize, .returned .. => some { run with initialized := false }
  | .thread index step, _ =>
      run.force.workers[index]?.bind fun place => run.threadStep split index place step
  | _, _ => none

end PoolRun

variable (StartError SpawnError : Type*) in
/-- A pool's start, its serving and its end, among its threads. -/
def poolLifeMachine (split : WorkerSplit) :
    Machine (PoolRun StartError SpawnError) (PoolLifeEvent StartError SpawnError) where
  init := .start
  step := PoolRun.step split

/-! ## Every interpreter is accounted for -/

namespace PoolPhase

variable {StartError SpawnError : Type*}

/-- Where worker `index` is once the threads that could be spawned were. -/
def placed (failure : Option (Nat × SpawnError)) (index : Nat) (place : WorkerPlace) : Prop :=
  match failure with
  | none => place.onThread index
  | some (failed, _) =>
      if index < failed then place.onThread index
      else if index = failed then place = .leaked
      else place = .ended .creator

/-- Where worker `index` may be in a phase. -/
def allows (index : Nat) (place : WorkerPlace) : PoolPhase StartError SpawnError → Prop
  | .building => place = .pending
  | .unwinding next stop (.worker _) =>
      if next ≤ index ∧ index < stop then place = .pending else place = .ended .creator
  | .unwinding next _ (.spawn failed source) =>
      if next ≤ index then place = .pending else placed (some (failed, source)) index place
  | .spawning next => if index < next then place.onThread index else place = .pending
  | .serving => place.onThread index
  | .joining next stop gaveUp failure =>
      placed failure index place ∧
        (index < next → index < stop → place.through index ∨ index ∈ gaveUp)
  | .returned gaveUp (.ok ()) =>
      place.through index ∨ place.onThread index ∧ index ∈ gaveUp
  | .returned gaveUp (.error (.spawn failed source)) =>
      placed (some (failed, source)) index place ∧
        (index < failed → place.through index ∨ index ∈ gaveUp)
  | .returned _ (.error (.worker _)) => place = .ended .creator

/-- How many workers there are in a phase, and how far its loop has got. -/
def fits (total workers : Nat) : PoolPhase StartError SpawnError → Prop
  | .building => workers ≤ total
  | .unwinding next stop (.worker _) => next ≤ stop ∧ stop ≤ workers ∧ workers ≤ total
  | .unwinding next stop (.spawn failed _) =>
      failed < next ∧ next ≤ stop ∧ stop = workers ∧ workers = total
  | .spawning next => next ≤ workers ∧ workers = total
  | .serving => workers = total
  | .joining next stop _ failure =>
      next ≤ stop ∧ workers = total ∧
        match failure with
        | none => stop = total
        | some (failed, _) => stop = failed ∧ failed < total
  | .returned _ (.ok ()) => workers = total
  | .returned _ (.error (.spawn failed _)) => workers = total ∧ failed < total
  | .returned _ (.error (.worker _)) => workers ≤ total

def isReturned : PoolPhase StartError SpawnError → Bool
  | .returned .. => true
  | _ => false

theorem placed_of_active {failure : Option (Nat × SpawnError)} {index : Nat}
    {place next : WorkerPlace} (holds : placed failure index place) (active : place.active = true)
    (moves : next.onThread index) : placed failure index next := by
  cases failure with
  | none => exact moves
  | some failed =>
      simp only [placed] at holds ⊢
      split
      · exact moves
      · rename_i late
        rw [if_neg late] at holds
        split at holds <;> subst holds <;> cases active

/-- A thread that is not done may go on in every phase. -/
theorem allows_of_active {phase : PoolPhase StartError SpawnError} {index : Nat}
    {place next : WorkerPlace} (holds : phase.allows index place) (active : place.active = true)
    (moves : next.onThread index) : phase.allows index next := by
  have unfinished : ¬ place.through index := by
    rintro (rfl | rfl) <;> cases active
  have held {gaveUp : List Nat} (holds : place.through index ∨ index ∈ gaveUp) :
      next.through index ∨ index ∈ gaveUp := .inr (holds.resolve_left unfinished)
  cases phase with
  | building => subst holds; cases active
  | unwinding after stop error =>
      cases error with
      | worker error =>
          simp only [allows] at holds
          split at holds <;> subst holds <;> cases active
      | spawn failed source =>
          simp only [allows] at holds ⊢
          split at holds
          · subst holds
            cases active
          · rename_i passed
            rw [if_neg passed]
            exact placed_of_active holds active moves
  | spawning after =>
      simp only [allows] at holds ⊢
      split at holds
      · rename_i spawned
        rw [if_pos spawned]
        exact moves
      · subst holds
        cases active
  | serving => exact moves
  | joining after stop gaveUp failure =>
      exact ⟨placed_of_active holds.1 active moves,
        fun passed inside => held (holds.2 passed inside)⟩
  | returned gaveUp result =>
      obtain error | ⟨⟩ := result
      · obtain error | ⟨failed, source⟩ := error
        · simp only [allows] at holds
          subst holds
          cases active
        · exact ⟨placed_of_active holds.1 active moves, fun early => held (holds.2 early)⟩
      · exact .inr ⟨moves, (holds.resolve_left unfinished).2⟩

end PoolPhase

namespace PoolRun

variable {StartError SpawnError : Type*} {run next : PoolRun StartError SpawnError}
  {split : WorkerSplit} {index : Nat} {place after : WorkerPlace}

structure Invariant (split : WorkerSplit) (run : PoolRun StartError SpawnError) : Prop where
  accounts : run.force.Accounts
  fits : run.phase.fits split.total run.force.workers.length
  allows : ∀ index place, run.force.workers[index]? = some place → run.phase.allows index place
  initialized : run.initialized = true ∨ run.phase.isReturned = true
  abandoned : WorkerPlace.abandoned ∈ run.force.workers → run.initialized = false

/-- What a step of a worker's thread does. -/
structure ThreadMoves (run next : PoolRun StartError SpawnError) (index : Nat)
    (place after : WorkerPlace) (deed : Option (Deed OsThread)) : Prop where
  force : next.force = run.force.move index after deed
  takes : Workforce.Takes index place after deed
  active : place.active = true
  onThread : after.onThread index
  phase : next.phase = run.phase
  initialized : next.initialized = run.initialized
  abandons : after = .abandoned → run.initialized = false

theorem threadStep_moves {step : ThreadStep} (found : run.force.workers[index]? = some place)
    (fired : run.threadStep split index place step = some next) :
    ∃ after deed, ThreadMoves run next index place after deed := by
  have used : Workforce.Takes index .idle .running (some (.use (.worker index))) := if_pos rfl
  have stays : run.force = run.force.move index place none := (Workforce.move_self found).symm
  unfold threadStep at fired
  split at fired
  · obtain rfl := Option.some.inj fired
    exact ⟨.idle, _, rfl, rfl, rfl, trivial, rfl, rfl, by simp⟩
  · split at fired
    · split at fired
      · obtain rfl := Option.some.inj fired
        exact ⟨.running, _, rfl, used, rfl, trivial, rfl, rfl, by simp⟩
      · cases fired
    · obtain rfl := Option.some.inj fired
      exact ⟨.running, _, rfl, used, rfl, trivial, rfl, rfl, by simp⟩
  · split at fired
    · obtain rfl := Option.some.inj fired
      exact ⟨.idle, none, stays, rfl, rfl, trivial, rfl, rfl, by simp⟩
    · cases fired
  · split at fired
    · obtain rfl := Option.some.inj fired
      exact ⟨.running, none, stays, rfl, rfl, trivial, rfl, rfl, by simp⟩
    · cases fired
  · split at fired
    · obtain rfl := Option.some.inj fired
      exact ⟨.idle, none, rfl, rfl, rfl, trivial, rfl, rfl, by simp⟩
    · obtain rfl := Option.some.inj fired
      exact ⟨.over, none, rfl, rfl, rfl, trivial, rfl, rfl, by simp⟩
  · split at fired
    · obtain rfl := Option.some.inj fired
      exact ⟨.over, none, rfl, rfl, rfl, trivial, rfl, rfl, by simp⟩
    · cases fired
  · split at fired
    · obtain rfl := Option.some.inj fired
      exact ⟨.ending, none, rfl, rfl, rfl, trivial, rfl, rfl, by simp⟩
    · rename_i finalized
      obtain rfl := Option.some.inj fired
      exact ⟨.abandoned, _, rfl, if_pos rfl, rfl, trivial, rfl, rfl,
        fun _ => Bool.eq_false_iff.mpr finalized⟩
  · obtain rfl := Option.some.inj fired
    exact ⟨.ended (.worker index), _, rfl, if_pos rfl, rfl, rfl, rfl, rfl, by simp⟩
  · obtain rfl := Option.some.inj fired
    exact ⟨.unwound, _, rfl, if_pos rfl, rfl, trivial, rfl, rfl, by simp⟩
  · obtain rfl := Option.some.inj fired
    exact ⟨.unwound, _, rfl, if_pos rfl, rfl, trivial, rfl, rfl, by simp⟩
  · obtain rfl := Option.some.inj fired
    exact ⟨.unwound, _, rfl, if_pos rfl, rfl, trivial, rfl, rfl, by simp⟩
  · cases fired

theorem Invariant.thread {step : ThreadStep} (invariant : run.Invariant split)
    (found : run.force.workers[index]? = some place)
    (fired : run.threadStep split index place step = some next) : next.Invariant split := by
  obtain ⟨after, deed, step⟩ := threadStep_moves found fired
  constructor
  · rw [step.force]
    exact invariant.accounts.move found step.takes
  · rw [step.phase, step.force, Workforce.length_move]
    exact invariant.fits
  · intro other there located
    rw [step.phase]
    rw [step.force, Workforce.getElem?_move found] at located
    split at located
    · rename_i same
      obtain rfl := Option.some.inj located
      subst same
      exact PoolPhase.allows_of_active (invariant.allows _ _ found) step.active step.onThread
    · exact invariant.allows other there located
  · rw [step.initialized, step.phase]
    exact invariant.initialized
  · intro member
    rw [step.initialized]
    rw [step.force] at member
    obtain old | same := List.mem_or_eq_of_mem_set member
    · exact invariant.abandoned old
    · exact step.abandons same.symm

theorem Invariant.construct (invariant : run.Invariant split) (outcome : Construction StartError)
    (phase : run.phase = .building) (more : run.force.workers.length < split.total) :
    (run.construct outcome).Invariant split := by
  have started : run.initialized = true := by
    have holds := invariant.initialized
    rw [phase] at holds
    exact holds.resolve_right Bool.false_ne_true
  have pending (index : Nat) (place : WorkerPlace) :
      run.force.workers[index]? = some place → place = .pending := by
    have allows := invariant.allows index place
    rw [phase] at allows
    exact allows
  have unabandoned : WorkerPlace.abandoned ∉ run.force.workers := by
    intro member
    rw [invariant.abandoned member] at started
    cases started
  cases outcome with
  | built =>
      refine ⟨invariant.accounts.construct (.built : Construction StartError), ?_, ?_,
        .inl started, ?_⟩
      · simp only [PoolRun.construct, Workforce.construct, PoolPhase.fits, List.length_append,
          List.length_singleton]
        exact more
      · intro index place found
        simp only [PoolRun.construct, Workforce.construct, PoolPhase.allows] at found ⊢
        obtain old | fresh := List.mem_append.mp (List.mem_of_getElem? found)
        · obtain ⟨earlier, here⟩ := List.mem_iff_getElem?.mp old
          exact pending earlier place here
        · exact List.mem_singleton.mp fresh
      · simp [PoolRun.construct, Workforce.construct, unabandoned]
  | refused error =>
      refine ⟨invariant.accounts, ⟨Nat.zero_le _, Nat.le_refl _, Nat.le_of_lt more⟩, ?_,
        .inl started, invariant.abandoned⟩
      intro index place found
      have inside := (List.getElem?_eq_some_iff.mp found).1
      exact (if_pos ⟨Nat.zero_le _, inside⟩).mpr (pending index place found)
  | failed error =>
      refine ⟨invariant.accounts.construct (.failed error), ?_, ?_, .inl started, ?_⟩
      · simp only [PoolRun.construct, Workforce.construct, PoolPhase.fits, List.length_append,
          List.length_singleton]
        omega
      · intro index place found
        simp only [PoolRun.construct, Workforce.construct] at found
        simp only [PoolRun.construct, PoolPhase.allows]
        rw [List.getElem?_append] at found
        split at found
        · rename_i inside
          rw [if_pos ⟨Nat.zero_le _, inside⟩]
          exact pending index place found
        · rename_i outside
          rw [if_neg (by omega)]
          exact (List.mem_singleton.mp (List.mem_of_getElem? found))
      · simp [PoolRun.construct, Workforce.construct, unabandoned]

/-- The creator does something with one pending worker. -/
theorem Invariant.creator (invariant : run.Invariant split) (after : WorkerPlace)
    (deed : Option (Deed OsThread)) (found : run.force.workers[index]? = some place)
    (takes : Workforce.Takes index place after deed)
    (force : next.force = run.force.move index after deed) (kept : after ≠ .abandoned)
    (started : next.initialized = run.initialized)
    (fits : next.phase.fits split.total run.force.workers.length)
    (here : next.phase.allows index after)
    (others : ∀ other there, index ≠ other → run.phase.allows other there →
      next.phase.allows other there)
    (active : run.phase.isReturned = false) : next.Invariant split := by
  refine ⟨?_, ?_, ?_, ?_, ?_⟩
  · rw [force]
    exact invariant.accounts.move found takes
  · rw [force, Workforce.length_move]
    exact fits
  · intro other there located
    rw [force, Workforce.getElem?_move found] at located
    split at located
    · rename_i same
      subst same
      obtain rfl := Option.some.inj located
      exact here
    · rename_i different
      exact others other there different (invariant.allows other there located)
  · rw [started]
    exact .inl (invariant.initialized.resolve_right (by rw [active]; exact Bool.false_ne_true))
  · intro member
    rw [force] at member
    rw [started]
    obtain old | same := List.mem_or_eq_of_mem_set member
    · exact invariant.abandoned old
    · exact absurd same.symm kept

/-- Only the phase moves on. -/
theorem Invariant.onward {phase : PoolPhase StartError SpawnError} (invariant : run.Invariant split)
    (fits : phase.fits split.total run.force.workers.length)
    (allows : ∀ index place, run.force.workers[index]? = some place →
      run.phase.allows index place → phase.allows index place)
    (active : run.phase.isReturned = false) : { run with phase }.Invariant split where
  accounts := invariant.accounts
  fits := fits
  allows index place found := allows index place found (invariant.allows index place found)
  initialized :=
    .inl (invariant.initialized.resolve_right (by rw [active]; exact Bool.false_ne_true))
  abandoned := invariant.abandoned

theorem Invariant.spawn {following : Nat} (invariant : run.Invariant split)
    (outcome : Except SpawnError Unit) (phase : run.phase = .spawning following)
    (more : following < split.total) : (run.spawn following outcome).Invariant split := by
  have fits := invariant.fits
  have allows := invariant.allows following
  simp only [phase, PoolPhase.fits] at fits
  have inside : following < run.force.workers.length := by omega
  obtain ⟨place, found⟩ : ∃ place, run.force.workers[following]? = some place :=
    ⟨_, List.getElem?_eq_getElem inside⟩
  have pending := allows place found
  simp only [phase, PoolPhase.allows, if_neg (Nat.lt_irrefl _)] at pending
  subst pending
  have others (other : Nat) (there : WorkerPlace) (different : following ≠ other)
      (holds : run.phase.allows other there) :
      if other < following + 1 then there.onThread other else there = .pending := by
    simp only [phase, PoolPhase.allows] at holds
    split
    · rw [if_pos (by omega)] at holds
      exact holds
    · rw [if_neg (by omega)] at holds
      exact holds
  cases outcome with
  | ok spawned =>
      refine invariant.creator .spawned none found rfl rfl (by simp) rfl ⟨by omega, fits.2⟩ ?_
        others (by rw [phase]; rfl)
      exact (if_pos (Nat.lt_succ_self _)).mpr trivial
  | error source =>
      refine invariant.creator .leaked (some (.lose .creator)) found rfl rfl (by simp) rfl
        ⟨Nat.lt_succ_self _, inside, rfl, fits.2⟩ ?_ ?_ (by rw [phase]; rfl)
      · simp [PoolRun.spawn, PoolPhase.allows, PoolPhase.placed]
      · intro other there different holds
        have placed := others other there different holds
        simp only [PoolRun.spawn, PoolPhase.allows, PoolPhase.placed]
        split at placed
        · rw [if_neg (by omega), if_pos (by omega)]
          exact placed
        · rw [if_pos (by omega)]
          exact placed

theorem Invariant.endPending {following stop : Nat} {error : PoolError StartError SpawnError}
    (invariant : run.Invariant split) (phase : run.phase = .unwinding following stop error)
    (more : following < stop) :
    Invariant split { run.move following (.ended .creator) (some (.release .creator)) with
      phase := .unwinding (following + 1) stop error } := by
  have fits := invariant.fits
  have allows := invariant.allows following
  rw [phase] at fits
  have inside : following < run.force.workers.length := by
    cases error with
    | worker error =>
        simp only [PoolPhase.fits] at fits
        omega
    | spawn failed source =>
        simp only [PoolPhase.fits] at fits
        omega
  obtain ⟨place, found⟩ : ∃ place, run.force.workers[following]? = some place :=
    ⟨_, List.getElem?_eq_getElem inside⟩
  have pending := allows place found
  rw [phase] at pending
  cases error with
  | worker error =>
      simp only [PoolPhase.fits] at fits
      simp only [PoolPhase.allows, if_pos (And.intro (Nat.le_refl following) more)] at pending
      subst pending
      refine invariant.creator (.ended .creator) (some (.release .creator)) found rfl rfl (by simp)
        rfl ⟨by omega, fits.2⟩ ?_ ?_ (by rw [phase]; rfl)
      · exact (if_neg (by omega)).mpr rfl
      · intro other there different holds
        simp only [phase, PoolPhase.allows] at holds ⊢
        split at holds
        · rw [if_pos (by omega)]
          exact holds
        · rw [if_neg (by omega)]
          exact holds
  | spawn failed source =>
      simp only [PoolPhase.fits] at fits
      simp only [PoolPhase.allows, if_pos (Nat.le_refl following)] at pending
      subst pending
      refine invariant.creator (.ended .creator) (some (.release .creator)) found rfl rfl (by simp)
        rfl ⟨by omega, by omega, fits.2.2⟩ ?_ ?_ (by rw [phase]; rfl)
      · simp only [PoolPhase.allows, PoolPhase.placed]
        rw [if_neg (by omega), if_neg (by omega), if_neg (by omega)]
        trivial
      · intro other there different holds
        simp only [phase, PoolPhase.allows] at holds ⊢
        split at holds
        · rw [if_pos (by omega)]
          exact holds
        · rw [if_neg (by omega)]
          exact holds

/-- A thread that is done before the pool's start or end is has ended its interpreter, unless it
panicked. -/
theorem Invariant.through_of_exited (invariant : run.Invariant split)
    (active : run.phase.isReturned = false) (found : run.force.workers[index]? = some place)
    (moved : place.onThread index) (exited : place.exited = true) : place.through index := by
  cases place with
  | ended thread =>
      left
      rw [moved]
  | unwound => exact .inr rfl
  | abandoned =>
      have finalized := invariant.abandoned (List.mem_of_getElem? found)
      have initialized := invariant.initialized
      rw [finalized, active] at initialized
      simp at initialized
  | _ => cases exited

/-- The threads that are joined are those of workers that were moved to them. -/
theorem Invariant.onThread {following stop : Nat} {gaveUp : List Nat}
    {failure : Option (Nat × SpawnError)} (invariant : run.Invariant split)
    (phase : run.phase = .joining following stop gaveUp failure)
    (found : run.force.workers[index]? = some place) (inside : index < stop) :
    place.onThread index := by
  have allows := invariant.allows index place found
  have fits := invariant.fits
  rw [phase] at allows fits
  have placed := allows.1
  cases failure with
  | none => exact placed
  | some failure =>
      have reached := fits.2.2.1
      simp only [PoolPhase.placed] at placed
      rw [if_pos (by omega)] at placed
      exact placed

theorem Invariant.join {following stop : Nat} {gaveUp : List Nat}
    {failure : Option (Nat × SpawnError)} {timedOut : Bool} (invariant : run.Invariant split)
    (phase : run.phase = .joining following stop gaveUp failure) (more : following < stop)
    (fired : run.join following stop gaveUp failure timedOut = some next) :
    next.Invariant split := by
  have fits := invariant.fits
  rw [phase] at fits
  simp only [PoolPhase.fits] at fits
  have active : run.phase.isReturned = false := by rw [phase]; rfl
  unfold PoolRun.join at fired
  split at fired
  · rename_i exited
    obtain rfl := Option.some.inj fired
    refine invariant.onward ⟨more, fits.2⟩ ?_ active
    intro index place found holds
    rw [phase] at holds
    refine ⟨holds.1, fun early inside => ?_⟩
    obtain earlier | rfl := Nat.lt_succ_iff_lt_or_eq.mp early
    · exact holds.2 earlier inside
    · rw [found] at exited
      exact .inl (invariant.through_of_exited active found
        (invariant.onThread phase found inside) exited)
  · split at fired
    · obtain rfl := Option.some.inj fired
      refine invariant.onward ⟨more, fits.2⟩ ?_ active
      intro index place found holds
      rw [phase] at holds
      refine ⟨holds.1, fun early inside => ?_⟩
      obtain earlier | rfl := Nat.lt_succ_iff_lt_or_eq.mp early
      · exact (holds.2 earlier inside).imp_right (List.mem_append_left _)
      · exact .inr (List.mem_append_right _ (List.mem_singleton_self _))
    · cases fired

theorem Invariant.proceed (invariant : run.Invariant split)
    (fired : run.proceed split = some next) : next.Invariant split := by
  have fits := invariant.fits
  unfold PoolRun.proceed at fired
  split at fired
  · rename_i phase
    split at fired
    · rename_i full
      obtain rfl := Option.some.inj fired
      refine invariant.onward ⟨Nat.zero_le _, full⟩ ?_ (by rw [phase]; rfl)
      intro index place found holds
      rw [phase] at holds
      simp only [PoolPhase.allows, if_neg (Nat.not_lt_zero index)]
      exact holds
    · cases fired
  · rename_i last phase
    split at fired
    · rename_i through
      obtain rfl := Option.some.inj fired
      rw [phase] at fits
      refine invariant.onward fits.2 ?_ (by rw [phase]; rfl)
      intro index place found holds
      have inside := (List.getElem?_eq_some_iff.mp found).1
      rw [fits.2, ← through] at inside
      simp only [phase, PoolPhase.allows, if_pos inside] at holds
      exact holds
    · cases fired
  · rename_i last stop error phase
    split at fired
    · rename_i through
      obtain rfl := Option.some.inj fired
      rw [phase] at fits
      refine invariant.onward fits.2.2 ?_ (by rw [phase]; rfl)
      intro index place found holds
      simp only [phase, PoolPhase.allows] at holds
      rw [if_neg (by omega)] at holds
      exact holds
    · cases fired
  · rename_i last stop failed source phase
    split at fired
    · rename_i through
      obtain rfl := Option.some.inj fired
      rw [phase] at fits
      obtain ⟨late, -, whole, full⟩ := fits
      refine invariant.onward ⟨Nat.zero_le _, full, rfl, by omega⟩ ?_ (by rw [phase]; rfl)
      intro index place found holds
      have inside := (List.getElem?_eq_some_iff.mp found).1
      simp only [phase, PoolPhase.allows] at holds
      rw [if_neg (by omega)] at holds
      exact ⟨holds, fun early => absurd early (Nat.not_lt_zero _)⟩
    · cases fired
  · rename_i last stop gaveUp failure phase
    split at fired
    · rename_i through
      obtain rfl := Option.some.inj fired
      rw [phase] at fits
      obtain ⟨-, full, whole⟩ := fits
      cases failure with
      | none =>
          refine invariant.onward full ?_ (by rw [phase]; rfl)
          intro index place found holds
          have inside := (List.getElem?_eq_some_iff.mp found).1
          rw [phase] at holds
          obtain done | gone := holds.2 (by omega) (by omega)
          · exact .inl done
          · exact .inr ⟨holds.1, gone⟩
      | some failure =>
          refine invariant.onward ⟨full, whole.2⟩ ?_ (by rw [phase]; rfl)
          intro index place found holds
          have reached := whole.1
          rw [phase] at holds
          exact ⟨holds.1, fun early => holds.2 (by omega) (by omega)⟩
    · cases fired
  · cases fired

theorem Invariant.step {event : PoolLifeEvent StartError SpawnError}
    (invariant : run.Invariant split) (fired : run.step split event = some next) :
    next.Invariant split := by
  unfold PoolRun.step at fired
  split at fired
  · rename_i outcome phase
    split at fired
    · rename_i more
      obtain rfl := Option.some.inj fired
      exact invariant.construct outcome phase more
    · cases fired
  · rename_i outcome following phase
    split at fired
    · rename_i more
      obtain rfl := Option.some.inj fired
      exact invariant.spawn outcome phase more
    · cases fired
  · rename_i following stop error phase
    split at fired
    · rename_i more
      obtain rfl := Option.some.inj fired
      exact invariant.endPending phase more
    · cases fired
  · exact invariant.proceed fired
  · obtain rfl := Option.some.inj fired
    exact ⟨invariant.accounts, invariant.fits, invariant.allows, invariant.initialized,
      invariant.abandoned⟩
  · rename_i phase
    obtain rfl := Option.some.inj fired
    have fits := invariant.fits
    rw [phase] at fits
    refine invariant.onward ⟨Nat.zero_le _, fits, rfl⟩ ?_ (by rw [phase]; rfl)
    intro index place found holds
    rw [phase] at holds
    exact ⟨holds, fun early => absurd early (Nat.not_lt_zero _)⟩
  · rename_i timedOut following stop gaveUp failure phase
    split at fired
    · rename_i more
      exact invariant.join phase more fired
    · cases fired
  · rename_i phase
    obtain rfl := Option.some.inj fired
    exact ⟨invariant.accounts, invariant.fits, invariant.allows, .inr (by rw [phase]; rfl),
      fun _ => rfl⟩
  · obtain ⟨place, found, fired⟩ := Option.bind_eq_some_iff.mp fired
    exact invariant.thread found fired
  · cases fired

end PoolRun

theorem poolRun_invariant {StartError SpawnError : Type*} {split : WorkerSplit}
    {run : PoolRun StartError SpawnError}
    (reachable : (poolLifeMachine StartError SpawnError split).Reachable run) :
    run.Invariant split := by
  refine Machine.Reachable.invariant ?_ ?_ reachable
  case refine_2 => exact fun holds fired => holds.step fired
  exact ⟨fun index => by simp [poolLifeMachine, PoolRun.start], Nat.zero_le _,
    fun index place found => by simp [poolLifeMachine, PoolRun.start] at found, .inl rfl,
    fun member => by simp [poolLifeMachine, PoolRun.start] at member⟩

/-- The worker's thread has ended its interpreter, or has panicked and lost it. -/
def PoolRun.Through {StartError SpawnError : Type*} (run : PoolRun StartError SpawnError)
    (index : Nat) : Prop :=
  run.force.log.custody? index = some (.released (.worker index)) ∨
    run.force.workers[index]? = some .unwound ∧ run.force.log.custody? index = some .lost

/-- What holds of a pool's interpreters at any moment, whatever failed and whichever thread was
faster. -/
structure PoolRun.Sound {StartError SpawnError : Type*} (split : WorkerSplit)
    (run : PoolRun StartError SpawnError) : Prop where
  careful : run.force.Careful
  /-- A failed construction ends all that was built where it was built. -/
  buildFailed : ∀ gaveUp error, run.phase = .returned gaveUp (.error (.worker error)) →
    ∀ index, run.force.log.custody? index = some .absent ∨
      run.force.log.custody? index = some (.released .creator)
  /-- A thread that does not start takes its worker with it, and no other. -/
  spawnFailed : ∀ gaveUp failed source,
    run.phase = .returned gaveUp (.error (.spawn failed source)) →
    failed < split.total ∧ ∀ index < split.total, index ∉ gaveUp →
      if index < failed then run.Through index
      else run.force.log.custody? index =
        some (if index = failed then .lost else .released .creator)
  joined : ∀ gaveUp, run.phase = .returned gaveUp (.ok ()) → ∀ index < split.total,
    index ∉ gaveUp → run.Through index
  /-- Only a thread that was given up touches an interpreter of a finalized runtime. -/
  finalized : run.initialized = false → ∀ event next, run.step split event = some next →
    next.force.log = run.force.log ∨ ∃ gaveUp result, run.phase = .returned gaveUp result ∧
      ∃ index ∈ gaveUp, ∃ deed, next.force.log = run.force.log ++ [(index, deed)]

namespace PoolRun

variable {StartError SpawnError : Type*} {run next : PoolRun StartError SpawnError}
  {split : WorkerSplit} {index : Nat} {place : WorkerPlace}

/-- A thread still at work when the pool has returned was given up. -/
theorem Invariant.mem_gaveUp {gaveUp : List Nat}
    {result : Except (PoolError StartError SpawnError) Unit} (invariant : run.Invariant split)
    (phase : run.phase = .returned gaveUp result) (found : run.force.workers[index]? = some place)
    (active : place.active = true) : index ∈ gaveUp := by
  have allows := invariant.allows index place found
  rw [phase] at allows
  have unended : ∀ thread, place ≠ .ended thread := by
    rintro thread rfl
    cases active
  have unfinished : ¬ place.through index := by
    rintro (rfl | rfl) <;> cases active
  obtain error | ⟨⟩ := result
  · obtain error | ⟨failed, source⟩ := error
    · exact absurd allows (unended _)
    · obtain ⟨placed, early⟩ := allows
      simp only [PoolPhase.placed] at placed
      split at placed
      · rename_i moved
        exact (early moved).resolve_left unfinished
      · split at placed
        · subst placed
          cases active
        · exact absurd placed (unended _)
  · exact (allows.resolve_left unfinished).2

theorem Invariant.through (invariant : run.Invariant split)
    (found : run.force.workers[index]? = some place) (done : place.through index) :
    run.Through index := by
  have custody := invariant.accounts.custody found
  rcases done with rfl | rfl
  · exact .inl custody
  · exact .inr ⟨found, custody⟩

theorem Invariant.finalized {event : PoolLifeEvent StartError SpawnError}
    (invariant : run.Invariant split) (finalized : run.initialized = false)
    (fired : run.step split event = some next) :
    next.force.log = run.force.log ∨ ∃ gaveUp result, run.phase = .returned gaveUp result ∧
      ∃ index ∈ gaveUp, ∃ deed, next.force.log = run.force.log ++ [(index, deed)] := by
  obtain ⟨gaveUp, result, phase⟩ :
      ∃ gaveUp result, run.phase = .returned gaveUp result := by
    have returned := invariant.initialized
    rw [finalized] at returned
    have returned := returned.resolve_left Bool.false_ne_true
    generalize run.phase = phase at returned
    cases phase with
    | returned gaveUp result => exact ⟨gaveUp, result, rfl⟩
    | _ => cases returned
  unfold PoolRun.step at fired
  split at fired
  case h_9 =>
    obtain ⟨place, found, fired⟩ := Option.bind_eq_some_iff.mp fired
    obtain ⟨after, deed, step⟩ := threadStep_moves found fired
    rw [step.force]
    cases deed with
    | none => exact .inl (List.append_nil _)
    | some deed =>
        exact .inr ⟨gaveUp, result, phase, _, invariant.mem_gaveUp phase found step.active, deed,
          rfl⟩
  all_goals simp_all [PoolRun.proceed]
  obtain rfl := fired
  exact .inl rfl

end PoolRun

/-- Whatever construction or thread fails, and in whatever order the threads take their steps, every
interpreter is used and ended by the thread that holds it, once and for all, but for those that a
thread which did not start, or panicked, or was given up has. -/
theorem pool_custody {StartError SpawnError : Type*} (split : WorkerSplit)
    (run : PoolRun StartError SpawnError)
    (reachable : (poolLifeMachine StartError SpawnError split).Reachable run) :
    run.Sound split := by
  have invariant := poolRun_invariant reachable
  constructor
  case careful => exact invariant.accounts.careful
  case buildFailed =>
    intro gaveUp error phase index
    cases found : run.force.workers[index]? with
    | none =>
        left
        rw [invariant.accounts, found]
        rfl
    | some place =>
        have allows := invariant.allows index place found
        rw [phase] at allows
        right
        rw [invariant.accounts.custody found, allows]
        rfl
  case spawnFailed =>
    intro gaveUp failed source phase
    have fits := invariant.fits
    rw [phase] at fits
    refine ⟨fits.2, ?_⟩
    intro index inside kept
    obtain ⟨place, found⟩ : ∃ place, run.force.workers[index]? = some place :=
      ⟨_, List.getElem?_eq_getElem (fits.1 ▸ inside)⟩
    have allows := invariant.allows index place found
    rw [phase] at allows
    obtain ⟨placed, early⟩ := allows
    simp only [PoolPhase.placed] at placed
    split at placed
    · rename_i moved
      rw [if_pos moved]
      exact invariant.through found ((early moved).resolve_right kept)
    · rename_i late
      rw [if_neg late, invariant.accounts.custody found]
      split at placed
      · rename_i same
        rw [placed, if_pos same]
        rfl
      · rename_i other
        rw [placed, if_neg other]
        rfl
  case joined =>
    intro gaveUp phase index inside kept
    have fits := invariant.fits
    rw [phase] at fits
    obtain ⟨place, found⟩ : ∃ place, run.force.workers[index]? = some place :=
      ⟨_, List.getElem?_eq_getElem (fits ▸ inside)⟩
    have allows := invariant.allows index place found
    rw [phase] at allows
    exact invariant.through found (allows.resolve_right fun left => kept left.2)
  case finalized => exact fun finalized event next fired => invariant.finalized finalized fired

/-- Three sync workers, of which one panics and one does not end in time, and an async one, whose
thread does not start. -/
def asyncThreadFails : List (PoolLifeEvent Unit String) :=
  [.construct .built, .construct .built, .construct .built, .construct .built, .proceed,
    .spawn (.ok ()), .thread 0 .bind, .spawn (.ok ()), .spawn (.ok ()), .spawn (.error "EAGAIN"),
    .proceed, .thread 0 .hangUp, .thread 0 .check, .thread 1 .bind, .thread 2 .bind,
    .thread 0 .finish, .join false, .thread 1 .panic, .join false, .thread 2 .hangUp, .join true,
    .proceed, .finalize, .thread 2 .check]

theorem pool_custody_asyncThreadFails :
    ∃ run : PoolRun Unit String,
      (poolLifeMachine Unit String ⟨3, 1⟩).run asyncThreadFails = some run ∧
      run.phase = .returned [2] (.error (.spawn 3 "EAGAIN")) ∧ run.Sound ⟨3, 1⟩ :=
  ⟨_, rfl, rfl, pool_custody ⟨3, 1⟩ _ ⟨asyncThreadFails, rfl⟩⟩

end Pyronova
