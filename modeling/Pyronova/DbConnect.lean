import Mathlib.Tactic
import Pyronova.Execution

/-!
# Opening the process's database pool

A process has one pool, in a cell that is set once.  A call checks the pool that is there, or opens
one of its own and tries to install it; a call that loses the race gives its pool up and is checked
against the winner's.  Calls take these steps in any order, and any of them may fail to open.
-/

namespace Pyronova

def DEFAULT_MAX_CONNECTIONS : UInt32 := 10

/-- In seconds, as every timeout here. -/
def DEFAULT_ACQUIRE_TIMEOUT : UInt64 := 30

structure PoolSettings where
  dsn : String
  maxConnections : UInt32
  acquireTimeout : UInt64
  deriving DecidableEq, Repr

/-- What a call asked for; a setting it left out is whatever the pool has. -/
structure PoolRequest where
  dsn : String
  maxConnections : Option UInt32
  acquireTimeout : Option UInt64
  deriving DecidableEq, Repr

/-- The pool of the process, opened with other settings than a call names. -/
inductive Reconfigured
  | dsn
  | maxConnections (existing asked : UInt32)
  | acquireTimeout (existing asked : UInt64)
  deriving DecidableEq, Repr

/-- The text of a refusal; the DSN may carry a password and is not echoed. -/
def Reconfigured.text : Reconfigured → String
  | .dsn => "PgPool is already connected to a different DSN; a process has one pool"
  | .maxConnections existing asked =>
      "PgPool is already connected with max_connections=" ++ toString existing.toNat ++ ", not " ++
        toString asked.toNat
  | .acquireTimeout existing asked =>
      "PgPool is already connected with acquire_timeout_secs=" ++ toString existing.toNat ++
        ", not " ++ toString asked.toNat

namespace PoolRequest

variable (request : PoolRequest) (existing : PoolSettings)

def settings : PoolSettings where
  dsn := request.dsn
  maxConnections := request.maxConnections.getD DEFAULT_MAX_CONNECTIONS
  acquireTimeout := request.acquireTimeout.getD DEFAULT_ACQUIRE_TIMEOUT

def differences : List Reconfigured :=
  let dsn := if request.dsn ≠ existing.dsn then some Reconfigured.dsn else none
  let maxConnections :=
    (request.maxConnections.filter (· != existing.maxConnections)).map
      (Reconfigured.maxConnections existing.maxConnections)
  let acquireTimeout :=
    (request.acquireTimeout.filter (· != existing.acquireTimeout)).map
      (Reconfigured.acquireTimeout existing.acquireTimeout)
  [dsn, maxConnections, acquireTimeout].filterMap id

/-- Whether the call may use the pool, or the first setting in which it may not. -/
def reuse : Except Reconfigured Unit :=
  match (request.differences existing).head? with
  | some difference => .error difference
  | none => .ok ()

/-- A setting the call names is the pool's. -/
structure Matches : Prop where
  dsn : request.dsn = existing.dsn
  maxConnections : ∀ asked, request.maxConnections = some asked → asked = existing.maxConnections
  acquireTimeout : ∀ asked, request.acquireTimeout = some asked → asked = existing.acquireTimeout

variable {request existing}

/-- A setting differs when it is named and is not the pool's. -/
theorem named_difference {α β : Type*} [BEq α] [LawfulBEq α] (asked : Option α) (found : α)
    (report : α → β) :
    (asked.filter (· != found)).map report = none ↔
      ∀ named, asked = some named → named = found := by
  cases asked <;> simp [Option.filter]

theorem differences_eq_nil : request.differences existing = [] ↔ request.Matches existing := by
  rw [differences, List.filterMap_eq_nil_iff]
  simp only [List.forall_mem_cons, id_eq, named_difference]
  constructor
  · rintro ⟨dsn, maxConnections, acquireTimeout, -⟩
    refine ⟨?_, maxConnections, acquireTimeout⟩
    by_contra differs
    rw [if_pos differs] at dsn
    cases dsn
  · rintro ⟨dsn, maxConnections, acquireTimeout⟩
    exact ⟨if_neg (not_not.mpr dsn), maxConnections, acquireTimeout, by simp⟩

theorem reuse_ok_iff : request.reuse existing = .ok () ↔ request.Matches existing := by
  rw [← differences_eq_nil, reuse]
  cases request.differences existing <;> simp

/-- A pool opened for a request is what the request names. -/
theorem matches_settings (request : PoolRequest) : request.Matches request.settings where
  dsn := rfl
  maxConnections asked named := by rw [settings, named, Option.getD_some]
  acquireTimeout asked named := by rw [settings, named, Option.getD_some]

end PoolRequest

/-! ## The calls -/

/-- An installed pool: its settings, and the call that opened it. -/
structure Connected where
  settings : PoolSettings
  pool : Nat
  deriving DecidableEq, Repr

/-- Why a call failed; `OpenError` is what opening a pool can fail with. -/
inductive ConnectError (OpenError : Type*)
  | reconfigured (difference : Reconfigured)
  | connect (error : OpenError)

/-- Where a call of `connect_pool` stands. -/
inductive ConnectPhase (OpenError : Type*)
  | asked
  | opening
  | opened
  /-- `PG_POOL.set` returned its pool; the check against the winner is to come. -/
  | lost
  | returned (result : Except (ConnectError OpenError) Unit)

/-- The call has not tried to install a pool. -/
def ConnectPhase.early {OpenError : Type*} : ConnectPhase OpenError → Bool
  | .asked | .opening | .opened => true
  | .lost | .returned _ => false

/-- The cell, the calls, and the pools given up for closing. -/
structure ConnectState (OpenError : Type*) where
  pgPool : Option Connected
  phase : Nat → ConnectPhase OpenError
  closing : List Nat

inductive ConnectEvent (OpenError : Type*)
  | check (call : Nat)
  | opens (call : Nat)
  | openFails (call : Nat) (error : OpenError)
  | install (call : Nat)
  | recheck (call : Nat)

/-- The call that takes the step. -/
def ConnectEvent.call {OpenError : Type*} : ConnectEvent OpenError → Nat
  | .check call | .opens call | .openFails call _ | .install call | .recheck call => call

section Calls

variable {OpenError : Type*} (request : Nat → PoolRequest)

namespace ConnectState

def enter (state : ConnectState OpenError) (call : Nat) (phase : ConnectPhase OpenError) :
    ConnectState OpenError :=
  { state with phase := Function.update state.phase call phase }

/-- The result of checking a call against a pool. -/
def checked (call : Nat) (existing : Connected) : ConnectPhase OpenError :=
  .returned (((request call).reuse existing.settings).mapError .reconfigured)

/-- One step of one call. -/
def step (state : ConnectState OpenError) :
    ConnectEvent OpenError → Option (ConnectState OpenError)
  | .check call =>
      match state.phase call, state.pgPool with
      | .asked, some existing => some (state.enter call (checked request call existing))
      | .asked, none => some (state.enter call .opening)
      | _, _ => none
  | .opens call =>
      match state.phase call with
      | .opening => some (state.enter call .opened)
      | _ => none
  | .openFails call error =>
      match state.phase call with
      | .opening => some (state.enter call (.returned (.error (.connect error))))
      | _ => none
  | .install call =>
      match state.phase call, state.pgPool with
      | .opened, none =>
          some
            { state.enter call (.returned (.ok ())) with
              pgPool := some { settings := (request call).settings, pool := call } }
      | .opened, some _ => some { state.enter call .lost with closing := call :: state.closing }
      | _, _ => none
  -- `PG_POOL.wait()` blocks while the cell is empty
  | .recheck call =>
      match state.phase call, state.pgPool with
      | .lost, some existing => some (state.enter call (checked request call existing))
      | _, _ => none

/-- All that one step can do. -/
inductive Taken (before : ConnectState OpenError) : ConnectState OpenError → Prop
  | found (call : Nat) (existing : Connected) (phase : before.phase call = .asked)
      (installed : before.pgPool = some existing) :
      Taken before (before.enter call (checked request call existing))
  | begins (call : Nat) (phase : before.phase call = .asked) (empty : before.pgPool = none) :
      Taken before (before.enter call .opening)
  | opens (call : Nat) (phase : before.phase call = .opening) :
      Taken before (before.enter call .opened)
  | fails (call : Nat) (error : OpenError) (phase : before.phase call = .opening) :
      Taken before (before.enter call (.returned (.error (.connect error))))
  | wins (call : Nat) (phase : before.phase call = .opened) (empty : before.pgPool = none) :
      Taken before
        { before.enter call (.returned (.ok ())) with
          pgPool := some { settings := (request call).settings, pool := call } }
  | loses (call : Nat) (existing : Connected) (phase : before.phase call = .opened)
      (installed : before.pgPool = some existing) :
      Taken before { before.enter call .lost with closing := call :: before.closing }
  | rechecks (call : Nat) (existing : Connected) (phase : before.phase call = .lost)
      (installed : before.pgPool = some existing) :
      Taken before (before.enter call (checked request call existing))

variable {request} {before after : ConnectState OpenError}

theorem taken_of_step {event : ConnectEvent OpenError}
    (fired : before.step request event = some after) : Taken request before after := by
  cases event with
  | check call =>
      simp only [step] at fired
      split at fired
      · rename_i existing phase installed
        obtain rfl := Option.some.inj fired
        exact .found call existing phase installed
      · rename_i phase empty
        obtain rfl := Option.some.inj fired
        exact .begins call phase empty
      · cases fired
  | opens call =>
      simp only [step] at fired
      split at fired
      · rename_i phase
        obtain rfl := Option.some.inj fired
        exact .opens call phase
      · cases fired
  | openFails call error =>
      simp only [step] at fired
      split at fired
      · rename_i phase
        obtain rfl := Option.some.inj fired
        exact .fails call error phase
      · cases fired
  | install call =>
      simp only [step] at fired
      split at fired
      · rename_i phase empty
        obtain rfl := Option.some.inj fired
        exact .wins call phase empty
      · rename_i existing phase installed
        obtain rfl := Option.some.inj fired
        exact .loses call existing phase installed
      · cases fired
  | recheck call =>
      simp only [step] at fired
      split at fired
      · rename_i existing phase installed
        obtain rfl := Option.some.inj fired
        exact .rechecks call existing phase installed
      · cases fired

/-- An installed pool stays. -/
theorem Taken.keeps (taken : Taken request before after) {existing : Connected}
    (installed : before.pgPool = some existing) : after.pgPool = some existing := by
  cases taken with
  | wins call phase empty => rw [empty] at installed; cases installed
  | found | begins | opens | fails | loses | rechecks => exact installed

/-- What holds of the cell and the calls at any time. -/
structure Valid (request : Nat → PoolRequest) (state : ConnectState OpenError) : Prop where
  /-- A call that returned names what the pool has. -/
  accepted : ∀ call, state.phase call = .returned (.ok ()) →
    ∃ existing, state.pgPool = some existing ∧ (request call).Matches existing.settings
  /-- Only a pool that is installed makes a call lose. -/
  lost : ∀ call, state.phase call = .lost → state.pgPool ≠ none
  /-- The installed pool is not among those given up. -/
  kept : ∀ existing, state.pgPool = some existing →
    state.phase existing.pool = .returned (.ok ()) ∧ existing.pool ∉ state.closing
  given : ∀ call ∈ state.closing, (state.phase call).early = false

@[simp] theorem enter_pgPool (call : Nat) (phase : ConnectPhase OpenError) :
    (before.enter call phase).pgPool = before.pgPool := rfl

@[simp] theorem enter_closing (call : Nat) (phase : ConnectPhase OpenError) :
    (before.enter call phase).closing = before.closing := rfl

theorem enter_phase (call other : Nat) (phase : ConnectPhase OpenError) :
    (before.enter call phase).phase other =
      if other = call then phase else before.phase other :=
  Function.update_apply _ _ _ _

theorem checked_ok {call : Nat} {existing : Connected}
    (ok : (checked request call existing : ConnectPhase OpenError) = .returned (.ok ())) :
    (request call).Matches existing.settings := by
  rw [← PoolRequest.reuse_ok_iff]
  simp only [checked, ConnectPhase.returned.injEq] at ok
  cases result : (request call).reuse existing.settings with
  | error difference =>
      rw [result] at ok
      cases ok
  | ok => rfl

/-- A step that moves one call and leaves the cell alone. -/
theorem Valid.enter (valid : Valid request before) {call : Nat} {phase : ConnectPhase OpenError}
    (accepted : phase = .returned (.ok ()) →
      ∃ existing, before.pgPool = some existing ∧ (request call).Matches existing.settings)
    (lost : phase = .lost → before.pgPool ≠ none)
    (moved : before.phase call ≠ .returned (.ok ()))
    (later : phase.early = true → (before.phase call).early = true) :
    Valid request (before.enter call phase) where
  accepted other returned := by
    rw [enter_phase] at returned
    split at returned
    · rename_i same
      rw [same]
      exact accepted returned
    · exact valid.accepted other returned
  lost other isLost := by
    rw [enter_phase] at isLost
    split at isLost
    · exact lost isLost
    · exact valid.lost other isLost
  kept existing installed := by
    obtain ⟨returned, notClosing⟩ := valid.kept existing installed
    have other : existing.pool ≠ call := by
      rintro rfl
      exact moved returned
    rw [enter_phase, if_neg other]
    exact ⟨returned, notClosing⟩
  given other member := by
    have before := valid.given other member
    rw [enter_phase]
    split
    · rename_i same
      rw [same] at before
      by_contra early
      rw [later (by simpa using early)] at before
      cases before
    · exact before

theorem Valid.taken (valid : Valid request before) (taken : Taken request before after) :
    Valid request after := by
  cases taken with
  | found call existing phase installed =>
      exact valid.enter (fun ok => ⟨existing, installed, checked_ok ok⟩) (by simp [checked])
        (by simp [phase]) (by simp [checked, ConnectPhase.early])
  | begins call phase empty =>
      exact valid.enter (by simp) (by simp) (by simp [phase]) (by simp [phase, ConnectPhase.early])
  | opens call phase =>
      exact valid.enter (by simp) (by simp) (by simp [phase]) (by simp [phase, ConnectPhase.early])
  | fails call error phase =>
      exact valid.enter (by simp) (by simp) (by simp [phase]) (by simp [ConnectPhase.early])
  | wins call phase empty =>
      have notClosing : call ∉ before.closing := by
        intro member
        have late := valid.given call member
        rw [phase] at late
        cases late
      constructor
      · intro other returned
        refine ⟨_, rfl, ?_⟩
        by_cases same : other = call
        · rw [same]
          exact PoolRequest.matches_settings (request call)
        · have returnedBefore : before.phase other = .returned (.ok ()) := by
            simpa [enter_phase, same] using returned
          obtain ⟨existing, installed, -⟩ := valid.accepted other returnedBefore
          rw [empty] at installed
          cases installed
      · simp
      · rintro existing installed
        obtain rfl := Option.some.inj installed
        exact ⟨by simp [enter_phase], notClosing⟩
      · intro other member
        have late := valid.given other member
        have apart : other ≠ call := by
          rintro rfl
          exact notClosing member
        simpa [enter_phase, apart] using late
  | loses call existing phase installed =>
      have moved : Valid request (before.enter call .lost) :=
        valid.enter (by simp) (by simp [installed]) (by simp [phase]) (by simp [ConnectPhase.early])
      refine ⟨moved.accepted, moved.lost, ?_, ?_⟩
      · intro other installed
        obtain ⟨returned, notClosing⟩ := moved.kept other installed
        have apart : other.pool ≠ call := by
          intro same
          rw [same, enter_phase, if_pos rfl] at returned
          cases returned
        exact ⟨returned, List.not_mem_cons_of_ne_of_not_mem apart notClosing⟩
      · intro other member
        rcases List.mem_cons.mp member with rfl | member
        · simp [enter_phase, ConnectPhase.early]
        · exact moved.given other member
  | rechecks call existing phase installed =>
      exact valid.enter (fun ok => ⟨existing, installed, checked_ok ok⟩) (by simp [checked])
        (by simp [phase]) (by simp [checked, ConnectPhase.early])

end ConnectState

/-- Calls that all start with no pool installed. -/
def connectMachine : Machine (ConnectState OpenError) (ConnectEvent OpenError) where
  init := { pgPool := none, phase := fun _ => .asked, closing := [] }
  step := ConnectState.step request

namespace ConnectState

variable {request}

theorem valid_run {schedule : List (ConnectEvent OpenError)} {state : ConnectState OpenError}
    (execution : (connectMachine request).run schedule = some state) : Valid request state := by
  have reachable : (connectMachine request).Reachable state := ⟨schedule, execution⟩
  refine reachable.invariant ?_ ?_
  · exact ⟨by simp [connectMachine], by simp [connectMachine], by simp [connectMachine],
      by simp [connectMachine]⟩
  · intro before after event valid fired
    exact valid.taken (taken_of_step fired)

/-- A pool installed at some time is installed from then on. -/
theorem installed_run {front back : List (ConnectEvent OpenError)}
    {earlier later : ConnectState OpenError} {existing : Connected}
    (reached : (connectMachine request).run front = some earlier)
    (execution : (connectMachine request).run (front ++ back) = some later)
    (installed : earlier.pgPool = some existing) : later.pgPool = some existing := by
  induction back using List.reverseRecOn generalizing later with
  | nil =>
      rw [List.append_nil, reached] at execution
      obtain rfl := Option.some.inj execution
      exact installed
  | append_singleton back event induction =>
      rw [← List.append_assoc] at execution
      obtain ⟨before, ran, fired⟩ := Machine.run_concat_eq_some.mp execution
      exact (taken_of_step fired).keeps (induction ran)

/-- A call that has not returned can take its next step. -/
theorem Valid.progress {state : ConnectState OpenError} (valid : Valid request state) (call : Nat) :
    (∃ result, state.phase call = .returned result) ∨
      ∃ event : ConnectEvent OpenError, event.call = call ∧ (state.step request event).isSome := by
  cases phase : state.phase call with
  | asked =>
      refine .inr ⟨.check call, rfl, ?_⟩
      cases installed : state.pgPool <;> simp [step, phase, installed]
  | opening => exact .inr ⟨.opens call, rfl, by simp [step, phase]⟩
  | opened =>
      refine .inr ⟨.install call, rfl, ?_⟩
      cases installed : state.pgPool <;> simp [step, phase, installed]
  | lost =>
      obtain ⟨existing, installed⟩ := Option.ne_none_iff_exists'.mp (valid.lost call phase)
      exact .inr ⟨.recheck call, rfl, by simp [step, phase, installed]⟩
  | returned result => exact .inl ⟨result, rfl⟩

/-- Whatever the order of the steps: a pool once installed is the process's pool from then on and is
not given up, a call that succeeded named only what the pool has, a call that names something else
and returned has failed, and no call is stuck. -/
theorem connect_agreement {schedule : List (ConnectEvent OpenError)}
    {final : ConnectState OpenError}
    (execution : (connectMachine request).run schedule = some final) :
    (∀ front earlier existing, front <+: schedule →
      (connectMachine request).run front = some earlier → earlier.pgPool = some existing →
      final.pgPool = some existing ∧ existing.pool ∉ final.closing) ∧
    (∀ call, final.phase call = .returned (.ok ()) →
      ∃ existing, final.pgPool = some existing ∧ (request call).Matches existing.settings) ∧
    (∀ call existing, final.pgPool = some existing → ¬ (request call).Matches existing.settings →
      ∀ result, final.phase call = .returned result → ∃ error, result = .error error) ∧
    ∀ call, (∃ result, final.phase call = .returned result) ∨
      ∃ event : ConnectEvent OpenError, event.call = call ∧ (final.step request event).isSome := by
  have valid := valid_run execution
  refine ⟨?_, valid.accepted, ?_, valid.progress⟩
  · rintro front earlier existing ⟨back, rfl⟩ reached installed
    have still := installed_run reached execution installed
    exact ⟨still, (valid.kept existing still).2⟩
  · intro call existing installed differs result returned
    cases result with
    | error error => exact ⟨error, rfl⟩
    | ok =>
        obtain ⟨winner, installedWinner, named⟩ := valid.accepted call returned
        rw [installed] at installedWinner
        obtain rfl := Option.some.inj installedWinner
        exact absurd named differs

/-- Two first calls both open a pool; the one that installs second named another size and fails. -/
theorem connect_agreement_race :
    let request : Nat → PoolRequest
      | 0 => { dsn := "postgres://db", maxConnections := none, acquireTimeout := none }
      | _ => { dsn := "postgres://db", maxConnections := some 5, acquireTimeout := none }
    ∃ final, (connectMachine request : Machine (ConnectState Empty) _).run
        [.check 0, .check 1, .opens 1, .opens 0, .install 0, .install 1, .recheck 1] = some final ∧
      ∃ error, final.phase 1 = .returned (.error error) := by
  intro request
  have execution : ∃ final, (connectMachine request : Machine (ConnectState Empty) _).run
      [.check 0, .check 1, .opens 1, .opens 0, .install 0, .install 1, .recheck 1] = some final ∧
      final.pgPool = some { settings := (request 0).settings, pool := 0 } ∧
        ∃ result, final.phase 1 = .returned result := ⟨_, rfl, rfl, _, rfl⟩
  obtain ⟨final, ran, installed, result, returned⟩ := execution
  have differs : ¬ (request 1).Matches (request 0).settings := by
    intro named
    exact absurd (named.maxConnections 5 rfl) (by decide)
  obtain ⟨error, rfl⟩ := (connect_agreement ran).2.2.1 1 _ installed differs result returned
  exact ⟨final, ran, error, returned⟩

end ConnectState

end Calls

end Pyronova
