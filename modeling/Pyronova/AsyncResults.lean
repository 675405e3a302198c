import Mathlib.Tactic
import Pyronova.Cursor

/-!
# Awaited results of the database

An awaited query runs on the database's runtime.  Its result goes to an asyncio future by way of the
future's own loop, which is asked once to set it and leaves it alone if it is done.  A future that
its caller cancels has its query aborted.
-/

namespace Pyronova

namespace AsyncDb

/-- `asyncio.Future`. -/
inductive Future (Obj Exc : Type*)
  | pending
  | done (outcome : Except Exc Obj)
  | cancelled

/-- Why a query has no row: its own error, or its task's. -/
inductive QueryFailure (DbError : Type*)
  | query (error : DbError)
  | task (error : TaskError)

/-- What a query's task comes to by itself. -/
inductive QueryEnd (Row DbError : Type*)
  | returns (result : Except DbError Row)
  | panics (payload : String)

/-- Who holds a `Delivery`. -/
inductive Carrier (Row DbError : Type*)
  /-- The task that awaits the query. -/
  | awaiting
  /-- The blocking job that delivers what the query came to. -/
  | job (joined : Except (QueryFailure DbError) Row)
  /-- Its target is taken. -/
  | taken

/-- What turns a query's end into Python objects; `convert` may raise, or panic. -/
structure Conversions (Row DbError Obj Exc : Type*) where
  convert : Row → Option (Except Exc Obj)
  intoPyerr : QueryFailure DbError → Exc
  runtimeError : String → Exc

/-- One call of `await_on_loop`. -/
structure Call (Row DbError Obj Exc : Type*) where
  loop : Nat
  future : Future Obj Exc
  /-- What the query's task came to, once it has. -/
  query : Option (Except (QueryFailure DbError) Row)
  aborted : Bool
  carrier : Carrier Row DbError
  /-- A `resolve` that its loop was asked for, and has not run. -/
  resolve : Option (Except Exc Obj)
  /-- An `AbortOnCancel` that its loop has not run. -/
  callback : Bool
  /-- The result was dropped, with a line in the log. -/
  lost : Bool

inductive CallStep (Row DbError : Type*)
  | queryEnds (ending : QueryEnd Row DbError)
  | queryCancelled
  /-- The awaiting task starts the blocking job. -/
  | handOver
  | deliver
  /-- The task or its job is dropped with the runtime. -/
  | drop
  | resolve
  | abortOnCancel
  /-- The caller cancels the future. -/
  | cancel

/-- What a call has around it. -/
structure Surroundings where
  loopClosed : Bool
  finalizing : Bool
  shutDown : Bool

/-- What is closed, finalizing or shut down stays so. -/
structure Surroundings.Grows (around later : Surroundings) : Prop where
  closed : around.loopClosed → later.loopClosed
  finalizing : around.finalizing → later.finalizing
  shutDown : around.shutDown → later.shutDown

variable {Row DbError Obj Exc : Type*}

namespace Future

def isDone : Future Obj Exc → Bool
  | .pending => false
  | _ => true

def outcome? : Future Obj Exc → Option (Except Exc Obj)
  | .done outcome => some outcome
  | _ => none

def isCancelled : Future Obj Exc → Bool
  | .cancelled => true
  | _ => false

/-- `resolve(fut, ok, value)`. -/
def resolve (outcome : Except Exc Obj) : Future Obj Exc → Future Obj Exc
  | .pending => .done outcome
  | future => future

variable {future : Future Obj Exc}

theorem isDone_resolve (outcome : Except Exc Obj) (future : Future Obj Exc) :
    (future.resolve outcome).isDone := by
  cases future <;> rfl

theorem resolve_of_isDone (outcome : Except Exc Obj) (done : future.isDone) :
    future.resolve outcome = future := by
  cases future with
  | pending => cases done
  | done | cancelled => rfl

theorem outcome_resolve {outcome other : Except Exc Obj}
    (found : (future.resolve outcome).outcome? = some other) :
    other = outcome ∨ future.outcome? = some other := by
  cases future with
  | pending => exact .inl (Option.some.inj found).symm
  | done | cancelled => exact .inr found

theorem isCancelled_resolve (outcome : Except Exc Obj) (cancelled : future.isCancelled) :
    (future.resolve outcome).isCancelled := by
  cases future with
  | pending | done => cases cancelled
  | cancelled => rfl

end Future

def QueryEnd.joined : QueryEnd Row DbError → Except (QueryFailure DbError) Row
  | .returns (.ok row) => .ok row
  | .returns (.error error) => .error (.query error)
  | .panics payload => .error (.task (.panicked payload))

namespace Conversions

variable (conversions : Conversions Row DbError Obj Exc)

/-- What the future is to be set to. -/
def outcome : Except (QueryFailure DbError) Row → Except Exc Obj
  | .ok row =>
      (conversions.convert row).getD
        (.error (conversions.runtimeError "converting the database result to Python panicked"))
  | .error failure => .error (conversions.intoPyerr failure)

/-- `Drop for Delivery`. -/
def withoutResult : Except Exc Obj :=
  .error (conversions.runtimeError
    "pyronova-db task ended without a result: the runtime shut down")

end Conversions

namespace Call

/-- A call as it returns its future. -/
def awaitOnLoop (loop : Nat) : Call Row DbError Obj Exc where
  loop
  future := .pending
  query := none
  aborted := false
  carrier := .awaiting
  resolve := none
  callback := false
  lost := false

/-- `Delivery::complete_with`, where the target is not taken yet. -/
def completeWith (around : Surroundings) (outcome : Except Exc Obj)
    (call : Call Row DbError Obj Exc) : Call Row DbError Obj Exc :=
  if around.finalizing then { call with carrier := .taken }
  else if around.loopClosed then { call with carrier := .taken, lost := true }
  else { call with carrier := .taken, resolve := some outcome }

/-- The loop has run `resolve`; a future that it sets calls back. -/
def resolved (outcome : Except Exc Obj) (call : Call Row DbError Obj Exc) :
    Call Row DbError Obj Exc :=
  { call with
    resolve := none
    future := call.future.resolve outcome
    callback := call.callback || !call.future.isDone }

def step (conversions : Conversions Row DbError Obj Exc) (around : Surroundings)
    (call : Call Row DbError Obj Exc) :
    CallStep Row DbError → Option (Call Row DbError Obj Exc)
  | .queryEnds ending =>
      match call.query with
      | none => some { call with query := some ending.joined }
      | some _ => none
  | .queryCancelled =>
      match call.query with
      | none =>
          if call.aborted || around.shutDown then
            some { call with query := some (.error (.task .cancelled)) }
          else none
      | some _ => none
  | .handOver =>
      match call.carrier, call.query with
      | .awaiting, some joined => some { call with carrier := .job joined }
      | _, _ => none
  | .deliver =>
      match call.carrier with
      | .job joined => some (call.completeWith around (conversions.outcome joined))
      | _ => none
  | .drop =>
      match call.carrier with
      | .taken => none
      | _ =>
          if around.shutDown then some (call.completeWith around conversions.withoutResult)
          else none
  | .resolve =>
      match call.resolve with
      | none => none
      | some outcome =>
          if around.loopClosed then none
          else some (call.resolved outcome)
  | .abortOnCancel =>
      if call.callback && !around.loopClosed then
        some { call with
          callback := false
          aborted := call.aborted || call.future.isCancelled }
      else none
  | .cancel =>
      if call.future.isDone || around.loopClosed then none
      else some { call with future := .cancelled, callback := true }

end Call

structure Database (Row DbError Obj Exc : Type*) where
  calls : List (Call Row DbError Obj Exc)
  /-- The loops that were closed. -/
  closed : List Nat
  finalizing : Bool
  shutDown : Bool

inductive DatabaseEvent (Row DbError : Type*)
  | awaitOnLoop (loop : Nat)
  | call (id : Nat) (step : CallStep Row DbError)
  | closeLoop (loop : Nat)
  | finalize
  | shutDown

namespace Database

def init : Database Row DbError Obj Exc where
  calls := []
  closed := []
  finalizing := false
  shutDown := false

def around (database : Database Row DbError Obj Exc) (loop : Nat) : Surroundings where
  loopClosed := loop ∈ database.closed
  finalizing := database.finalizing
  shutDown := database.shutDown

def step (conversions : Conversions Row DbError Obj Exc)
    (database : Database Row DbError Obj Exc) :
    DatabaseEvent Row DbError → Option (Database Row DbError Obj Exc)
  | .awaitOnLoop loop =>
      if loop ∈ database.closed then none
      else some { database with calls := database.calls ++ [.awaitOnLoop loop] }
  | .call id step =>
      database.calls[id]?.bind fun call =>
        (call.step conversions (database.around call.loop) step).map fun next =>
          { database with calls := database.calls.set id next }
  | .closeLoop loop => some { database with closed := loop :: database.closed }
  | .finalize => some { database with finalizing := true }
  | .shutDown => some { database with shutDown := true }

end Database

def databaseMachine (conversions : Conversions Row DbError Obj Exc) :
    Machine (Database Row DbError Obj Exc) (DatabaseEvent Row DbError) where
  init := .init
  step := Database.step conversions

/-! ## One call -/

namespace Call

variable (conversions : Conversions Row DbError Obj Exc) (around : Surroundings)

/-- What a future may be set to: what its query came to, or that the runtime is gone. -/
def Backed (call : Call Row DbError Obj Exc) (outcome : Except Exc Obj) : Prop :=
  (∃ joined, call.query = some joined ∧ outcome = conversions.outcome joined) ∨
    around.shutDown ∧ outcome = conversions.withoutResult

/-- The delivery, by who holds it. -/
def Stands (call : Call Row DbError Obj Exc) : Carrier Row DbError → Prop
  | .awaiting => call.resolve = none ∧ call.future.outcome? = none
  | .job joined => call.query = some joined ∧ call.resolve = none ∧ call.future.outcome? = none
  | .taken =>
      call.future.isDone ∨ call.resolve.isSome ∨ around.finalizing ∨ around.loopClosed

structure Sound (call : Call Row DbError Obj Exc) : Prop where
  stands : call.Stands around call.carrier
  /-- It is set once. -/
  once : call.resolve.isSome → call.future.outcome? = none
  asked : ∀ outcome, call.resolve = some outcome → call.Backed conversions around outcome
  set : ∀ outcome, call.future.outcome? = some outcome → call.Backed conversions around outcome
  aborted : call.aborted → call.future.isCancelled
  cancelled : call.query = some (.error (.task .cancelled)) →
    call.future.isCancelled ∨ around.shutDown
  lost : call.lost → around.loopClosed

/-- What one step does to a call. -/
inductive Moves (call : Call Row DbError Obj Exc) : Call Row DbError Obj Exc → Prop
  | ended (running : call.query = none) (joined : Except (QueryFailure DbError) Row)
      (told : joined = .error (.task .cancelled) → call.aborted ∨ around.shutDown) :
      Moves call { call with query := some joined }
  | handOver (held : call.carrier = .awaiting) (joined : Except (QueryFailure DbError) Row)
      (found : call.query = some joined) : Moves call { call with carrier := .job joined }
  | deliver (joined : Except (QueryFailure DbError) Row) (held : call.carrier = .job joined) :
      Moves call (call.completeWith around (conversions.outcome joined))
  | drop (held : call.carrier ≠ .taken) (shut : around.shutDown) :
      Moves call (call.completeWith around conversions.withoutResult)
  | resolve (outcome : Except Exc Obj) (asked : call.resolve = some outcome) :
      Moves call (call.resolved outcome)
  | abortOnCancel :
      Moves call { call with
        callback := false
        aborted := call.aborted || call.future.isCancelled }
  | cancel (undone : ¬ call.future.isDone) :
      Moves call { call with future := .cancelled, callback := true }

variable {conversions : Conversions Row DbError Obj Exc} {around later : Surroundings}
variable {call after : Call Row DbError Obj Exc}

theorem sound_awaitOnLoop (loop : Nat) :
    (awaitOnLoop loop : Call Row DbError Obj Exc).Sound conversions around where
  stands := ⟨rfl, rfl⟩
  once := nofun
  asked := nofun
  set := nofun
  aborted := nofun
  cancelled := nofun
  lost := nofun

theorem Backed.grows (grows : around.Grows later) {outcome : Except Exc Obj}
    (backed : call.Backed conversions around outcome) :
    call.Backed conversions later outcome := by
  rcases backed with joined | ⟨shut, same⟩
  · exact .inl joined
  · exact .inr ⟨grows.shutDown shut, same⟩

/-- Nothing was set before the query came to anything, but by the runtime's end. -/
theorem Backed.ended {outcome : Except Exc Obj} (running : call.query = none)
    (backed : call.Backed conversions around outcome)
    (joined : Except (QueryFailure DbError) Row) :
    Backed conversions around { call with query := some joined } outcome := by
  rcases backed with ⟨other, found, _⟩ | gone
  · rw [running] at found
    cases found
  · exact .inr gone

theorem Sound.grows (sound : call.Sound conversions around) (grows : around.Grows later) :
    call.Sound conversions later where
  stands := by
    have stands := sound.stands
    cases held : call.carrier with
    | awaiting | job => rwa [held] at stands
    | taken =>
        rw [held] at stands
        exact stands.imp_right (Or.imp_right (Or.imp grows.finalizing grows.closed))
  once := sound.once
  asked := fun outcome found => (sound.asked outcome found).grows grows
  set := fun outcome found => (sound.set outcome found).grows grows
  aborted := sound.aborted
  cancelled := fun found => (sound.cancelled found).imp_right grows.shutDown
  lost := fun dropped => grows.closed (sound.lost dropped)

theorem Sound.ended (sound : call.Sound conversions around) (running : call.query = none)
    {joined : Except (QueryFailure DbError) Row}
    (cancelled : joined = .error (.task .cancelled) →
      call.future.isCancelled ∨ around.shutDown) :
    Sound conversions around { call with query := some joined } where
  stands := by
    have stands := sound.stands
    show Stands around _ call.carrier
    cases held : call.carrier with
    | awaiting | taken => rwa [held] at stands
    | job other =>
        rw [held] at stands
        rw [stands.1] at running
        cases running
  once := sound.once
  asked := fun outcome found => (sound.asked outcome found).ended running joined
  set := fun outcome found => (sound.set outcome found).ended running joined
  aborted := sound.aborted
  cancelled := fun found => cancelled (Option.some.inj found)
  lost := sound.lost

/-- The first completion asks the loop, if there is one to ask. -/
theorem Sound.completeWith (sound : call.Sound conversions around) {outcome : Except Exc Obj}
    (unset : call.future.outcome? = none)
    (backed : call.Backed conversions around outcome) :
    (call.completeWith around outcome).Sound conversions around := by
  rw [Call.completeWith]
  split
  · rename_i finalizing
    exact ⟨.inr (.inr (.inl finalizing)), sound.once, sound.asked, sound.set, sound.aborted,
      sound.cancelled, sound.lost⟩
  · split
    · rename_i closed
      exact ⟨.inr (.inr (.inr closed)), sound.once, sound.asked, sound.set, sound.aborted,
        sound.cancelled, fun _ => closed⟩
    · refine ⟨.inr (.inl rfl), fun _ => unset, ?_, sound.set, sound.aborted, sound.cancelled,
        sound.lost⟩
      rintro _ ⟨⟩
      exact backed

/-- The loop runs `resolve`. -/
theorem Sound.resolve (sound : call.Sound conversions around) {outcome : Except Exc Obj}
    (asked : call.resolve = some outcome) :
    (call.resolved outcome).Sound conversions around where
  stands := by
    have stands := sound.stands
    show Stands around _ call.carrier
    cases held : call.carrier with
    | awaiting | job =>
        rw [held] at stands
        simp [Stands, asked] at stands
    | taken => exact .inl (Future.isDone_resolve outcome call.future)
  once := nofun
  asked := nofun
  set := by
    intro other found
    rcases Future.outcome_resolve found with rfl | before
    · exact sound.asked _ asked
    · exact sound.set other before
  aborted := fun aborted => Future.isCancelled_resolve outcome (sound.aborted aborted)
  cancelled := fun found =>
    (sound.cancelled found).imp_left (Future.isCancelled_resolve outcome)
  lost := sound.lost

/-- The caller cancels a future that nothing was set in. -/
theorem Sound.cancel (sound : call.Sound conversions around) :
    Sound conversions around { call with future := .cancelled, callback := true } where
  stands := by
    have stands := sound.stands
    show Stands around _ call.carrier
    cases held : call.carrier with
    | awaiting =>
        rw [held] at stands
        exact ⟨stands.1, rfl⟩
    | job =>
        rw [held] at stands
        exact ⟨stands.1, stands.2.1, rfl⟩
    | taken => exact .inl rfl
  once := fun _ => rfl
  asked := sound.asked
  set := nofun
  aborted := fun _ => rfl
  cancelled := fun _ => .inl rfl
  lost := sound.lost

theorem moves_of_step {next : CallStep Row DbError}
    (fired : call.step conversions around next = some after) :
    call.Moves conversions around after := by
  cases next with
  | queryEnds ending =>
      rw [Call.step] at fired
      split at fired
      · rename_i running
        obtain rfl := Option.some.inj fired
        refine .ended running ending.joined fun same => ?_
        rcases ending with ⟨_ | _⟩ | _ <;> cases same
      · cases fired
  | queryCancelled =>
      rw [Call.step] at fired
      split at fired
      · rename_i running
        split at fired
        · rename_i told
          obtain rfl := Option.some.inj fired
          exact .ended running _ fun _ => Bool.or_eq_true_iff.mp told
        · cases fired
      · cases fired
  | handOver =>
      rw [Call.step] at fired
      split at fired
      · rename_i joined held found
        obtain rfl := Option.some.inj fired
        exact .handOver held joined found
      · cases fired
  | deliver =>
      rw [Call.step] at fired
      split at fired
      · rename_i joined held
        obtain rfl := Option.some.inj fired
        exact .deliver joined held
      · cases fired
  | drop =>
      rw [Call.step] at fired
      split at fired
      · cases fired
      · rename_i held
        split at fired
        · rename_i shut
          obtain rfl := Option.some.inj fired
          exact .drop held shut
        · cases fired
  | resolve =>
      rw [Call.step] at fired
      split at fired
      · cases fired
      · rename_i outcome asked
        split at fired
        · cases fired
        · obtain rfl := Option.some.inj fired
          exact .resolve outcome asked
  | abortOnCancel =>
      rw [Call.step] at fired
      split at fired
      · obtain rfl := Option.some.inj fired
        exact .abortOnCancel
      · cases fired
  | cancel =>
      rw [Call.step] at fired
      split at fired
      · cases fired
      · rename_i undone
        obtain rfl := Option.some.inj fired
        exact .cancel fun done => undone (Bool.or_eq_true_iff.mpr (.inl done))

theorem Sound.moves (sound : call.Sound conversions around)
    (moves : call.Moves conversions around after) : after.Sound conversions around := by
  have stands := sound.stands
  cases moves with
  | ended running joined told =>
      exact sound.ended running fun same => (told same).imp_left sound.aborted
  | handOver held joined found =>
      rw [held] at stands
      exact ⟨⟨found, stands⟩, sound.once, sound.asked, sound.set, sound.aborted, sound.cancelled,
        sound.lost⟩
  | deliver joined held =>
      rw [held] at stands
      exact sound.completeWith stands.2.2 (.inl ⟨joined, stands.1, rfl⟩)
  | drop held shut =>
      refine sound.completeWith ?_ (.inr ⟨shut, rfl⟩)
      cases carrier : call.carrier with
      | awaiting =>
          rw [carrier] at stands
          exact stands.2
      | job =>
          rw [carrier] at stands
          exact stands.2.2
      | taken => exact absurd carrier held
  | resolve outcome asked => exact sound.resolve asked
  | abortOnCancel =>
      refine ⟨stands, sound.once, sound.asked, sound.set, ?_, sound.cancelled, sound.lost⟩
      intro told
      rcases Bool.or_eq_true_iff.mp told with before | now
      · exact sound.aborted before
      · exact now
  | cancel => exact sound.cancel

theorem completeWith_same (around : Surroundings) (outcome : Except Exc Obj)
    (call : Call Row DbError Obj Exc) :
    (call.completeWith around outcome).loop = call.loop ∧
      (call.completeWith around outcome).future = call.future := by
  rw [completeWith]
  split
  · exact ⟨rfl, rfl⟩
  · split <;> exact ⟨rfl, rfl⟩

/-- A call keeps its loop, and a future that is done is left alone. -/
theorem Moves.keeps (moves : call.Moves conversions around after) :
    after.loop = call.loop ∧ (call.future.isDone → after.future = call.future) := by
  cases moves with
  | ended | handOver | abortOnCancel => exact ⟨rfl, fun _ => rfl⟩
  | deliver | drop => exact (completeWith_same _ _ call).imp_right fun same _ => same
  | resolve outcome => exact ⟨rfl, Future.resolve_of_isDone outcome⟩
  | cancel undone => exact ⟨rfl, fun done => absurd done undone⟩

end Call

/-! ## Every run -/

namespace Database

variable {conversions : Conversions Row DbError Obj Exc}
variable {database after : Database Row DbError Obj Exc} {id : Nat}
variable {call next : Call Row DbError Obj Exc}

def Sound (conversions : Conversions Row DbError Obj Exc)
    (database : Database Row DbError Obj Exc) : Prop :=
  ∀ call ∈ database.calls, call.Sound conversions (database.around call.loop)

theorem sound_init : (init : Database Row DbError Obj Exc).Sound conversions := by
  intro call member
  exact absurd member List.not_mem_nil

/-- Calls stay where they are, and what was done of them stays. -/
def Keeps (database after : Database Row DbError Obj Exc) : Prop :=
  ∀ (id : Nat) call, database.calls[id]? = some call → ∃ next, after.calls[id]? = some next ∧
    (call.future.isDone → next.future = call.future)

theorem Keeps.same (same : after.calls = database.calls) : database.Keeps after :=
  fun _ call found => ⟨call, same ▸ found, fun _ => rfl⟩

theorem Keeps.trans {last : Database Row DbError Obj Exc} (first : database.Keeps after)
    (second : after.Keeps last) : database.Keeps last := by
  intro id call found
  obtain ⟨next, held, same⟩ := first id call found
  obtain ⟨final, kept, again⟩ := second id next held
  refine ⟨final, kept, fun done => ?_⟩
  rw [again (same done ▸ done), same done]

theorem Sound.step (sound : database.Sound conversions) {event : DatabaseEvent Row DbError}
    (fired : database.step conversions event = some after) : after.Sound conversions := by
  cases event with
  | awaitOnLoop loop =>
      rw [Database.step] at fired
      split at fired
      · cases fired
      · obtain rfl := Option.some.inj fired
        intro call member
        rcases List.mem_append.mp member with old | new
        · exact sound call old
        · obtain rfl := List.mem_singleton.mp new
          exact Call.sound_awaitOnLoop loop
  | call id step =>
      obtain ⟨call, found, moved⟩ := Option.bind_eq_some_iff.mp fired
      obtain ⟨next, stepped, rfl⟩ := Option.map_eq_some_iff.mp moved
      have moves := Call.moves_of_step stepped
      intro other member
      rcases List.mem_or_eq_of_mem_set member with old | rfl
      · exact sound other old
      · show other.Sound conversions (database.around other.loop)
        rw [moves.keeps.1]
        exact (sound call (List.mem_of_getElem? found)).moves moves
  | closeLoop loop =>
      obtain rfl := Option.some.inj fired
      refine fun call member => (sound call member).grows ⟨?_, id, id⟩
      simp only [around, decide_eq_true_eq]
      exact List.mem_cons_of_mem loop
  | finalize =>
      obtain rfl := Option.some.inj fired
      exact fun call member => (sound call member).grows ⟨id, fun _ => rfl, id⟩
  | shutDown =>
      obtain rfl := Option.some.inj fired
      exact fun call member => (sound call member).grows ⟨id, id, fun _ => rfl⟩

theorem keeps_step {event : DatabaseEvent Row DbError}
    (fired : database.step conversions event = some after) : database.Keeps after := by
  cases event with
  | awaitOnLoop loop =>
      rw [Database.step] at fired
      split at fired
      · cases fired
      · obtain rfl := Option.some.inj fired
        intro id call found
        have bound := (List.getElem?_eq_some_iff.mp found).1
        exact ⟨call, (List.getElem?_append_left bound).trans found, fun _ => rfl⟩
  | call place step =>
      obtain ⟨moving, held, moved⟩ := Option.bind_eq_some_iff.mp fired
      obtain ⟨next, stepped, rfl⟩ := Option.map_eq_some_iff.mp moved
      intro id call found
      by_cases same : place = id
      · subst same
        obtain rfl := Option.some.inj (held.symm.trans found)
        have bound := (List.getElem?_eq_some_iff.mp found).1
        exact ⟨next, List.getElem?_set_self bound, (Call.moves_of_step stepped).keeps.2⟩
      · exact ⟨call, (List.getElem?_set_ne same).trans found, fun _ => rfl⟩
  | closeLoop | finalize | shutDown =>
      obtain rfl := Option.some.inj fired
      exact .same rfl

theorem keeps_runFrom {schedule : List (DatabaseEvent Row DbError)}
    (execution : (databaseMachine conversions).runFrom database schedule = some after) :
    database.Keeps after := by
  induction schedule generalizing database with
  | nil =>
      obtain rfl := Option.some.inj execution
      exact .same rfl
  | cons event schedule induction =>
      obtain ⟨middle, fired, rest⟩ := Option.bind_eq_some_iff.mp execution
      exact (keeps_step fired).trans (induction rest)

/-! ## A result arrives -/

/-- The delivery's own steps and its loop's bring the call's future to an end. -/
def Arrives (conversions : Conversions Row DbError Obj Exc)
    (database : Database Row DbError Obj Exc) (id : Nat) : Prop :=
  ∃ steps : List (CallStep Row DbError),
    (∀ step ∈ steps, step = .handOver ∨ step = .deliver ∨ step = .resolve) ∧
      ∃ after, (databaseMachine conversions).runFrom database
          (steps.map fun step => .call id step) = some after ∧
        ∃ call, after.calls[id]? = some call ∧ call.future.isDone

theorem Arrives.of_step {step : CallStep Row DbError} (found : database.calls[id]? = some call)
    (moved : call.step conversions (database.around call.loop) step = some next)
    (own : step = .handOver ∨ step = .deliver ∨ step = .resolve)
    (arrives : Arrives conversions { database with calls := database.calls.set id next } id) :
    database.Arrives conversions id := by
  obtain ⟨steps, owns, after, execution, done⟩ := arrives
  refine ⟨step :: steps, ?_, after, ?_, done⟩
  · intro other member
    rcases List.mem_cons.mp member with rfl | later
    · exact own
    · exact owns other later
  · refine Option.bind_eq_some_iff.mpr ⟨_, ?_, execution⟩
    show database.step conversions (.call id step) = _
    rw [Database.step, found, Option.bind_some, moved]
    rfl

theorem arrives_of_done (found : database.calls[id]? = some call) (done : call.future.isDone) :
    database.Arrives conversions id :=
  ⟨[], nofun, database, rfl, call, found, done⟩

theorem arrives_of_resolve (found : database.calls[id]? = some call)
    (opened : (database.around call.loop).loopClosed = false) (asked : call.resolve.isSome) :
    database.Arrives conversions id := by
  obtain ⟨outcome, pending⟩ := Option.isSome_iff_exists.mp asked
  have bound := (List.getElem?_eq_some_iff.mp found).1
  have runs : call.step conversions (database.around call.loop) .resolve =
      some (call.resolved outcome) := by
    simp [Call.step, pending, opened]
  exact .of_step found runs (.inr (.inr rfl))
    (arrives_of_done (List.getElem?_set_self bound) (Future.isDone_resolve outcome call.future))

/-- Where the loop is open, the delivery asks it. -/
theorem arrives_of_job {joined : Except (QueryFailure DbError) Row}
    (found : database.calls[id]? = some call)
    (opened : (database.around call.loop).loopClosed = false)
    (alive : (database.around call.loop).finalizing = false)
    (held : call.carrier = .job joined) : database.Arrives conversions id := by
  have bound := (List.getElem?_eq_some_iff.mp found).1
  have runs : call.step conversions (database.around call.loop) .deliver =
      some { call with
        carrier := .taken
        resolve := some (conversions.outcome joined) } := by
    simp [Call.step, held, Call.completeWith, opened, alive]
  exact .of_step found runs (.inr (.inl rfl))
    (arrives_of_resolve (List.getElem?_set_self bound) opened rfl)

theorem arrives_of_awaiting {joined : Except (QueryFailure DbError) Row}
    (found : database.calls[id]? = some call)
    (opened : (database.around call.loop).loopClosed = false)
    (alive : (database.around call.loop).finalizing = false)
    (held : call.carrier = .awaiting) (ended : call.query = some joined) :
    database.Arrives conversions id := by
  have bound := (List.getElem?_eq_some_iff.mp found).1
  have runs : call.step conversions (database.around call.loop) .handOver =
      some { call with carrier := .job joined } := by
    simp [Call.step, held, ended]
  exact .of_step found runs (.inl rfl)
    (arrives_of_job (List.getElem?_set_self bound) opened alive rfl)

/-- Once the query came to its end, nothing of the delivery is lost while the loop is open. -/
theorem Sound.arrives (sound : database.Sound conversions)
    (found : database.calls[id]? = some call) (opened : call.loop ∉ database.closed)
    (alive : database.finalizing = false) (ended : call.query.isSome) :
    database.Arrives conversions id := by
  obtain ⟨joined, came⟩ := Option.isSome_iff_exists.mp ended
  have free : (database.around call.loop).loopClosed = false := decide_eq_false opened
  have stands := (sound call (List.mem_of_getElem? found)).stands
  cases held : call.carrier with
  | awaiting => exact arrives_of_awaiting found free alive held came
  | job => exact arrives_of_job found free alive held
  | taken =>
      rw [held] at stands
      rcases stands with done | asked | finalizing | closed
      · exact arrives_of_done found done
      · exact arrives_of_resolve found free asked
      · exact absurd finalizing (by simp [around, alive])
      · exact absurd closed (by simp [free])

/-- What a caller has of its future. -/
structure Delivered (conversions : Conversions Row DbError Obj Exc)
    (database : Database Row DbError Obj Exc) (id : Nat) (call : Call Row DbError Obj Exc) :
    Prop where
  /-- It holds what its query came to, or that the runtime shut down. -/
  set : ∀ outcome, call.future = .done outcome →
    (∃ joined, call.query = some joined ∧ outcome = conversions.outcome joined) ∨
      database.shutDown ∧ outcome = conversions.withoutResult
  /-- While the loop still has to set it, nothing was set. -/
  once : call.resolve.isSome → ∀ outcome, call.future ≠ .done outcome
  /-- Only a caller's cancel, or the end of the runtime, stops its query. -/
  stopped : call.query = some (.error (.task .cancelled)) →
    call.future = .cancelled ∨ database.shutDown
  /-- The log has a dropped result only of a closed loop. -/
  lost : call.lost → call.loop ∈ database.closed
  arrives : call.loop ∉ database.closed → database.finalizing = false → call.query.isSome →
    database.Arrives conversions id

end Database

theorem Future.eq_cancelled {future : Future Obj Exc} (cancelled : future.isCancelled) :
    future = .cancelled := by
  cases future with
  | pending | done => cases cancelled
  | cancelled => rfl

/-- Whatever the queries come to, whoever cancels and whatever is closed: a future is set once, to
what its query came to; it gets there unless its loop is closed or the interpreter ends; and what is
done stays as it is. -/
theorem async_results (conversions : Conversions Row DbError Obj Exc)
    {schedule later : List (DatabaseEvent Row DbError)}
    {database after : Database Row DbError Obj Exc}
    (execution : (databaseMachine conversions).run schedule = some database)
    (ongoing : (databaseMachine conversions).runFrom database later = some after)
    {id : Nat} {call : Call Row DbError Obj Exc} (found : database.calls[id]? = some call) :
    database.Delivered conversions id call ∧
      (call.future.isDone → ∃ next, after.calls[id]? = some next ∧ next.future = call.future) := by
  have sound : database.Sound conversions := by
    refine Machine.Reachable.invariant ?_ ?_ ⟨schedule, execution⟩
    · exact Database.sound_init
    · exact fun sound fired => Database.Sound.step sound fired
  have own := sound call (List.mem_of_getElem? found)
  refine ⟨⟨?_, ?_, ?_, ?_, sound.arrives found⟩, fun done => ?_⟩
  · intro outcome holds
    exact own.set outcome (by rw [holds]; rfl)
  · intro asked outcome holds
    have unset := own.once asked
    rw [holds] at unset
    cases unset
  · intro cancelled
    exact (own.cancelled cancelled).imp_left Future.eq_cancelled
  · intro dropped
    simpa [Database.around] using own.lost dropped
  · obtain ⟨next, kept, same⟩ := Database.keeps_runFrom ongoing id call found
    exact ⟨next, kept, same done⟩

/-- Rows are numbers; a negative one is no object. -/
def plainConversions : Conversions Int String Nat String where
  convert row := some (if 0 ≤ row then .ok row.toNat else .error "OverflowError")
  intoPyerr
    | .query error => error
    | .task _ => "DatabaseError"
  runtimeError := id

/-- Two queries on one loop, of which the first one's caller gives up. -/
def oneCancelled : List (DatabaseEvent Int String) :=
  [.awaitOnLoop 0, .awaitOnLoop 0, .call 0 .cancel, .call 1 (.queryEnds (.returns (.ok 7))),
    .call 0 .abortOnCancel, .call 1 .handOver, .call 0 .queryCancelled, .call 1 .deliver,
    .call 0 .handOver, .call 1 .resolve]

def answered : Call Int String Nat String where
  loop := 0
  future := .done (.ok 7)
  query := some (.ok 7)
  aborted := false
  carrier := .taken
  resolve := none
  callback := true
  lost := false

def afterCancel : Database Int String Nat String where
  calls := [
    { loop := 0
      future := .cancelled
      query := some (.error (.task .cancelled))
      aborted := true
      carrier := .job (.error (.task .cancelled))
      resolve := none
      callback := false
      lost := false },
    answered]
  closed := []
  finalizing := false
  shutDown := false

theorem run_oneCancelled :
    (databaseMachine plainConversions).run oneCancelled = some afterCancel := by
  rfl

theorem async_results_oneCancelled :
    ∃ database, (databaseMachine plainConversions).run oneCancelled = some database ∧
      ∃ call, database.calls[1]? = some call ∧ call.future = .done (.ok 7) ∧
        database.Delivered plainConversions 1 call := by
  have ongoing : (databaseMachine plainConversions).runFrom afterCancel [] = some afterCancel :=
    rfl
  exact ⟨afterCancel, run_oneCancelled, answered, rfl, rfl,
    (async_results plainConversions run_oneCancelled ongoing rfl).1⟩

end AsyncDb

end Pyronova
