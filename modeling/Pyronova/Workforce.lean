import Mathlib.Tactic
import Pyronova.Custody

/-!
# Workers and the threads that hold them

A worker is a sub-interpreter with a thread state, which is bound to the thread that built it and
later to the thread that serves it.  What is done to each interpreter is logged, and the place of
its worker says at any moment whose hands it is in.
-/

namespace Pyronova

/-- The threads a worker's thread state is bound to: the one that builds the workers, then the
worker's own. -/
inductive OsThread
  | creator
  | worker (index : Nat)
  deriving DecidableEq, Repr

/-- Where a built worker is. -/
inductive WorkerPlace
  /-- In the creator's hands. -/
  | pending
  /-- Moved into the closure of its thread, which has not run yet. -/
  | spawned
  /-- Bound to its thread, with no thread state current there. -/
  | idle
  /-- Its thread state is current on its thread. -/
  | running
  /-- Its thread is done serving. -/
  | over
  /-- `end_on_own_thread` found the runtime initialized. -/
  | ending
  | ended (thread : OsThread)
  | abandoned
  /-- Dropped by the thread that should have started with it, and not ended. -/
  | leaked
  /-- Dropped by its own thread as that panicked, and not ended. -/
  | unwound
  deriving DecidableEq, Repr

namespace WorkerPlace

/-- Whose hands the interpreter of a worker is in. -/
def custody (index : Nat) : WorkerPlace → Custody OsThread
  | .pending | .spawned => .held .creator
  | .idle | .running | .over | .ending => .held (.worker index)
  | .ended thread => .released thread
  | .abandoned | .leaked | .unwound => .lost

/-- The places of a worker that was moved to its thread. -/
def onThread (index : Nat) : WorkerPlace → Prop
  | .spawned | .idle | .running | .over | .ending | .abandoned | .unwound => True
  | .ended thread => thread = .worker index
  | .pending | .leaked => False

/-- The thread has returned, or panicked. -/
def exited : WorkerPlace → Bool
  | .ended _ | .abandoned | .unwound => true
  | _ => false

/-- Its thread is through: it ended the worker, or panicked and dropped it. -/
def through (index : Nat) (place : WorkerPlace) : Prop :=
  place = .ended (.worker index) ∨ place = .unwound

/-- A thread step moves the worker from here. -/
def active : WorkerPlace → Bool
  | .spawned | .idle | .running | .over | .ending => true
  | _ => false

end WorkerPlace

/-- What becomes of `SubInterpreterWorker::new`. -/
inductive Construction (StartError : Type*)
  | built
  /-- `Py_NewInterpreterFromConfig` made no interpreter. -/
  | refused (error : StartError)
  /-- The interpreter it made could not be prepared, and was ended. -/
  | failed (error : StartError)

/-- The workers by index, and what was done with every interpreter and by which thread. -/
structure Workforce where
  workers : List WorkerPlace
  log : CustodyLog Nat OsThread

namespace Workforce

/-- A worker moves, and its interpreter is used or not. -/
def move (force : Workforce) (index : Nat) (place : WorkerPlace) (deed : Option (Deed OsThread)) :
    Workforce where
  workers := force.workers.set index place
  log := force.log ++ (deed.map fun deed => (index, deed)).toList

/-- `SubInterpreterWorker::new` on the creator's thread. -/
def construct {StartError : Type*} (force : Workforce) : Construction StartError → Workforce
  | .built =>
      { workers := force.workers ++ [.pending]
        log := force.log ++ [Deed.acquire .creator, .use .creator].map fun deed =>
          (force.workers.length, deed) }
  | .refused _ => force
  | .failed _ =>
      { workers := force.workers ++ [.ended .creator]
        log := force.log ++
          [Deed.acquire .creator, .use .creator, .release .creator].map fun deed =>
            (force.workers.length, deed) }

/-- `end` of a worker that its creator still has. -/
def endHere (force : Workforce) (index : Nat) : Workforce :=
  force.move index (.ended .creator) (some (.release .creator))

variable {force next : Workforce} {index : Nat} {place after : WorkerPlace}

/-- The log leaves every interpreter with whoever the place of its worker says. -/
def Accounts (force : Workforce) : Prop :=
  ∀ index, force.log.custody? index =
    some (((force.workers[index]?).map (WorkerPlace.custody index)).getD .absent)

/-- The deed that takes a worker's interpreter along from one place to another. -/
def Takes (index : Nat) (place after : WorkerPlace) : Option (Deed OsThread) → Prop
  | none => after.custody index = place.custody index
  | some deed => (place.custody index).after deed = some (after.custody index)

@[simp] theorem length_move (deed : Option (Deed OsThread)) :
    (force.move index after deed).workers.length = force.workers.length :=
  List.length_set

theorem move_self (found : force.workers[index]? = some place) :
    force.move index place none = force := by
  obtain ⟨inside, rfl⟩ := List.getElem?_eq_some_iff.mp found
  rw [move, List.set_getElem_self inside, Option.map_none, Option.toList_none, List.append_nil]

theorem getElem?_move (found : force.workers[index]? = some place) (deed : Option (Deed OsThread))
    (other : Nat) :
    (force.move index after deed).workers[other]? =
      if index = other then some after else force.workers[other]? := by
  rw [move, List.getElem?_set]
  split
  · rw [if_pos (List.getElem?_eq_some_iff.mp found).1]
  · rfl

theorem Accounts.move {deed : Option (Deed OsThread)} (accounts : force.Accounts)
    (found : force.workers[index]? = some place) (takes : Takes index place after deed) :
    (force.move index after deed).Accounts := by
  intro other
  have before := accounts index
  rw [found] at before
  rw [getElem?_move found]
  by_cases same : index = other
  · subst same
    rw [if_pos rfl, Option.map_some, Option.getD_some, Workforce.move]
    cases deed with
    | none =>
        rw [Option.map_none, Option.toList_none, List.append_nil, takes]
        exact before
    | some deed => exact CustodyLog.custody?_concat_of_after before takes
  · rw [if_neg same, Workforce.move]
    cases deed with
    | none =>
        rw [Option.map_none, Option.toList_none, List.append_nil]
        exact accounts other
    | some deed => exact (CustodyLog.custody?_concat_other _ _ same).trans (accounts other)

/-- A fresh worker is appended with all that was done to its interpreter. -/
theorem Accounts.append (accounts : force.Accounts) (place : WorkerPlace)
    (made : List (Deed OsThread))
    (workers : next.workers = force.workers ++ [place])
    (log : next.log = force.log ++ made.map fun deed => (force.workers.length, deed))
    (lawful : (Custody.machine OsThread).run made = some (place.custody force.workers.length)) :
    next.Accounts := by
  intro other
  have before := accounts other
  rw [log, CustodyLog.custody?_append_map, workers]
  by_cases same : force.workers.length = other
  · subst same
    rw [List.getElem?_eq_none (Nat.le_refl _)] at before
    rw [if_pos rfl, before, List.getElem?_append_right (Nat.le_refl _), Nat.sub_self]
    exact lawful
  · rw [if_neg same, before]
    congr 3
    rw [List.getElem?_append]
    split
    · rfl
    · rename_i outside
      rw [List.getElem?_eq_none (by omega), List.getElem?_eq_none (by simp; omega)]

theorem Accounts.construct {StartError : Type*} (accounts : force.Accounts)
    (outcome : Construction StartError) : (force.construct outcome).Accounts := by
  cases outcome with
  | built =>
      exact accounts.append .pending [.acquire .creator, .use .creator] rfl rfl rfl
  | refused error => exact accounts
  | failed error =>
      exact accounts.append (.ended .creator) [.acquire .creator, .use .creator, .release .creator]
        rfl rfl rfl

theorem Accounts.custody (accounts : force.Accounts) (found : force.workers[index]? = some place) :
    force.log.custody? index = some (place.custody index) := by
  rw [accounts, found]
  rfl

/-- An interpreter is only touched by the thread that holds it, and never again once ended. -/
structure Careful (force : Workforce) : Prop where
  held : ∀ index front deed back, force.log.about index = front ++ deed :: back →
    ∀ thread, deed.holder? = some thread →
      (Custody.machine OsThread).run front = some (.held thread)
  endedOnce : ∀ index, (force.log.about index).countP Deed.isRelease ≤ 1
  endedLast : ∀ index front deed back, force.log.about index = front ++ deed :: back →
    deed.isRelease = true → back = []

theorem Accounts.careful (accounts : force.Accounts) : force.Careful := by
  have lawful : force.log.Lawful := fun index => ⟨_, accounts index⟩
  exact ⟨fun _ _ _ _ split _ does => lawful.held split does, lawful.released_once,
    fun _ _ _ _ split releases => lawful.nil_of_release split releases⟩

end Workforce

end Pyronova
