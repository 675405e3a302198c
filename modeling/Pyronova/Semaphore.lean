import Mathlib.Tactic

/-!
# Counting semaphores

A semaphore hands out a fixed number of permits.  A request is for several at once: it is granted
when that many are there, or waits.  Which of several requests goes first is the semaphore's own
choice: it may let one wait for those before it, and never when nobody waits.
-/

/-- The permits of a semaphore: those not handed out, the requests that wait and the grants that
are held. -/
structure Semaphore where
  available : Nat
  waiting : List Nat
  held : List Nat
deriving DecidableEq

namespace Semaphore

/-- The permits handed out. -/
def outstanding (semaphore : Semaphore) : Nat := semaphore.held.sum

/-- Whether a request is granted as it is made. -/
structure Policy where
  grants : Semaphore → Nat → Bool
  fits : ∀ {semaphore count}, grants semaphore count = true → count ≤ semaphore.available
  unqueued : ∀ {semaphore count}, semaphore.waiting = [] → count ≤ semaphore.available →
    grants semaphore count = true

/-- Whatever fits is granted. -/
def Policy.greedy : Policy where
  grants := fun semaphore count => count ≤ semaphore.available
  fits := of_decide_eq_true
  unqueued := fun _ fits => decide_eq_true fits

/-- A semaphore nobody holds a permit of. -/
def new (permits : Nat) : Semaphore := ⟨permits, [], []⟩

/-- All permits. -/
def permits (semaphore : Semaphore) : Nat := semaphore.available + semaphore.outstanding

/-- A grant. -/
def take (semaphore : Semaphore) (count : Nat) : Semaphore :=
  { semaphore with available := semaphore.available - count, held := count :: semaphore.held }

/-- A held grant is given back. -/
def release (semaphore : Semaphore) (count : Nat) : Semaphore :=
  { semaphore with
    available := semaphore.available + count, held := semaphore.held.erase count }

variable (policy : Policy) (semaphore : Semaphore) (count : Nat)

/-- A request that does not wait. -/
def tryAcquire : Option Semaphore :=
  if policy.grants semaphore count then some (semaphore.take count) else none

/-- A request that was not granted and waits. -/
def wait : Semaphore := { semaphore with waiting := semaphore.waiting ++ [count] }

/-- A waiting request is granted. -/
def grant : Option Semaphore :=
  if count ∈ semaphore.waiting ∧ count ≤ semaphore.available then
    some ({ semaphore with waiting := semaphore.waiting.erase count }.take count)
  else none

/-- A waiting request is given up. -/
def abandon : Option Semaphore :=
  if count ∈ semaphore.waiting then
    some { semaphore with waiting := semaphore.waiting.erase count }
  else none

variable {policy semaphore count}

theorem permits_new (count : Nat) : (new count).permits = count := Nat.add_zero count

theorem permits_take (fits : count ≤ semaphore.available) :
    (semaphore.take count).permits = semaphore.permits := by
  simp only [permits, take, outstanding, List.sum_cons]
  omega

theorem permits_release (held : count ∈ semaphore.held) :
    (semaphore.release count).permits = semaphore.permits := by
  have whole := List.sum_erase held
  simp only [permits, release, outstanding]
  omega

theorem tryAcquire_eq_some {after : Semaphore} :
    semaphore.tryAcquire policy count = some after ↔
      policy.grants semaphore count = true ∧ after = semaphore.take count := by
  rw [tryAcquire, Option.ite_none_right_eq_some, Option.some.injEq, eq_comm (a := after)]

theorem permits_tryAcquire {after : Semaphore}
    (granted : semaphore.tryAcquire policy count = some after) :
    after.permits = semaphore.permits := by
  obtain ⟨grants, rfl⟩ := tryAcquire_eq_some.mp granted
  exact permits_take (policy.fits grants)

theorem grant_eq_some {after : Semaphore} :
    semaphore.grant count = some after ↔
      (count ∈ semaphore.waiting ∧ count ≤ semaphore.available) ∧
        after = { semaphore with waiting := semaphore.waiting.erase count }.take count := by
  rw [grant, Option.ite_none_right_eq_some, Option.some.injEq, eq_comm (a := after)]

theorem abandon_eq_some {after : Semaphore} :
    semaphore.abandon count = some after ↔
      count ∈ semaphore.waiting ∧
        after = { semaphore with waiting := semaphore.waiting.erase count } := by
  rw [abandon, Option.ite_none_right_eq_some, Option.some.injEq, eq_comm (a := after)]

theorem permits_grant {after : Semaphore} (granted : semaphore.grant count = some after) :
    after.permits = semaphore.permits := by
  obtain ⟨⟨-, fits⟩, rfl⟩ := grant_eq_some.mp granted
  exact permits_take fits

theorem permits_abandon {after : Semaphore} (abandoned : semaphore.abandon count = some after) :
    after.permits = semaphore.permits := by
  obtain ⟨-, rfl⟩ := abandon_eq_some.mp abandoned
  rfl

theorem outstanding_le : semaphore.outstanding ≤ semaphore.permits := Nat.le_add_left _ _

theorem available_of_idle (idle : semaphore.outstanding = 0) :
    semaphore.available = semaphore.permits := by
  rw [permits, idle, Nat.add_zero]

theorem held_release_perm {rest : List Nat} (held : semaphore.held.Perm (count :: rest)) :
    (semaphore.release count).held.Perm rest := by
  have erased := held.erase count
  rwa [List.erase_cons_head] at erased

theorem outstanding_release (held : count ∈ semaphore.held) :
    (semaphore.release count).outstanding + count = semaphore.outstanding := by
  have whole := List.sum_erase held
  simp only [outstanding, release]
  omega

/-- A grant that is given back at once leaves no trace. -/
theorem release_take (fits : count ≤ semaphore.available) :
    (semaphore.take count).release count = semaphore := by
  obtain ⟨available, waiting, held⟩ := semaphore
  simp only [take, release, List.erase_cons_head, Nat.sub_add_cancel fits]

/-- A request that finds nobody holding or waiting is granted at once if it can ever be. -/
theorem tryAcquire_of_idle (idle : semaphore.outstanding = 0) (nobody : semaphore.waiting = [])
    (fits : count ≤ semaphore.permits) :
    semaphore.tryAcquire policy count = some (semaphore.take count) :=
  if_pos (policy.unqueued nobody (fits.trans_eq (available_of_idle idle).symm))

/-- With nothing handed out, a waiting request that can ever be granted can be now. -/
theorem grant_of_idle (idle : semaphore.outstanding = 0) (waits : count ∈ semaphore.waiting)
    (fits : count ≤ semaphore.permits) : (semaphore.grant count).isSome = true := by
  rw [grant, if_pos ⟨waits, fits.trans_eq (available_of_idle idle).symm⟩]
  rfl

end Semaphore
