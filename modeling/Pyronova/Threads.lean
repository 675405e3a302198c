import Mathlib.Tactic
import Pyronova.Execution

/-!
# Threads over shared state

Any number of threads run one program.  A thread has its own frame and takes its steps one at a
time, in any order among the others; what is said of every step of one thread is lifted here to
every interleaving.
-/

/-- How a thread begins, and what one of its actions does to the shared state and to its frame. -/
structure Program (Arg Action Shared Frame : Type*) where
  start : Arg → Frame
  step : Shared → Frame → Action → Option (Shared × Frame)

/-- The shared state, and the frame of each thread started so far. -/
structure Threads (Shared Frame : Type*) where
  shared : Shared
  frames : List Frame

inductive ThreadEvent (Arg Action : Type*)
  | starts (arg : Arg)
  | acts (thread : Nat) (action : Action)

/-- What a thread does in a schedule. -/
def ThreadEvent.actionsOf {Arg Action : Type*} (schedule : List (ThreadEvent Arg Action))
    (thread : Nat) : List Action :=
  schedule.filterMap fun
    | .starts _ => none
    | .acts other action => if other = thread then some action else none

namespace Program

variable {Arg Action Shared Frame : Type*} (program : Program Arg Action Shared Frame)

/-- One event among the threads. -/
def fire (threads : Threads Shared Frame) :
    ThreadEvent Arg Action → Option (Threads Shared Frame)
  | .starts arg => some { threads with frames := threads.frames ++ [program.start arg] }
  | .acts thread action =>
      threads.frames[thread]?.bind fun frame =>
        (program.step threads.shared frame action).map fun (shared, frame) =>
          { shared, frames := threads.frames.set thread frame }

def machine (shared : Shared) : Machine (Threads Shared Frame) (ThreadEvent Arg Action) where
  init := { shared, frames := [] }
  step := program.fire

/-- No action moves the frame any more. -/
def Final (frame : Frame) : Prop := ∀ shared action, program.step shared frame action = none

variable {program} {before after : Threads Shared Frame} {event : ThreadEvent Arg Action}

/-- An event starts a thread or is a step of one. -/
theorem fire_cases (fired : program.fire before event = some after) :
    (∃ arg, after = { before with frames := before.frames ++ [program.start arg] }) ∨
      ∃ thread action frame shared next,
        event = .acts thread action ∧ before.frames[thread]? = some frame ∧
          program.step before.shared frame action = some (shared, next) ∧
            after = { shared, frames := before.frames.set thread next } := by
  cases event with
  | starts arg => exact .inl ⟨arg, (Option.some.inj fired).symm⟩
  | acts thread action =>
      obtain ⟨frame, found, stepped⟩ := Option.bind_eq_some_iff.mp fired
      obtain ⟨⟨shared, next⟩, moved, same⟩ := Option.map_eq_some_iff.mp stepped
      exact .inr ⟨thread, action, frame, shared, next, rfl, found, moved, same.symm⟩

/-- What holds of a frame that begins, and stays true in its steps, holds of every frame. -/
theorem forall_frames_of_fire {property : Frame → Prop}
    (starts : ∀ arg, property (program.start arg))
    (steps : ∀ {shared frame action after next}, property frame →
      program.step shared frame action = some (after, next) → property next)
    (holds : ∀ frame ∈ before.frames, property frame)
    (fired : program.fire before event = some after) :
    ∀ frame ∈ after.frames, property frame := by
  intro frame member
  obtain ⟨arg, rfl⟩ | ⟨thread, action, old, shared, next, -, found, moved, rfl⟩ := fire_cases fired
  · obtain old | fresh := List.mem_append.mp member
    · exact holds frame old
    · rw [List.mem_singleton.mp fresh]
      exact starts arg
  · obtain kept | rfl := List.mem_or_eq_of_mem_set member
    · exact holds frame kept
    · exact steps (holds old (List.mem_of_getElem? found)) moved

/-- A frame that no action moves stays. -/
theorem mem_frames_of_final {frame : Frame} (final : program.Final frame)
    (member : frame ∈ before.frames) (fired : program.fire before event = some after) :
    frame ∈ after.frames := by
  obtain ⟨arg, rfl⟩ | ⟨thread, action, old, shared, next, -, found, moved, rfl⟩ := fire_cases fired
  · exact List.mem_append_left _ member
  · obtain ⟨place, here⟩ := List.mem_iff_getElem?.mp member
    have other : thread ≠ place := by
      rintro rfl
      obtain rfl := Option.some.inj (found.symm.trans here)
      rw [final] at moved
      cases moved
    refine List.mem_iff_getElem?.mpr ⟨place, ?_⟩
    rw [List.getElem?_set_ne other]
    exact here

section Run

open ThreadEvent

theorem actionsOf_concat_starts (schedule : List (ThreadEvent Arg Action)) (arg : Arg)
    (thread : Nat) : actionsOf (schedule ++ [.starts arg]) thread = actionsOf schedule thread := by
  simp [actionsOf]

theorem actionsOf_concat_acts (schedule : List (ThreadEvent Arg Action)) (other thread : Nat)
    (action : Action) :
    actionsOf (schedule ++ [.acts other action]) thread =
      if other = thread then actionsOf schedule thread ++ [action]
      else actionsOf schedule thread := by
  split
  · rename_i same
    simp [actionsOf, same]
  · rename_i different
    simp [actionsOf, different]

/-- What holds of a frame that begins, and of what its thread has done since in every step, holds of
every frame that a run reaches. -/
theorem frames_of_run (property : List Action → Frame → Prop) {initial : Shared}
    (starts : ∀ arg, property [] (program.start arg))
    (steps : ∀ {did shared frame action after next}, property did frame →
      program.step shared frame action = some (after, next) → property (did ++ [action]) next)
    {schedule : List (ThreadEvent Arg Action)} {threads : Threads Shared Frame}
    (reached : (program.machine initial).run schedule = some threads) :
    (∀ thread frame, threads.frames[thread]? = some frame →
      property (actionsOf schedule thread) frame) ∧
      ∀ thread, threads.frames.length ≤ thread → actionsOf schedule thread = [] := by
  induction schedule using List.reverseRecOn generalizing threads with
  | nil =>
      obtain rfl := Option.some.inj reached
      exact ⟨nofun, fun _ _ => rfl⟩
  | append_singleton schedule event induction =>
      obtain ⟨before, ran, fired⟩ := Machine.run_concat_eq_some.mp reached
      obtain ⟨held, unstarted⟩ := induction ran
      have fired : program.fire before event = some threads := fired
      cases event with
      | starts arg =>
          obtain rfl := Option.some.inj fired
          constructor
          · intro thread frame found
            rw [actionsOf_concat_starts]
            rw [List.getElem?_append] at found
            split at found
            · exact held thread frame found
            · rename_i outside
              rw [List.mem_singleton.mp (List.mem_of_getElem? found),
                unstarted thread (Nat.not_lt.mp outside)]
              exact starts arg
          · intro thread outside
            rw [List.length_append] at outside
            rw [actionsOf_concat_starts]
            exact unstarted thread (by omega)
      | acts other action =>
          obtain ⟨frame, found, stepped⟩ := Option.bind_eq_some_iff.mp fired
          obtain ⟨⟨shared, next⟩, moved, rfl⟩ := Option.map_eq_some_iff.mp stepped
          have inside := (List.getElem?_eq_some_iff.mp found).1
          constructor
          · intro thread later here
            rw [actionsOf_concat_acts]
            rw [List.getElem?_set] at here
            split
            · rename_i same
              subst same
              rw [if_pos rfl, if_pos inside] at here
              obtain rfl := Option.some.inj here
              exact steps (held other frame found) moved
            · rename_i different
              rw [if_neg different] at here
              exact held thread later here
          · intro thread outside
            rw [List.length_set] at outside
            rw [actionsOf_concat_acts, if_neg (by omega)]
            exact unstarted thread outside

end Run

end Program
