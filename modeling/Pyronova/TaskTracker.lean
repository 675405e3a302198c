import Mathlib.Data.List.Basic
import Mathlib.Tactic

/-!
# Tracked tasks

Tasks run until they end by themselves or are dropped, and a tracker can be waited for: once it is
closed and no task runs, no task will.  A tracker that is closed but still spawned on can be found
idle and have a task again, and that is for whoever closes it to rule out.
-/

/-- A task, with the state it is in or was in last. -/
inductive TrackedTask (State Outcome : Type*)
  | running (state : State)
  | ended (last : State) (outcome : Outcome)
  | dropped (last : State)

namespace TrackedTask

variable {State Outcome : Type*}

def isRunning : TrackedTask State Outcome → Bool
  | .running _ => true
  | _ => false

def isDropped : TrackedTask State Outcome → Bool
  | .dropped _ => true
  | _ => false

/-- A task that runs is dropped where it is. -/
def drop : TrackedTask State Outcome → TrackedTask State Outcome
  | .running state => .dropped state
  | task => task

/-- What holds of a task by the stage it is in. -/
structure Meets (running : State → Prop) (ended : State → Outcome → Prop) (dropped : State → Prop)
    (task : TrackedTask State Outcome) : Prop where
  running : ∀ state, task = .running state → running state
  ended : ∀ last outcome, task = .ended last outcome → ended last outcome
  dropped : ∀ last, task = .dropped last → dropped last

theorem isRunning_drop (task : TrackedTask State Outcome) : task.drop.isRunning = false := by
  cases task <;> rfl

theorem drop_eq_self {task : TrackedTask State Outcome} (still : task.isRunning = false) :
    task.drop = task := by
  cases task with
  | running state => cases still
  | ended | dropped => rfl

end TrackedTask

structure TaskTracker (State Outcome : Type*) where
  tasks : List (TrackedTask State Outcome)
  closed : Bool

namespace TaskTracker

variable {State Outcome : Type*}

def new : TaskTracker State Outcome where
  tasks := []
  closed := false

def spawn (tracker : TaskTracker State Outcome) (state : State) : TaskTracker State Outcome :=
  { tracker with tasks := tracker.tasks ++ [.running state] }

/-- A running task goes on, or ends. -/
def step (tracker : TaskTracker State Outcome) (index : Nat)
    (act : State → Option (TrackedTask State Outcome)) : Option (TaskTracker State Outcome) :=
  match tracker.tasks[index]? with
  | some (.running state) =>
      (act state).map fun task => { tracker with tasks := tracker.tasks.set index task }
  | _ => none

def close (tracker : TaskTracker State Outcome) : TaskTracker State Outcome :=
  { tracker with closed := true }

/-- The tasks that run. -/
def len (tracker : TaskTracker State Outcome) : Nat :=
  tracker.tasks.countP TrackedTask.isRunning

/-- What `wait` waits for. -/
def isDone (tracker : TaskTracker State Outcome) : Bool :=
  tracker.closed && tracker.len = 0

def drop (tracker : TaskTracker State Outcome) : TaskTracker State Outcome :=
  { tracker with tasks := tracker.tasks.map TrackedTask.drop }

variable {tracker next : TaskTracker State Outcome}

theorem len_eq_zero : tracker.len = 0 ↔ ∀ task ∈ tracker.tasks, task.isRunning = false := by
  rw [len, List.countP_eq_zero]
  constructor
  · intro none task member
    exact Bool.eq_false_iff.mpr (none task member)
  · intro none task member
    exact Bool.eq_false_iff.mp (none task member)

theorem step_cases {index : Nat} {act : State → Option (TrackedTask State Outcome)}
    (fired : tracker.step index act = some next) :
    ∃ state task, tracker.tasks[index]? = some (.running state) ∧ act state = some task ∧
      next = { tracker with tasks := tracker.tasks.set index task } := by
  rw [step] at fired
  split at fired
  · rename_i state found
    obtain ⟨task, acted, rfl⟩ := Option.map_eq_some_iff.mp fired
    exact ⟨state, task, found, acted, rfl⟩
  · cases fired

theorem closed_of_step {index : Nat} {act : State → Option (TrackedTask State Outcome)}
    (fired : tracker.step index act = some next) : next.closed = tracker.closed := by
  obtain ⟨_, _, _, _, rfl⟩ := step_cases fired
  rfl

theorem length_of_step {index : Nat} {act : State → Option (TrackedTask State Outcome)}
    (fired : tracker.step index act = some next) : next.tasks.length = tracker.tasks.length := by
  obtain ⟨_, _, _, _, rfl⟩ := step_cases fired
  exact List.length_set

/-- No task was dropped. -/
def Whole (tracker : TaskTracker State Outcome) : Prop :=
  ∀ task ∈ tracker.tasks, task.isDropped = false

theorem Whole.spawn (whole : tracker.Whole) (state : State) : (tracker.spawn state).Whole := by
  intro task member
  rcases List.mem_append.mp member with old | new
  · exact whole task old
  · obtain rfl := List.mem_singleton.mp new
    rfl

theorem Whole.step (whole : tracker.Whole) {index : Nat}
    {act : State → Option (TrackedTask State Outcome)}
    (keeps : ∀ state task, act state = some task → task.isDropped = false)
    (fired : tracker.step index act = some next) : next.Whole := by
  obtain ⟨state, task, _, acted, rfl⟩ := step_cases fired
  intro other member
  rcases List.mem_or_eq_of_mem_set member with old | rfl
  · exact whole other old
  · exact keeps state other acted

/-- What holds of every task by the stage it is in. -/
def Meets (running : State → Prop) (ended : State → Outcome → Prop) (dropped : State → Prop)
    (tracker : TaskTracker State Outcome) : Prop :=
  ∀ task ∈ tracker.tasks, task.Meets running ended dropped

variable {running : State → Prop} {ended : State → Outcome → Prop} {dropped : State → Prop}

theorem Meets.imp {running' dropped' : State → Prop} {ended' : State → Outcome → Prop}
    (meets : tracker.Meets running ended dropped) (runs : ∀ state, running state → running' state)
    (ends : ∀ last outcome, ended last outcome → ended' last outcome)
    (drops : ∀ last, dropped last → dropped' last) : tracker.Meets running' ended' dropped' := by
  intro task member
  have old := meets task member
  exact ⟨fun state same => runs state (old.running state same),
    fun last outcome same => ends last outcome (old.ended last outcome same),
    fun last same => drops last (old.dropped last same)⟩

theorem Meets.spawn (meets : tracker.Meets running ended dropped) {state : State}
    (starts : running state) : (tracker.spawn state).Meets running ended dropped := by
  intro task member
  rcases List.mem_append.mp member with old | new
  · exact meets task old
  · obtain rfl := List.mem_singleton.mp new
    refine ⟨?_, ?_, ?_⟩
    · rintro _ ⟨⟩
      exact starts
    · intro _ _ other
      cases other
    · intro _ other
      cases other

theorem Meets.step (meets : tracker.Meets running ended dropped) {index : Nat}
    {act : State → Option (TrackedTask State Outcome)}
    (keeps : ∀ state task, running state → act state = some task →
      task.Meets running ended dropped)
    (fired : tracker.step index act = some next) : next.Meets running ended dropped := by
  obtain ⟨state, task, found, acted, rfl⟩ := step_cases fired
  intro other member
  rcases List.mem_or_eq_of_mem_set member with old | rfl
  · exact meets other old
  · exact keeps state other ((meets _ (List.mem_of_getElem? found)).running state rfl) acted

theorem Meets.drop (meets : tracker.Meets running ended dropped)
    (drops : ∀ state, running state → dropped state) :
    tracker.drop.Meets running ended dropped := by
  intro task member
  obtain ⟨before, inTasks, rfl⟩ := List.mem_map.mp member
  have old := meets before inTasks
  cases before with
  | running state =>
      refine ⟨?_, ?_, ?_⟩
      · intro _ other
        cases other
      · intro _ _ other
        cases other
      · rintro _ ⟨⟩
        exact drops state (old.running state rfl)
  | ended last outcome => exact old
  | dropped last => exact old

theorem len_drop : tracker.drop.len = 0 := by
  rw [len_eq_zero]
  intro task member
  obtain ⟨before, _, rfl⟩ := List.mem_map.mp member
  exact before.isRunning_drop

/-- A tracker without running tasks loses nothing when it is dropped. -/
theorem drop_eq_self (idle : tracker.len = 0) : tracker.drop = tracker := by
  have same : tracker.tasks.map TrackedTask.drop = tracker.tasks := by
    have each (task : TrackedTask State Outcome) (member : task ∈ tracker.tasks) :
        task.drop = task :=
      TrackedTask.drop_eq_self (len_eq_zero.mp idle task member)
    rw [List.map_congr_left each, List.map_id']
  rw [drop, same]

/-- What is dropped is what was running. -/
theorem Whole.countP_drop (whole : tracker.Whole) :
    tracker.drop.tasks.countP TrackedTask.isDropped = tracker.len := by
  rw [drop, len, List.countP_map]
  apply List.countP_congr
  intro task member
  have stays := whole task member
  cases task with
  | running | ended => rfl
  | dropped => cases stays

end TaskTracker
