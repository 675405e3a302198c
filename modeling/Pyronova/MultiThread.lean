import Mathlib.Tactic
import Pyronova.Connections
import Pyronova.Execution

/-!
# Stopping the multi-thread server

Accept loops and connections run on one runtime while the main task waits for the stop, and then for
the connections.  The loops look at the stop in no fixed order, so one of them may still take up a
connection that nobody waits for: that is the only one cut off before its time.  What is on the
runtime's blocking pool, which runs the handlers in GIL mode, is waited for however long it takes.
-/

namespace Pyronova

/-- Microseconds. -/
def MULTI_THREAD_DRAIN_TIMEOUT : Nat := 30000000

/-- What the main task has waited for. -/
inductive Waited (ListenerError : Type*)
  /-- The tracker was found empty after so many connections. -/
  | drained (accepted : Nat)
  | timedOut
  /-- An accept source could not be made. -/
  | unstarted (error : ListenerError)

inductive MainStage (ListenerError : Type*)
  | starting
  /-- `until_stopped`, with the SIGINT handler installed or not. -/
  | watching (handler : Bool)
  | draining (deadline : Nat)
  /-- `block_on` has its result, and the runtime is still there. -/
  | served (waited : Waited ListenerError)
  /-- The runtime has dropped its tasks and waits for its blocking pool. -/
  | shut (waited : Waited ListenerError)
  | returned (waited : Waited ListenerError)

/-- What was waited for, once the runtime's tasks are gone. -/
def MainStage.waited? {ListenerError : Type*} :
    MainStage ListenerError → Option (Waited ListenerError)
  | .shut waited | .returned waited => some waited
  | _ => none

structure MultiThread (IoError ListenerError : Type*) where
  now : Nat
  /-- The stop token. -/
  stopped : Bool
  stage : MainStage ListenerError
  /-- When the stop was seen. -/
  seen : Option Nat
  /-- The accept loops that were spawned, and whether each still runs. -/
  loops : List Bool
  conns : TaskTracker Connection (ConnectionEnd IoError)
  work : Untracked
  /-- The warnings of a drain that ran out of time: how many connections were open. -/
  warnings : List Nat

inductive MultiThreadEvent (IoError ListenerError : Type*)
  /-- The next group gets its source and its loop. -/
  | listen (result : Except ListenerError Unit)
  | watch
  | handlerFails
  | interrupt
  /-- `Server.shutdown()`. -/
  | shutdown
  /-- `until_stopped` finds the token cancelled. -/
  | proceed
  | accept (loop : Nat) (tls : Bool)
  /-- A loop finds the token cancelled. -/
  | leave (loop : Nat)
  | connection (index : Nat) (step : ConnectionStep IoError)
  | elapse (time : Nat)
  | drained
  | timeOut
  | untracked (step : UntrackedStep)
  /-- The runtime is dropped. -/
  | dropRuntime
  /-- Nothing is left on its blocking pool. -/
  | finish

/-- An event that no client and no handler has to bring about. -/
def MultiThreadEvent.isOwn {IoError ListenerError : Type*} :
    MultiThreadEvent IoError ListenerError → Bool
  | .listen _ | .watch | .proceed | .leave _ | .elapse _ | .drained | .timeOut | .dropRuntime
  | .finish => true
  | .handlerFails | .interrupt | .shutdown | .accept .. | .connection .. | .untracked _ => false

/-- A handler comes to its end. -/
def MultiThreadEvent.isReturn {IoError ListenerError : Type*} :
    MultiThreadEvent IoError ListenerError → Bool
  | .untracked .blockingEnds => true
  | _ => false

namespace MultiThread

variable {IoError ListenerError : Type*}

def start : MultiThread IoError ListenerError where
  now := 0
  stopped := false
  stage := .starting
  seen := none
  loops := []
  conns := .new
  work := .idle
  warnings := []

/-- The runtime has its tasks. -/
def isUp (run : MultiThread IoError ListenerError) : Bool :=
  match run.stage with
  | .shut _ | .returned _ => false
  | _ => true

/-- `until_stopped` has returned: the token is cancelled for everyone, and the drain begins. -/
def stop (run : MultiThread IoError ListenerError) : MultiThread IoError ListenerError :=
  { run with
    stopped := true
    stage := .draining (run.now + MULTI_THREAD_DRAIN_TIMEOUT)
    seen := some run.now
    conns := run.conns.close }

def step (groups : Nat) (run : MultiThread IoError ListenerError) :
    MultiThreadEvent IoError ListenerError → Option (MultiThread IoError ListenerError)
  | .listen result =>
      match run.stage, result with
      | .starting, .ok () =>
          if run.loops.length < groups then some { run with loops := run.loops ++ [true] }
          else none
      | .starting, .error error =>
          if run.loops.length < groups then some { run with stage := .served (.unstarted error) }
          else none
      | _, _ => none
  | .watch =>
      match run.stage with
      | .starting =>
          if run.loops.length = groups then some { run with stage := .watching true } else none
      | _ => none
  | .handlerFails =>
      match run.stage with
      | .watching true => some { run with stage := .watching false }
      | _ => none
  | .interrupt =>
      match run.stage with
      | .watching true => some run.stop
      | _ => none
  | .shutdown => some { run with stopped := true }
  | .proceed =>
      match run.stage with
      | .watching _ => if run.stopped then some run.stop else none
      | _ => none
  | .accept loop tls =>
      -- not `biased`: a loop may accept though the token is cancelled
      if run.isUp ∧ run.loops[loop]? = some true then
        some { run with conns := run.conns.spawn (.accepted run.now tls) }
      else none
  | .leave loop =>
      if run.isUp ∧ run.stopped ∧ run.loops[loop]? = some true then
        some { run with loops := run.loops.set loop false }
      else none
  | .connection index next =>
      if run.isUp then
        (run.conns.step index fun conn => conn.step run.now run.stopped next).map fun conns =>
          { run with conns }
      else none
  | .elapse time => some { run with now := run.now + time }
  | .drained =>
      match run.stage with
      | .draining _ =>
          if run.conns.isDone then
            some { run with stage := .served (.drained run.conns.tasks.length) }
          else none
      | _ => none
  | .timeOut =>
      match run.stage with
      | .draining deadline =>
          if deadline ≤ run.now ∧ ¬ run.conns.isDone then
            some { run with
              stage := .served .timedOut
              warnings := run.warnings ++ [run.conns.len] }
          else none
      | _ => none
  | .untracked next => (run.work.step run.isUp next).map fun work => { run with work }
  | .dropRuntime =>
      match run.stage with
      | .served waited =>
          some { run with
            stage := .shut waited
            loops := run.loops.map fun _ => false
            conns := run.conns.drop
            work := run.work.dropTasks }
      | _ => none
  | .finish =>
      match run.stage with
      | .shut waited =>
          if run.work.blocking = 0 then some { run with stage := .returned waited } else none
      | _ => none

end MultiThread

def multiThread (IoError ListenerError : Type*) (groups : Nat) :
    Machine (MultiThread IoError ListenerError) (MultiThreadEvent IoError ListenerError) where
  init := .start
  step := MultiThread.step groups

/-! ## What every run keeps -/

namespace MultiThread

variable {IoError ListenerError : Type*} {groups : Nat}

/-- What was waited for has come: the drain warned and had its time, or every connection of before
has ended by itself. -/
def Settled (run : MultiThread IoError ListenerError) : Waited ListenerError → Prop
  | .drained accepted => run.warnings = [] ∧ accepted ≤ run.conns.tasks.length ∧
      ∀ index < accepted, ∃ last ending, run.conns.tasks[index]? = some (.ended last ending)
  | .timedOut => ∃ left time, run.warnings = [left] ∧ 0 < left ∧ run.seen = some time ∧
      time + MULTI_THREAD_DRAIN_TIMEOUT ≤ run.now
  | .unstarted _ => run.warnings = [] ∧ run.seen = none

/-- Where the main task stands, stage by stage. -/
def Stands (groups : Nat) (run : MultiThread IoError ListenerError) :
    MainStage ListenerError → Prop
  | .starting => run.warnings = [] ∧ run.seen = none ∧ run.loops.length ≤ groups
  | .watching _ => run.warnings = [] ∧ run.seen = none
  | .draining deadline => run.warnings = [] ∧ run.conns.closed = true ∧ run.stopped ∧
      ∃ time, run.seen = some time ∧ time ≤ run.now ∧ deadline = time + MULTI_THREAD_DRAIN_TIMEOUT
  | .served waited => run.Settled waited
  | .shut waited =>
      run.Settled waited ∧ run.conns.len = 0 ∧ true ∉ run.loops ∧ run.work.sessions = 0
  | .returned waited =>
      run.Settled waited ∧ run.conns.len = 0 ∧ true ∉ run.loops ∧ run.work = .idle

structure Sound (groups : Nat) (run : MultiThread IoError ListenerError) : Prop where
  conns : run.conns.Meets (Connection.Sound run.stopped) Connection.SoundEnd
    (Connection.Sound run.stopped)
  stands : run.Stands groups run.stage
  whole : run.isUp → run.conns.Whole

variable {run after : MultiThread IoError ListenerError}

/-- A connection that has ended stays as it ended. -/
theorem ended_of_step {index other : Nat}
    {act : Connection → Option (ConnectionTask IoError)}
    {conns : TaskTracker Connection (ConnectionEnd IoError)} {last : Connection}
    {ending : ConnectionEnd IoError} (fired : run.conns.step index act = some conns)
    (ended : run.conns.tasks[other]? = some (.ended last ending)) :
    conns.tasks[other]? = some (.ended last ending) := by
  obtain ⟨state, task, found, _, rfl⟩ := TaskTracker.step_cases fired
  have apart : index ≠ other := by
    rintro rfl
    rw [found] at ended
    cases ended
  exact (List.getElem?_set_ne apart).trans ended

theorem Settled.frame {waited : Waited ListenerError} (settled : run.Settled waited)
    (later : run.now ≤ after.now) (seen : after.seen = run.seen)
    (warnings : after.warnings = run.warnings)
    (longer : run.conns.tasks.length ≤ after.conns.tasks.length)
    (kept : ∀ (index : Nat) last ending, run.conns.tasks[index]? = some (.ended last ending) →
      after.conns.tasks[index]? = some (.ended last ending)) : after.Settled waited := by
  cases waited with
  | drained accepted =>
      obtain ⟨none, bound, ends⟩ := settled
      refine ⟨warnings.trans none, bound.trans longer, ?_⟩
      intro index early
      obtain ⟨last, ending, found⟩ := ends index early
      exact ⟨last, ending, kept index last ending found⟩
  | timedOut =>
      obtain ⟨left, time, only, some, saw, late⟩ := settled
      exact ⟨left, time, warnings.trans only, some, seen.trans saw, late.trans later⟩
  | unstarted error => exact ⟨warnings.trans settled.1, seen.trans settled.2⟩

/-- What does not move the main task leaves it standing. -/
theorem Stands.frame {stage : MainStage ListenerError} (stands : run.Stands groups stage)
    (later : run.now ≤ after.now) (stopped : run.stopped → after.stopped)
    (seen : after.seen = run.seen) (warnings : after.warnings = run.warnings)
    (closed : after.conns.closed = run.conns.closed)
    (longer : run.conns.tasks.length ≤ after.conns.tasks.length)
    (kept : ∀ (index : Nat) last ending, run.conns.tasks[index]? = some (.ended last ending) →
      after.conns.tasks[index]? = some (.ended last ending))
    (loops : after.loops.length = run.loops.length)
    (gone : ∀ waited, stage.waited? = some waited →
      after.conns = run.conns ∧ after.loops = run.loops ∧ after.work = run.work) :
    after.Stands groups stage := by
  cases stage with
  | starting => exact ⟨warnings.trans stands.1, seen.trans stands.2.1, loops ▸ stands.2.2⟩
  | watching handler => exact ⟨warnings.trans stands.1, seen.trans stands.2⟩
  | draining deadline =>
      obtain ⟨none, shut, halted, time, saw, before, due⟩ := stands
      exact ⟨warnings.trans none, closed.trans shut, stopped halted, time, seen.trans saw,
        before.trans later, due⟩
  | served waited => exact Settled.frame stands later seen warnings longer kept
  | shut waited =>
      obtain ⟨settled, idle, ended, cut⟩ := stands
      obtain ⟨conns, left, work⟩ := gone waited rfl
      exact ⟨settled.frame later seen warnings longer kept, conns ▸ idle, left ▸ ended, work ▸ cut⟩
  | returned waited =>
      obtain ⟨settled, idle, ended, done⟩ := stands
      obtain ⟨conns, left, work⟩ := gone waited rfl
      exact ⟨settled.frame later seen warnings longer kept, conns ▸ idle, left ▸ ended,
        work.trans done⟩

theorem waited?_of_up (up : run.isUp) : run.stage.waited? = none := by
  cases stage : run.stage with
  | starting | watching | draining | served => rfl
  | shut | returned => simp [isUp, stage] at up

theorem sound_start : (start : MultiThread IoError ListenerError).Sound groups where
  conns := by
    intro task member
    cases member
  stands := ⟨rfl, rfl, Nat.zero_le _⟩
  whole := by
    intro _ task member
    cases member

theorem Sound.shutdown (sound : run.Sound groups) :
    ({ run with stopped := true } : MultiThread IoError ListenerError).Sound groups where
  conns := sound.conns.imp (fun _ held => held.stop) (fun _ _ held => held) fun _ held => held.stop
  stands := sound.stands.frame le_rfl (fun _ => rfl) rfl rfl rfl le_rfl (fun _ _ _ found => found)
    rfl fun _ _ => ⟨rfl, rfl, rfl⟩
  whole := sound.whole

theorem Sound.elapse (sound : run.Sound groups) (time : Nat) :
    ({ run with now := run.now + time } : MultiThread IoError ListenerError).Sound groups where
  conns := sound.conns
  stands := sound.stands.frame (Nat.le_add_right _ _) (fun held => held) rfl rfl rfl le_rfl
    (fun _ _ _ found => found) rfl fun _ _ => ⟨rfl, rfl, rfl⟩
  whole := sound.whole

theorem Sound.stop (sound : run.Sound groups) {handler : Bool}
    (watching : run.stage = .watching handler) : run.stop.Sound groups := by
  have stands := sound.stands
  rw [watching] at stands
  refine ⟨sound.shutdown.conns, ⟨stands.1, rfl, rfl, run.now, rfl, le_rfl, rfl⟩, fun _ => ?_⟩
  exact sound.whole (by simp [isUp, watching])

theorem Sound.accept (sound : run.Sound groups) (up : run.isUp) (tls : Bool) :
    ({ run with conns := run.conns.spawn (.accepted run.now tls) } :
      MultiThread IoError ListenerError).Sound groups := by
  refine ⟨sound.conns.spawn (Connection.sound_accepted _ _ _), ?_, fun _ => ?_⟩
  · refine sound.stands.frame le_rfl (fun held => held) rfl rfl rfl ?_ ?_ rfl ?_
    · simp [TaskTracker.spawn]
    · intro index last ending found
      exact (List.getElem?_append_left (List.getElem?_eq_some_iff.mp found).1).trans found
    · intro waited found
      rw [waited?_of_up up] at found
      cases found
  · exact (sound.whole up).spawn _

theorem Sound.connection (sound : run.Sound groups) (up : run.isUp) {index : Nat}
    {next : ConnectionStep IoError} {conns : TaskTracker Connection (ConnectionEnd IoError)}
    (fired : run.conns.step index (fun conn => conn.step run.now run.stopped next) = some conns) :
    ({ run with conns } : MultiThread IoError ListenerError).Sound groups := by
  refine ⟨sound.conns.step (fun _ _ held acted => held.step acted) fired, ?_, fun _ => ?_⟩
  · refine sound.stands.frame le_rfl (fun held => held) rfl rfl (TaskTracker.closed_of_step fired)
      (TaskTracker.length_of_step fired).ge ?_ rfl ?_
    · intro other last ending ended
      exact ended_of_step fired ended
    · intro waited found
      rw [waited?_of_up up] at found
      cases found
  · exact (sound.whole up).step (fun _ _ => Connection.isDropped_of_step) fired

theorem Sound.leave (sound : run.Sound groups) (up : run.isUp) (loop : Nat) :
    ({ run with loops := run.loops.set loop false } :
      MultiThread IoError ListenerError).Sound groups := by
  refine ⟨sound.conns, ?_, sound.whole⟩
  refine sound.stands.frame le_rfl (fun held => held) rfl rfl rfl le_rfl (fun _ _ _ found => found)
    List.length_set ?_
  intro waited found
  rw [waited?_of_up up] at found
  cases found

theorem Sound.drained (sound : run.Sound groups) {deadline : Nat}
    (draining : run.stage = .draining deadline) (done : run.conns.isDone) :
    ({ run with stage := .served (.drained run.conns.tasks.length) } :
      MultiThread IoError ListenerError).Sound groups := by
  have stands := sound.stands
  rw [draining] at stands
  have whole : run.conns.Whole := sound.whole (by simp [isUp, draining])
  have idle : run.conns.len = 0 := by simpa [TaskTracker.isDone, stands.2.1] using done
  refine ⟨sound.conns, ⟨stands.1, le_rfl, ?_⟩, fun _ => whole⟩
  intro index early
  have member := List.getElem_mem early
  have still := TaskTracker.len_eq_zero.mp idle _ member
  have kept := whole _ member
  cases task : run.conns.tasks[index] with
  | running state =>
      rw [task] at still
      cases still
  | ended last ending => exact ⟨last, ending, List.getElem?_eq_some_iff.mpr ⟨early, task⟩⟩
  | dropped last =>
      rw [task] at kept
      cases kept

theorem Sound.timeOut (sound : run.Sound groups) {deadline : Nat}
    (draining : run.stage = .draining deadline) (late : deadline ≤ run.now)
    (undone : ¬ run.conns.isDone) :
    ({ run with stage := .served .timedOut, warnings := run.warnings ++ [run.conns.len] } :
      MultiThread IoError ListenerError).Sound groups := by
  have stands := sound.stands
  rw [draining] at stands
  obtain ⟨none, closed, _, time, saw, _, due⟩ := stands
  have busy : run.conns.len ≠ 0 := by simpa [TaskTracker.isDone, closed] using undone
  have counted : run.warnings ++ [run.conns.len] = [run.conns.len] := by
    rw [none, List.nil_append]
  refine ⟨sound.conns, ?_, fun _ => sound.whole (by simp [isUp, draining])⟩
  exact ⟨run.conns.len, time, counted, Nat.pos_of_ne_zero busy, saw, due ▸ late⟩

theorem Sound.untracked (sound : run.Sound groups) {next : UntrackedStep} {work : Untracked}
    (fired : run.work.step run.isUp next = some work) :
    ({ run with work } : MultiThread IoError ListenerError).Sound groups := by
  refine ⟨sound.conns, ?_, sound.whole⟩
  have stands := sound.stands
  have kept {waited : Waited ListenerError} (settled : run.Settled waited) :
      ({ run with work } : MultiThread IoError ListenerError).Settled waited :=
    settled.frame le_rfl rfl rfl le_rfl fun _ _ _ found => found
  show Stands groups _ run.stage
  cases stage : run.stage with
  | starting | watching | draining =>
      rw [stage] at stands
      exact stands
  | served waited =>
      rw [stage] at stands
      exact kept stands
  | shut waited =>
      rw [stage] at stands
      rw [isUp, stage] at fired
      exact ⟨kept stands.1, stands.2.1, stands.2.2.1,
        (Untracked.step_of_down fired).2.1.trans stands.2.2.2⟩
  | returned waited =>
      rw [stage] at stands
      rw [isUp, stage, stands.2.2.2] at fired
      cases (Untracked.step_of_down fired).2.2

theorem Sound.dropRuntime (sound : run.Sound groups) {waited : Waited ListenerError}
    (served : run.stage = .served waited) :
    ({ run with
        stage := .shut waited
        loops := run.loops.map fun _ => false
        conns := run.conns.drop
        work := run.work.dropTasks } : MultiThread IoError ListenerError).Sound groups := by
  have stands := sound.stands
  rw [served] at stands
  refine ⟨sound.conns.drop fun _ held => held, ⟨?_, TaskTracker.len_drop, ?_, rfl⟩, ?_⟩
  · refine Settled.frame stands le_rfl rfl rfl (List.length_map _).ge ?_
    intro index last ending ended
    show (run.conns.tasks.map TrackedTask.drop)[index]? = _
    rw [List.getElem?_map, ended]
    rfl
  · intro member
    obtain ⟨_, _, same⟩ := List.mem_map.mp member
    cases same
  · intro up
    cases up

theorem Sound.finish (sound : run.Sound groups) {waited : Waited ListenerError}
    (shut : run.stage = .shut waited) (idle : run.work.blocking = 0) :
    ({ run with stage := .returned waited } :
      MultiThread IoError ListenerError).Sound groups := by
  have stands := sound.stands
  rw [shut] at stands
  refine ⟨sound.conns, ⟨?_, stands.2.1, stands.2.2.1, Untracked.ext idle stands.2.2.2⟩, ?_⟩
  · exact stands.1.frame le_rfl rfl rfl le_rfl fun _ _ _ found => found
  · intro up
    cases up

theorem Sound.listen (sound : run.Sound groups) {result : Except ListenerError Unit}
    (fired : run.step groups (.listen result) = some after) : after.Sound groups := by
  have stands := sound.stands
  cases starting : run.stage with
  | starting =>
      rw [starting] at stands
      have whole : run.conns.Whole := sound.whole (by simp [isUp, starting])
      cases result with
      | ok =>
          simp only [MultiThread.step, starting] at fired
          split at fired
          · rename_i more
            obtain rfl := Option.some.inj fired
            refine ⟨sound.conns, ⟨stands.1, stands.2.1, ?_⟩, fun _ => whole⟩
            rw [List.length_append, List.length_singleton]
            exact more
          · cases fired
      | error error =>
          simp only [MultiThread.step, starting] at fired
          split at fired
          · obtain rfl := Option.some.inj fired
            exact ⟨sound.conns, ⟨stands.1, stands.2.1⟩, fun _ => whole⟩
          · cases fired
  | watching | draining | served | shut | returned =>
      simp [MultiThread.step, starting] at fired

theorem Sound.step (sound : run.Sound groups) {event : MultiThreadEvent IoError ListenerError}
    (fired : run.step groups event = some after) : after.Sound groups := by
  have stands := sound.stands
  cases event with
  | listen result => exact sound.listen fired
  | watch =>
      rw [MultiThread.step] at fired
      split at fired
      · rename_i starting
        split at fired
        · obtain rfl := Option.some.inj fired
          rw [starting] at stands
          exact ⟨sound.conns, ⟨stands.1, stands.2.1⟩,
            fun _ => sound.whole (by simp [isUp, starting])⟩
        · cases fired
      · cases fired
  | handlerFails =>
      rw [MultiThread.step] at fired
      split at fired
      · rename_i watching
        obtain rfl := Option.some.inj fired
        rw [watching] at stands
        exact ⟨sound.conns, stands, fun _ => sound.whole (by simp [isUp, watching])⟩
      · cases fired
  | interrupt =>
      rw [MultiThread.step] at fired
      split at fired
      · rename_i watching
        obtain rfl := Option.some.inj fired
        exact sound.stop watching
      · cases fired
  | shutdown =>
      obtain rfl := Option.some.inj fired
      exact sound.shutdown
  | proceed =>
      rw [MultiThread.step] at fired
      split at fired
      · rename_i watching
        split at fired
        · obtain rfl := Option.some.inj fired
          exact sound.stop watching
        · cases fired
      · cases fired
  | accept loop tls =>
      rw [MultiThread.step] at fired
      split at fired
      · rename_i enabled
        obtain rfl := Option.some.inj fired
        exact sound.accept enabled.1 tls
      · cases fired
  | leave loop =>
      rw [MultiThread.step] at fired
      split at fired
      · rename_i enabled
        obtain rfl := Option.some.inj fired
        exact sound.leave enabled.1 loop
      · cases fired
  | connection index next =>
      rw [MultiThread.step] at fired
      split at fired
      · rename_i up
        obtain ⟨conns, stepped, rfl⟩ := Option.map_eq_some_iff.mp fired
        exact sound.connection up stepped
      · cases fired
  | elapse time =>
      obtain rfl := Option.some.inj fired
      exact sound.elapse time
  | drained =>
      rw [MultiThread.step] at fired
      split at fired
      · rename_i draining
        split at fired
        · rename_i done
          obtain rfl := Option.some.inj fired
          exact sound.drained draining done
        · cases fired
      · cases fired
  | timeOut =>
      rw [MultiThread.step] at fired
      split at fired
      · rename_i draining
        split at fired
        · rename_i late
          obtain rfl := Option.some.inj fired
          exact sound.timeOut draining late.1 late.2
        · cases fired
      · cases fired
  | untracked next =>
      obtain ⟨work, stepped, rfl⟩ := Option.map_eq_some_iff.mp fired
      exact sound.untracked stepped
  | dropRuntime =>
      rw [MultiThread.step] at fired
      split at fired
      · rename_i served
        obtain rfl := Option.some.inj fired
        exact sound.dropRuntime served
      · cases fired
  | finish =>
      rw [MultiThread.step] at fired
      split at fired
      · rename_i shut
        split at fired
        · rename_i idle
          obtain rfl := Option.some.inj fired
          exact sound.finish shut idle
        · cases fired
      · cases fired

/-! ## Stopping -/

/-- The server has returned. -/
def isOver (run : MultiThread IoError ListenerError) : Bool :=
  match run.stage with
  | .returned _ => true
  | _ => false

/-- The server returns by some time, by events of a kind. -/
def StopsBy (groups : Nat) (kind : MultiThreadEvent IoError ListenerError → Bool) (limit : Nat)
    (run : MultiThread IoError ListenerError) : Prop :=
  ∃ schedule after, (∀ event ∈ schedule, kind event) ∧
    (multiThread IoError ListenerError groups).runFrom run schedule = some after ∧
      after.isOver ∧ after.now ≤ limit

/-- What the server's connections and its end come to. -/
structure Drains (groups : Nat) (run : MultiThread IoError ListenerError) : Prop where
  /-- A connection is asked to finish because of a stop, and none of its requests is cut. -/
  running : ∀ conn, .running conn ∈ run.conns.tasks → conn.Sound run.stopped
  /-- A connection that closed has answered its requests, and one that failed is logged unless its
  client went away. -/
  ended : ∀ last ending, .ended last ending ∈ run.conns.tasks → last.SoundEnd ending
  /-- A connection that is cut off had its time, and a warning says so; or it was accepted after all
  the others had ended; or the server did not start. -/
  cutOff : ∀ (index : Nat) conn, run.conns.tasks[index]? = some (.dropped conn) →
    (∃ left time, run.warnings = [left] ∧ 0 < left ∧ run.seen = some time ∧
      time + MULTI_THREAD_DRAIN_TIMEOUT ≤ run.now) ∨
    (∃ accepted, run.stage.waited? = some (.drained accepted) ∧ accepted ≤ index) ∨
    ∃ error, run.stage.waited? = some (.unstarted error)
  /-- No connection and no session goes on once the runtime's tasks are dropped. -/
  quiet : run.isUp = false → run.conns.len = 0 ∧ true ∉ run.loops ∧ run.work.sessions = 0
  /-- The server returns with nothing left on the blocking pool. -/
  returned : run.isOver → run.isUp = false ∧ run.work = .idle
  /-- With nothing on the blocking pool, a stop takes the drain. -/
  stops : run.stopped → run.work.blocking = 0 →
    run.StopsBy groups MultiThreadEvent.isOwn (run.now + MULTI_THREAD_DRAIN_TIMEOUT)
  /-- What is on the blocking pool is waited for, and when it has ended nothing else is. -/
  waits : run.stopped → run.StopsBy groups (fun event => event.isOwn || event.isReturn)
    (run.now + MULTI_THREAD_DRAIN_TIMEOUT)

variable {kind : MultiThreadEvent IoError ListenerError → Bool} {limit : Nat}

theorem StopsBy.of_step (event : MultiThreadEvent IoError ListenerError) (of : kind event)
    (fired : run.step groups event = some after) (stops : after.StopsBy groups kind limit) :
    run.StopsBy groups kind limit := by
  obtain ⟨schedule, last, ofs, execution, returned, inTime⟩ := stops
  refine ⟨event :: schedule, last, ?_, ?_, returned, inTime⟩
  · intro other member
    rcases List.mem_cons.mp member with rfl | later
    · exact of
    · exact ofs other later
  · exact Option.bind_eq_some_iff.mpr ⟨after, fired, execution⟩

theorem stopsBy_of_shut (idle : run.work.blocking = 0) {waited : Waited ListenerError}
    (shut : run.stage = .shut waited) (inTime : run.now ≤ limit) :
    run.StopsBy groups MultiThreadEvent.isOwn limit := by
  have fired : run.step groups .finish = some { run with stage := .returned waited } := by
    simp only [MultiThread.step, shut]
    exact if_pos idle
  refine StopsBy.of_step _ rfl fired ⟨[], _, ?_, rfl, rfl, inTime⟩
  intro event member
  cases member

theorem stopsBy_of_served (idle : run.work.blocking = 0) {waited : Waited ListenerError}
    (served : run.stage = .served waited) (inTime : run.now ≤ limit) :
    run.StopsBy groups MultiThreadEvent.isOwn limit := by
  have fired : run.step groups .dropRuntime =
      some { run with
        stage := .shut waited
        loops := run.loops.map fun _ => false
        conns := run.conns.drop
        work := run.work.dropTasks } := by
    simp only [MultiThread.step, served]
  exact StopsBy.of_step _ rfl fired (stopsBy_of_shut idle rfl inTime)

/-- Whatever the connections do, the drain ends at its deadline. -/
theorem stopsBy_of_draining (idle : run.work.blocking = 0) {deadline : Nat}
    (draining : run.stage = .draining deadline) (inTime : run.now ≤ limit)
    (due : deadline ≤ limit) : run.StopsBy groups MultiThreadEvent.isOwn limit := by
  by_cases done : run.conns.isDone
  · have fired : run.step groups .drained =
        some { run with stage := .served (.drained run.conns.tasks.length) } := by
      simp only [MultiThread.step, draining, done, if_true]
    exact StopsBy.of_step _ rfl fired (stopsBy_of_served idle rfl inTime)
  · have late : deadline ≤ run.now + (deadline - run.now) := by omega
    have fired : MultiThread.step groups { run with now := run.now + (deadline - run.now) }
        .timeOut = some { run with
          now := run.now + (deadline - run.now)
          stage := .served .timedOut
          warnings := run.warnings ++ [run.conns.len] } := by
      simp only [MultiThread.step, draining]
      exact if_pos ⟨late, done⟩
    refine StopsBy.of_step (.elapse (deadline - run.now)) rfl rfl ?_
    refine StopsBy.of_step .timeOut rfl fired (stopsBy_of_served idle rfl ?_)
    show run.now + (deadline - run.now) ≤ limit
    omega

theorem stopsBy_of_watching (idle : run.work.blocking = 0) {handler : Bool}
    (watching : run.stage = .watching handler) (stopped : run.stopped) :
    run.StopsBy groups MultiThreadEvent.isOwn (run.now + MULTI_THREAD_DRAIN_TIMEOUT) := by
  have fired : run.step groups .proceed = some run.stop := by
    simp only [MultiThread.step, watching, stopped, if_true]
  exact StopsBy.of_step _ rfl fired
    (stopsBy_of_draining idle rfl (Nat.le_add_right _ _) le_rfl)

/-- The loops that are not spawned yet are spawned first. -/
theorem stopsBy_of_starting (idle : run.work.blocking = 0) {missing : Nat}
    (starting : run.stage = .starting) (stopped : run.stopped)
    (all : run.loops.length + missing = groups) :
    run.StopsBy groups MultiThreadEvent.isOwn (run.now + MULTI_THREAD_DRAIN_TIMEOUT) := by
  induction missing generalizing run with
  | zero =>
      have fired : run.step groups .watch = some { run with stage := .watching true } := by
        simp only [MultiThread.step, starting]
        exact if_pos all
      exact StopsBy.of_step _ rfl fired (stopsBy_of_watching idle rfl stopped)
  | succ missing induction =>
      have fired : run.step groups (.listen (.ok ())) =
          some { run with loops := run.loops ++ [true] } := by
        simp only [MultiThread.step, starting]
        exact if_pos (by omega)
      refine StopsBy.of_step _ rfl fired (induction idle starting stopped ?_)
      rw [List.length_append, List.length_singleton]
      omega

theorem Sound.stopsBy (sound : run.Sound groups) (idle : run.work.blocking = 0)
    (stopped : run.stopped) :
    run.StopsBy groups MultiThreadEvent.isOwn (run.now + MULTI_THREAD_DRAIN_TIMEOUT) := by
  have stands := sound.stands
  have inTime : run.now ≤ run.now + MULTI_THREAD_DRAIN_TIMEOUT := Nat.le_add_right _ _
  cases stage : run.stage with
  | starting =>
      rw [stage] at stands
      exact stopsBy_of_starting idle stage stopped (Nat.add_sub_of_le stands.2.2)
  | watching handler => exact stopsBy_of_watching idle stage stopped
  | draining deadline =>
      rw [stage] at stands
      obtain ⟨_, _, _, time, _, before, due⟩ := stands
      exact stopsBy_of_draining idle stage inTime (by omega)
  | served waited => exact stopsBy_of_served idle stage inTime
  | shut waited => exact stopsBy_of_shut idle stage inTime
  | returned waited =>
      refine ⟨[], run, ?_, rfl, ?_, inTime⟩
      · intro event member
        cases member
      · rw [isOver, stage]

/-- Once the handlers have returned, the server needs no more than its drain. -/
theorem Sound.stopsBy_returning (sound : run.Sound groups) (stopped : run.stopped) :
    run.StopsBy groups (fun event => event.isOwn || event.isReturn)
      (run.now + MULTI_THREAD_DRAIN_TIMEOUT) := by
  induction blocking : run.work.blocking generalizing run with
  | zero =>
      obtain ⟨schedule, last, own, rest⟩ := sound.stopsBy blocking stopped
      refine ⟨schedule, last, fun event member => ?_, rest⟩
      exact Bool.or_eq_true_iff.mpr (.inl (own event member))
  | succ rest induction =>
      have busy : 0 < run.work.blocking := by omega
      have stepped := Untracked.step_blockingEnds run.isUp busy
      have fired : run.step groups (.untracked .blockingEnds) =
          some { run with work := { run.work with blocking := run.work.blocking - 1 } } := by
        rw [MultiThread.step, stepped]
        rfl
      refine StopsBy.of_step (.untracked .blockingEnds) rfl fired
        (induction (sound.untracked stepped) stopped ?_)
      show run.work.blocking - 1 = rest
      omega

theorem Sound.cutOff (sound : run.Sound groups) {index : Nat} {conn : Connection}
    (dropped : run.conns.tasks[index]? = some (.dropped conn)) :
    (∃ left time, run.warnings = [left] ∧ 0 < left ∧ run.seen = some time ∧
      time + MULTI_THREAD_DRAIN_TIMEOUT ≤ run.now) ∨
    (∃ accepted, run.stage.waited? = some (.drained accepted) ∧ accepted ≤ index) ∨
    ∃ error, run.stage.waited? = some (.unstarted error) := by
  have stands := sound.stands
  have down : ¬ run.isUp := by
    intro up
    have kept := sound.whole up _ (List.mem_of_getElem? dropped)
    cases kept
  obtain ⟨waited, past, settled⟩ : ∃ waited, run.stage.waited? = some waited ∧
      run.Settled waited := by
    cases stage : run.stage with
    | starting | watching | draining | served => simp [isUp, stage] at down
    | shut waited | returned waited =>
        rw [stage] at stands
        exact ⟨waited, rfl, stands.1⟩
  cases waited with
  | drained accepted =>
      refine .inr (.inl ⟨accepted, past, ?_⟩)
      by_contra early
      obtain ⟨last, ending, found⟩ := settled.2.2 index (not_le.mp early)
      rw [dropped] at found
      cases found
  | timedOut => exact .inl settled
  | unstarted error => exact .inr (.inr ⟨error, past⟩)

end MultiThread

/-- Whatever the clients, the handlers, the loops, the timers and the stop do, and in whatever
order. -/
theorem multi_thread_drains {IoError ListenerError : Type*} {groups : Nat}
    {run : MultiThread IoError ListenerError}
    (reachable : (multiThread IoError ListenerError groups).Reachable run) : run.Drains groups := by
  have sound : run.Sound groups := by
    refine Machine.Reachable.invariant ?_ ?_ reachable
    case refine_1 => exact MultiThread.sound_start
    case refine_2 => exact fun held fired => held.step fired
  have stands := sound.stands
  refine ⟨?_, ?_, fun _ _ => sound.cutOff, ?_, ?_, fun stopped idle => sound.stopsBy idle stopped,
    sound.stopsBy_returning⟩
  · intro conn member
    exact (sound.conns _ member).running conn rfl
  · intro last ending member
    exact (sound.conns _ member).ended last ending rfl
  · intro down
    cases stage : run.stage with
    | starting | watching | draining | served => simp [MultiThread.isUp, stage] at down
    | shut waited =>
        rw [stage] at stands
        exact stands.2
    | returned waited =>
        rw [stage] at stands
        obtain ⟨-, idle, ended, done⟩ := stands
        exact ⟨idle, ended, by rw [done]; rfl⟩
  · intro returned
    cases stage : run.stage with
    | starting | watching | draining | served | shut => simp [MultiThread.isOver, stage] at returned
    | returned waited =>
        rw [stage] at stands
        exact ⟨by rw [MultiThread.isUp, stage], stands.2.2.2⟩

/-- The loop accepts once more after the drain has found nothing open, and a handler that was called
for it is waited for. -/
def lateConnection : List (MultiThreadEvent Unit Unit) :=
  [.listen (.ok ()), .watch, .accept 0 false, .connection 0 .request, .interrupt,
    .connection 0 (.answer 0), .connection 0 .stop, .connection 0 (.finish (.ok ())), .drained,
    .accept 0 false, .connection 1 .request, .untracked .spawnBlocking, .dropRuntime,
    .elapse MULTI_THREAD_DRAIN_TIMEOUT, .untracked .blockingEnds, .finish]

theorem multi_thread_drains_lateConnection :
    ∃ run, (multiThread Unit Unit 1).run lateConnection = some run ∧ run.warnings = [] ∧
      run.conns.tasks.countP TrackedTask.isDropped = 1 ∧ run.Drains 1 :=
  ⟨_, rfl, rfl, rfl, multi_thread_drains ⟨lateConnection, rfl⟩⟩

end Pyronova
