import Mathlib.Tactic
import Pyronova.Connections
import Pyronova.Execution

/-!
# Stopping an accept loop

A thread accepts connections until it sees the stop, lets the open ones finish for a while, and then
its tasks are dropped and its worker ended.  No connection is taken up after the stop was seen, one
that is cut off had its time, and nothing uses the worker when it is ended.  Stopping waits for no
client longer than the drain takes.  It waits for handlers: one that runs on the thread holds it,
timers and all, and what is on the blocking pool keeps the runtime from being gone.
-/

namespace Pyronova

/-- Microseconds. -/
def DRAIN_TIMEOUT : Nat := 5000000

inductive LoopPhase
  | accepting
  | draining (deadline : Nat)
  /-- The future that ran the loop is done, and the tasks are still there. -/
  | served
  /-- The `LocalSet` is dropped. -/
  | closed
  /-- The runtime's tasks are dropped, and what is on its blocking pool is waited for. -/
  | shut
  /-- `TpcContext::end` has returned. -/
  | ended (leaked : Bool)
  deriving DecidableEq

/-- When the loop saw the stop, and how many connections it had accepted by then. -/
structure StopSeen where
  time : Nat
  accepted : Nat

structure AcceptLoop (IoError : Type*) where
  now : Nat
  /-- The stop token. -/
  stopped : Bool
  phase : LoopPhase
  seen : Option StopSeen
  conns : TaskTracker Connection (ConnectionEnd IoError)
  work : Untracked
  /-- A handler runs on the thread, and nothing else does. -/
  held : Bool
  /-- The warnings of a drain that ran out of time: how many connections were open. -/
  warnings : List Nat

inductive LoopEvent (IoError : Type*)
  | stop
  | elapse (time : Nat)
  | accept (tls : Bool)
  | seeStop
  | connection (index : Nat) (step : ConnectionStep IoError)
  /-- A handler is called on the thread. -/
  | callInline
  /-- It returns. -/
  | returns
  | untracked (step : UntrackedStep)
  /-- `tracker.wait()` is done. -/
  | drained
  | timeOut
  | dropTasks
  | dropRuntime
  | endContext

/-- An event that nothing outside the thread has to bring about, but for time. -/
def LoopEvent.isOwn {IoError : Type*} : LoopEvent IoError → Bool
  | .elapse _ | .seeStop | .drained | .timeOut | .dropTasks | .dropRuntime | .endContext => true
  | .stop | .accept _ | .connection .. | .callInline | .returns | .untracked _ => false

/-- A handler comes to its end. -/
def LoopEvent.isReturn {IoError : Type*} : LoopEvent IoError → Bool
  | .returns | .untracked .blockingEnds => true
  | _ => false

/-- An event of the thread, which has to be free for it. -/
def LoopEvent.onThread {IoError : Type*} : LoopEvent IoError → Bool
  | .stop | .elapse _ | .returns | .untracked .blockingEnds => false
  | _ => true

namespace AcceptLoop

variable {IoError : Type*}

def start : AcceptLoop IoError where
  now := 0
  stopped := false
  phase := .accepting
  seen := none
  conns := .new
  work := .idle
  held := false
  warnings := []

/-- The tasks are polled while the runtime runs the loop. -/
def polls (loop : AcceptLoop IoError) : Bool :=
  match loop.phase with
  | .accepting | .draining _ => true
  | _ => false

def act (loop : AcceptLoop IoError) : LoopEvent IoError → Option (AcceptLoop IoError)
  | .stop => some { loop with stopped := true }
  | .elapse time => some { loop with now := loop.now + time }
  | .accept tls =>
      -- `biased`: the stop token is looked at first
      if loop.phase = .accepting ∧ ¬ loop.stopped then
        some { loop with conns := loop.conns.spawn (.accepted loop.now tls) }
      else none
  | .seeStop =>
      if loop.phase = .accepting ∧ loop.stopped then
        some { loop with
          phase := .draining (loop.now + DRAIN_TIMEOUT)
          seen := some { time := loop.now, accepted := loop.conns.tasks.length }
          conns := loop.conns.close }
      else none
  | .connection index next =>
      if loop.polls then
        (loop.conns.step index fun conn => conn.step loop.now loop.stopped next).map fun conns =>
          { loop with conns }
      else none
  | .callInline => if loop.polls then some { loop with held := true } else none
  | .returns => if loop.held then some { loop with held := false } else none
  | .untracked next =>
      (loop.work.step loop.polls next).map fun work => { loop with work }
  | .drained =>
      match loop.phase with
      | .draining _ => if loop.conns.isDone then some { loop with phase := .served } else none
      | _ => none
  | .timeOut =>
      match loop.phase with
      | .draining deadline =>
          if deadline ≤ loop.now ∧ ¬ loop.conns.isDone then
            some { loop with
              phase := .served
              warnings := loop.warnings ++ [loop.conns.len] }
          else none
      | _ => none
  | .dropTasks =>
      if loop.phase = .served then some { loop with phase := .closed, conns := loop.conns.drop }
      else none
  | .dropRuntime =>
      if loop.phase = .closed then
        some { loop with phase := .shut, work := loop.work.dropTasks }
      else none
  | .endContext =>
      -- every task of a connection holds the context
      if loop.phase = .shut ∧ loop.work.blocking = 0 then
        some { loop with phase := .ended (loop.conns.len ≠ 0) }
      else none

def step (loop : AcceptLoop IoError) (event : LoopEvent IoError) : Option (AcceptLoop IoError) :=
  if loop.held ∧ event.onThread then none else loop.act event

end AcceptLoop

def acceptLoop (IoError : Type*) : Machine (AcceptLoop IoError) (LoopEvent IoError) where
  init := .start
  step := AcceptLoop.step

/-! ## What every run keeps -/

namespace AcceptLoop

variable {IoError : Type*}

/-- What the drain has come to once it is over: it was waited for in vain, or nothing was open. -/
structure Settled (loop : AcceptLoop IoError) (cutOff : Nat) : Prop where
  inTime : loop.warnings = [] → cutOff = 0
  warned : ∀ warning ∈ loop.warnings, loop.warnings = [warning] ∧ cutOff = warning ∧ 0 < warning ∧
    ∃ seen, loop.seen = some seen ∧ seen.time + DRAIN_TIMEOUT ≤ loop.now

/-- Where the loop stands, phase by phase. -/
def Stands (loop : AcceptLoop IoError) : LoopPhase → Prop
  | .accepting => loop.seen = none ∧ loop.warnings = []
  | .draining deadline => loop.warnings = [] ∧ loop.conns.closed = true ∧
      ∃ seen, loop.seen = some seen ∧ deadline = seen.time + DRAIN_TIMEOUT
  | .served => loop.Settled loop.conns.len
  | .closed => loop.conns.len = 0 ∧
      loop.Settled (loop.conns.tasks.countP TrackedTask.isDropped)
  | .shut => loop.work.sessions = 0 ∧ loop.conns.len = 0 ∧
      loop.Settled (loop.conns.tasks.countP TrackedTask.isDropped)
  | .ended leaked => leaked = false ∧ loop.work = .idle ∧ loop.conns.len = 0 ∧
      loop.Settled (loop.conns.tasks.countP TrackedTask.isDropped)

/-- The tasks have not been dropped. -/
def isUp : LoopPhase → Bool
  | .accepting | .draining _ | .served => true
  | .closed | .shut | .ended _ => false

structure Sound (loop : AcceptLoop IoError) : Prop where
  conns : loop.conns.Meets (Connection.Sound loop.stopped) Connection.SoundEnd
    (Connection.Sound loop.stopped)
  stands : loop.Stands loop.phase
  seen : ∀ seen, loop.seen = some seen → loop.stopped ∧ seen.time ≤ loop.now ∧
    loop.conns.tasks.length = seen.accepted
  whole : isUp loop.phase → loop.conns.Whole

variable {loop after : AcceptLoop IoError}

theorem sound_start : (start : AcceptLoop IoError).Sound where
  conns := by
    intro task member
    cases member
  stands := ⟨rfl, rfl⟩
  seen := by
    intro seen other
    cases other
  whole := by
    intro _ task member
    cases member

theorem Settled.frame {cutOff : Nat} (settled : loop.Settled cutOff) (later : loop.now ≤ after.now)
    (seen : after.seen = loop.seen) (warnings : after.warnings = loop.warnings) :
    after.Settled cutOff where
  inTime := by
    rw [warnings]
    exact settled.inTime
  warned := by
    intro warning member
    rw [warnings] at member ⊢
    obtain ⟨only, same, some, seen', saw, late⟩ := settled.warned warning member
    exact ⟨only, same, some, seen', seen.trans saw, late.trans later⟩

theorem Stands.frame {phase : LoopPhase} (stands : loop.Stands phase) (later : loop.now ≤ after.now)
    (seen : after.seen = loop.seen) (warnings : after.warnings = loop.warnings)
    (conns : after.conns = loop.conns) (work : after.work = loop.work) : after.Stands phase := by
  cases phase with
  | accepting => exact ⟨seen.trans stands.1, warnings.trans stands.2⟩
  | draining deadline =>
      obtain ⟨none, closed, seen', saw, due⟩ := stands
      exact ⟨warnings.trans none, conns ▸ closed, seen', seen.trans saw, due⟩
  | served =>
      show after.Settled after.conns.len
      rw [conns]
      exact Settled.frame stands later seen warnings
  | closed => exact ⟨conns ▸ stands.1, conns ▸ stands.2.frame later seen warnings⟩
  | shut =>
      exact ⟨work ▸ stands.1, conns ▸ stands.2.1, conns ▸ stands.2.2.frame later seen warnings⟩
  | ended leaked =>
      exact ⟨stands.1, work.trans stands.2.1, conns ▸ stands.2.2.1,
        conns ▸ stands.2.2.2.frame later seen warnings⟩

theorem Sound.stop (sound : loop.Sound) :
    ({ loop with stopped := true } : AcceptLoop IoError).Sound where
  conns := sound.conns.imp (fun _ held => held.stop) (fun _ _ held => held) fun _ held => held.stop
  stands := sound.stands.frame le_rfl rfl rfl rfl rfl
  seen := by
    intro seen saw
    exact ⟨rfl, (sound.seen seen saw).2⟩
  whole := sound.whole

theorem Sound.elapse (sound : loop.Sound) (time : Nat) :
    ({ loop with now := loop.now + time } : AcceptLoop IoError).Sound where
  conns := sound.conns
  stands := sound.stands.frame (Nat.le_add_right _ _) rfl rfl rfl rfl
  seen := by
    intro seen saw
    obtain ⟨stopped, before, same⟩ := sound.seen seen saw
    exact ⟨stopped, before.trans (Nat.le_add_right _ _), same⟩
  whole := sound.whole

theorem Sound.accept (sound : loop.Sound) (accepting : loop.phase = .accepting) (tls : Bool) :
    ({ loop with conns := loop.conns.spawn (.accepted loop.now tls) } :
      AcceptLoop IoError).Sound := by
  have stands := sound.stands
  rw [accepting] at stands
  refine ⟨sound.conns.spawn (Connection.sound_accepted _ _ _), ?_, ?_, ?_⟩
  · show Stands _ loop.phase
    rw [accepting]
    exact stands
  · intro seen saw
    rw [stands.1] at saw
    cases saw
  · intro up
    exact (sound.whole up).spawn _

theorem Sound.seeStop (sound : loop.Sound) (accepting : loop.phase = .accepting)
    (stopped : loop.stopped) :
    ({ loop with
        phase := .draining (loop.now + DRAIN_TIMEOUT)
        seen := some { time := loop.now, accepted := loop.conns.tasks.length }
        conns := loop.conns.close } : AcceptLoop IoError).Sound := by
  have stands := sound.stands
  rw [accepting] at stands
  refine ⟨sound.conns, ⟨stands.2, rfl, _, rfl, rfl⟩, ?_, ?_⟩
  · rintro seen ⟨⟩
    exact ⟨stopped, le_rfl, rfl⟩
  · intro _
    exact sound.whole (by rw [accepting]; rfl)

theorem Sound.connection (sound : loop.Sound) (polls : loop.polls) {index : Nat}
    {next : ConnectionStep IoError} {conns : TaskTracker Connection (ConnectionEnd IoError)}
    (fired : loop.conns.step index (fun conn => conn.step loop.now loop.stopped next) =
      some conns) : ({ loop with conns } : AcceptLoop IoError).Sound := by
  have up : isUp loop.phase := by
    cases phase : loop.phase <;> simp [AcceptLoop.polls, isUp, phase] at polls ⊢
  refine ⟨sound.conns.step (fun _ _ held acted => held.step acted) fired, ?_, ?_, ?_⟩
  · have stands := sound.stands
    show Stands _ loop.phase
    cases phase : loop.phase with
    | accepting =>
        rw [phase] at stands
        exact stands
    | draining deadline =>
        rw [phase] at stands
        exact ⟨stands.1, (TaskTracker.closed_of_step fired).trans stands.2.1, stands.2.2⟩
    | served | closed | shut | ended => simp [AcceptLoop.polls, phase] at polls
  · intro seen saw
    obtain ⟨stopped, before, same⟩ := sound.seen seen saw
    exact ⟨stopped, before, (TaskTracker.length_of_step fired).trans same⟩
  · intro _
    exact (sound.whole up).step (fun _ _ => Connection.isDropped_of_step) fired

/-- The drain is over: nothing was open, or what was open had its time and is counted. -/
theorem Sound.served (sound : loop.Sound) {deadline : Nat}
    (draining : loop.phase = .draining deadline) {warnings : List Nat}
    (ending : loop.conns.isDone ∧ warnings = [] ∨
      deadline ≤ loop.now ∧ ¬ loop.conns.isDone ∧ warnings = [loop.conns.len]) :
    ({ loop with phase := .served, warnings } : AcceptLoop IoError).Sound := by
  have stands := sound.stands
  rw [draining] at stands
  obtain ⟨_, closed, seen, saw, due⟩ := stands
  have whole : loop.conns.Whole := sound.whole (by rw [draining]; rfl)
  refine ⟨sound.conns, ?_, sound.seen, fun _ => whole⟩
  rcases ending with ⟨done, rfl⟩ | ⟨late, undone, rfl⟩
  · have idle : loop.conns.len = 0 := by simpa [TaskTracker.isDone, closed] using done
    refine ⟨fun _ => idle, ?_⟩
    intro warning member
    cases member
  · have busy : loop.conns.len ≠ 0 := by simpa [TaskTracker.isDone, closed] using undone
    refine ⟨?_, ?_⟩
    · intro none
      cases none
    · intro warning member
      obtain rfl := List.mem_singleton.mp member
      exact ⟨rfl, rfl, Nat.pos_of_ne_zero busy, seen, saw, due ▸ late⟩

theorem Sound.dropTasks (sound : loop.Sound) (served : loop.phase = .served) :
    ({ loop with phase := .closed, conns := loop.conns.drop } : AcceptLoop IoError).Sound := by
  have stands := sound.stands
  rw [served] at stands
  have whole : loop.conns.Whole := sound.whole (by rw [served]; rfl)
  refine ⟨sound.conns.drop fun _ held => held, ⟨TaskTracker.len_drop, ?_⟩, ?_, ?_⟩
  · show Settled _ (loop.conns.drop.tasks.countP _)
    rw [whole.countP_drop]
    exact Settled.frame stands le_rfl rfl rfl
  · intro seen saw
    obtain ⟨stopped, before, same⟩ := sound.seen seen saw
    exact ⟨stopped, before, (List.length_map _).trans same⟩
  · intro up
    cases up

theorem Sound.hold (sound : loop.Sound) (held : Bool) :
    ({ loop with held } : AcceptLoop IoError).Sound where
  conns := sound.conns
  stands := sound.stands.frame le_rfl rfl rfl rfl rfl
  seen := sound.seen
  whole := sound.whole

theorem Sound.untracked (sound : loop.Sound) {next : UntrackedStep} {work : Untracked}
    (fired : loop.work.step loop.polls next = some work) :
    ({ loop with work } : AcceptLoop IoError).Sound := by
  refine ⟨sound.conns, ?_, sound.seen, sound.whole⟩
  have stands := sound.stands
  show Stands _ loop.phase
  cases phase : loop.phase with
  | accepting | draining =>
      rw [phase] at stands
      exact stands
  | served =>
      rw [phase] at stands
      exact Settled.frame stands le_rfl rfl rfl
  | closed =>
      rw [phase] at stands
      exact ⟨stands.1, stands.2.frame le_rfl rfl rfl⟩
  | shut =>
      rw [phase] at stands
      rw [polls, phase] at fired
      exact ⟨(Untracked.step_of_down fired).2.1.trans stands.1, stands.2.1,
        stands.2.2.frame le_rfl rfl rfl⟩
  | ended leaked =>
      rw [phase] at stands
      rw [polls, phase, stands.2.1] at fired
      cases (Untracked.step_of_down fired).2.2

theorem Sound.dropRuntime (sound : loop.Sound) (closed : loop.phase = .closed) :
    ({ loop with phase := .shut, work := loop.work.dropTasks } : AcceptLoop IoError).Sound := by
  have stands := sound.stands
  rw [closed] at stands
  refine ⟨sound.conns, ⟨rfl, stands.1, stands.2.frame le_rfl rfl rfl⟩, sound.seen, ?_⟩
  intro up
  cases up

theorem Sound.endContext (sound : loop.Sound) (shut : loop.phase = .shut)
    (idle : loop.work.blocking = 0) :
    ({ loop with phase := .ended (loop.conns.len ≠ 0) } : AcceptLoop IoError).Sound := by
  have stands := sound.stands
  rw [shut] at stands
  have left : loop.work = .idle := Untracked.ext idle stands.1
  refine ⟨sound.conns, ⟨?_, left, stands.2.1, stands.2.2.frame le_rfl rfl rfl⟩, sound.seen, ?_⟩
  · simp [stands.2.1]
  · intro up
    cases up

theorem Sound.act (sound : loop.Sound) {event : LoopEvent IoError}
    (fired : loop.act event = some after) : after.Sound := by
  cases event with
  | stop =>
      obtain rfl := Option.some.inj fired
      exact sound.stop
  | elapse time =>
      obtain rfl := Option.some.inj fired
      exact sound.elapse time
  | accept tls =>
      rw [AcceptLoop.act] at fired
      split at fired
      · rename_i accepting
        obtain rfl := Option.some.inj fired
        exact sound.accept accepting.1 tls
      · cases fired
  | seeStop =>
      rw [AcceptLoop.act] at fired
      split at fired
      · rename_i accepting
        obtain rfl := Option.some.inj fired
        exact sound.seeStop accepting.1 accepting.2
      · cases fired
  | connection index next =>
      rw [AcceptLoop.act] at fired
      split at fired
      · rename_i polls
        obtain ⟨conns, stepped, rfl⟩ := Option.map_eq_some_iff.mp fired
        exact sound.connection polls stepped
      · cases fired
  | callInline =>
      rw [AcceptLoop.act] at fired
      split at fired
      · obtain rfl := Option.some.inj fired
        exact sound.hold true
      · cases fired
  | returns =>
      rw [AcceptLoop.act] at fired
      split at fired
      · obtain rfl := Option.some.inj fired
        exact sound.hold false
      · cases fired
  | untracked next =>
      obtain ⟨work, stepped, rfl⟩ := Option.map_eq_some_iff.mp fired
      exact sound.untracked stepped
  | drained =>
      rw [AcceptLoop.act] at fired
      split at fired
      · rename_i deadline draining
        split at fired
        · rename_i done
          obtain rfl := Option.some.inj fired
          have stands := sound.stands
          rw [draining] at stands
          exact sound.served draining (.inl ⟨done, stands.1⟩)
        · cases fired
      · cases fired
  | timeOut =>
      rw [AcceptLoop.act] at fired
      split at fired
      · rename_i deadline draining
        split at fired
        · rename_i late
          obtain rfl := Option.some.inj fired
          have stands := sound.stands
          rw [draining] at stands
          exact sound.served draining (.inr ⟨late.1, late.2, by rw [stands.1]; rfl⟩)
        · cases fired
      · cases fired
  | dropTasks =>
      rw [AcceptLoop.act] at fired
      split at fired
      · rename_i served
        obtain rfl := Option.some.inj fired
        exact sound.dropTasks served
      · cases fired
  | dropRuntime =>
      rw [AcceptLoop.act] at fired
      split at fired
      · rename_i closed
        obtain rfl := Option.some.inj fired
        exact sound.dropRuntime closed
      · cases fired
  | endContext =>
      rw [AcceptLoop.act] at fired
      split at fired
      · rename_i shut
        obtain rfl := Option.some.inj fired
        exact sound.endContext shut.1 shut.2
      · cases fired

theorem Sound.step (sound : loop.Sound) {event : LoopEvent IoError}
    (fired : loop.step event = some after) : after.Sound := by
  rw [AcceptLoop.step] at fired
  split at fired
  · cases fired
  · exact sound.act fired

/-! ## Stopping -/

/-- The thread comes to its end by some time, by events of a kind. -/
def StopsBy (kind : LoopEvent IoError → Bool) (limit : Nat) (loop : AcceptLoop IoError) : Prop :=
  ∃ schedule after, (∀ event ∈ schedule, kind event) ∧
    (acceptLoop IoError).runFrom loop schedule = some after ∧
      after.phase = .ended false ∧ after.now ≤ limit

variable {kind : LoopEvent IoError → Bool} {limit : Nat}

theorem StopsBy.of_step (event : LoopEvent IoError) (of : kind event)
    (fired : loop.step event = some after) (stops : after.StopsBy kind limit) :
    loop.StopsBy kind limit := by
  obtain ⟨schedule, last, ofs, execution, ended, inTime⟩ := stops
  refine ⟨event :: schedule, last, ?_, ?_, ended, inTime⟩
  · intro other member
    rcases List.mem_cons.mp member with rfl | later
    · exact of
    · exact ofs other later
  · exact Option.bind_eq_some_iff.mpr ⟨after, fired, execution⟩

/-- No handler holds the thread, and none is on the blocking pool. -/
structure Free (loop : AcceptLoop IoError) : Prop where
  held : loop.held = false
  blocking : loop.work.blocking = 0

theorem step_of_free (free : loop.held = false) (event : LoopEvent IoError) :
    loop.step event = loop.act event := by
  rw [AcceptLoop.step, free, if_neg fun both => Bool.noConfusion both.1]

theorem Sound.stopsBy_of_shut (sound : loop.Sound) (free : loop.Free) (shut : loop.phase = .shut)
    (inTime : loop.now ≤ limit) : loop.StopsBy LoopEvent.isOwn limit := by
  have stands := sound.stands
  rw [shut] at stands
  have fired : loop.step .endContext =
      some { loop with phase := .ended (loop.conns.len ≠ 0) } :=
    (step_of_free free.held _).trans (if_pos ⟨shut, free.blocking⟩)
  refine StopsBy.of_step .endContext rfl fired ⟨[], _, ?_, rfl, ?_, inTime⟩
  · intro event member
    cases member
  · simp [stands.2.1]

theorem Sound.stopsBy_of_closed (sound : loop.Sound) (free : loop.Free)
    (closed : loop.phase = .closed) (inTime : loop.now ≤ limit) :
    loop.StopsBy LoopEvent.isOwn limit :=
  StopsBy.of_step .dropRuntime rfl ((step_of_free free.held _).trans (if_pos closed))
    ((sound.dropRuntime closed).stopsBy_of_shut ⟨free.held, free.blocking⟩ rfl inTime)

theorem Sound.stopsBy_of_served (sound : loop.Sound) (free : loop.Free)
    (served : loop.phase = .served) (inTime : loop.now ≤ limit) :
    loop.StopsBy LoopEvent.isOwn limit :=
  StopsBy.of_step .dropTasks rfl ((step_of_free free.held _).trans (if_pos served))
    ((sound.dropTasks served).stopsBy_of_closed ⟨free.held, free.blocking⟩ rfl inTime)

/-- Whatever the connections do, the drain ends at its deadline. -/
theorem Sound.stopsBy_of_draining (sound : loop.Sound) (free : loop.Free) {deadline : Nat}
    (draining : loop.phase = .draining deadline) (inTime : loop.now ≤ limit)
    (due : deadline ≤ limit) : loop.StopsBy LoopEvent.isOwn limit := by
  have stands := sound.stands
  rw [draining] at stands
  by_cases done : loop.conns.isDone
  · have fired : loop.step .drained = some { loop with phase := .served } := by
      rw [step_of_free free.held]
      simp only [AcceptLoop.act, draining, done, if_true]
    have next := sound.served draining (.inl ⟨done, stands.1⟩)
    exact StopsBy.of_step _ rfl fired
      (next.stopsBy_of_served ⟨free.held, free.blocking⟩ rfl inTime)
  · have waited := sound.elapse (deadline - loop.now)
    have late : deadline ≤ loop.now + (deadline - loop.now) := by omega
    have fired : AcceptLoop.step { loop with now := loop.now + (deadline - loop.now) } .timeOut =
        some { loop with
          now := loop.now + (deadline - loop.now)
          phase := .served
          warnings := loop.warnings ++ [loop.conns.len] } := by
      have still : ({ loop with now := loop.now + (deadline - loop.now) } :
          AcceptLoop IoError).held = false := free.held
      rw [step_of_free still]
      simp only [AcceptLoop.act, draining]
      exact if_pos ⟨late, done⟩
    have counted : loop.warnings ++ [loop.conns.len] = [loop.conns.len] := by
      rw [stands.1, List.nil_append]
    have next := waited.served draining (.inr ⟨late, done, counted⟩)
    refine StopsBy.of_step (.elapse (deadline - loop.now)) rfl (step_of_free free.held _) ?_
    refine StopsBy.of_step .timeOut rfl fired
      (next.stopsBy_of_served ⟨free.held, free.blocking⟩ rfl ?_)
    show loop.now + (deadline - loop.now) ≤ limit
    omega

theorem Sound.stopsBy (sound : loop.Sound) (free : loop.Free) (stopped : loop.stopped) :
    loop.StopsBy LoopEvent.isOwn (loop.now + DRAIN_TIMEOUT) := by
  have stands := sound.stands
  have inTime : loop.now ≤ loop.now + DRAIN_TIMEOUT := Nat.le_add_right _ _
  cases phase : loop.phase with
  | accepting =>
      exact StopsBy.of_step .seeStop rfl
        ((step_of_free free.held _).trans (if_pos ⟨phase, stopped⟩))
        ((sound.seeStop phase stopped).stopsBy_of_draining ⟨free.held, free.blocking⟩ rfl inTime
          le_rfl)
  | draining deadline =>
      rw [phase] at stands
      obtain ⟨_, _, seen, saw, due⟩ := stands
      have before := (sound.seen seen saw).2.1
      exact sound.stopsBy_of_draining free phase inTime (by omega)
  | served => exact sound.stopsBy_of_served free phase inTime
  | closed => exact sound.stopsBy_of_closed free phase inTime
  | shut => exact sound.stopsBy_of_shut free phase inTime
  | ended leaked =>
      rw [phase] at stands
      refine ⟨[], loop, ?_, rfl, ?_, inTime⟩
      · intro event member
        cases member
      · rw [phase, stands.1]

theorem StopsBy.mono {wider : LoopEvent IoError → Bool} (stops : loop.StopsBy kind limit)
    (of : ∀ event, kind event → wider event) : loop.StopsBy wider limit := by
  obtain ⟨schedule, last, ofs, rest⟩ := stops
  exact ⟨schedule, last, fun event member => of event (ofs event member), rest⟩

/-- Once the handlers have returned, the thread needs no more than its drain. -/
theorem Sound.stopsBy_returning (sound : loop.Sound) (stopped : loop.stopped) :
    loop.StopsBy (fun event => event.isOwn || event.isReturn) (loop.now + DRAIN_TIMEOUT) := by
  induction blocking : loop.work.blocking generalizing loop with
  | zero =>
      have own (loop : AcceptLoop IoError) (sound : loop.Sound) (free : loop.Free)
          (stopped : loop.stopped) :
          loop.StopsBy (fun event => event.isOwn || event.isReturn) (loop.now + DRAIN_TIMEOUT) :=
        (sound.stopsBy free stopped).mono fun event of => by rw [of, Bool.true_or]
      cases held : loop.held with
      | false => exact own loop sound ⟨held, blocking⟩ stopped
      | true =>
          have fired : loop.step .returns = some { loop with held := false } := by
            rw [AcceptLoop.step, if_neg fun both => Bool.noConfusion both.2]
            exact if_pos held
          exact StopsBy.of_step .returns rfl fired
            (own _ (sound.hold false) ⟨rfl, blocking⟩ stopped)
  | succ rest induction =>
      have busy : 0 < loop.work.blocking := by omega
      have stepped := Untracked.step_blockingEnds loop.polls busy
      have fired : loop.step (.untracked .blockingEnds) =
          some { loop with work := { loop.work with blocking := loop.work.blocking - 1 } } := by
        rw [AcceptLoop.step, if_neg fun both => Bool.noConfusion both.2, AcceptLoop.act, stepped]
        rfl
      refine StopsBy.of_step (.untracked .blockingEnds) rfl fired
        (induction (sound.untracked stepped) stopped ?_)
      show loop.work.blocking - 1 = rest
      omega

/-- What a thread's connections and its end come to. -/
structure Drains (loop : AcceptLoop IoError) : Prop where
  /-- No connection is taken up once the stop is seen. -/
  unopened : ∀ seen, loop.seen = some seen → loop.conns.tasks.length = seen.accepted
  /-- A connection is asked to finish because of a stop, and none of its requests is cut. -/
  running : ∀ conn, .running conn ∈ loop.conns.tasks → conn.Sound loop.stopped
  /-- A connection that closed has answered its requests, and one that failed is logged unless its
  client went away. -/
  ended : ∀ last ending, .ended last ending ∈ loop.conns.tasks → last.SoundEnd ending
  /-- What is cut off had its time since the stop was seen, and is counted in the one warning. -/
  cutOff : loop.conns.tasks.countP TrackedTask.isDropped ≠ 0 →
    loop.warnings = [loop.conns.tasks.countP TrackedTask.isDropped] ∧
      ∃ seen, loop.seen = some seen ∧ seen.time + DRAIN_TIMEOUT ≤ loop.now
  /-- The worker is ended with nothing of a connection left that could use it, no session, and
  nothing on the blocking pool. -/
  unshared : ∀ leaked, loop.phase = .ended leaked →
    leaked = false ∧ loop.conns.len = 0 ∧ loop.work = .idle
  /-- Where no handler holds the thread or is on the blocking pool, a stop takes the drain. -/
  stops : loop.stopped → loop.Free → loop.StopsBy LoopEvent.isOwn (loop.now + DRAIN_TIMEOUT)
  /-- Handlers are waited for, and when they have returned nothing else is. -/
  waits : loop.stopped →
    loop.StopsBy (fun event => event.isOwn || event.isReturn) (loop.now + DRAIN_TIMEOUT)

theorem Settled.cutOff {count : Nat} (settled : loop.Settled count) (nonzero : count ≠ 0) :
    loop.warnings = [count] ∧ ∃ seen, loop.seen = some seen ∧
      seen.time + DRAIN_TIMEOUT ≤ loop.now := by
  cases warnings : loop.warnings with
  | nil => exact absurd (settled.inTime warnings) nonzero
  | cons warning rest =>
      obtain ⟨only, rfl, -, seen⟩ := settled.warned warning (by simp [warnings])
      exact ⟨warnings ▸ only, seen⟩

theorem Sound.cutOff (sound : loop.Sound)
    (nonzero : loop.conns.tasks.countP TrackedTask.isDropped ≠ 0) :
    loop.warnings = [loop.conns.tasks.countP TrackedTask.isDropped] ∧
      ∃ seen, loop.seen = some seen ∧ seen.time + DRAIN_TIMEOUT ≤ loop.now := by
  have stands := sound.stands
  by_cases up : isUp loop.phase
  · refine absurd (List.countP_eq_zero.mpr ?_) nonzero
    intro task member
    exact Bool.eq_false_iff.mp (sound.whole up task member)
  · cases phase : loop.phase with
    | accepting | draining | served =>
        rw [phase] at up
        exact absurd rfl up
    | closed =>
        rw [phase] at stands
        exact stands.2.cutOff nonzero
    | shut =>
        rw [phase] at stands
        exact stands.2.2.cutOff nonzero
    | ended leaked =>
        rw [phase] at stands
        exact stands.2.2.2.cutOff nonzero

end AcceptLoop

/-- Whatever the clients, the handlers, the timers and the stop do, and in whatever order. -/
theorem accept_loop_drains {IoError : Type*} {loop : AcceptLoop IoError}
    (reachable : (acceptLoop IoError).Reachable loop) : loop.Drains := by
  have sound : loop.Sound := by
    refine Machine.Reachable.invariant ?_ ?_ reachable
    case refine_1 => exact AcceptLoop.sound_start
    case refine_2 => exact fun held fired => held.step fired
  refine ⟨fun seen saw => (sound.seen seen saw).2.2, ?_, ?_, sound.cutOff, ?_,
    fun stopped free => sound.stopsBy free stopped, sound.stopsBy_returning⟩
  · intro conn member
    exact (sound.conns _ member).running conn rfl
  · intro last ending member
    exact (sound.conns _ member).ended last ending rfl
  · intro leaked ended
    have stands := sound.stands
    rw [ended] at stands
    exact ⟨stands.1, stands.2.2.1, stands.2.1⟩

/-- A connection is answered and closed, another makes no end of its request before the deadline.
A handler holds the thread past that, and one on the blocking pool returns later still. -/
def oneStaysOpen : List (LoopEvent Unit) :=
  [.accept false, .accept true, .connection 0 .request, .connection 1 (.handshake (.ok ())),
    .connection 1 .request, .stop, .seeStop, .connection 0 .stop, .connection 0 (.answer 0),
    .connection 0 (.finish (.ok ())), .untracked .spawnBlocking, .untracked .upgrade, .callInline,
    .elapse DRAIN_TIMEOUT, .returns, .timeOut, .dropTasks, .dropRuntime, .elapse 1,
    .untracked .blockingEnds, .endContext]

theorem accept_loop_drains_oneStaysOpen :
    ∃ loop, (acceptLoop Unit).run oneStaysOpen = some loop ∧ loop.phase = .ended false ∧
      loop.warnings = [1] ∧ loop.Drains :=
  ⟨_, rfl, rfl, rfl, accept_loop_drains ⟨oneStaysOpen, rfl⟩⟩

end Pyronova
