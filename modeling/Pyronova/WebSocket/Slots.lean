import Pyronova.Execution
import Pyronova.Usize

/-!
# Connection slots of WebSocket upgrades

Every upgrade takes one of `max_connections` slots before its handler thread starts and is meant to
hold it until that thread has been joined.  The slot travels with the `HandlerThread` through the
future of `answer_upgrade` and the tasks it detaches.  hyper may drop that future at any await, and
dropping it drops whatever it owns there: the central theorem says exactly which schedules keep
every running thread behind a slot.
-/

namespace Pyronova
namespace WebSocket

namespace ConnectionSlot

/-- `ConnectionSlot::try_acquire`: the counter after the slot is taken, if one is free. -/
def tryAcquire (openConnections maxConnections : Nat) : Option Nat :=
  if openConnections < maxConnections then some (openConnections + 1) else none

/-- Dropping a `ConnectionSlot`: an atomic `fetch_sub(1)`, which wraps at zero. -/
def drop (openConnections : Nat) : Nat :=
  if openConnections = 0 then usizeMax else openConnections - 1

end ConnectionSlot

/-! ## One upgrade -/

/-- What the `before_request` hooks decided about an upgrade. -/
inductive Verdict
  | accept
  | reject
  deriving DecidableEq, Repr

/-- The oneshot channel that carries the verdict from the handler thread to the handshake. -/
inductive VerdictChannel
  /-- Both ends live, nothing sent. -/
  | empty
  | sent (verdict : Verdict)
  /-- The thread dropped its sender without a verdict. -/
  | lost
  /-- The handshake dropped its receiver. -/
  | unread
  deriving DecidableEq, Repr

/-- Where the OS thread started by `spawn_handler_thread` stands. -/
inductive ThreadPhase
  /-- The hooks run; no verdict yet. -/
  | hooks
  | handler
  /-- `serve_connection` has returned; the thread has not ended. -/
  | returning
  | ended
  deriving DecidableEq, Repr

/-- Where the future of `answer_upgrade`, or the task it detached, stands. -/
inductive UpgradePhase
  /-- The slot is taken, the thread not yet spawned.  There is no await here. -/
  | acquired
  /-- `await_reply(verdict_rx)`: the future owns the thread and its slot. -/
  | awaitVerdict
  /-- `thread.join().await` after a rejection: the future still owns the slot. -/
  | joinRejected
  /-- `http_response(..).await`: the slot has been given back. -/
  | rendering
  /-- `tokio::spawn(thread.join())` after no verdict came. -/
  | joinDetached
  /-- The detached task upgrades the connection and pumps its messages. -/
  | serving
  /-- The detached task joins the thread after the connection ended. -/
  | joinServed
  | finished
  deriving DecidableEq, Repr

structure Upgrade where
  phase : UpgradePhase
  /-- `none` until `spawn_handler_thread` succeeds. -/
  thread : Option ThreadPhase
  verdict : VerdictChannel
  deriving DecidableEq, Repr

/-- What can happen to one upgrade that holds, or held, a slot. -/
inductive UpgradeAction
  | spawn
  | spawnFails
  | decides (verdict : Verdict)
  /-- The thread gives no verdict: no handler, no request context, or a panic. -/
  | vanishes
  | handlerReturns
  | threadEnds
  | verdictArrives
  | verdictTimesOut
  /-- The upgrade failed, or the pump returned. -/
  | connectionEnds
  /-- The blocking pool joined the ended thread. -/
  | joins
  | responds
  /-- The client is gone: hyper drops the future at its await. -/
  | disconnects
  deriving DecidableEq, Repr

namespace Upgrade

/-- The state of an upgrade that has just taken its slot. -/
def fresh : Upgrade := { phase := .acquired, thread := none, verdict := .empty }

/-- `verdict.send(..)` and what `serve_connection` does next.  An unread verdict ends the thread
without running the handler. -/
def decide (upgrade : Upgrade) (verdict : Verdict) : Upgrade :=
  match upgrade.verdict, verdict with
  | .unread, _ => { upgrade with thread := some .returning }
  | _, .accept => { upgrade with thread := some .handler, verdict := .sent .accept }
  | _, .reject => { upgrade with thread := some .returning, verdict := .sent .reject }

/-- The sender of the verdict is dropped unused. -/
def vanish (upgrade : Upgrade) : Upgrade :=
  match upgrade.verdict with
  | .unread => { upgrade with thread := some .returning }
  | _ => { upgrade with thread := some .returning, verdict := .lost }

/-- What `await_reply(verdict_rx)` makes of the channel. -/
def receiveVerdict (upgrade : Upgrade) : Option Upgrade :=
  match upgrade.verdict with
  | .sent .accept => some { upgrade with phase := .serving }
  | .sent .reject => some { upgrade with phase := .joinRejected }
  | .lost => some { upgrade with phase := .joinDetached }
  | .empty | .unread => none

/-- One action, and whether it drops the upgrade's slot. -/
def step (upgrade : Upgrade) (action : UpgradeAction) : Option (Upgrade × Bool) :=
  match action, upgrade.phase, upgrade.thread with
  | .spawn, .acquired, none =>
      some ({ upgrade with phase := .awaitVerdict, thread := some .hooks }, false)
  | .spawnFails, .acquired, none => some ({ upgrade with phase := .finished }, true)
  | .decides verdict, _, some .hooks => some (upgrade.decide verdict, false)
  | .vanishes, _, some .hooks => some (upgrade.vanish, false)
  | .handlerReturns, _, some .handler =>
      some ({ upgrade with thread := some .returning }, false)
  | .threadEnds, _, some .returning => some ({ upgrade with thread := some .ended }, false)
  | .verdictArrives, .awaitVerdict, _ => upgrade.receiveVerdict.map (·, false)
  | .verdictTimesOut, .awaitVerdict, _ =>
      some ({ upgrade with phase := .joinDetached, verdict := .unread }, false)
  | .connectionEnds, .serving, _ => some ({ upgrade with phase := .joinServed }, false)
  | .joins, .joinRejected, some .ended => some ({ upgrade with phase := .rendering }, true)
  | .joins, .joinDetached, some .ended => some ({ upgrade with phase := .finished }, true)
  | .joins, .joinServed, some .ended => some ({ upgrade with phase := .finished }, true)
  | .responds, .rendering, _ => some ({ upgrade with phase := .finished }, false)
  -- A dropped future drops its `HandlerThread`: the handle detaches, the slot is released.
  | .disconnects, .awaitVerdict, _ =>
      some ({ upgrade with phase := .finished, verdict := .unread }, true)
  | .disconnects, .joinRejected, _ => some ({ upgrade with phase := .finished }, true)
  | .disconnects, .rendering, _ => some ({ upgrade with phase := .finished }, false)
  | _, _, _ => none

/-- A live `ConnectionSlot` belongs to this upgrade. -/
def holdsSlot (upgrade : Upgrade) : Bool :=
  match upgrade.phase with
  | .rendering | .finished => false
  | _ => true

/-- The handler thread was spawned and has not ended. -/
def threadRunning (upgrade : Upgrade) : Bool :=
  match upgrade.thread with
  | none | some .ended => false
  | some _ => true

/-- The future of `answer_upgrade`, which hyper may drop, owns the `HandlerThread`. -/
def futureOwnsThread (upgrade : Upgrade) : Bool :=
  match upgrade.phase with
  | .awaitVerdict | .joinRejected => true
  | _ => false

end Upgrade

/-! ## The server -/

structure Server where
  /-- `OpenConnections`, the counter the slots are taken from. -/
  openConnections : Nat
  /-- Every upgrade that took a slot, in order. -/
  upgrades : List Upgrade
  deriving DecidableEq, Repr

inductive ServerEvent
  /-- An upgrade request reaches `try_acquire`. -/
  | request
  | upgrade (index : Nat) (action : UpgradeAction)
  deriving DecidableEq, Repr

namespace Server

/-- One event.  A request that finds no free slot is answered 503 and changes nothing. -/
def step (maxConnections : Nat) (server : Server) : ServerEvent → Option Server
  | .request =>
      match ConnectionSlot.tryAcquire server.openConnections maxConnections with
      | some taken =>
          some { openConnections := taken, upgrades := server.upgrades ++ [.fresh] }
      | none => some server
  | .upgrade index action => do
      let upgrade ← server.upgrades[index]?
      let (next, dropped) ← upgrade.step action
      some
        { openConnections :=
            if dropped then ConnectionSlot.drop server.openConnections
            else server.openConnections
          upgrades := server.upgrades.set index next }

/-- Live `ConnectionSlot`s. -/
def liveSlots (server : Server) : Nat := server.upgrades.countP Upgrade.holdsSlot

/-- Handler threads spawned and not yet ended. -/
def runningThreads (server : Server) : Nat := server.upgrades.countP Upgrade.threadRunning

end Server

/-- One server run: a fresh counter and no upgrade. -/
def serverMachine (maxConnections : Nat) : Machine Server ServerEvent where
  init := { openConnections := 0, upgrades := [] }
  step := Server.step maxConnections

/-! ## What one action does to the slot and the thread -/

namespace Upgrade

theorem decide_phase (upgrade : Upgrade) (verdict : Verdict) :
    (upgrade.decide verdict).phase = upgrade.phase := by
  unfold decide
  split <;> rfl

theorem vanish_phase (upgrade : Upgrade) : upgrade.vanish.phase = upgrade.phase := by
  unfold vanish
  split <;> rfl

theorem receiveVerdict_eq_some {upgrade next : Upgrade}
    (received : upgrade.receiveVerdict = some next) :
    next.holdsSlot ∧ next.thread = upgrade.thread := by
  unfold receiveVerdict at received
  split at received <;> simp_all only [Option.some.injEq, reduceCtorEq] <;> subst received <;>
    exact ⟨rfl, rfl⟩

/-- Everything one action can do to an upgrade's slot and thread; the index says whether the slot
is dropped. -/
inductive Effect (upgrade next : Upgrade) : UpgradeAction → Bool → Prop
  /-- Only the thread moves, and it was running. -/
  | thread {action} (running : upgrade.threadRunning) (phase : next.phase = upgrade.phase) :
      Effect upgrade next action false
  /-- The slot changes hands, or stays where it is, with the thread behind it. -/
  | kept {action} (before : upgrade.holdsSlot) (after : next.holdsSlot) :
      Effect upgrade next action false
  /-- There is no slot any more, and the thread does not move. -/
  | settled {action} (before : upgrade.holdsSlot = false) (after : next.holdsSlot = false)
      (thread : next.thread = upgrade.thread) : Effect upgrade next action false
  /-- The slot is dropped with no thread running. -/
  | released {action} (before : upgrade.holdsSlot) (after : next.holdsSlot = false)
      (ended : upgrade.threadRunning = false) (thread : next.thread = upgrade.thread) :
      Effect upgrade next action true
  /-- The dropped future takes the slot with it, whatever its thread does. -/
  | cancelled (before : upgrade.holdsSlot) (after : next.holdsSlot = false)
      (owned : upgrade.futureOwnsThread) (thread : next.thread = upgrade.thread) :
      Effect upgrade next .disconnects true

theorem effect_of_step {upgrade next : Upgrade} {action : UpgradeAction} {dropped : Bool}
    (fired : upgrade.step action = some (next, dropped)) :
    Effect upgrade next action dropped := by
  revert fired
  fun_cases step upgrade action with
  | case1 thread phase | case8 phase | case9 phase =>
      -- `spawn`, `verdictTimesOut`, `connectionEnds`: the slot moves on with the thread.
      rintro ⟨⟩
      have held : upgrade.holdsSlot := by simp [holdsSlot, phase]
      exact .kept held rfl
  | case2 thread phase | case10 thread phase | case11 thread phase | case12 thread phase =>
      -- `spawnFails`, and `joins` wherever the join runs.
      rintro ⟨⟩
      have held : upgrade.holdsSlot := by simp [holdsSlot, phase]
      have ended : upgrade.threadRunning = false := by simp [threadRunning, thread]
      exact .released held rfl ended rfl
  | case3 verdict thread =>
      rintro ⟨⟩
      have running : upgrade.threadRunning := by simp [threadRunning, thread]
      exact .thread running (decide_phase upgrade verdict)
  | case4 thread =>
      rintro ⟨⟩
      have running : upgrade.threadRunning := by simp [threadRunning, thread]
      exact .thread running (vanish_phase upgrade)
  | case5 thread | case6 thread =>
      rintro ⟨⟩
      have running : upgrade.threadRunning := by simp [threadRunning, thread]
      exact .thread running rfl
  | case7 phase =>
      intro fired
      obtain ⟨received, arrived, same⟩ := Option.map_eq_some_iff.mp fired
      obtain ⟨rfl, rfl⟩ := Prod.mk.inj same
      have held : upgrade.holdsSlot := by simp [holdsSlot, phase]
      exact .kept held (receiveVerdict_eq_some arrived).1
  | case13 phase | case16 phase =>
      -- `responds` and `disconnects` while the response is rendered.
      rintro ⟨⟩
      have given : upgrade.holdsSlot = false := by simp [holdsSlot, phase]
      exact .settled given rfl rfl
  | case14 phase | case15 phase =>
      -- `disconnects` where the future owns the thread.
      rintro ⟨⟩
      have held : upgrade.holdsSlot := by simp [holdsSlot, phase]
      have owned : upgrade.futureOwnsThread := by simp [futureOwnsThread, phase]
      exact .cancelled held rfl owned rfl
  | case17 => rintro ⟨⟩

theorem holdsSlot_of_phase {upgrade next : Upgrade} (phase : next.phase = upgrade.phase) :
    next.holdsSlot = upgrade.holdsSlot := by
  simp [holdsSlot, phase]

/-- A slot is live before an action exactly when it is live after it or the action dropped it. -/
theorem Effect.holdsSlot_balance {upgrade next : Upgrade} {action : UpgradeAction}
    {dropped : Bool} (effect : Effect upgrade next action dropped) :
    upgrade.holdsSlot.toNat = next.holdsSlot.toNat + dropped.toNat := by
  cases effect with
  | thread _ phase => simp [holdsSlot_of_phase phase]
  | kept before after => simp [before, after]
  | settled before after => simp [before, after]
  | released before after => simp [before, after]
  | cancelled before after => simp [before, after]

end Upgrade

/-! ## Invariants of the server -/

/-- Replacing one element moves a count by that element alone. -/
theorem countP_set_balance {α : Type*} (selected : α → Bool) {list : List α} {index : Nat}
    {old : α} (present : list[index]? = some old) (new : α) :
    (list.set index new).countP selected + (selected old).toNat =
      list.countP selected + (selected new).toNat := by
  obtain ⟨bound, rfl⟩ := List.getElem?_eq_some_iff.mp present
  have positive : selected list[index] = true → 0 < list.countP selected := fun holds =>
    List.countP_pos_iff.mpr ⟨_, List.getElem_mem bound, holds⟩
  rw [List.countP_set bound]
  cases old_eq : selected list[index] <;> cases selected new <;>
    simp_all

namespace Server

/-- Inversion of an upgrade's step. -/
theorem step_upgrade_eq_some {maxConnections index : Nat} {server after : Server}
    {action : UpgradeAction}
    (fired : server.step maxConnections (.upgrade index action) = some after) :
    ∃ upgrade next dropped, server.upgrades[index]? = some upgrade ∧
      upgrade.step action = some (next, dropped) ∧
      after.openConnections =
        (if dropped then ConnectionSlot.drop server.openConnections
          else server.openConnections) ∧
      after.upgrades = server.upgrades.set index next := by
  obtain ⟨upgrade, present, fired⟩ := Option.bind_eq_some_iff.mp fired
  obtain ⟨⟨next, dropped⟩, moved, fired⟩ := Option.bind_eq_some_iff.mp fired
  obtain rfl := Option.some.inj fired
  exact ⟨upgrade, next, dropped, present, moved, rfl, rfl⟩

/-- The counter is the number of live slots, and within the limit. -/
structure Accounted (maxConnections : Nat) (server : Server) : Prop where
  count : server.openConnections = server.liveSlots
  bounded : server.openConnections ≤ maxConnections

/-- A slot about to be dropped is one the counter still counts. -/
theorem Accounted.openConnections_pos {maxConnections : Nat} {server : Server}
    (accounted : server.Accounted maxConnections) {index : Nat} {upgrade : Upgrade}
    (present : server.upgrades[index]? = some upgrade) (holds : upgrade.holdsSlot) :
    0 < server.openConnections := by
  rw [accounted.count]
  exact List.countP_pos_iff.mpr ⟨upgrade, List.mem_of_getElem? present, holds⟩

theorem Accounted.step {maxConnections : Nat} {before after : Server} {event : ServerEvent}
    (accounted : before.Accounted maxConnections)
    (fired : before.step maxConnections event = some after) :
    after.Accounted maxConnections := by
  cases event with
  | request =>
      simp only [Server.step, ConnectionSlot.tryAcquire] at fired
      split at fired
      · rename_i taken acquired
        obtain rfl := Option.some.inj fired
        split at acquired
        · rename_i free
          obtain rfl := Option.some.inj acquired
          constructor
          · have fresh : Upgrade.fresh.holdsSlot = true := rfl
            simp [liveSlots, accounted.count, fresh]
          · exact free
        · simp at acquired
      · obtain rfl := Option.some.inj fired
        exact accounted
  | upgrade index action =>
      obtain ⟨upgrade, next, dropped, present, moved, counter, upgrades⟩ :=
        step_upgrade_eq_some fired
      have balance := (Upgrade.effect_of_step moved).holdsSlot_balance
      have counted := countP_set_balance Upgrade.holdsSlot present next
      have count := accounted.count
      have bounded := accounted.bounded
      cases dropped with
      | false =>
          constructor
          · rw [counter, liveSlots, upgrades]
            simp only [liveSlots, Bool.toNat_false] at *
            simp
            omega
          · simpa [counter] using bounded
      | true =>
          have positive : 0 < before.openConnections := by
            apply accounted.openConnections_pos present
            cases holds : upgrade.holdsSlot <;> simp [holds] at balance ⊢
          have dropped_eq : after.openConnections = before.openConnections - 1 := by
            rw [counter]
            simp [ConnectionSlot.drop, Nat.ne_of_gt positive]
          constructor
          · rw [dropped_eq, liveSlots, upgrades]
            simp only [liveSlots, Bool.toNat_true] at *
            omega
          · omega

/-- No handler thread runs without a slot behind it. -/
def Backed (server : Server) : Prop :=
  ∀ upgrade ∈ server.upgrades, upgrade.threadRunning → upgrade.holdsSlot

theorem Backed.runningThreads_le {server : Server} (backed : server.Backed) :
    server.runningThreads ≤ server.liveSlots :=
  List.countP_mono_left backed

end Server

/-- The future hyper drops does not own a thread that still runs. -/
def CancelsNoRunningThread (server : Server) (event : ServerEvent) : Prop :=
  ∀ index upgrade, event = .upgrade index .disconnects →
    server.upgrades[index]? = some upgrade → upgrade.futureOwnsThread →
      upgrade.threadRunning = false

namespace Server

theorem Backed.step {maxConnections : Nat} {before after : Server} {event : ServerEvent}
    (backed : before.Backed) (conditioned : CancelsNoRunningThread before event)
    (fired : before.step maxConnections event = some after) : after.Backed := by
  cases event with
  | request =>
      simp only [Server.step] at fired
      split at fired
      · obtain rfl := Option.some.inj fired
        intro upgrade member running
        rcases List.mem_append.mp member with earlier | latest
        · exact backed upgrade earlier running
        · obtain rfl := List.mem_singleton.mp latest
          simp [Upgrade.fresh, Upgrade.threadRunning] at running
      · obtain rfl := Option.some.inj fired
        exact backed
  | upgrade index action =>
      obtain ⟨upgrade, next, dropped, present, moved, -, upgrades⟩ := step_upgrade_eq_some fired
      have behind := backed upgrade (List.mem_of_getElem? present)
      intro other member running
      rw [upgrades] at member
      rcases List.mem_or_eq_of_mem_set member with untouched | rfl
      · exact backed other untouched running
      · have unchanged (thread : other.thread = upgrade.thread) : upgrade.threadRunning := by
          simpa [Upgrade.threadRunning, thread] using running
        cases Upgrade.effect_of_step moved with
        | thread alive phase => rw [Upgrade.holdsSlot_of_phase phase]; exact behind alive
        | kept _ after => exact after
        | settled before _ thread => simp [before, unchanged thread] at behind
        | released _ _ ended thread => simp [ended] at unchanged; exact absurd thread unchanged
        | cancelled _ _ owned thread =>
            have ended := conditioned index upgrade rfl present owned
            simp [ended] at unchanged
            exact absurd thread unchanged

end Server

/-! ## Slots outlive their threads -/

/-- The event drops the slot of `upgrade`. -/
def GivesBack (server : Server) (event : ServerEvent) (upgrade : Upgrade) : Prop :=
  ∃ index action next, event = .upgrade index action ∧
    server.upgrades[index]? = some upgrade ∧ upgrade.step action = some (next, true)

/-- Along a schedule the threads stay within the limit, the counter counts the live slots, and a
slot is given back only from a positive counter and once its thread has ended. -/
structure SlotsOutliveThreads (maxConnections : Nat) (schedule : List ServerEvent) : Prop where
  threads : (serverMachine maxConnections).AllStates
    (fun server => server.runningThreads ≤ maxConnections) schedule
  counter : (serverMachine maxConnections).AllStates
    (fun server => server.openConnections = server.liveSlots) schedule
  givenBack : (serverMachine maxConnections).AllSteps
    (fun server event => ∀ upgrade, GivesBack server event upgrade →
      0 < server.openConnections ∧ upgrade.threadRunning = false) schedule

/-- The counter is exact along every schedule, cancelled futures included. -/
theorem accounted_along (maxConnections : Nat) (schedule : List ServerEvent) :
    (serverMachine maxConnections).AllStates (Server.Accounted maxConnections) schedule :=
  Machine.allStates_of_invariant ⟨rfl, Nat.zero_le _⟩
    (fun accounted fired => accounted.step fired) schedule

theorem givesBack_holdsSlot {server : Server} {event : ServerEvent} {upgrade : Upgrade}
    (given : GivesBack server event upgrade) :
    ∃ index : Nat, server.upgrades[index]? = some upgrade ∧ upgrade.holdsSlot := by
  obtain ⟨index, action, next, -, present, moved⟩ := given
  refine ⟨index, present, ?_⟩
  have balance := (Upgrade.effect_of_step moved).holdsSlot_balance
  cases holds : upgrade.holdsSlot <;> simp [holds] at balance ⊢

/-- Short of a cancelled future, a slot is given back only behind an ended thread. -/
theorem givesBack_ended {server : Server} {event : ServerEvent} {upgrade : Upgrade}
    (conditioned : CancelsNoRunningThread server event)
    (given : GivesBack server event upgrade) : upgrade.threadRunning = false := by
  obtain ⟨index, action, next, rfl, present, moved⟩ := given
  cases Upgrade.effect_of_step moved with
  | released _ _ ended => exact ended
  | cancelled _ _ owned => exact conditioned index upgrade rfl present owned

/-- Dropping a future at an await where it owns its thread gives the slot back. -/
theorem givesBack_of_disconnects {server : Server} {index : Nat} {upgrade : Upgrade}
    (present : server.upgrades[index]? = some upgrade) (owned : upgrade.futureOwnsThread) :
    GivesBack server (.upgrade index .disconnects) upgrade := by
  cases phase_eq : upgrade.phase <;> simp [Upgrade.futureOwnsThread, phase_eq] at owned
  all_goals
    refine ⟨index, .disconnects, ?_, rfl, present, ?_⟩
    · exact { upgrade with
        phase := .finished
        verdict := if upgrade.phase = .awaitVerdict then .unread else upgrade.verdict }
    · simp [Upgrade.step, phase_eq]

/-- The slots outlive the threads along a schedule exactly when no future is dropped while the
handler thread it owns still runs. -/
theorem slotsOutliveThreads_iff (maxConnections : Nat) (schedule : List ServerEvent) :
    SlotsOutliveThreads maxConnections schedule ↔
      (serverMachine maxConnections).AllSteps CancelsNoRunningThread schedule := by
  have accounted := accounted_along maxConnections schedule
  constructor
  · rintro ⟨-, -, givenBack⟩ front event initial server reached index upgrade rfl present owned
    exact (givenBack front _ initial server reached upgrade
      (givesBack_of_disconnects present owned)).2
  · intro conditioned
    have backed : (serverMachine maxConnections).AllStates Server.Backed schedule := by
      refine Machine.allStates_of_allSteps ?_ ?_ conditioned
      · intro upgrade member
        simp [serverMachine] at member
      · intro before after event backed safe fired
        exact backed.step safe fired
    refine ⟨?_, ?_, ?_⟩
    · intro front initial server reached
      have exact_count := accounted front initial server reached
      calc
        server.runningThreads ≤ server.liveSlots :=
          (backed front initial server reached).runningThreads_le
        _ = server.openConnections := exact_count.count.symm
        _ ≤ maxConnections := exact_count.bounded
    · intro front initial server reached
      exact (accounted front initial server reached).count
    · intro front event initial server reached upgrade given
      have exact_count :=
        accounted front ((List.prefix_append _ _).trans initial) server reached
      obtain ⟨index, present, holds⟩ := givesBack_holdsSlot given
      exact ⟨exact_count.openConnections_pos present holds,
        givesBack_ended (conditioned front event initial server reached) given⟩

/-- One slot, two clients: the first disconnects while its hooks run, the second is let in. -/
def cancelledUpgrade : List ServerEvent :=
  [.request, .upgrade 0 .spawn, .upgrade 0 .disconnects, .request, .upgrade 1 .spawn]

/-- With `max_connections = 1` the cancelled upgrade leaves two handler threads running. -/
theorem cancelledUpgrade_exceeds_limit :
    ((serverMachine 1).run cancelledUpgrade).map Server.runningThreads = some 2 ∧
      ¬ SlotsOutliveThreads 1 cancelledUpgrade := by
  refine ⟨rfl, fun outlive => ?_⟩
  have bounded := outlive.threads cancelledUpgrade (List.prefix_refl _) _ rfl
  revert bounded
  decide

end WebSocket
end Pyronova
