import Pyronova.Semaphore
import Pyronova.WebSocket.Connection

/-!
# The byte budget of one direction

A budget is a semaphore of bytes: a message reserves its cost before it is queued and holds the
permit until it leaves the queue.  The machine below runs any number of `reserve`s, `try_reserve`s,
pushes and releases against one budget; a push takes its permit and sends its message in two steps,
with anything in between.
-/

namespace Pyronova
namespace WebSocket

namespace ByteBudget

/-- `ByteBudget::new`. -/
def semaphore (maxMessageBytes : Nat) : Semaphore := Semaphore.new (new maxMessageBytes)

/-- `try_reserve`, and the first attempt of a `reserve`: the semaphore with the permit taken. -/
def acquire (policy : Semaphore.Policy) (budget : Semaphore) (len : Nat) : Option Semaphore :=
  budget.tryAcquire policy (cost len)

/-- A semaphore that grants whatever fits leaves the count `tryReserve` leaves. -/
theorem tryReserve_eq_acquire (budget : Semaphore) (len : Nat) :
    tryReserve budget.available len =
      (acquire Semaphore.Policy.greedy budget len).map Semaphore.available := by
  unfold tryReserve acquire Semaphore.tryAcquire Semaphore.Policy.greedy
  by_cases fits : cost len ≤ budget.available
  · rw [if_pos fits, if_pos (decide_eq_true fits)]
    rfl
  · rw [if_neg fits, if_neg (by simpa using fits)]
    rfl

end ByteBudget

/-- One direction of a connection. -/
structure Outbox where
  budget : Semaphore
  /-- The permits of the callers of `reserve` and `try_reserve`, and of messages that left the
  queue. -/
  permits : List Nat
  /-- Pushes that hold their permit and have yet to send. -/
  sending : List Queued
  queue : List Queued
  /-- The receiver of the queue is alive. -/
  receiverAlive : Bool
  deriving DecidableEq

inductive BudgetEvent
  | reserves (len : Nat)
  | triesReserve (len : Nat)
  /-- A `reserve` that waits gets its permit. -/
  | grants (count : Nat)
  /-- A `reserve` that waits is dropped. -/
  | abandons (count : Nat)
  /-- A permit is dropped. -/
  | releases (count : Nat)
  /-- A push checks its message and takes its permit. -/
  | pushes (msg : WsMsg)
  /-- A push sends its message. -/
  | sends (queued : Queued)
  /-- The receiver takes the message at the front. -/
  | takes
  /-- The receiver is dropped. -/
  | closes
  deriving DecidableEq, Repr

namespace Outbox

/-- `connection_channels`: an empty queue and a full budget. -/
def new (limits : WsLimits) : Outbox where
  budget := ByteBudget.semaphore limits.maxMessageBytes
  permits := []
  sending := []
  queue := []
  receiverAlive := true

/-- A permit handed to a caller. -/
def hand (outbox : Outbox) (count : Nat) (budget : Semaphore) : Outbox :=
  { outbox with budget, permits := count :: outbox.permits }

/-- A message as it is queued. -/
def charged (msg : WsMsg) : Queued := { msg, budget := ByteBudget.cost msg.len }

/-- `Outbox::push` up to its permit. -/
def reserve (policy : Semaphore.Policy) (limits : WsLimits) (outbox : Outbox) (msg : WsMsg) :
    Except SendError Outbox :=
  if limits.maxMessageBytes < msg.len then
    .error (.value
      (s!"{msg.kind} message of {msg.len} bytes exceeds " ++
        s!"max_websocket_message_size ({limits.maxMessageBytes} bytes)"))
  else
    match ByteBudget.acquire policy outbox.budget msg.len with
    | none =>
        .error (.blocking
          "WebSocket send buffer full (client is slow); retry after a brief pause")
    | some budget => .ok { outbox with budget, sending := charged msg :: outbox.sending }

/-- The rest of `Outbox::push`.  A message the channel refuses is dropped with its permit. -/
def send (outbox : Outbox) (queued : Queued) : Except SendError Unit × Outbox :=
  if outbox.receiverAlive then
    (.ok (),
      { outbox with
        sending := outbox.sending.erase queued
        queue := outbox.queue ++ [queued] })
  else
    (.error (.connection "WebSocket closed"),
      { outbox with
        budget := outbox.budget.release queued.budget
        sending := outbox.sending.erase queued })

/-- `Outbox::push`. -/
def push (policy : Semaphore.Policy) (limits : WsLimits) (outbox : Outbox) (msg : WsMsg) :
    Except SendError Unit × Outbox :=
  match outbox.reserve policy limits msg with
  | .error error => (.error error, outbox)
  | .ok reserved => reserved.send (charged msg)

/-- One event of one direction; the lengths its callers reserve are those of allowed messages. -/
def step (policy : Semaphore.Policy) (limits : WsLimits) (outbox : Outbox) :
    BudgetEvent → Option Outbox
  | .reserves len =>
      if len ≤ limits.maxMessageBytes then
        match ByteBudget.acquire policy outbox.budget len with
        | some budget => some (outbox.hand (ByteBudget.cost len) budget)
        | none => some { outbox with budget := outbox.budget.wait (ByteBudget.cost len) }
      else none
  | .triesReserve len =>
      if len ≤ limits.maxMessageBytes then
        match ByteBudget.acquire policy outbox.budget len with
        | some budget => some (outbox.hand (ByteBudget.cost len) budget)
        | none => some outbox
      else none
  | .grants count => (outbox.budget.grant count).map (outbox.hand count)
  | .abandons count =>
      (outbox.budget.abandon count).map fun budget => { outbox with budget }
  | .releases count =>
      if count ∈ outbox.permits then
        some
          { outbox with
            budget := outbox.budget.release count
            permits := outbox.permits.erase count }
      else none
  | .pushes msg => some ((outbox.reserve policy limits msg).toOption.getD outbox)
  | .sends queued => if queued ∈ outbox.sending then some (outbox.send queued).2 else none
  | .takes =>
      match outbox.queue with
      | [] => none
      | queued :: rest =>
          some { outbox with permits := queued.budget :: outbox.permits, queue := rest }
  | .closes =>
      -- The messages still queued are dropped, and their permits one by one.
      some
        { outbox with
          permits := outbox.queue.map Queued.budget ++ outbox.permits
          queue := []
          receiverAlive := false }

def machine (policy : Semaphore.Policy) (limits : WsLimits) : Machine Outbox BudgetEvent where
  init := new limits
  step := step policy limits

/-- Every permit handed out is held by a caller or by a message, at that message's cost. -/
structure Invariant (limits : WsLimits) (outbox : Outbox) : Prop where
  size : outbox.budget.permits = limits.maxMessageBytes + MESSAGE_OVERHEAD_BYTES
  waiting : ∀ count ∈ outbox.budget.waiting,
    count ≤ limits.maxMessageBytes + MESSAGE_OVERHEAD_BYTES
  held : outbox.budget.held.Perm
    (outbox.permits ++ (outbox.sending ++ outbox.queue).map Queued.budget)
  charged : ∀ queued ∈ outbox.sending ++ outbox.queue,
    queued.msg.len ≤ limits.maxMessageBytes ∧ queued = Outbox.charged queued.msg

variable {policy : Semaphore.Policy} {limits : WsLimits}

theorem cost_le {len : Nat} (allowed : len ≤ limits.maxMessageBytes) :
    ByteBudget.cost len = len + MESSAGE_OVERHEAD_BYTES ∧
      ByteBudget.cost len ≤ limits.maxMessageBytes + MESSAGE_OVERHEAD_BYTES := by
  have exactly := ByteBudget.cost_eq (allowed.trans limits.messageBytes_le)
  exact ⟨exactly, exactly.trans_le (Nat.add_le_add_right allowed _)⟩

/-- The only ways a reserved push ends. -/
theorem reserve_eq_ok {outbox reserved : Outbox} {msg : WsMsg}
    (accepted : outbox.reserve policy limits msg = .ok reserved) :
    msg.len ≤ limits.maxMessageBytes ∧
      ∃ budget, ByteBudget.acquire policy outbox.budget msg.len = some budget ∧
        reserved = { outbox with budget, sending := charged msg :: outbox.sending } := by
  unfold reserve at accepted
  split at accepted
  · cases accepted
  · rename_i short
    split at accepted
    · cases accepted
    · rename_i budget acquired
      exact ⟨Nat.le_of_not_lt short, budget, acquired, (Except.ok.inj accepted).symm⟩

namespace Invariant

theorem initial : Invariant limits (new limits) where
  size := (Semaphore.permits_new _).trans (ByteBudget.new_eq limits.messageBytes_le)
  waiting := fun _ member => absurd member List.not_mem_nil
  held := .refl _
  charged := fun _ member => absurd member List.not_mem_nil

variable {outbox : Outbox} {budget : Semaphore} {count : Nat} {queued : Queued}

theorem hand (invariant : Invariant limits outbox)
    (size : budget.permits = outbox.budget.permits)
    (waiting : ∀ other ∈ budget.waiting, other ∈ outbox.budget.waiting)
    (held : budget.held = count :: outbox.budget.held) :
    Invariant limits (outbox.hand count budget) where
  size := size.trans invariant.size
  waiting := fun other member => invariant.waiting other (waiting other member)
  held := by
    rw [Outbox.hand, held]
    exact invariant.held.cons count
  charged := invariant.charged

/-- `try_reserve`, or a `reserve` that need not wait. -/
theorem acquire (invariant : Invariant limits outbox) {len : Nat}
    (acquired : ByteBudget.acquire policy outbox.budget len = some budget) :
    Invariant limits (outbox.hand (ByteBudget.cost len) budget) := by
  have size := Semaphore.permits_tryAcquire acquired
  obtain ⟨-, rfl⟩ := Semaphore.tryAcquire_eq_some.mp acquired
  exact invariant.hand size (fun _ member => member) rfl

theorem wait (invariant : Invariant limits outbox)
    (small : count ≤ limits.maxMessageBytes + MESSAGE_OVERHEAD_BYTES) :
    Invariant limits { outbox with budget := outbox.budget.wait count } where
  size := invariant.size
  waiting := by
    intro other member
    obtain old | new := List.mem_append.mp member
    · exact invariant.waiting other old
    · rw [List.mem_singleton.mp new]
      exact small
  held := invariant.held
  charged := invariant.charged

theorem grant (invariant : Invariant limits outbox)
    (granted : outbox.budget.grant count = some budget) :
    Invariant limits (outbox.hand count budget) := by
  have size := Semaphore.permits_grant granted
  obtain ⟨-, rfl⟩ := Semaphore.grant_eq_some.mp granted
  exact invariant.hand size (fun _ member => List.mem_of_mem_erase member) rfl

theorem abandon (invariant : Invariant limits outbox)
    (abandoned : outbox.budget.abandon count = some budget) :
    Invariant limits { outbox with budget } := by
  have size := Semaphore.permits_abandon abandoned
  obtain ⟨-, rfl⟩ := Semaphore.abandon_eq_some.mp abandoned
  exact
    { size := size.trans invariant.size
      waiting := fun other member => invariant.waiting other (List.mem_of_mem_erase member)
      held := invariant.held
      charged := invariant.charged }

theorem release (invariant : Invariant limits outbox) (owned : count ∈ outbox.permits) :
    Invariant limits
      { outbox with
        budget := outbox.budget.release count
        permits := outbox.permits.erase count } := by
  have front := (List.perm_cons_erase owned).append_right
    ((outbox.sending ++ outbox.queue).map Queued.budget)
  have held := invariant.held.trans front
  exact
    { size := (Semaphore.permits_release (held.mem_iff.mpr List.mem_cons_self)).trans
        invariant.size
      waiting := invariant.waiting
      held := Semaphore.held_release_perm held
      charged := invariant.charged }

theorem reserve (invariant : Invariant limits outbox) {reserved : Outbox} {msg : WsMsg}
    (accepted : outbox.reserve policy limits msg = .ok reserved) :
    Invariant limits reserved := by
  obtain ⟨short, budget, acquired, rfl⟩ := reserve_eq_ok accepted
  have handed := invariant.acquire acquired
  exact
    { size := handed.size
      waiting := handed.waiting
      held := handed.held.trans List.perm_middle.symm
      charged := by
        intro queued member
        obtain rfl | old := List.mem_cons.mp member
        · exact ⟨short, rfl⟩
        · exact invariant.charged queued old }

/-- The permit of a push between its two steps, and what is held beside it. -/
theorem held_of_sending (invariant : Invariant limits outbox) (sends : queued ∈ outbox.sending) :
    outbox.budget.held.Perm
      (queued.budget ::
        (outbox.permits ++ (outbox.sending.erase queued ++ outbox.queue).map Queued.budget)) := by
  have front := (List.perm_cons_erase sends).append_right outbox.queue
  exact invariant.held.trans
    (((front.map Queued.budget).append_left outbox.permits).trans List.perm_middle)

theorem mem_held_of_sending (invariant : Invariant limits outbox)
    (sends : queued ∈ outbox.sending) : queued.budget ∈ outbox.budget.held :=
  (invariant.held_of_sending sends).mem_iff.mpr List.mem_cons_self

theorem send (invariant : Invariant limits outbox) (sends : queued ∈ outbox.sending) :
    Invariant limits (outbox.send queued).2 := by
  unfold Outbox.send
  split
  · have moved : (outbox.sending.erase queued ++ (outbox.queue ++ [queued])).Perm
        (outbox.sending ++ outbox.queue) := by
      rw [← List.append_assoc]
      refine (List.perm_append_singleton queued _).trans ?_
      exact (List.perm_cons_erase sends).symm.append_right outbox.queue
    exact
      { size := invariant.size
        waiting := invariant.waiting
        held := invariant.held.trans ((moved.map Queued.budget).append_left _).symm
        charged := fun other member => invariant.charged other (moved.mem_iff.mp member) }
  · exact
      { size := (Semaphore.permits_release (invariant.mem_held_of_sending sends)).trans
          invariant.size
        waiting := invariant.waiting
        held := Semaphore.held_release_perm (invariant.held_of_sending sends)
        charged := by
          intro other member
          refine invariant.charged other (List.mem_append.mpr ?_)
          exact (List.mem_append.mp member).imp_left List.mem_of_mem_erase }

theorem take (invariant : Invariant limits outbox) {rest : List Queued}
    (front : outbox.queue = queued :: rest) :
    Invariant limits
      { outbox with permits := queued.budget :: outbox.permits, queue := rest } := by
  have moved : (outbox.sending ++ outbox.queue).Perm
      (queued :: (outbox.sending ++ rest)) := by
    rw [front]
    exact List.perm_middle
  exact
    { size := invariant.size
      waiting := invariant.waiting
      held := invariant.held.trans
        (((moved.map Queued.budget).append_left outbox.permits).trans List.perm_middle)
      charged := fun other member =>
        invariant.charged other (moved.mem_iff.mpr (List.mem_cons_of_mem _ member)) }

theorem close (invariant : Invariant limits outbox) :
    Invariant limits
      { outbox with
        permits := outbox.queue.map Queued.budget ++ outbox.permits
        queue := []
        receiverAlive := false } where
  size := invariant.size
  waiting := invariant.waiting
  held := by
    refine invariant.held.trans ?_
    rw [List.append_nil, List.map_append, List.append_assoc, ← List.append_assoc]
    exact List.perm_append_comm
  charged := by
    intro other member
    rw [List.append_nil] at member
    exact invariant.charged other (List.mem_append_left _ member)

theorem step (invariant : Invariant limits outbox) {event : BudgetEvent} {after : Outbox}
    (fired : outbox.step policy limits event = some after) : Invariant limits after := by
  cases event with
  | reserves len =>
    obtain ⟨allowed, fired⟩ := Option.ite_none_right_eq_some.mp fired
    split at fired
    · rename_i budget acquired
      rw [← Option.some.inj fired]
      exact invariant.acquire acquired
    · rw [← Option.some.inj fired]
      exact invariant.wait (cost_le allowed).2
  | triesReserve len =>
    obtain ⟨-, fired⟩ := Option.ite_none_right_eq_some.mp fired
    split at fired
    · rename_i budget acquired
      rw [← Option.some.inj fired]
      exact invariant.acquire acquired
    · rw [← Option.some.inj fired]
      exact invariant
  | grants count =>
    obtain ⟨budget, granted, rfl⟩ := Option.map_eq_some_iff.mp fired
    exact invariant.grant granted
  | abandons count =>
    obtain ⟨budget, abandoned, rfl⟩ := Option.map_eq_some_iff.mp fired
    exact invariant.abandon abandoned
  | releases count =>
    obtain ⟨owned, same⟩ := Option.ite_none_right_eq_some.mp fired
    rw [← Option.some.inj same]
    exact invariant.release owned
  | pushes msg =>
    rw [← Option.some.inj fired]
    cases attempt : outbox.reserve policy limits msg with
    | error error => exact invariant
    | ok reserved => exact invariant.reserve attempt
  | sends queued =>
    obtain ⟨sends, same⟩ := Option.ite_none_right_eq_some.mp fired
    rw [← Option.some.inj same]
    exact invariant.send sends
  | takes =>
    cases queue : outbox.queue with
    | nil =>
      rw [Outbox.step, queue] at fired
      cases fired
    | cons queued rest =>
      rw [Outbox.step, queue] at fired
      rw [← Option.some.inj fired]
      exact invariant.take queue
  | closes =>
    rw [← Option.some.inj fired]
    exact invariant.close

end Invariant

/-- A push that nothing interrupts queues its message at its cost, or leaves no trace. -/
theorem push_eq {outbox after : Outbox} {msg : WsMsg} {result : Except SendError Unit}
    (pushed : outbox.push policy limits msg = (result, after)) :
    (result = .ok () →
      msg.len ≤ limits.maxMessageBytes ∧
        after =
          { outbox with
            budget := outbox.budget.take (ByteBudget.cost msg.len)
            queue := outbox.queue ++ [charged msg] }) ∧
      ∀ error, result = .error error → after = outbox := by
  unfold push at pushed
  cases attempt : outbox.reserve policy limits msg with
  | error failure =>
    simp only [attempt, Prod.mk.injEq] at pushed
    obtain ⟨rfl, rfl⟩ := pushed
    exact ⟨fun impossible => (by cases impossible), fun _ _ => rfl⟩
  | ok reserved =>
    obtain ⟨short, budget, acquired, rfl⟩ := reserve_eq_ok attempt
    obtain ⟨grants, rfl⟩ := Semaphore.tryAcquire_eq_some.mp acquired
    simp only [attempt, send, List.erase_cons_head] at pushed
    split at pushed
    · obtain ⟨rfl, rfl⟩ := Prod.mk.inj pushed
      exact ⟨fun _ => ⟨short, rfl⟩, fun _ impossible => (by cases impossible)⟩
    · obtain ⟨rfl, rfl⟩ := Prod.mk.inj pushed
      refine ⟨fun impossible => (by cases impossible), fun _ _ => ?_⟩
      -- The closed channel gives the message back, and with it the permit just taken.
      rw [charged, Semaphore.release_take (policy.fits grants)]

/-- Whatever shares a budget and in whatever order, its arithmetic stays in `u32`, no more than one
maximum-size message and its overhead is handed out, every allowed message fits an idle budget, and
a push queues its message at its cost or undoes what it did. -/
theorem budget_sound (policy : Semaphore.Policy) (limits : WsLimits) (schedule : List BudgetEvent)
    (outbox : Outbox) (reached : (machine policy limits).run schedule = some outbox) :
    (limits.maxMessageBytes + MESSAGE_OVERHEAD_BYTES < 2 ^ 32 ∧
      ByteBudget.new limits.maxMessageBytes = limits.maxMessageBytes + MESSAGE_OVERHEAD_BYTES ∧
      ∀ len ≤ limits.maxMessageBytes, len + MESSAGE_OVERHEAD_BYTES < 2 ^ 32 ∧
        ByteBudget.cost len = len + MESSAGE_OVERHEAD_BYTES) ∧
      outbox.budget.outstanding ≤ limits.maxMessageBytes + MESSAGE_OVERHEAD_BYTES ∧
      (outbox.budget.outstanding = 0 →
        (∀ count ∈ outbox.budget.waiting, (outbox.budget.grant count).isSome = true) ∧
        (outbox.budget.waiting = [] → ∀ len ≤ limits.maxMessageBytes,
          ByteBudget.acquire policy outbox.budget len =
            some (outbox.budget.take (len + MESSAGE_OVERHEAD_BYTES)))) ∧
      outbox.budget.held.Perm
        (outbox.permits ++ (outbox.sending ++ outbox.queue).map
          fun queued => queued.msg.len + MESSAGE_OVERHEAD_BYTES) ∧
      (∀ msg result after, outbox.push policy limits msg = (result, after) →
        (result = .ok () →
          after =
            { outbox with
              budget := outbox.budget.take (msg.len + MESSAGE_OVERHEAD_BYTES)
              queue := outbox.queue ++
                [{ msg, budget := msg.len + MESSAGE_OVERHEAD_BYTES }] }) ∧
          ∀ error, result = .error error → after = outbox) ∧
      ∀ queued ∈ outbox.sending, ∀ result after, outbox.send queued = (result, after) →
        (result = .ok () →
          after.queue = outbox.queue ++ [queued] ∧ after.budget = outbox.budget) ∧
          ∀ error, result = .error error →
            after.queue = outbox.queue ∧
              after.budget.outstanding + queued.budget = outbox.budget.outstanding := by
  have invariant : Invariant limits outbox :=
    Machine.Reachable.invariant .initial (fun holds fired => holds.step fired) ⟨schedule, reached⟩
  have exactly : ∀ len ≤ limits.maxMessageBytes,
      ByteBudget.cost len = len + MESSAGE_OVERHEAD_BYTES := fun len allowed => (cost_le allowed).1
  have fits : limits.maxMessageBytes + MESSAGE_OVERHEAD_BYTES < 2 ^ 32 := by
    have allowed := limits.messageBytes_le
    rw [MAX_MESSAGE_BYTES_LIMIT] at allowed
    rw [MESSAGE_OVERHEAD_BYTES] at allowed ⊢
    omega
  refine ⟨⟨fits, ByteBudget.new_eq limits.messageBytes_le, ?_⟩, ?_, ?_, ?_, ?_, ?_⟩
  · intro len allowed
    exact ⟨(Nat.add_le_add_right allowed _).trans_lt fits, exactly len allowed⟩
  · exact Semaphore.outstanding_le.trans_eq invariant.size
  · intro idle
    refine ⟨fun count waits => ?_, fun nobody len allowed => ?_⟩
    · refine Semaphore.grant_of_idle idle waits ?_
      exact (invariant.waiting count waits).trans_eq invariant.size.symm
    · rw [ByteBudget.acquire, exactly len allowed]
      refine Semaphore.tryAcquire_of_idle idle nobody ?_
      exact (Nat.add_le_add_right allowed _).trans_eq invariant.size.symm
  · have costs : (outbox.sending ++ outbox.queue).map Queued.budget =
        (outbox.sending ++ outbox.queue).map
          fun queued => queued.msg.len + MESSAGE_OVERHEAD_BYTES := by
      refine List.map_congr_left fun queued member => ?_
      obtain ⟨short, charge⟩ := invariant.charged queued member
      exact (congrArg Queued.budget charge).trans (exactly _ short)
    exact costs ▸ invariant.held
  · intro msg result after pushed
    obtain ⟨queues, undone⟩ := push_eq pushed
    refine ⟨fun accepted => ?_, undone⟩
    obtain ⟨short, rfl⟩ := queues accepted
    rw [charged, exactly msg.len short]
  · intro queued sends result after sent
    rw [send] at sent
    split at sent
    · obtain ⟨rfl, rfl⟩ := Prod.mk.inj sent
      exact ⟨fun _ => ⟨rfl, rfl⟩, fun _ impossible => (by cases impossible)⟩
    · obtain ⟨rfl, rfl⟩ := Prod.mk.inj sent
      refine ⟨fun impossible => (by cases impossible), fun _ _ => ⟨rfl, ?_⟩⟩
      exact Semaphore.outstanding_release (invariant.mem_held_of_sending sends)

/-- A one-byte limit: a push of one byte fills the budget, and the next finds no permit. -/
theorem budget_sound_one :
    ∃ outbox : Outbox, outbox.budget.available = 0 ∧ outbox.queue = [⟨.binary [0], 65⟩] ∧
      outbox.budget.outstanding ≤ 65 := by
  have reached : (machine .greedy oneByteLimits).run
      [.pushes (.binary [0]), .sends ⟨.binary [0], 65⟩, .pushes (.binary [])] =
        some
          { budget := ⟨0, [], [65]⟩
            permits := []
            sending := []
            queue := [⟨.binary [0], 65⟩]
            receiverAlive := true } := rfl
  exact ⟨_, rfl, rfl, (budget_sound .greedy oneByteLimits _ _ reached).2.1⟩

end Outbox

end WebSocket
end Pyronova
