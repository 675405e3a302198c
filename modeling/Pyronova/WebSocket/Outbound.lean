import Pyronova.WebSocket.Connection

/-!
# The outbound direction

The pump is one select loop.  While its inbound arm waits for the byte budget, which only the
handler's receives refill, the outbound arm is not polled: a handler that sends, or closes, without
receiving waits for itself.  The pump makes progress on the outgoing side exactly when it does not
stand in a `forward` that cannot complete.
-/

namespace Pyronova
namespace WebSocket
namespace Connection

/-- The pump takes this step by itself, with no call of the handler and nothing from the client. -/
def PumpStep : ConnectionEvent → Prop
  | .forwards | .takes | .sends | .sendFails => True
  | _ => False

/-- A message moved towards the wire, or the pump ended with nothing left to send. -/
def OutgoingProgress (before after : Connection) : Prop :=
  after.outgoing.length < before.outgoing.length ∨ before.wire.length < after.wire.length ∨
    before.outgoing = [] ∧ after.pump.isEnded

/-- The socket is open and writable, and there is a message to send or a closed outbox to act on. -/
def OutgoingPending (connection : Connection) : Prop :=
  connection.pump.isEnded = false ∧ connection.socket = .writable ∧
    (connection.outgoing ≠ [] ∨ connection.outboxOpen = false)

/-- Steps of the pump alone lead to progress on the outgoing side. -/
def PumpProgresses (limits : WsLimits) (connection : Connection) : Prop :=
  ∃ schedule, (∀ event ∈ schedule, PumpStep event) ∧
    ∃ after, (connectionMachine limits).runFrom connection schedule = some after ∧
      connection.OutgoingProgress after

/-- The pump stands in a `forward` that waits for permits, or that will end the pump with messages
still to send because the handler is gone. -/
def Stuck (connection : Connection) : Prop :=
  ∃ msg, connection.pump = .forwarding msg ∧
    (connection.incomingBudget < ByteBudget.cost msg.len ∨
      connection.handlerAlive = false ∧ connection.outgoing ≠ [])

/-! ## Progress from one state -/

theorem progresses_selecting (limits : WsLimits) {connection : Connection}
    (pending : connection.OutgoingPending) (pump : connection.pump = .selecting) :
    ∃ after, connection.step limits .takes = some after ∧ connection.OutgoingProgress after := by
  cases outgoing : connection.outgoing with
  | cons queued rest =>
      refine ⟨{ connection with pump := .sending queued, outgoing := rest }, ?_, .inl ?_⟩
      · simp [step, pump, outgoing]
      · simp [outgoing]
  | nil =>
      have closed : connection.outboxOpen = false := by
        simpa [outgoing] using pending.2.2
      refine ⟨{ connection with pump := .ended none }, ?_, .inr (.inr ⟨outgoing, rfl⟩)⟩
      simp [step, pump, outgoing, closed]

/-- One step of the pump can be all the progress there is. -/
theorem PumpProgresses.of_step {limits : WsLimits} {connection after : Connection}
    {event : ConnectionEvent} (fired : connection.step limits event = some after)
    (own : PumpStep event)
    (progress : connection.OutgoingProgress after) : connection.PumpProgresses limits := by
  refine ⟨[event], ?_, after, ?_, progress⟩
  · simpa using own
  · simp [Machine.runFrom, connectionMachine, fired]

theorem progresses_of_not_stuck {limits : WsLimits} {connection : Connection}
    (pending : connection.OutgoingPending) (free : ¬ connection.Stuck) :
    connection.PumpProgresses limits := by
  cases pump : connection.pump with
  | selecting =>
      obtain ⟨after, fired, progress⟩ := progresses_selecting limits pending pump
      exact .of_step fired trivial progress
  | sending queued =>
      have fired : connection.step limits .sends = some
          { connection with
            pump := .selecting
            outgoingBudget := connection.outgoingBudget + queued.budget
            wire := connection.wire ++ [queued.msg] } := by
        simp [step, pump, pending.2.1]
      have longer : connection.wire.length < (connection.wire ++ [queued.msg]).length := by simp
      exact .of_step fired trivial (.inr (.inl longer))
  | ended frame => simp [OutgoingPending, pump, PumpPhase.isEnded] at pending
  | forwarding msg =>
      have fits : ByteBudget.cost msg.len ≤ connection.incomingBudget := by
        by_contra waiting
        apply free
        exact ⟨msg, pump, .inl (Nat.lt_of_not_le waiting)⟩
      let left := connection.incomingBudget - ByteBudget.cost msg.len
      have forwards : connection.step limits .forwards = some (connection.forward msg left) := by
        simp [step, pump, ByteBudget.tryReserve, fits, left]
      by_cases alive : connection.handlerAlive
      · -- The message is handed over, and the select is back at its outgoing arm.
        have pump' : (connection.forward msg left).pump = .selecting := by simp [forward, alive]
        have pending' : (connection.forward msg left).OutgoingPending := by
          simpa [OutgoingPending, forward, alive, pump, PumpPhase.isEnded] using pending
        obtain ⟨after, fired, progress⟩ := progresses_selecting limits pending' pump'
        have own : ∀ event ∈ [ConnectionEvent.forwards, .takes], PumpStep event := by
          simp [PumpStep]
        refine ⟨[.forwards, .takes], own, after, ?_, ?_⟩
        · simp [Machine.runFrom, connectionMachine, forwards, fired]
        · simpa [OutgoingProgress, forward, alive] using progress
      · have drained : connection.outgoing = [] := by
          by_contra waiting
          apply free
          exact ⟨msg, pump, .inr ⟨Bool.eq_false_of_not_eq_true alive, waiting⟩⟩
        have ended : (connection.forward msg left).pump.isEnded := by
          simp [forward, alive, PumpPhase.isEnded]
        exact .of_step forwards trivial (.inr (.inr ⟨drained, ended⟩))

/-- A pump that stands in a `forward` it cannot complete makes no progress by itself. -/
theorem not_stuck_of_progresses {limits : WsLimits} {connection : Connection}
    (progresses : connection.PumpProgresses limits) : ¬ connection.Stuck := by
  rintro ⟨msg, pump, blocked⟩
  obtain ⟨schedule, alone, after, execution, progress⟩ := progresses
  -- Only `forwards` can fire here, and it ends a pump whose handler is gone.
  have only (event : ConnectionEvent) (own : PumpStep event) {next : Connection}
      (fired : connection.step limits event = some next) :
      next = { connection with pump := .ended none } ∧ connection.outgoing ≠ [] := by
    cases event <;> simp only [PumpStep] at own <;> simp only [step, pump] at fired
    case forwards =>
        obtain ⟨left, reserved, rfl⟩ := Option.map_eq_some_iff.mp fired
        have fits := (ByteBudget.tryReserve_eq_some.mp reserved).1
        rcases blocked with waiting | ⟨gone, unsent⟩
        · omega
        · exact ⟨by simp [forward, gone], unsent⟩
    all_goals simp at fired
  cases schedule with
  | nil =>
      obtain rfl := Option.some.inj execution
      simp [OutgoingProgress, pump, PumpPhase.isEnded] at progress
  | cons event schedule =>
      obtain ⟨next, fired, execution⟩ := Option.bind_eq_some_iff.mp execution
      obtain ⟨rfl, unsent⟩ := only event (alone event List.mem_cons_self) fired
      have final : after = { connection with pump := .ended none } := by
        cases schedule with
        | nil => exact (Option.some.inj execution).symm
        | cons event schedule =>
            obtain ⟨next, fired, -⟩ := Option.bind_eq_some_iff.mp execution
            have own := alone event (by simp)
            cases event <;> simp only [PumpStep] at own <;>
              simp [connectionMachine, step] at fired
      simp [OutgoingProgress, final, unsent] at progress

/-- In a state with something to do on the outgoing side, the pump makes progress exactly when it
does not stand in a `forward` that cannot complete. -/
theorem progresses_iff_not_stuck {limits : WsLimits} {connection : Connection}
    (pending : connection.OutgoingPending) :
    connection.PumpProgresses limits ↔ ¬ connection.Stuck :=
  ⟨not_stuck_of_progresses, progresses_of_not_stuck pending⟩

/-! ## Progress along a schedule -/

/-- The pump takes a message off the socket only where it can hand it on at once: the inbound
budget covers it, and the handler is there for it or nothing waits to be sent. -/
def ForwardsAtOnce (connection : Connection) : ConnectionEvent → Prop
  | .arrives (.data msg) =>
      ByteBudget.cost msg.len ≤ connection.incomingBudget ∧
        (connection.handlerAlive ∨ connection.outgoing = [])
  | .handlerExits =>
      (∀ msg, connection.pump ≠ .forwarding msg) ∨ connection.outgoing = []
  | _ => True

/-- A step that leaves the pump where it is, refunds permits at most and loses no handler sticks
nothing. -/
theorem Stuck.of_frame {before after : Connection} (stuck : after.Stuck)
    (pump : after.pump = before.pump) (budget : before.incomingBudget ≤ after.incomingBudget)
    (unsent : after.handlerAlive = false → after.outgoing ≠ [] →
      before.handlerAlive = false ∧ before.outgoing ≠ []) : before.Stuck := by
  obtain ⟨msg, forwarding, waiting | ⟨gone, queued⟩⟩ := stuck
  · exact ⟨msg, pump ▸ forwarding, .inl (by omega)⟩
  · exact ⟨msg, pump ▸ forwarding, .inr (unsent gone queued)⟩

/-- A pump that is not inside its first arm is not stuck. -/
theorem not_stuck_of_pump {connection : Connection}
    (elsewhere : ∀ msg, connection.pump ≠ .forwarding msg) : ¬ connection.Stuck := by
  rintro ⟨msg, pump, -⟩
  exact elsewhere msg pump

theorem not_stuck_step {limits : WsLimits} {before after : Connection}
    {event : ConnectionEvent} (free : ¬ before.Stuck) (conditioned : before.ForwardsAtOnce event)
    (fired : before.step limits event = some after) : ¬ after.Stuck := by
  intro stuck
  cases transition_of_step fired with
  | arrives pump small =>
      rename_i item
      cases item with
      | data msg =>
          obtain ⟨other, forwarding, blocked⟩ := stuck
          obtain rfl : msg = other := by simpa [onItem] using forwarding
          simp only [ForwardsAtOnce] at conditioned
          simp only [onItem] at blocked
          rcases blocked with waiting | ⟨gone, unsent⟩
          · omega
          · simp [gone, unsent] at conditioned
      | control => exact free stuck
      | ended | overCapacity => exact not_stuck_of_pump (by simp [onItem]) stuck
  | forwards pump fits =>
      apply not_stuck_of_pump _ stuck
      intro msg
      unfold forward
      split <;> simp
  | takes | finishes | sends | sendFails => exact not_stuck_of_pump (by simp) stuck
  | connectionDrops => exact free (stuck.of_frame rfl le_rfl (by simp))
  | receives =>
      apply free
      exact stuck.of_frame rfl (Nat.le_add_right _ _) fun gone unsent => ⟨gone, unsent⟩
  | pushes alive => exact free (stuck.of_frame rfl le_rfl (by simp [alive]))
  | handlerExits =>
      obtain ⟨msg, pump, waiting | ⟨-, unsent⟩⟩ := stuck
      · exact free ⟨msg, pump, .inl ((Nat.le_add_right _ _).trans_lt waiting)⟩
      · rcases conditioned with elsewhere | drained
        · exact elsewhere msg pump
        · exact unsent drained
  | locks | refuses | closes | socketBecomes => exact free stuck

end Connection

/-- Along every schedule in which the pump takes up only messages it can hand on at once, an open
and writable connection with something to send, or to close, makes progress by the pump alone. -/
theorem pump_progresses_along (limits : WsLimits) (schedule : List ConnectionEvent)
    (conditioned : (connectionMachine limits).AllSteps Connection.ForwardsAtOnce schedule) :
    (connectionMachine limits).AllStates
      (fun connection => connection.OutgoingPending → connection.PumpProgresses limits)
      schedule := by
  have free : (connectionMachine limits).AllStates
      (fun connection => ¬ connection.Stuck) schedule := by
    refine Machine.allStates_of_allSteps ?_ ?_ conditioned
    · exact Connection.not_stuck_of_pump (by simp [connectionMachine, Connection.new])
    · intro before after event holds safe fired
      exact Connection.not_stuck_step holds safe fired
  intro front initial connection reached pending
  exact Connection.progresses_of_not_stuck pending (free front initial connection reached)

/-- The handler answers a message it has not read yet, with room left in the inbound budget. -/
def answeredUnread : List ConnectionEvent :=
  [.arrives (.data (.text "ping")), .forwards, .pushes (.text "pong")]

theorem pump_progresses_answeredUnread :
    ∃ connection, (connectionMachine .DEFAULT).run answeredUnread = some connection ∧
      connection.OutgoingPending ∧ connection.PumpProgresses .DEFAULT := by
  have conditioned :
      (connectionMachine .DEFAULT).AllSteps Connection.ForwardsAtOnce answeredUnread := by
    apply Machine.MeetsFrom.allSteps
    exact ⟨⟨by decide, .inl rfl⟩, trivial, trivial, trivial⟩
  have pending : ∀ connection, (connectionMachine .DEFAULT).run answeredUnread = some connection →
      connection.OutgoingPending := by
    intro connection reached
    obtain rfl := Option.some.inj reached
    exact ⟨rfl, rfl, .inl (List.cons_ne_nil _ _)⟩
  refine ⟨_, rfl, pending _ rfl, ?_⟩
  exact pump_progresses_along .DEFAULT answeredUnread conditioned answeredUnread
    (List.prefix_refl _) _ rfl (pending _ rfl)

/-- A full inbound budget, one more message from the client, and a handler that sends. -/
def sentIntoFullInbox : List ConnectionEvent :=
  [.arrives (.data (.binary [7])), .forwards, .arrives (.data (.binary [])), .pushes (.text "")]

/-- The message to send waits although the socket is open and writable: the pump stands in
`forward` until the handler receives. -/
theorem sentIntoFullInbox_blocks_pump :
    ∃ connection, (connectionMachine oneByteLimits).run sentIntoFullInbox = some connection ∧
      connection.OutgoingPending ∧ ¬ connection.PumpProgresses oneByteLimits := by
  refine ⟨_, rfl, ⟨rfl, rfl, .inl (List.cons_ne_nil _ _)⟩, fun progresses => ?_⟩
  exact Connection.not_stuck_of_progresses progresses ⟨.binary [], rfl, .inl (by decide)⟩

end WebSocket
end Pyronova
