import Pyronova.WebSocket.Connection

/-!
# The inbound direction

Messages wait for the handler in a channel, and one refused by a typed receive waits in a side slot
in front of it.  The order of delivery follows the two together, so it is exact.  The byte budget
follows only the channel: a message parked in the side slot has given its permits back, and the
bound on the queued bytes holds exactly along the schedules that do not spend them again.
-/

namespace Pyronova
namespace WebSocket

/-! ## One receive -/

namespace Inbox

/-- The messages still queued for the handler, next first. -/
def pending (inbox : Inbox) : List WsMsg := inbox.held.toList ++ inbox.rx.map Queued.msg

/-- The permits the channel's messages hold. -/
def charged (inbox : Inbox) : Nat := (inbox.rx.map Queued.budget).sum

/-- What a receive that returns can do to the inbox, with its answer and the permits released. -/
inductive Receipt (method : RecvMethod) (senderGone : Bool) (before after : Inbox) :
    Except KindMismatch (Option PyData) → Nat → Prop
  | delivered (msg : WsMsg) {released : Nat} (head : before.pending = msg :: after.pending)
      (accepted : method.extract msg = .ok msg.toPy) (unheld : after.held = none)
      (channel : after.rx <:+ before.rx) (charge : before.charged = after.charged + released) :
      Receipt method senderGone before after (.ok (some msg.toPy)) released
  | refused (msg : WsMsg) {released : Nat} (head : before.pending.head? = some msg)
      (kept : after.pending = before.pending) (rejected : method.extract msg = .error msg)
      (held : after.held = some msg)
      (source : before.held = some msg ∧ released = 0 ∨
        ∃ queued ∈ before.rx, queued.msg = msg ∧ released = queued.budget)
      (channel : after.rx <:+ before.rx) (charge : before.charged = after.charged + released) :
      Receipt method senderGone before after
        (.error { method := method.name, got := msg.kind, len := msg.len }) released
  | closed (empty : before.pending = []) (gone : senderGone = true) (same : after = before) :
      Receipt method senderGone before after (.ok none) 0

/-- What every receive keeps: it only takes messages out, and releases what they were charged. -/
structure Frame (before after : Inbox) (released : Nat) : Prop where
  channel : after.rx <:+ before.rx
  pending : after.pending <:+ before.pending
  charge : before.charged = after.charged + released

theorem Receipt.frame {method : RecvMethod} {senderGone : Bool} {before after : Inbox}
    {answer : Except KindMismatch (Option PyData)} {released : Nat}
    (receipt : Receipt method senderGone before after answer released) :
    Frame before after released := by
  cases receipt with
  | delivered msg head _ _ channel charge =>
      exact ⟨channel, head ▸ List.suffix_cons _ _, charge⟩
  | refused msg _ kept _ _ _ channel charge => exact ⟨channel, kept ▸ List.suffix_rfl, charge⟩
  | closed _ _ same => exact same ▸ ⟨List.suffix_rfl, List.suffix_rfl, rfl⟩

theorem receipt_of_nextAs {inbox next : Inbox} {method : RecvMethod} {senderGone : Bool}
    {answer : Except KindMismatch (Option PyData)} {released : Nat}
    (returned : inbox.nextAs method senderGone = some ((answer, next), released)) :
    Receipt method senderGone inbox next answer released := by
  obtain ⟨rx, held⟩ := inbox
  cases held with
  | some msg =>
      simp only [nextAs, settle, Option.some.injEq, Prod.mk.injEq] at returned
      obtain ⟨settled, rfl⟩ := returned
      rcases method.extract_cases msg with accepted | rejected
      · simp only [accepted, Prod.mk.injEq] at settled
        obtain ⟨rfl, rfl⟩ := settled
        exact .delivered msg rfl accepted rfl List.suffix_rfl rfl
      · simp only [rejected, Prod.mk.injEq] at settled
        obtain ⟨rfl, rfl⟩ := settled
        exact .refused msg rfl rfl rejected rfl (.inl ⟨rfl, rfl⟩) List.suffix_rfl rfl
  | none =>
      cases rx with
      | nil =>
          simp only [nextAs] at returned
          split at returned
          · rename_i gone
            simp only [Option.some.injEq, Prod.mk.injEq] at returned
            obtain ⟨⟨rfl, rfl⟩, rfl⟩ := returned
            exact .closed rfl gone rfl
          · simp at returned
      | cons queued rest =>
          have charge : charged { rx := queued :: rest, held := none } =
              (rest.map Queued.budget).sum + queued.budget := by
            simp [charged, Nat.add_comm]
          simp only [nextAs, settle, Option.some.injEq, Prod.mk.injEq] at returned
          obtain ⟨settled, rfl⟩ := returned
          rcases method.extract_cases queued.msg with accepted | rejected
          · simp only [accepted, Prod.mk.injEq] at settled
            obtain ⟨rfl, rfl⟩ := settled
            exact .delivered queued.msg rfl accepted rfl (List.suffix_cons _ _) charge
          · simp only [rejected, Prod.mk.injEq] at settled
            obtain ⟨rfl, rfl⟩ := settled
            exact .refused queued.msg rfl rfl rejected rfl
              (.inr ⟨queued, List.mem_cons_self, rfl, rfl⟩) (List.suffix_cons _ _) charge

end Inbox

/-! ## What one event does to the inbound side -/

namespace Connection

/-- The fields the inbound invariants read. -/
structure InboundUnchanged (before after : Connection) : Prop where
  inbox : after.inbox = before.inbox
  budget : after.incomingBudget = before.incomingBudget
  arrivals : after.arrivals = before.arrivals
  answers : after.answers = before.answers

/-- Everything one event can do to the inbound side. -/
inductive InboundEffect (limits : WsLimits) (before after : Connection) :
    ConnectionEvent → Prop
  /-- The queue is left alone.  A message the pump takes up is within the limit, an ended pump
  stays ended, and only a live handler takes the lock. -/
  | unchanged {event} (same : InboundUnchanged before after)
      (alive : after.handlerAlive = before.handlerAlive)
      (forwarding : ∀ msg, after.pump = .forwarding msg →
        before.pump = .forwarding msg ∨ msg.len ≤ limits.maxMessageBytes)
      (ended : before.pump.isEnded → after.pump.isEnded)
      (lock : after.inboxLock.isSome → before.inboxLock.isSome ∨ before.handlerAlive) :
      InboundEffect limits before after event
  | queued (msg : WsMsg) (pump : before.pump = .forwarding msg) (alive : before.handlerAlive)
      (fits : ByteBudget.cost msg.len ≤ before.incomingBudget)
      (result : after =
        before.forward msg (before.incomingBudget - ByteBudget.cost msg.len)) :
      InboundEffect limits before after .forwards
  | received (thread : Nat) (method : RecvMethod)
      (answer : Except KindMismatch (Option PyData)) (inbox : Inbox) (released : Nat)
      (lock : before.inboxLock = some (thread, method))
      (receipt : Inbox.Receipt method before.pump.isEnded before.inbox inbox answer released)
      (result : after =
        { before with
          inbox
          incomingBudget := before.incomingBudget + released
          inboxLock := none
          answers := before.answers ++ [(thread, method, answer)] }) :
      InboundEffect limits before after .receives
  | exited (lock : before.inboxLock = none) (result : after = before.exit) :
      InboundEffect limits before after .handlerExits

theorem inboundEffect_of_step {limits : WsLimits} {before after : Connection}
    {event : ConnectionEvent} (fired : before.step limits event = some after) :
    InboundEffect limits before after event := by
  have same : InboundUnchanged before before := ⟨rfl, rfl, rfl, rfl⟩
  cases transition_of_step fired with
  | arrives pump small =>
      have ended (item : SocketItem) :
          before.pump.isEnded → (before.onItem item).pump.isEnded := by
        simp [pump, PumpPhase.isEnded]
      rename_i item
      cases item with
      | data msg =>
          refine .unchanged ⟨rfl, rfl, rfl, rfl⟩ rfl ?_ (ended _) .inl
          intro other forwarding
          simp only [onItem, PumpPhase.forwarding.injEq] at forwarding
          exact .inr (forwarding ▸ small)
      | control => exact .unchanged same rfl (fun _ => .inl) id .inl
      | ended | overCapacity =>
          exact .unchanged ⟨rfl, rfl, rfl, rfl⟩ rfl (by simp [onItem]) (ended _) .inl
  | forwards pump fits =>
      by_cases alive : before.handlerAlive
      · exact .queued _ pump alive fits rfl
      · simp only [forward, alive, Bool.false_eq_true, if_false]
        exact .unchanged ⟨rfl, rfl, rfl, rfl⟩ (by simp [alive]) (by simp) (fun _ => rfl) .inl
  | takes pump | sends pump =>
      exact .unchanged ⟨rfl, rfl, rfl, rfl⟩ rfl (by simp) (by simp [pump, PumpPhase.isEnded]) .inl
  | finishes | sendFails =>
      exact .unchanged ⟨rfl, rfl, rfl, rfl⟩ rfl (by simp) (fun _ => rfl) .inl
  | locks alive =>
      exact .unchanged ⟨rfl, rfl, rfl, rfl⟩ rfl (fun _ => .inl) id (fun _ => .inr alive)
  | receives lock returned => exact .received _ _ _ _ _ lock (Inbox.receipt_of_nextAs returned) rfl
  | handlerExits alive free => exact .exited free rfl
  | refuses => exact .unchanged same rfl (fun _ => .inl) id .inl
  | connectionDrops | pushes | closes | socketBecomes =>
      exact .unchanged ⟨rfl, rfl, rfl, rfl⟩ rfl (fun _ => .inl) id .inl

/-! ## Delivery in order -/

/-- What a receive's answer hands to its caller. -/
def payload : Except KindMismatch (Option PyData) → Option PyData
  | .ok data => data
  | .error _ => none

/-- Everything the finished receives handed out, in order. -/
def delivered (connection : Connection) : List PyData :=
  connection.answers.filterMap fun entry => payload entry.2.2

/-- Some receive answered `None`. -/
def ToldClosed (connection : Connection) : Prop :=
  ∃ entry ∈ connection.answers, entry.2.2 = .ok none

/-- The queue holds exactly the arrivals that were not delivered yet. -/
structure Ordered (connection : Connection) : Prop where
  lock : connection.inboxLock.isSome → connection.handlerAlive
  ledger : connection.handlerAlive →
    connection.arrivals.map WsMsg.toPy =
      connection.delivered ++ connection.inbox.pending.map WsMsg.toPy
  delivered_prefix : connection.delivered <+: connection.arrivals.map WsMsg.toPy
  closed : connection.ToldClosed →
    connection.pump.isEnded ∧ connection.delivered = connection.arrivals.map WsMsg.toPy

theorem Ordered.new (limits : WsLimits) : (Connection.new limits).Ordered where
  lock := by simp [Connection.new]
  ledger := fun _ => rfl
  delivered_prefix := List.nil_prefix
  closed := by simp [Connection.new, ToldClosed]

theorem Ordered.queue {connection : Connection} (ordered : connection.Ordered) {msg : WsMsg}
    {left : Nat} (alive : connection.handlerAlive) (pump : connection.pump = .forwarding msg) :
    (connection.forward msg left).Ordered := by
  have open_pump : ¬ connection.ToldClosed := by
    intro told
    simpa [pump, PumpPhase.isEnded] using (ordered.closed told).1
  have ledger := ordered.ledger alive
  simp only [forward, alive, if_true]
  constructor
  · intro _
    rfl
  · intro _
    change (connection.arrivals ++ [msg]).map WsMsg.toPy = connection.delivered ++ _
    rw [List.map_append, ledger]
    simp [Inbox.pending]
  · change connection.delivered <+: (connection.arrivals ++ [msg]).map WsMsg.toPy
    rw [List.map_append]
    exact ordered.delivered_prefix.trans (List.prefix_append _ _)
  · intro told
    exact absurd told open_pump

theorem Ordered.receive {connection after : Connection} (ordered : connection.Ordered)
    {thread : Nat} {method : RecvMethod} {answer : Except KindMismatch (Option PyData)}
    {inbox : Inbox} {released : Nat} (lock : connection.inboxLock = some (thread, method))
    (receipt :
      Inbox.Receipt method connection.pump.isEnded connection.inbox inbox answer released)
    (result : after =
      { connection with
        inbox
        incomingBudget := connection.incomingBudget + released
        inboxLock := none
        answers := connection.answers ++ [(thread, method, answer)] }) :
    after.Ordered := by
  have alive : connection.handlerAlive := ordered.lock (by simp [lock])
  have ledger := ordered.ledger alive
  have grown : after.delivered = connection.delivered ++ (payload answer).toList := by
    subst result
    cases payload_eq : payload answer <;> simp [delivered, payload_eq]
  have arrivals : after.arrivals = connection.arrivals := by subst result; rfl
  have pending : after.inbox = inbox := by subst result; rfl
  -- Whatever the answer was, delivered and pending messages together are the arrivals.
  have after_ledger : connection.arrivals.map WsMsg.toPy =
      after.delivered ++ inbox.pending.map WsMsg.toPy := by
    rw [grown, ledger]
    cases receipt with
    | delivered msg head => simp [head, payload]
    | refused msg _ kept => simp [kept, payload]
    | closed empty _ same => simp [same, payload]
  constructor
  · subst result
    simp
  · intro _
    rw [arrivals, pending]
    exact after_ledger
  · rw [arrivals, after_ledger]
    exact List.prefix_append _ _
  · rintro ⟨entry, member, told⟩
    rw [arrivals]
    have pump : after.pump = connection.pump := by subst result; rfl
    rw [pump]
    have earlier_or_now : entry ∈ connection.answers ∨ entry = (thread, method, answer) := by
      subst result
      simpa using member
    rcases earlier_or_now with earlier | rfl
    · obtain ⟨ended, complete⟩ := ordered.closed ⟨entry, earlier, told⟩
      have drained : connection.inbox.pending = [] := by
        rw [complete] at ledger
        simpa using ledger
      cases receipt with
      | delivered msg head => simp [drained] at head
      | refused msg head => simp [drained] at head
      | closed => exact ⟨ended, by rw [grown]; simpa [payload] using complete⟩
    · simp only at told
      subst told
      cases receipt with
      | closed empty gone same =>
          refine ⟨gone, ?_⟩
          rw [after_ledger, same, empty]
          simp

theorem Ordered.step {limits : WsLimits} {before after : Connection} {event : ConnectionEvent}
    (ordered : before.Ordered) (fired : before.step limits event = some after) :
    after.Ordered := by
  cases inboundEffect_of_step fired with
  | unchanged same alive _ ended lock =>
      have delivered_eq : after.delivered = before.delivered := by
        simp [delivered, same.answers]
      constructor
      · intro held
        rw [alive]
        exact (lock held).elim ordered.lock id
      · rw [alive, delivered_eq, same.arrivals, same.inbox]
        exact ordered.ledger
      · rw [delivered_eq, same.arrivals]
        exact ordered.delivered_prefix
      · intro told
        rw [delivered_eq, same.arrivals]
        have earlier : before.ToldClosed := by simpa [ToldClosed, same.answers] using told
        exact ⟨ended (ordered.closed earlier).1, (ordered.closed earlier).2⟩
  | queued msg pump alive _ result => exact result ▸ ordered.queue alive pump
  | received thread method answer inbox released lock receipt result =>
      exact ordered.receive lock receipt result
  | exited lock result =>
      subst result
      exact ⟨by simp [exit, lock], by simp [exit], ordered.delivered_prefix, ordered.closed⟩

/-- What the receive of `thread` must answer, given the messages that wait. -/
def Answers (before after : Connection) (thread : Nat) (method : RecvMethod) : Prop :=
  match before.inbox.pending with
  | [] =>
      before.pump.isEnded ∧ after.inbox.pending = [] ∧
        after.answers = before.answers ++ [(thread, method, .ok none)]
  | msg :: rest =>
      if method.accepts msg then
        after.inbox.pending = rest ∧
          after.answers = before.answers ++ [(thread, method, .ok (some msg.toPy))]
      else
        after.inbox.pending = msg :: rest ∧
          after.answers = before.answers ++
            [(thread, method,
              .error { method := method.name, got := msg.kind, len := msg.len })]

theorem answers_of_receive {limits : WsLimits} {before after : Connection}
    (fired : before.step limits .receives = some after) :
    ∃ thread method, before.inboxLock = some (thread, method) ∧
      Answers before after thread method := by
  cases inboundEffect_of_step fired with
  | unchanged same _ _ _ lock =>
      -- A receive that returns always appends its answer.
      obtain ⟨⟨thread, method⟩, held, fired⟩ := Option.bind_eq_some_iff.mp fired
      obtain ⟨⟨⟨answer, inbox⟩, released⟩, _, fired⟩ := Option.bind_eq_some_iff.mp fired
      have answers := same.answers
      rw [← Option.some.inj fired] at answers
      simp at answers
  | received thread method answer inbox released lock receipt result =>
      refine ⟨thread, method, lock, ?_⟩
      subst result
      cases receipt with
      | delivered msg head accepted =>
          simp [Answers, head, RecvMethod.accepts_of_extract_ok accepted]
      | refused msg head kept rejected =>
          obtain ⟨rest, pending⟩ := List.head?_eq_some_iff.mp head
          simp [Answers, kept, pending, RecvMethod.accepts_of_extract_error rejected]
      | closed empty gone same => simp [Answers, empty, gone, same]

/-- A receive that has the lock returns if a message waits or none can come. -/
theorem exists_receives {limits : WsLimits} {before : Connection} {thread : Nat}
    {method : RecvMethod} (lock : before.inboxLock = some (thread, method))
    (ready : before.inbox.pending ≠ [] ∨ before.pump.isEnded) :
    ∃ after, before.step limits .receives = some after := by
  suffices returns : ∃ result, before.inbox.nextAs method before.pump.isEnded = some result by
    obtain ⟨⟨⟨answer, inbox⟩, released⟩, returned⟩ := returns
    exact Option.isSome_iff_exists.mp (by simp [step, receive, lock, returned])
  cases held : before.inbox.held with
  | some msg => exact ⟨_, by rw [Inbox.nextAs, held]⟩
  | none =>
      cases queue : before.inbox.rx with
      | cons queued rest => exact ⟨_, by rw [Inbox.nextAs, held, queue]⟩
      | nil =>
          have ended : before.pump.isEnded :=
            ready.resolve_left fun waits => waits (by rw [Inbox.pending, held, queue]; rfl)
          exact ⟨_, by rw [Inbox.nextAs, held, queue, if_pos ended]⟩

end Connection

/-- In every reachable state the receives have handed out the arrivals in order, each once and with
no gap; a refused message stays next, `None` is answered only once the sender is gone and
everything queued was delivered, and a receive returns where a message waits or the sender is
gone. -/
theorem receives_deliver_arrivals (limits : WsLimits) {connection : Connection}
    (reachable : (connectionMachine limits).Reachable connection) :
    connection.delivered <+: connection.arrivals.map WsMsg.toPy ∧
      (connection.handlerAlive →
        connection.arrivals.map WsMsg.toPy =
          connection.delivered ++ connection.inbox.pending.map WsMsg.toPy) ∧
      (connection.ToldClosed →
        connection.pump.isEnded ∧
          connection.delivered = connection.arrivals.map WsMsg.toPy) ∧
      (∀ after, connection.step limits .receives = some after →
        ∃ thread method, connection.inboxLock = some (thread, method) ∧
          connection.Answers after thread method) ∧
      ∀ thread method, connection.inboxLock = some (thread, method) →
        (connection.inbox.pending ≠ [] ∨ connection.pump.isEnded) →
          ∃ after, connection.step limits .receives = some after := by
  have ordered := reachable.invariant (Connection.Ordered.new limits)
    (fun ordered fired => ordered.step fired)
  exact ⟨ordered.delivered_prefix, ordered.ledger, ordered.closed,
    fun _ fired => Connection.answers_of_receive fired,
    fun _ _ lock ready => Connection.exists_receives lock ready⟩

/-- A binary message refused by `recv`, then read by another thread before the text behind it. -/
def refusedThenRead : List ConnectionEvent :=
  [.arrives (.data (.binary [1, 2, 3])), .forwards, .arrives (.data (.text "hi")), .forwards,
    .locks 0 .recv, .receives, .locks 1 .recvBytes, .receives, .locks 0 .recv, .receives,
    .arrives .ended, .locks 0 .recv, .receives]

theorem receives_deliver_arrivals_refusedThenRead :
    ∃ connection, (connectionMachine .DEFAULT).run refusedThenRead = some connection ∧
      connection.delivered = [.bytes [1, 2, 3], .str "hi"] ∧ connection.ToldClosed ∧
      connection.delivered = connection.arrivals.map WsMsg.toPy := by
  refine ⟨_, rfl, rfl, ⟨(0, .recv, .ok none), by simp, rfl⟩, ?_⟩
  exact ((receives_deliver_arrivals .DEFAULT ⟨refusedThenRead, rfl⟩).2.2.1
    ⟨(0, .recv, .ok none), by simp, rfl⟩).2

/-! ## Bytes queued -/

namespace Inbox

/-- Payload and overhead of every message still queued for the handler. -/
def queuedBytes (inbox : Inbox) : Nat :=
  (inbox.pending.map fun msg => msg.len + MESSAGE_OVERHEAD_BYTES).sum

/-- Payload and overhead of the message in the side slot. -/
def heldBytes (inbox : Inbox) : Nat :=
  (inbox.held.map fun msg => msg.len + MESSAGE_OVERHEAD_BYTES).getD 0

end Inbox

namespace Connection

/-- The channel's messages and the free permits make up the whole budget. -/
structure Budgeted (limits : WsLimits) (connection : Connection) : Prop where
  permits : connection.incomingBudget + connection.inbox.charged =
    limits.maxMessageBytes + MESSAGE_OVERHEAD_BYTES
  cost : ∀ queued ∈ connection.inbox.rx,
    queued.budget = queued.msg.len + MESSAGE_OVERHEAD_BYTES
  small : ∀ msg ∈ connection.inbox.pending, msg.len ≤ limits.maxMessageBytes
  forwarding : ∀ msg, connection.pump = .forwarding msg → msg.len ≤ limits.maxMessageBytes

theorem cost_of_small {limits : WsLimits} {msg : WsMsg}
    (small : msg.len ≤ limits.maxMessageBytes) :
    ByteBudget.cost msg.len = msg.len + MESSAGE_OVERHEAD_BYTES :=
  ByteBudget.cost_eq (small.trans limits.messageBytes_le)

theorem Budgeted.new (limits : WsLimits) : (Connection.new limits).Budgeted limits where
  permits := ByteBudget.new_eq limits.messageBytes_le
  cost := by simp [Connection.new]
  small := by simp [Connection.new, Inbox.pending]
  forwarding := by simp [Connection.new]

/-- The bytes queued are those the budget charges and those it has let go of. -/
theorem Budgeted.queuedBytes_eq {limits : WsLimits} {connection : Connection}
    (budgeted : connection.Budgeted limits) :
    connection.inbox.queuedBytes = connection.inbox.heldBytes + connection.inbox.charged := by
  have channel : (connection.inbox.rx.map fun queued =>
      queued.msg.len + MESSAGE_OVERHEAD_BYTES).sum = connection.inbox.charged := by
    rw [Inbox.charged]
    congr 1
    exact List.map_congr_left fun queued member => (budgeted.cost queued member).symm
  rw [← channel, Inbox.queuedBytes, Inbox.pending, Inbox.heldBytes]
  cases connection.inbox.held <;> simp [Function.comp_def]

/-- The bound on the queued bytes asks that the permits left cover the message set aside. -/
theorem Budgeted.bounded_iff {limits : WsLimits} {connection : Connection}
    (budgeted : connection.Budgeted limits) :
    connection.inbox.queuedBytes ≤ limits.maxMessageBytes + MESSAGE_OVERHEAD_BYTES ↔
      connection.inbox.heldBytes ≤ connection.incomingBudget := by
  rw [budgeted.queuedBytes_eq, ← budgeted.permits]
  omega

theorem Budgeted.queue {limits : WsLimits} {connection : Connection} {msg : WsMsg}
    (budgeted : connection.Budgeted limits) (alive : connection.handlerAlive)
    (pump : connection.pump = .forwarding msg)
    (fits : ByteBudget.cost msg.len ≤ connection.incomingBudget) :
    (connection.forward msg (connection.incomingBudget - ByteBudget.cost msg.len)).Budgeted
      limits := by
  have small := budgeted.forwarding msg pump
  have cost := cost_of_small small
  simp only [forward, alive, if_true]
  constructor
  · have permits := budgeted.permits
    simp only [Inbox.charged, List.map_append, List.map_cons, List.map_nil, List.sum_append,
      List.sum_cons, List.sum_nil] at permits ⊢
    omega
  · intro queued member
    rcases List.mem_append.mp member with earlier | latest
    · exact budgeted.cost queued earlier
    · obtain rfl := List.mem_singleton.mp latest
      exact cost
  · intro other member
    have earlier_or_new : other ∈ connection.inbox.pending ∨ other = msg := by
      simpa [Inbox.pending, or_assoc] using member
    rcases earlier_or_new with earlier | rfl
    · exact budgeted.small other earlier
    · exact small
  · simp

theorem Budgeted.step {limits : WsLimits} {before after : Connection} {event : ConnectionEvent}
    (budgeted : before.Budgeted limits) (fired : before.step limits event = some after) :
    after.Budgeted limits := by
  cases inboundEffect_of_step fired with
  | unchanged same _ forwarding =>
      refine ⟨?_, ?_, ?_, ?_⟩
      · rw [same.budget, same.inbox]
        exact budgeted.permits
      · rw [same.inbox]
        exact budgeted.cost
      · rw [same.inbox]
        exact budgeted.small
      · intro msg pump
        exact (forwarding msg pump).elim (budgeted.forwarding msg) id
  | queued msg pump alive fits result => exact result ▸ budgeted.queue alive pump fits
  | received thread method answer inbox released lock receipt result =>
      subst result
      have permits := budgeted.permits
      have frame := receipt.frame
      refine ⟨?_, ?_, ?_, budgeted.forwarding⟩
      · have charge := frame.charge
        simp only
        omega
      · intro queued member
        exact budgeted.cost queued (frame.channel.mem member)
      · intro msg member
        exact budgeted.small msg (frame.pending.mem member)
  | exited lock result =>
      subst result
      have permits := budgeted.permits
      exact ⟨by simpa [exit, Inbox.charged] using permits, by simp [exit],
        by simp [exit, Inbox.pending], budgeted.forwarding⟩

/-- The message the pump is about to queue leaves the message set aside its share of the budget. -/
def FitsBesideHeld (connection : Connection) (event : ConnectionEvent) : Prop :=
  ∀ msg held, event = .forwards → connection.pump = .forwarding msg → connection.handlerAlive →
    connection.inbox.held = some held →
    ByteBudget.cost msg.len ≤ connection.incomingBudget →
      ByteBudget.cost msg.len + ByteBudget.cost held.len ≤ connection.incomingBudget

/-- The permits left cover the message set aside, and keep covering it while no message is queued
on top of them. -/
theorem heldBytes_le_step {limits : WsLimits} {before after : Connection}
    {event : ConnectionEvent} (budgeted : before.Budgeted limits)
    (covered : before.inbox.heldBytes ≤ before.incomingBudget)
    (conditioned : before.FitsBesideHeld event)
    (fired : before.step limits event = some after) :
    after.inbox.heldBytes ≤ after.incomingBudget := by
  cases inboundEffect_of_step fired with
  | unchanged same =>
      rw [same.inbox, same.budget]
      exact covered
  | queued msg pump alive fits result =>
      subst result
      simp only [forward, alive, if_true]
      cases held_eq : before.inbox.held with
      | none => simp [Inbox.heldBytes]
      | some held =>
          have room := conditioned msg held rfl pump alive held_eq fits
          have small : held.len ≤ limits.maxMessageBytes :=
            budgeted.small held (by simp [Inbox.pending, held_eq])
          rw [cost_of_small small] at room
          simp only [Inbox.heldBytes, Option.map_some, Option.getD_some]
          omega
  | received thread method answer inbox released lock receipt result =>
      subst result
      simp only
      cases receipt with
      | delivered _ _ _ unheld => simp [Inbox.heldBytes, unheld]
      | refused msg _ _ _ held source =>
          rcases source with ⟨same, rfl⟩ | ⟨queued, member, rfl, rfl⟩
          · simpa [Inbox.heldBytes, held, same] using covered
          · have cost := budgeted.cost queued member
            simp only [Inbox.heldBytes, held, Option.map_some, Option.getD_some]
            omega
      | closed _ _ same => simpa [same] using covered
  | exited _ result =>
      subst result
      simp [exit, Inbox.heldBytes]

end Connection

/-- The bytes queued for the handler stay within the budget along a schedule exactly when every
message queued behind one that a typed receive refused fits beside it. -/
theorem queuedBytes_bounded_iff (limits : WsLimits) (schedule : List ConnectionEvent) :
    (connectionMachine limits).AllStates
        (fun connection => connection.inbox.queuedBytes ≤
          limits.maxMessageBytes + MESSAGE_OVERHEAD_BYTES) schedule ↔
      (connectionMachine limits).AllSteps Connection.FitsBesideHeld schedule := by
  have budgeted : (connectionMachine limits).AllStates (Connection.Budgeted limits) schedule :=
    Machine.allStates_of_invariant (Connection.Budgeted.new limits)
      (fun budgeted fired => budgeted.step fired) schedule
  constructor
  · intro bounded front event initial before reached msg held forwards pump alive held_eq fits
    subst forwards
    have before_budgeted := budgeted front ((List.prefix_append _ _).trans initial) before reached
    let after := before.forward msg (before.incomingBudget - ByteBudget.cost msg.len)
    have fired : (connectionMachine limits).step before .forwards = some after := by
      simp [connectionMachine, Connection.step, pump, ByteBudget.tryReserve, fits, after]
    have execution := Machine.run_concat_eq_some.mpr ⟨before, reached, fired⟩
    have covered := (budgeted _ initial after execution).bounded_iff.mp
      (bounded _ initial after execution)
    have small : held.len ≤ limits.maxMessageBytes :=
      before_budgeted.small held (by simp [Inbox.pending, held_eq])
    rw [Connection.cost_of_small small]
    simp only [after, Connection.forward, alive, if_true, Inbox.heldBytes, held_eq,
      Option.map_some, Option.getD_some] at covered
    omega
  · intro conditioned
    have covered : (connectionMachine limits).AllStates
        (fun connection => connection.Budgeted limits ∧
          connection.inbox.heldBytes ≤ connection.incomingBudget) schedule := by
      refine Machine.allStates_of_allSteps ?_ ?_ conditioned
      · exact ⟨Connection.Budgeted.new limits, Nat.zero_le _⟩
      · intro before after event holds safe fired
        exact ⟨holds.1.step fired, Connection.heldBytes_le_step holds.1 holds.2 safe fired⟩
    intro front initial connection reached
    obtain ⟨holds, room⟩ := covered front initial connection reached
    exact holds.bounded_iff.mpr room

/-- An empty message refused by `recv`, then a one-byte message queued behind it. -/
def queuedBehindRefused : List ConnectionEvent :=
  [.arrives (.data (.binary [])), .forwards, .locks 0 .recv, .receives,
    .arrives (.data (.binary [7])), .forwards]

/-- With a budget of 65 bytes, 129 are queued. -/
theorem queuedBehindRefused_exceeds_budget :
    ((connectionMachine oneByteLimits).run queuedBehindRefused).map
        (fun connection => connection.inbox.queuedBytes) = some 129 ∧
      oneByteLimits.maxMessageBytes + MESSAGE_OVERHEAD_BYTES = 65 ∧
      ¬ (connectionMachine oneByteLimits).AllStates
        (fun connection => connection.inbox.queuedBytes ≤
          oneByteLimits.maxMessageBytes + MESSAGE_OVERHEAD_BYTES) queuedBehindRefused := by
  refine ⟨rfl, rfl, fun bounded => ?_⟩
  have excess := bounded queuedBehindRefused (List.prefix_refl _) _ rfl
  revert excess
  decide

end WebSocket
end Pyronova
