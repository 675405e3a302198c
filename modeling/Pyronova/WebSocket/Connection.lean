import Pyronova.Execution

/-!
# One WebSocket connection

A message pump on one side, a synchronous Python handler on the other, joined by two queues.  Each
queued message holds its bytes from the byte budget of its direction.  The machine below
interleaves the client, the pump, any number of handler threads and the calls they make; its ghost
fields log what was queued for the handler, what each receive answered and what went on the wire.
-/

namespace Pyronova
namespace WebSocket

/-! ## Limits -/

/-- Bytes charged per queued message on top of its payload. -/
def MESSAGE_OVERHEAD_BYTES : Nat := 64

/-- Largest `max_message_bytes`: its budget must fit the `u32` permit count of an acquire. -/
def MAX_MESSAGE_BYTES_LIMIT : Nat := 2 ^ 32 - 1 - MESSAGE_OVERHEAD_BYTES

inductive WsLimitError
  | messageSize (bytes : Int)
  | connections (count : Int)
  deriving DecidableEq, Repr

def WsLimitError.text : WsLimitError → String
  | .messageSize bytes =>
      s!"max_websocket_message_size must be between 1 and {MAX_MESSAGE_BYTES_LIMIT} bytes, " ++
        s!"got {bytes}"
  | .connections count => s!"max_websocket_connections must be at least 1, got {count}"

/-- The limits of one app, as its setters leave them. -/
structure WsLimits where
  maxMessageBytes : Nat
  maxConnections : Nat
  messageBytes_pos : 1 ≤ maxMessageBytes
  messageBytes_le : maxMessageBytes ≤ MAX_MESSAGE_BYTES_LIMIT
  connections_pos : 1 ≤ maxConnections

namespace WsLimits

/-- `WsLimits::DEFAULT`: 1 MiB messages, 1024 connections. -/
def DEFAULT : WsLimits where
  maxMessageBytes := 1024 * 1024
  maxConnections := 1024
  messageBytes_pos := by decide
  messageBytes_le := by decide
  connections_pos := by decide

/-- `with_max_message_bytes`. -/
def withMaxMessageBytes (limits : WsLimits) (bytes : Int) : Except WsLimitError WsLimits :=
  if valid : 1 ≤ bytes.toNat ∧ bytes.toNat ≤ MAX_MESSAGE_BYTES_LIMIT then
    .ok
      { limits with
        maxMessageBytes := bytes.toNat
        messageBytes_pos := valid.1
        messageBytes_le := valid.2 }
  else
    .error (.messageSize bytes)

/-- `with_max_connections`. -/
def withMaxConnections (limits : WsLimits) (connections : Int) : Except WsLimitError WsLimits :=
  if valid : 1 ≤ connections.toNat then
    .ok { limits with maxConnections := connections.toNat, connections_pos := valid }
  else
    .error (.connections connections)

end WsLimits

/-- `max_websocket_message_size = 1`. -/
def oneByteLimits : WsLimits :=
  { WsLimits.DEFAULT with
    maxMessageBytes := 1
    messageBytes_pos := by decide
    messageBytes_le := by decide }

namespace ByteBudget

/-- `ByteBudget::new`: the permits of a fresh semaphore, added in `u32`. -/
def new (maxMessageBytes : Nat) : Nat := (maxMessageBytes + MESSAGE_OVERHEAD_BYTES) % 2 ^ 32

/-- `ByteBudget::cost`: the permits a message of `len` bytes takes, added in `u32`. -/
def cost (len : Nat) : Nat := (len % 2 ^ 32 + MESSAGE_OVERHEAD_BYTES) % 2 ^ 32

/-- `try_reserve`, and a `reserve` that need not wait: the permits left after the acquire. -/
def tryReserve (available len : Nat) : Option Nat :=
  if cost len ≤ available then some (available - cost len) else none

theorem new_eq {maxMessageBytes : Nat} (allowed : maxMessageBytes ≤ MAX_MESSAGE_BYTES_LIMIT) :
    new maxMessageBytes = maxMessageBytes + MESSAGE_OVERHEAD_BYTES := by
  simp only [MAX_MESSAGE_BYTES_LIMIT, new, MESSAGE_OVERHEAD_BYTES] at *
  omega

theorem cost_eq {len : Nat} (allowed : len ≤ MAX_MESSAGE_BYTES_LIMIT) :
    cost len = len + MESSAGE_OVERHEAD_BYTES := by
  simp only [MAX_MESSAGE_BYTES_LIMIT, cost, MESSAGE_OVERHEAD_BYTES] at *
  omega

theorem tryReserve_eq_some {available len left : Nat} :
    tryReserve available len = some left ↔ cost len ≤ available ∧ left = available - cost len := by
  unfold tryReserve
  split <;> simp_all [eq_comm]

end ByteBudget

/-! ## Messages -/

inductive WsMsg
  | text (content : String)
  | binary (content : List UInt8)
  deriving DecidableEq, Repr

/-- What a receive hands to Python. -/
inductive PyData
  | str (content : String)
  | bytes (content : List UInt8)
  deriving DecidableEq, Repr

namespace WsMsg

def kind : WsMsg → String
  | text _ => "text"
  | binary _ => "binary"

/-- Payload length in bytes. -/
def len : WsMsg → Nat
  | text content => content.utf8ByteSize
  | binary content => content.length

def intoText : WsMsg → Except WsMsg String
  | text content => .ok content
  | other => .error other

def intoBinary : WsMsg → Except WsMsg (List UInt8)
  | binary content => .ok content
  | other => .error other

/-- The Python value of a message: `str` for text, `bytes` for binary. -/
def toPy : WsMsg → PyData
  | text content => .str content
  | binary content => .bytes content

end WsMsg

/-- A message in a connection queue, holding its share of that direction's byte budget. -/
structure Queued where
  msg : WsMsg
  budget : Nat
  deriving DecidableEq, Repr

/-- A typed receive found the other kind of message at the head of the queue. -/
structure KindMismatch where
  method : String
  got : String
  len : Nat
  deriving DecidableEq, Repr

def KindMismatch.text (mismatch : KindMismatch) : String :=
  s!"{mismatch.method}() found a {mismatch.got} message ({mismatch.len} bytes) next; " ++
    "it is still queued: read it with recv_message(), which returns str or bytes"

/-- The three receive methods of a `WebSocket`. -/
inductive RecvMethod
  | recvMessage
  | recv
  | recvBytes
  deriving DecidableEq, Repr

namespace RecvMethod

def name : RecvMethod → String
  | recvMessage => "recv_message"
  | recv => "recv"
  | recvBytes => "recv_bytes"

/-- The conversion a method passes to `next_as`; a refused message is handed back. -/
def extract : RecvMethod → WsMsg → Except WsMsg PyData
  | recvMessage, msg => .ok msg.toPy
  | recv, msg => msg.intoText.map .str
  | recvBytes, msg => msg.intoBinary.map .bytes

/-- A method converts a message to its Python value or hands the very message back. -/
theorem extract_cases (method : RecvMethod) (msg : WsMsg) :
    method.extract msg = .ok msg.toPy ∨ method.extract msg = .error msg := by
  cases method <;> cases msg <;>
    simp [extract, WsMsg.intoText, WsMsg.intoBinary, WsMsg.toPy, Except.map]

/-- Whether a method returns a message of this kind. -/
def accepts : RecvMethod → WsMsg → Bool
  | recvMessage, _ => true
  | recv, .text _ | recvBytes, .binary _ => true
  | _, _ => false

theorem accepts_of_extract_ok {method : RecvMethod} {msg : WsMsg} {data : PyData}
    (accepted : method.extract msg = .ok data) : method.accepts msg = true := by
  cases method <;> cases msg <;>
    simp_all [extract, accepts, WsMsg.intoText, WsMsg.intoBinary, Except.map]

theorem accepts_of_extract_error {method : RecvMethod} {msg handedBack : WsMsg}
    (rejected : method.extract msg = .error handedBack) : method.accepts msg = false := by
  cases method <;> cases msg <;>
    simp_all [extract, accepts, WsMsg.intoText, WsMsg.intoBinary, Except.map]

end RecvMethod

/-- The handler's end of the inbound queue. -/
structure Inbox where
  rx : List Queued
  /-- A message a typed receive refused, returned first by the next receive. -/
  held : Option WsMsg
  deriving DecidableEq, Repr

namespace Inbox

/-- The end of `next_as`: convert the message taken, or keep it at the head. -/
def settle (inbox : Inbox) (method : RecvMethod) (msg : WsMsg) :
    Except KindMismatch (Option PyData) × Inbox :=
  match method.extract msg with
  | .ok data => (.ok (some data), inbox)
  | .error msg =>
      (.error { method := method.name, got := msg.kind, len := msg.len },
        { inbox with held := some msg })

/-- `next_as`, with the permits it releases: the queue entry taken drops its share of the budget.
`none` while the receive blocks on an empty queue whose sender lives. -/
def nextAs (inbox : Inbox) (method : RecvMethod) (senderGone : Bool) :
    Option ((Except KindMismatch (Option PyData) × Inbox) × Nat) :=
  match inbox.held, inbox.rx with
  | some msg, _ => some ({ inbox with held := none }.settle method msg, 0)
  | none, queued :: rest => some ({ inbox with rx := rest }.settle method queued.msg, queued.budget)
  | none, [] => if senderGone then some ((.ok none, inbox), 0) else none

end Inbox

/-! ## The connection -/

/-- The frame the server owes the client when it is the one closing. -/
structure CloseFrame where
  code : Nat
  reason : String
  deriving DecidableEq, Repr

/-- `CloseCode::Size`. -/
def CLOSE_CODE_SIZE : Nat := 1009

/-- What `source.next()` can yield. -/
inductive SocketItem
  | data (msg : WsMsg)
  /-- Ping, pong or a raw frame: skipped. -/
  | control
  /-- A close frame, the end of the stream or a read error. -/
  | ended
  /-- A message over `max_message_bytes`. -/
  | overCapacity (error : String)
  deriving DecidableEq, Repr

/-- Payload bytes the item brings. -/
def SocketItem.len : SocketItem → Nat
  | .data msg => msg.len
  | _ => 0

/-- Where the select loop of `pump` stands. -/
inductive PumpPhase
  | selecting
  /-- Inside the first arm: `forward` awaits the inbound budget. -/
  | forwarding (msg : WsMsg)
  /-- Inside the second arm: `sink.send` awaits the socket. -/
  | sending (queued : Queued)
  | ended (frame : Option CloseFrame)
  deriving DecidableEq, Repr

def PumpPhase.isEnded : PumpPhase → Bool
  | .ended _ => true
  | _ => false

/-- The write side of the socket, as the client drains it. -/
inductive SocketState
  | writable
  | blocked
  | closed
  deriving DecidableEq, Repr

/-- Why a send failed, with the text Python sees. -/
inductive SendError
  | value (text : String)
  | blocking (text : String)
  | connection (text : String)
  deriving DecidableEq, Repr

structure Connection where
  inbox : Inbox
  /-- Permits left in the inbound budget. -/
  incomingBudget : Nat
  /-- The handler still holds its `WebSocket`. -/
  handlerAlive : Bool
  /-- Who holds the inbox lock inside `next_as`, and which method it runs. -/
  inboxLock : Option (Nat × RecvMethod)
  outgoing : List Queued
  /-- Permits left in the outbound budget. -/
  outgoingBudget : Nat
  /-- `outbox` is `Some`: the handler has not called `close`. -/
  outboxOpen : Bool
  /-- The pump's receiver of the outbound queue is alive. -/
  outgoingAlive : Bool
  pump : PumpPhase
  socket : SocketState
  /-- Ghost: the messages queued for the handler so far. -/
  arrivals : List WsMsg
  /-- Ghost: what each finished receive answered, and to which thread. -/
  answers : List (Nat × RecvMethod × Except KindMismatch (Option PyData))
  /-- Ghost: the messages put on the wire so far. -/
  wire : List WsMsg

inductive ConnectionEvent
  /-- The first arm of the select completes. -/
  | arrives (item : SocketItem)
  /-- `forward` has its permits and hands the message to the handler's queue. -/
  | forwards
  /-- The second arm of the select completes. -/
  | takes
  | sends
  | sendFails
  /-- `run_ws_connection` ends and drops what is left of the pump's ends. -/
  | connectionDrops
  /-- A thread takes the inbox lock for a receive. -/
  | locks (thread : Nat) (method : RecvMethod)
  /-- The receive that holds the inbox lock returns. -/
  | receives
  | pushes (msg : WsMsg)
  | closes
  | handlerExits
  | socketBecomes (socket : SocketState)
  deriving DecidableEq, Repr

namespace Connection

/-- `connection_channels`: empty queues, full budgets. -/
def new (limits : WsLimits) : Connection where
  inbox := { rx := [], held := none }
  incomingBudget := ByteBudget.new limits.maxMessageBytes
  handlerAlive := true
  inboxLock := none
  outgoing := []
  outgoingBudget := ByteBudget.new limits.maxMessageBytes
  outboxOpen := true
  outgoingAlive := true
  pump := .selecting
  socket := .writable
  arrivals := []
  answers := []
  wire := []

/-- The first arm of the select, on what the socket yielded. -/
def onItem (connection : Connection) : SocketItem → Connection
  | .data msg => { connection with pump := .forwarding msg }
  | .control => connection
  | .ended => { connection with pump := .ended none }
  | .overCapacity error =>
      { connection with pump := .ended (some { code := CLOSE_CODE_SIZE, reason := error }) }

/-- `forward` once its permits are there: queue the message, or stop if the handler is gone. -/
def forward (connection : Connection) (msg : WsMsg) (left : Nat) : Connection :=
  if connection.handlerAlive then
    { connection with
      inbox :=
        { connection.inbox with
          rx := connection.inbox.rx ++ [{ msg, budget := ByteBudget.cost msg.len }] }
      incomingBudget := left
      arrivals := connection.arrivals ++ [msg]
      pump := .selecting }
  else
    { connection with pump := .ended none }

/-- `PyronovaWebSocket::push`: the error Python sees, or the connection with the message queued.
A message the channel refuses is dropped with its permits. -/
def push (limits : WsLimits) (connection : Connection) (msg : WsMsg) :
    Except SendError Connection :=
  if connection.outboxOpen then
    if limits.maxMessageBytes < msg.len then
      .error (.value
        (s!"{msg.kind} message of {msg.len} bytes exceeds " ++
          s!"max_websocket_message_size ({limits.maxMessageBytes} bytes)"))
    else
      match ByteBudget.tryReserve connection.outgoingBudget msg.len with
      | none =>
          .error (.blocking
            "WebSocket send buffer full (client is slow); retry after a brief pause")
      | some left =>
          if connection.outgoingAlive then
            .ok
              { connection with
                outgoing :=
                  connection.outgoing ++ [{ msg, budget := ByteBudget.cost msg.len }]
                outgoingBudget := left }
          else
            .error (.connection "WebSocket closed")
  else
    .error (.connection "WebSocket closed")

/-- The receive that holds the lock returns, if it need not block. -/
def receive (connection : Connection) : Option Connection := do
  let (thread, method) ← connection.inboxLock
  let ((answer, inbox), released) ← connection.inbox.nextAs method connection.pump.isEnded
  some
    { connection with
      inbox
      incomingBudget := connection.incomingBudget + released
      inboxLock := none
      answers := connection.answers ++ [(thread, method, answer)] }

/-- The handler's `WebSocket` is dropped: its queue and outbox go with it. -/
def exit (connection : Connection) : Connection :=
  { connection with
    handlerAlive := false
    outboxOpen := false
    inbox := { rx := [], held := none }
    incomingBudget :=
      connection.incomingBudget + (connection.inbox.rx.map Queued.budget).sum }

/-- One event of one connection. -/
def step (limits : WsLimits) (connection : Connection) : ConnectionEvent → Option Connection
  | .arrives item =>
      match connection.pump with
      | .selecting =>
          -- tungstenite's configuration caps what it yields.
          if item.len ≤ limits.maxMessageBytes then some (connection.onItem item) else none
      | _ => none
  | .forwards =>
      match connection.pump with
      | .forwarding msg =>
          (ByteBudget.tryReserve connection.incomingBudget msg.len).map (connection.forward msg)
      | _ => none
  | .takes =>
      match connection.pump, connection.outgoing with
      | .selecting, queued :: rest =>
          some { connection with pump := .sending queued, outgoing := rest }
      | .selecting, [] =>
          if connection.outboxOpen then none else some { connection with pump := .ended none }
      | _, _ => none
  | .sends =>
      match connection.pump, connection.socket with
      | .sending queued, .writable =>
          some
            { connection with
              pump := .selecting
              outgoingBudget := connection.outgoingBudget + queued.budget
              wire := connection.wire ++ [queued.msg] }
      | _, _ => none
  | .sendFails =>
      match connection.pump, connection.socket with
      | .sending queued, .closed =>
          some
            { connection with
              pump := .ended none
              outgoingBudget := connection.outgoingBudget + queued.budget }
      | _, _ => none
  | .connectionDrops =>
      if connection.pump.isEnded then
        some
          { connection with
            outgoingAlive := false
            outgoing := []
            outgoingBudget :=
              connection.outgoingBudget + (connection.outgoing.map Queued.budget).sum }
      else none
  | .locks thread method =>
      if connection.handlerAlive ∧ connection.inboxLock = none then
        some { connection with inboxLock := some (thread, method) }
      else none
  | .receives => connection.receive
  | .pushes msg =>
      if connection.handlerAlive then some ((connection.push limits msg).toOption.getD connection)
      else none
  | .closes =>
      if connection.handlerAlive then some { connection with outboxOpen := false } else none
  | .handlerExits =>
      if connection.handlerAlive ∧ connection.inboxLock = none then some connection.exit else none
  | .socketBecomes socket =>
      if connection.socket = .closed then none else some { connection with socket }

/-- A queued message touches nothing but the outbound queue and its budget. -/
theorem push_eq_ok {limits : WsLimits} {connection next : Connection} {msg : WsMsg}
    (pushed : connection.push limits msg = .ok next) :
    ∃ outgoing outgoingBudget,
      next = { connection with outgoing, outgoingBudget } := by
  unfold push at pushed
  split at pushed
  · split at pushed
    · simp at pushed
    · split at pushed
      · simp at pushed
      · split at pushed
        · simp only [Except.ok.injEq] at pushed
          exact ⟨_, _, pushed.symm⟩
        · simp at pushed
  · simp at pushed

/-- What each event does, and where it is enabled. -/
inductive Transition (limits : WsLimits) (before : Connection) :
    ConnectionEvent → Connection → Prop
  | arrives {item : SocketItem} (pump : before.pump = .selecting)
      (small : item.len ≤ limits.maxMessageBytes) :
      Transition limits before (.arrives item) (before.onItem item)
  | forwards {msg : WsMsg} (pump : before.pump = .forwarding msg)
      (fits : ByteBudget.cost msg.len ≤ before.incomingBudget) :
      Transition limits before .forwards
        (before.forward msg (before.incomingBudget - ByteBudget.cost msg.len))
  | takes {queued : Queued} {rest : List Queued} (pump : before.pump = .selecting)
      (outgoing : before.outgoing = queued :: rest) :
      Transition limits before .takes { before with pump := .sending queued, outgoing := rest }
  /-- The outbox is closed and drained. -/
  | finishes (pump : before.pump = .selecting) (outgoing : before.outgoing = [])
      (closed : before.outboxOpen = false) :
      Transition limits before .takes { before with pump := .ended none }
  | sends {queued : Queued} (pump : before.pump = .sending queued)
      (socket : before.socket = .writable) :
      Transition limits before .sends
        { before with
          pump := .selecting
          outgoingBudget := before.outgoingBudget + queued.budget
          wire := before.wire ++ [queued.msg] }
  | sendFails {queued : Queued} (pump : before.pump = .sending queued)
      (socket : before.socket = .closed) :
      Transition limits before .sendFails
        { before with
          pump := .ended none
          outgoingBudget := before.outgoingBudget + queued.budget }
  | connectionDrops (ended : before.pump.isEnded) :
      Transition limits before .connectionDrops
        { before with
          outgoingAlive := false
          outgoing := []
          outgoingBudget := before.outgoingBudget + (before.outgoing.map Queued.budget).sum }
  | locks {thread : Nat} {method : RecvMethod} (alive : before.handlerAlive)
      (free : before.inboxLock = none) :
      Transition limits before (.locks thread method)
        { before with inboxLock := some (thread, method) }
  | receives {thread : Nat} {method : RecvMethod} {answer : Except KindMismatch (Option PyData)}
      {inbox : Inbox} {released : Nat} (lock : before.inboxLock = some (thread, method))
      (returned :
        before.inbox.nextAs method before.pump.isEnded = some ((answer, inbox), released)) :
      Transition limits before .receives
        { before with
          inbox
          incomingBudget := before.incomingBudget + released
          inboxLock := none
          answers := before.answers ++ [(thread, method, answer)] }
  /-- The push raised. -/
  | refuses {msg : WsMsg} {error : SendError} (alive : before.handlerAlive)
      (refused : before.push limits msg = .error error) :
      Transition limits before (.pushes msg) before
  | pushes {msg : WsMsg} {outgoing : List Queued} {outgoingBudget : Nat}
      (alive : before.handlerAlive)
      (pushed : before.push limits msg = .ok { before with outgoing, outgoingBudget }) :
      Transition limits before (.pushes msg) { before with outgoing, outgoingBudget }
  | closes (alive : before.handlerAlive) :
      Transition limits before .closes { before with outboxOpen := false }
  | handlerExits (alive : before.handlerAlive) (free : before.inboxLock = none) :
      Transition limits before .handlerExits before.exit
  | socketBecomes {socket : SocketState} (live : before.socket ≠ .closed) :
      Transition limits before (.socketBecomes socket) { before with socket }

theorem transition_of_step {limits : WsLimits} {before after : Connection}
    {event : ConnectionEvent} (fired : before.step limits event = some after) :
    Transition limits before event after := by
  cases event with
  | arrives item =>
      simp only [step] at fired
      split at fired
      · rename_i pump
        split at fired
        · rename_i small
          obtain rfl := Option.some.inj fired
          exact .arrives pump small
        · simp at fired
      · simp at fired
  | forwards =>
      simp only [step] at fired
      split at fired
      · rename_i msg pump
        obtain ⟨left, reserved, rfl⟩ := Option.map_eq_some_iff.mp fired
        obtain ⟨fits, rfl⟩ := ByteBudget.tryReserve_eq_some.mp reserved
        exact .forwards pump fits
      · simp at fired
  | takes =>
      simp only [step] at fired
      split at fired
      · rename_i pump outgoing
        obtain rfl := Option.some.inj fired
        exact .takes pump outgoing
      · rename_i pump outgoing
        split at fired
        · simp at fired
        · rename_i closed
          obtain rfl := Option.some.inj fired
          exact .finishes pump outgoing (by simpa using closed)
      · simp at fired
  | sends =>
      simp only [step] at fired
      split at fired
      · rename_i pump socket
        obtain rfl := Option.some.inj fired
        exact .sends pump socket
      · simp at fired
  | sendFails =>
      simp only [step] at fired
      split at fired
      · rename_i pump socket
        obtain rfl := Option.some.inj fired
        exact .sendFails pump socket
      · simp at fired
  | connectionDrops =>
      obtain ⟨ended, ⟨⟩⟩ := Option.ite_none_right_eq_some.mp fired
      exact .connectionDrops ended
  | locks thread method =>
      obtain ⟨⟨alive, free⟩, ⟨⟩⟩ := Option.ite_none_right_eq_some.mp fired
      exact .locks alive free
  | receives =>
      obtain ⟨⟨thread, method⟩, lock, fired⟩ := Option.bind_eq_some_iff.mp fired
      obtain ⟨⟨⟨answer, inbox⟩, released⟩, returned, fired⟩ := Option.bind_eq_some_iff.mp fired
      obtain rfl := Option.some.inj fired
      exact .receives lock returned
  | pushes msg =>
      obtain ⟨alive, ⟨⟩⟩ := Option.ite_none_right_eq_some.mp fired
      cases pushed : before.push limits msg with
      | error => exact .refuses alive pushed
      | ok next =>
          obtain ⟨outgoing, outgoingBudget, rfl⟩ := push_eq_ok pushed
          exact .pushes alive pushed
  | closes =>
      obtain ⟨alive, ⟨⟩⟩ := Option.ite_none_right_eq_some.mp fired
      exact .closes alive
  | handlerExits =>
      obtain ⟨⟨alive, free⟩, ⟨⟩⟩ := Option.ite_none_right_eq_some.mp fired
      exact .handlerExits alive free
  | socketBecomes socket =>
      obtain ⟨live, ⟨⟩⟩ := Option.ite_none_left_eq_some.mp fired
      exact .socketBecomes live

end Connection

/-- One connection from its two fresh queues on. -/
def connectionMachine (limits : WsLimits) : Machine Connection ConnectionEvent where
  init := Connection.new limits
  step := Connection.step limits

end WebSocket
end Pyronova
