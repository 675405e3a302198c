import Pyronova.Body

/-!
# Reading a streamed body

`BodyStream` hands a handler the chunks a feeder sends, through `__next__`, `read` and
`drain_count`.  All three drive one state: open, finished once the feeder's `Eof` was received, or
failed for good.  Whatever the calls, no byte is skipped, repeated or passed off as the end.
-/

namespace Pyronova

variable {ReadError : Type*}

/-- Why a body will never arrive in full. -/
inductive StreamFailure (ReadError : Type*)
  | rejected (reject : BodyReject ReadError)
  /-- The channel closed without the body's end. -/
  | cutOff
  deriving DecidableEq, Repr

/-- The text of the exception a failure raises. -/
def StreamFailure.text (describe : ReadError → String) : StreamFailure ReadError → String
  | .rejected reject => reject.text describe
  | .cutOff =>
      "the request body stream ended before the body did: the server stopped " ++
      "feeding it (the handler did not read it within the request budget, or the " ++
      "request was abandoned)"

/-- Where reading a body stream stands. -/
inductive StreamState (ReadError : Type*)
  | opened
  | finished
  | failed (failure : StreamFailure ReadError)
  deriving DecidableEq, Repr

/-- What one receive from the channel means for the stream. -/
inductive Received (ReadError : Type*)
  | chunk (bytes : Bytes)
  | ended
  | failed (failure : StreamFailure ReadError)

/-- A receive yields a message, or nothing once the sender is gone and the queue is empty. -/
def Received.of : Option (ChunkMsg ReadError) → Received ReadError
  | some (.data data) => .chunk data
  | some .eof => .ended
  | some (.err reject) => .failed (.rejected reject)
  | none => .failed .cutOff

/-- The exceptions the methods raise. -/
inductive StreamError (ReadError : Type*)
  | stopIteration
  | failure (failure : StreamFailure ReadError)
  /-- `RuntimeError("the request body stream was already read to its end")`. -/
  | alreadyRead
  deriving DecidableEq, Repr

/-- What `__next__` returns or raises after a receive, and the state it leaves. -/
def afterReceive : Received ReadError →
    Except (StreamError ReadError) Bytes × StreamState ReadError
  | .chunk chunk => (.ok chunk, .opened)
  | .ended => (.error .stopIteration, .finished)
  | .failed failure => (.error (.failure failure), .failed failure)

/-- The receiving end of a channel whose messages are all known: those to come, after which the
sender is gone, and what every receive so far returned. -/
structure BodyReceiver (ReadError : Type*) where
  queue : List (ChunkMsg ReadError)
  received : List (Option (ChunkMsg ReadError))
  deriving DecidableEq

/-- A receive, which records what it returned. -/
def BodyReceiver.blockingRecv (rx : BodyReceiver ReadError) :
    Option (ChunkMsg ReadError) × BodyReceiver ReadError :=
  match rx.queue with
  | [] => (none, { rx with received := rx.received ++ [none] })
  | message :: queue => (some message, { queue, received := rx.received ++ [some message] })

/-- A stream read by one call at a time. -/
structure BodyStream (ReadError : Type*) where
  state : StreamState ReadError
  /-- Live while the state is open; nothing is received afterwards. -/
  rx : BodyReceiver ReadError
  deriving DecidableEq

namespace BodyStream

/-- The stream of a body whose feeder will send these messages and drop its sender. -/
def new (messages : List (ChunkMsg ReadError)) : BodyStream ReadError where
  state := .opened
  rx := { queue := messages, received := [] }

/-- `__next__`. -/
def next (stream : BodyStream ReadError) :
    Except (StreamError ReadError) Bytes × BodyStream ReadError :=
  match stream.state with
  | .finished => (.error .stopIteration, stream)
  | .failed failure => (.error (.failure failure), stream)
  | .opened =>
      let (message, rx) := stream.rx.blockingRecv
      let (result, state) := afterReceive (Received.of message)
      (result, { state, rx })

/-- A chunk taken by `__next__` leaves fewer messages to come. -/
theorem queue_lt_of_next {stream after : BodyStream ReadError} {chunk : Bytes}
    (taken : stream.next = (.ok chunk, after)) :
    after.rx.queue.length < stream.rx.queue.length := by
  obtain ⟨state, queue, received⟩ := stream
  cases state with
  | finished => simp [next] at taken
  | failed failure => simp [next] at taken
  | opened =>
      cases queue with
      | nil => simp [next, BodyReceiver.blockingRecv, Received.of, afterReceive] at taken
      | cons message queue =>
          simp only [next, BodyReceiver.blockingRecv, Prod.mk.injEq] at taken
          obtain ⟨-, rfl⟩ := taken
          simp

/-- `read` has what it was asked for. -/
def satisfied (limit : Option Nat) (buffer : Bytes) : Bool :=
  match limit with
  | none => false
  | some limit => limit ≤ buffer.length

/-- The loop of `read`. -/
def readFrom (limit : Option Nat) (buffer : Bytes) (stream : BodyStream ReadError) :
    Except (StreamError ReadError) Bytes × BodyStream ReadError :=
  if satisfied limit buffer then (.ok buffer, stream)
  else
    match _taken : stream.next with
    | (.ok chunk, after) => readFrom limit (buffer ++ chunk) after
    | (.error .stopIteration, after) => (.ok buffer, after)
    | (.error raised, after) => (.error raised, after)
termination_by stream.rx.queue.length
decreasing_by exact queue_lt_of_next _taken

/-- `read`: whole chunks until at least `limit` bytes, or the body's end. -/
def read (limit : Option Nat) (stream : BodyStream ReadError) :
    Except (StreamError ReadError) Bytes × BodyStream ReadError :=
  readFrom limit [] stream

/-- The loop of `drain_count`; the count is a `u64`. -/
def drainFrom (queue : List (ChunkMsg ReadError))
    (received : List (Option (ChunkMsg ReadError))) (total : UInt64) :
    Except (StreamFailure ReadError) UInt64 × BodyReceiver ReadError :=
  match queue with
  | [] => (.error .cutOff, { queue := [], received := received ++ [none] })
  | message :: queue =>
      match Received.of (some message) with
      | .chunk chunk =>
          drainFrom queue (received ++ [some message]) (total + UInt64.ofNat chunk.length)
      | .ended => (.ok total, { queue, received := received ++ [some message] })
      | .failed failure => (.error failure, { queue, received := received ++ [some message] })

/-- `drain_count`: the bytes of the rest of the body. -/
def drainCount (stream : BodyStream ReadError) :
    Except (StreamError ReadError) UInt64 × BodyStream ReadError :=
  match stream.state with
  | .finished => (.error .alreadyRead, stream)
  | .failed failure => (.error (.failure failure), stream)
  | .opened =>
      match drainFrom stream.rx.queue stream.rx.received 0 with
      | (.ok total, rx) => (.ok total, { state := .finished, rx })
      | (.error failure, rx) => (.error (.failure failure), { state := .failed failure, rx })

/-! ## Calls in sequence -/

/-- A call a handler makes. -/
inductive Call
  | next
  | read (limit : Option Nat)
  | drainCount
  deriving DecidableEq, Repr

/-- What a call gives back. -/
inductive Reply (ReadError : Type*)
  | bytes (bytes : Bytes)
  | count (total : UInt64)
  | raised (error : StreamError ReadError)
  deriving DecidableEq, Repr

/-- The reply of a method that returns bytes. -/
def Reply.ofBytes : Except (StreamError ReadError) Bytes → Reply ReadError
  | .ok returned => .bytes returned
  | .error error => .raised error

/-- The reply of a method that returns a count. -/
def Reply.ofCount : Except (StreamError ReadError) UInt64 → Reply ReadError
  | .ok total => .count total
  | .error error => .raised error

def call (stream : BodyStream ReadError) : Call → Reply ReadError × BodyStream ReadError
  | .next => (Reply.ofBytes stream.next.1, stream.next.2)
  | .read limit => (Reply.ofBytes (stream.read limit).1, (stream.read limit).2)
  | .drainCount => (Reply.ofCount stream.drainCount.1, stream.drainCount.2)

/-- One call of a session, with the stream before and after it. -/
structure Exchange (ReadError : Type*) where
  before : BodyStream ReadError
  call : Call
  reply : Reply ReadError
  after : BodyStream ReadError

/-- The calls of a handler, one after the other. -/
def session (stream : BodyStream ReadError) : List Call → List (Exchange ReadError)
  | [] => []
  | call :: calls =>
      let (reply, after) := stream.call call
      { before := stream, call, reply, after } :: session after calls

/-! ## What has been read -/

/-- The body bytes in what a receive returned. -/
def dataIn : Option (ChunkMsg ReadError) → Bytes
  | some (.data chunk) => chunk
  | _ => []

/-- The body bytes in what was received. -/
def dataOf (received : List (Option (ChunkMsg ReadError))) : Bytes :=
  received.flatMap dataIn

/-- The body these messages carry: the chunks before the first message that is none. -/
def bodyOf : List (ChunkMsg ReadError) → Bytes
  | .data chunk :: messages => chunk ++ bodyOf messages
  | _ => []

/-- What a stream has received from a feeder of these messages: the chunks listed and, unless it
is open, what closed it. -/
inductive HasRead (messages : List (ChunkMsg ReadError)) :
    BodyStream ReadError → List Bytes → Prop
  | opened {chunks queue} (sent : messages = chunks.map .data ++ queue) :
      HasRead messages ⟨.opened, queue, chunks.map (some ∘ .data)⟩ chunks
  | finished {chunks queue} (sent : messages = chunks.map .data ++ .eof :: queue) :
      HasRead messages ⟨.finished, queue, chunks.map (some ∘ .data) ++ [some .eof]⟩ chunks
  | rejected {chunks queue reject} (sent : messages = chunks.map .data ++ .err reject :: queue) :
      HasRead messages
        ⟨.failed (.rejected reject), queue, chunks.map (some ∘ .data) ++ [some (.err reject)]⟩
        chunks
  | cutOff {chunks} (sent : messages = chunks.map .data) :
      HasRead messages ⟨.failed .cutOff, [], chunks.map (some ∘ .data) ++ [none]⟩ chunks

theorem dataOf_chunks (chunks : List Bytes) :
    dataOf (chunks.map (some ∘ @ChunkMsg.data ReadError)) = chunks.flatten := by
  induction chunks with
  | nil => rfl
  | cons chunk chunks induction =>
      rw [List.map_cons, List.flatten_cons, ← induction]
      rfl

theorem bodyOf_append (chunks : List Bytes) (queue : List (ChunkMsg ReadError)) :
    bodyOf (chunks.map .data ++ queue) = chunks.flatten ++ bodyOf queue := by
  induction chunks with
  | nil => rfl
  | cons chunk chunks induction =>
      rw [List.map_cons, List.cons_append, bodyOf, induction, List.flatten_cons, List.append_assoc]

/-- A data message read moves from the queue to the chunks. -/
theorem sent_data {messages queue : List (ChunkMsg ReadError)} {chunks : List Bytes}
    {chunk : Bytes} (sent : messages = chunks.map .data ++ .data chunk :: queue) :
    messages = (chunks ++ [chunk]).map .data ++ queue := by
  rw [sent, List.map_append, List.append_assoc]
  rfl

namespace HasRead

variable {messages : List (ChunkMsg ReadError)} {stream : BodyStream ReadError}
  {chunks : List Bytes}

theorem new (messages : List (ChunkMsg ReadError)) : HasRead messages (.new messages) [] :=
  @HasRead.opened _ messages [] messages rfl

theorem dataOf_received (reading : HasRead messages stream chunks) :
    dataOf stream.rx.received = chunks.flatten := by
  rw [← @dataOf_chunks ReadError chunks]
  cases reading <;> simp [dataOf, dataIn]

theorem flatten_prefix (reading : HasRead messages stream chunks) :
    chunks.flatten <+: bodyOf messages := by
  cases reading with
  | opened sent | finished sent | rejected sent =>
      rw [sent, bodyOf_append]
      exact List.prefix_append _ _
  | cutOff sent =>
      rw [sent, ← List.append_nil (chunks.map _), bodyOf_append]
      exact List.prefix_append _ _

/-- A finished stream has received the end of the body, and all of the body before it. -/
theorem whole_of_finished (reading : HasRead messages stream chunks)
    (finished : stream.state = .finished) :
    some .eof ∈ stream.rx.received ∧ chunks.flatten = bodyOf messages := by
  cases reading with
  | opened | rejected | cutOff => simp at finished
  | finished sent =>
      refine ⟨by simp, ?_⟩
      rw [sent, bodyOf_append]
      exact (List.append_nil _).symm

/-- A stream fails with what it received. -/
theorem failed_iff (reading : HasRead messages stream chunks) (failure : StreamFailure ReadError) :
    stream.state = .failed failure ↔
      ∃ message ∈ stream.rx.received, Received.of message = .failed failure := by
  cases reading <;> simp [Received.of, or_and_right, exists_or]

end HasRead

/-! ## What a call does -/

/-- A call that took `more` off the channel replies with it, or with why the stream is closed. -/
def Tells (more : List Bytes) (after : BodyStream ReadError) : Reply ReadError → Prop
  | .bytes returned => returned = more.flatten
  | .count total => total = UInt64.ofNat more.flatten.length ∧ after.state = .finished
  | .raised .stopIteration => more = [] ∧ after.state = .finished
  | .raised .alreadyRead => more = [] ∧ after.state = .finished
  | .raised (.failure failure) => after.state = .failed failure

section Calls

variable {messages : List (ChunkMsg ReadError)} {stream : BodyStream ReadError}
  {chunks : List Bytes}

/-- A closed stream's `__next__` says why, and reads nothing. -/
theorem next_spec_of_closed (reading : HasRead messages stream chunks)
    (closed : stream.state ≠ .opened) :
    stream.next.2 = stream ∧ Tells [] stream (Reply.ofBytes stream.next.1) ∧
      ∀ raised, stream.next.1 = .error raised → raised ≠ .alreadyRead := by
  cases reading with
  | opened => exact absurd rfl closed
  | finished | rejected | cutOff => simp [next, Tells, Reply.ofBytes]

theorem next_opened_nil (received : List (Option (ChunkMsg ReadError))) :
    next ⟨.opened, [], received⟩ =
      (.error (.failure .cutOff), ⟨.failed .cutOff, [], received ++ [none]⟩) := rfl

theorem next_opened_cons (message : ChunkMsg ReadError) (queue : List (ChunkMsg ReadError))
    (received : List (Option (ChunkMsg ReadError))) :
    next ⟨.opened, message :: queue, received⟩ =
      ((afterReceive (Received.of (some message))).1,
        ⟨(afterReceive (Received.of (some message))).2, queue, received ++ [some message]⟩) := rfl

/-- `__next__` reads one chunk, or closes the stream. -/
theorem next_spec (reading : HasRead messages stream chunks) :
    ∃ more, HasRead messages stream.next.2 (chunks ++ more) ∧
      Tells more stream.next.2 (Reply.ofBytes stream.next.1) ∧
      ∀ raised, stream.next.1 = .error raised → more = [] ∧ raised ≠ .alreadyRead := by
  by_cases closed : stream.state ≠ .opened
  · obtain ⟨same, told, notRead⟩ := next_spec_of_closed reading closed
    refine ⟨[], ?_, ?_, ?_⟩
    · rw [same, List.append_nil]
      exact reading
    · rw [same]
      exact told
    · intro raised error
      exact ⟨rfl, notRead raised error⟩
  · cases reading with
    | finished | rejected | cutOff => simp at closed
    | @opened _ queue sent =>
        cases queue with
        | nil =>
            rw [List.append_nil] at sent
            rw [next_opened_nil]
            exact ⟨[], by simpa [Tells, Reply.ofBytes] using .cutOff sent⟩
        | cons message queue =>
            rw [next_opened_cons]
            cases message with
            | data chunk =>
                have extended := HasRead.opened (sent_data sent)
                exact ⟨[chunk], by simpa [Received.of, afterReceive, Tells, Reply.ofBytes]
                  using extended⟩
            | eof =>
                have finished := HasRead.finished sent
                exact ⟨[], by simpa [Received.of, afterReceive, Tells, Reply.ofBytes]
                  using finished⟩
            | err reject =>
                have rejected := HasRead.rejected sent
                exact ⟨[], by simpa [Received.of, afterReceive, Tells, Reply.ofBytes]
                  using rejected⟩

/-- The loop of `read` adds the chunks it reads, and stops early only at the body's end. -/
theorem readFrom_spec (limit : Option Nat) (buffer : Bytes)
    (reading : HasRead messages stream chunks) :
    ∃ more, HasRead messages (readFrom limit buffer stream).2 (chunks ++ more) ∧
      match (readFrom limit buffer stream).1 with
      | .ok returned => returned = buffer ++ more.flatten ∧
          (satisfied limit returned ∨ (readFrom limit buffer stream).2.state = .finished)
      | .error raised => ∃ failure, raised = .failure failure ∧
          (readFrom limit buffer stream).2.state = .failed failure := by
  fun_induction readFrom limit buffer stream generalizing chunks with
  | case1 buffer stream enough =>
      exact ⟨[], by simpa using reading, by simp, Or.inl enough⟩
  | case2 buffer stream _ chunk after taken induction =>
      obtain ⟨more, reading, told, -⟩ := next_spec reading
      simp only [taken, Reply.ofBytes, Tells] at reading told
      obtain ⟨later, reading, rest⟩ := induction reading
      refine ⟨more ++ later, by simpa using reading, ?_⟩
      simpa [told] using rest
  | case3 buffer stream _ after taken =>
      obtain ⟨more, reading, told, -⟩ := next_spec reading
      simp only [taken, Reply.ofBytes, Tells] at reading told
      obtain ⟨rfl, finished⟩ := told
      exact ⟨[], reading, by simp, Or.inr finished⟩
  | case4 buffer stream _ raised after notEnd taken =>
      obtain ⟨more, reading, told, closing⟩ := next_spec reading
      simp only [taken, Reply.ofBytes] at reading told closing
      obtain ⟨rfl, notRead⟩ := closing raised rfl
      cases raised with
      | stopIteration => exact absurd rfl notEnd
      | alreadyRead => exact absurd rfl notRead
      | failure failure => exact ⟨[], reading, failure, rfl, told⟩

/-- The loop of `drain_count` reads to the end of the channel. -/
theorem drainFrom_spec (queue : List (ChunkMsg ReadError)) (total : UInt64)
    (sent : messages = chunks.map .data ++ queue) :
    ∃ more, match drainFrom queue (chunks.map (some ∘ .data)) total with
      | (.ok counted, rx) => HasRead messages ⟨.finished, rx⟩ (chunks ++ more) ∧
          counted = total + UInt64.ofNat more.flatten.length
      | (.error failure, rx) => HasRead messages ⟨.failed failure, rx⟩ (chunks ++ more) := by
  induction queue generalizing chunks total with
  | nil =>
      rw [List.append_nil] at sent
      exact ⟨[], by simpa [drainFrom] using .cutOff sent⟩
  | cons message queue induction =>
      cases message with
      | data chunk =>
          obtain ⟨more, spec⟩ := induction (total + UInt64.ofNat chunk.length) (sent_data sent)
          refine ⟨chunk :: more, ?_⟩
          simpa [drainFrom, Received.of, UInt64.ofNat_add, UInt64.add_assoc] using spec
      | eof => exact ⟨[], by simpa [drainFrom, Received.of] using .finished sent⟩
      | err reject => exact ⟨[], by simpa [drainFrom, Received.of] using .rejected sent⟩

theorem drainCount_spec (reading : HasRead messages stream chunks) :
    ∃ more, HasRead messages stream.drainCount.2 (chunks ++ more) ∧
      Tells more stream.drainCount.2 (Reply.ofCount stream.drainCount.1) := by
  cases reading with
  | finished sent => exact ⟨[], by simpa [drainCount, Tells, Reply.ofCount] using .finished sent⟩
  | rejected sent => exact ⟨[], by simpa [drainCount, Tells, Reply.ofCount] using .rejected sent⟩
  | cutOff sent => exact ⟨[], by simpa [drainCount, Tells, Reply.ofCount] using .cutOff sent⟩
  | @opened _ queue sent =>
      obtain ⟨more, spec⟩ := drainFrom_spec queue 0 sent
      refine ⟨more, ?_⟩
      simp only [drainCount]
      split at spec <;> rename_i drained <;>
        simpa [drained, Tells, Reply.ofCount] using spec

end Calls

/-! ## Whole sessions -/

namespace Exchange

/-- The part of the body a call took: what it returned, or what it drained or discarded. -/
def segment (exchange : Exchange ReadError) : Bytes :=
  match exchange.reply with
  | .bytes returned => returned
  | _ => (dataOf exchange.after.rx.received).drop (dataOf exchange.before.rx.received).length

/-- The reply tells the handler that the body is over: `StopIteration`, a count, all that `read()`
returns, or fewer bytes than a `read` asked for. -/
def EndsBody (exchange : Exchange ReadError) : Prop :=
  match exchange.call, exchange.reply with
  | _, .raised .stopIteration => True
  | _, .count _ => True
  | .read none, .bytes _ => True
  | .read (some limit), .bytes returned => returned.length < limit
  | _, _ => False

/-- What one call of a session does, whatever was called before. -/
def Sound (messages : List (ChunkMsg ReadError)) (exchange : Exchange ReadError) : Prop :=
  ∃ chunks more, HasRead messages exchange.before chunks ∧
    HasRead messages exchange.after (chunks ++ more) ∧
    Tells more exchange.after exchange.reply ∧
    (exchange.EndsBody → exchange.after.state = .finished) ∧
    (exchange.call = .read (some 0) →
      exchange.reply = .bytes [] ∧ exchange.after = exchange.before)

end Exchange

/-- A stream that failed raises that failure again on every later call that is not exempt. -/
def FailureSticks (exempt : Call → Bool) (exchanges : List (Exchange ReadError)) : Prop :=
  exchanges.Pairwise fun earlier later =>
    ∀ message ∈ earlier.after.rx.received, ∀ failure, Received.of message = .failed failure →
      exempt later.call = false → later.reply = .raised (.failure failure)

/-- What a handler may rely on in a session over a feeder of these messages. -/
structure Truthful (messages : List (ChunkMsg ReadError)) (exchanges : List (Exchange ReadError)) :
    Prop where
  inOrder : (exchanges.map Exchange.segment).flatten <+: bodyOf messages
  counted : ∀ exchange ∈ exchanges, ∀ total, exchange.reply = .count total →
    total = UInt64.ofNat exchange.segment.length
  endsAfterEof : ∀ exchange ∈ exchanges, exchange.EndsBody →
    some .eof ∈ exchange.after.rx.received
  failureSticks : FailureSticks (· = .read (some 0)) exchanges
  emptyAtEnd : ∀ exchange ∈ exchanges, ∀ limit, 1 ≤ limit → exchange.call = .read (some limit) →
    exchange.reply = .bytes [] →
    some .eof ∈ exchange.after.rx.received ∧ dataOf exchange.after.rx.received = bodyOf messages
  zeroReadsNothing : ∀ exchange ∈ exchanges, exchange.call = .read (some 0) →
    exchange.reply = .bytes [] ∧ exchange.after = exchange.before

section Sessions

variable {messages : List (ChunkMsg ReadError)} {stream : BodyStream ReadError}
  {chunks : List Bytes}

theorem read_zero (stream : BodyStream ReadError) : stream.read (some 0) = (.ok [], stream) := by
  rw [read, readFrom]
  rfl

/-- One call, made in any state a session can be in. -/
theorem sound_call (call : Call) (reading : HasRead messages stream chunks) :
    Exchange.Sound messages ⟨stream, call, (stream.call call).1, (stream.call call).2⟩ := by
  cases call with
  | next =>
      obtain ⟨more, later, told, -⟩ := next_spec reading
      refine ⟨chunks, more, reading, later, told, ?_, by simp⟩
      intro ends
      cases result : stream.next.1 with
      | ok chunk => simp [Exchange.EndsBody, call, result, Reply.ofBytes] at ends
      | error raised =>
          cases raised <;> simp_all [Exchange.EndsBody, call, Reply.ofBytes, Tells]
  | read limit =>
      obtain ⟨more, later, told⟩ := readFrom_spec limit [] reading
      refine ⟨chunks, more, reading, later, ?_, ?_, ?_⟩
      · simp only [call, read]
        split at told
        · rename_i result
          simpa [result, Reply.ofBytes, Tells] using told.1
        · rename_i result
          obtain ⟨failure, rfl, closed⟩ := told
          simpa [result, Reply.ofBytes, Tells] using closed
      · intro ends
        simp only [Exchange.EndsBody, call, read] at ends ⊢
        split at told
        · rename_i result
          rcases told.2 with enough | finished
          · cases limit <;> simp_all [Reply.ofBytes, satisfied]
            omega
          · exact finished
        · rename_i result
          obtain ⟨failure, rfl, closed⟩ := told
          simp [result, Reply.ofBytes] at ends
      · rintro ⟨⟩
        simp [call, read_zero, Reply.ofBytes]
  | drainCount =>
      obtain ⟨more, later, told⟩ := drainCount_spec reading
      refine ⟨chunks, more, reading, later, told, ?_, by simp⟩
      intro ends
      cases result : stream.drainCount.1 with
      | ok total => simp_all [call, Reply.ofCount, Tells]
      | error raised =>
          cases raised <;> simp_all [Exchange.EndsBody, call, Reply.ofCount, Tells]

theorem Exchange.segment_eq {exchange : Exchange ReadError} {chunks more : List Bytes}
    (earlier : HasRead messages exchange.before chunks)
    (later : HasRead messages exchange.after (chunks ++ more))
    (told : Tells more exchange.after exchange.reply) : exchange.segment = more.flatten := by
  unfold segment
  split
  · rename_i returned reply
    simpa [reply, Tells] using told
  · rw [earlier.dataOf_received, later.dataOf_received, List.flatten_append, List.drop_left]

/-- Every call of a session is sound. -/
theorem sound_of_mem_session (calls : List Call) (reading : HasRead messages stream chunks) :
    ∀ exchange ∈ session stream calls, Exchange.Sound messages exchange := by
  induction calls generalizing stream chunks with
  | nil => simp [session]
  | cons call calls induction =>
      have sound := sound_call call reading
      obtain ⟨_, _, -, later, -⟩ := sound
      simp only [session, List.mem_cons, forall_eq_or_imp]
      exact ⟨sound_call call reading, induction later⟩

/-- What the calls take, in order, continues what was received before them. -/
theorem segments_prefix (calls : List Call) (reading : HasRead messages stream chunks) :
    dataOf stream.rx.received ++ ((session stream calls).map Exchange.segment).flatten <+:
      bodyOf messages := by
  induction calls generalizing stream chunks with
  | nil =>
      rw [reading.dataOf_received]
      simpa [session] using reading.flatten_prefix
  | cons call calls induction =>
      obtain ⟨chunks, more, earlier, later, told, -⟩ := sound_call call reading
      have rest := induction later
      rw [later.dataOf_received, List.flatten_append, List.append_assoc] at rest
      rw [session, List.map_cons, List.flatten_cons, Exchange.segment_eq earlier later told,
        earlier.dataOf_received]
      exact rest

/-- A failed stream stays as it is, and says so. -/
theorem call_of_failed {failure : StreamFailure ReadError} (failed : stream.state = .failed failure)
    (call : Call) :
    (stream.call call).2 = stream ∧
      (call ≠ .read (some 0) → (stream.call call).1 = .raised (.failure failure)) := by
  have raises : stream.next = (.error (.failure failure), stream) := by
    simp [next, failed]
  cases call with
  | next => simp [BodyStream.call, raises, Reply.ofBytes]
  | drainCount => simp [BodyStream.call, drainCount, failed, Reply.ofCount]
  | read limit =>
      simp only [BodyStream.call, read]
      fun_cases readFrom limit [] stream with
      | case1 enough =>
          refine ⟨rfl, fun asked => absurd enough ?_⟩
          cases limit <;> simp_all [satisfied]
      | case2 | case3 | case4 => simp_all [Reply.ofBytes]

/-- Once a stream has failed, every call of a session that is not `read(0)` raises its failure. -/
theorem raises_of_failed {failure : StreamFailure ReadError}
    (failed : stream.state = .failed failure) (calls : List Call) :
    ∀ exchange ∈ session stream calls, exchange.call ≠ .read (some 0) →
      exchange.reply = .raised (.failure failure) := by
  induction calls with
  | nil => simp [session]
  | cons call calls induction =>
      obtain ⟨same, raises⟩ := call_of_failed failed call
      simp only [session, same, List.mem_cons, forall_eq_or_imp]
      exact ⟨raises, induction⟩

theorem failureSticks_session (calls : List Call) (reading : HasRead messages stream chunks) :
    FailureSticks (· = .read (some 0)) (session stream calls) := by
  induction calls generalizing stream chunks with
  | nil => exact List.Pairwise.nil
  | cons call calls induction =>
      obtain ⟨_, _, -, later, -⟩ := sound_call call reading
      refine List.Pairwise.cons ?_ (induction later)
      intro exchange member message received failure meaning asked
      have failed := (later.failed_iff failure).mpr ⟨message, received, meaning⟩
      exact raises_of_failed failed calls exchange member (by simpa using asked)

/-- Whatever the feeder sends and however a handler mixes its calls, what they take is a prefix of
the body, its end is reported only once received, and a failure is final. -/
theorem session_truthful (messages : List (ChunkMsg ReadError)) (calls : List Call) :
    Truthful messages (session (new messages) calls) where
  inOrder := segments_prefix calls (HasRead.new messages)
  counted := by
    intro exchange member total reply
    obtain ⟨chunks, more, earlier, later, told, -⟩ :=
      sound_of_mem_session calls (HasRead.new messages) exchange member
    rw [Exchange.segment_eq earlier later told]
    rw [reply] at told
    exact told.1
  endsAfterEof := by
    intro exchange member ends
    obtain ⟨chunks, more, -, later, -, finishes, -⟩ :=
      sound_of_mem_session calls (HasRead.new messages) exchange member
    exact (later.whole_of_finished (finishes ends)).1
  failureSticks := failureSticks_session calls (HasRead.new messages)
  emptyAtEnd := by
    intro exchange member limit positive called empty
    obtain ⟨chunks, more, -, later, -, finishes, -⟩ :=
      sound_of_mem_session calls (HasRead.new messages) exchange member
    have ends : exchange.EndsBody := by
      simp only [Exchange.EndsBody, called, empty, List.length_nil]
      exact positive
    rw [later.dataOf_received]
    exact later.whole_of_finished (finishes ends)
  zeroReadsNothing := by
    intro exchange member called
    obtain ⟨_, _, -, -, -, -, nothing⟩ :=
      sound_of_mem_session calls (HasRead.new messages) exchange member
    exact nothing called

/-- `read(0)` is exempt: on a stream cut off before its end it returns `b""`. -/
theorem zeroRead_of_cutOff_returns :
    ¬ FailureSticks (fun _ => false) (session (@new Unit []) [.next, .read (some 0)]) := by
  simp [FailureSticks, session, call, next, new, BodyReceiver.blockingRecv, Received.of,
    afterReceive, read_zero, Reply.ofBytes]

end Sessions

end BodyStream

end Pyronova
