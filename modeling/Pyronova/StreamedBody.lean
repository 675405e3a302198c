import Pyronova.BodyStream

/-!
# The streamed body is the buffered body

A feeder and a handler that keeps reading, joined by the bounded channel, against `collect` on the
same frames.  The two count the body's size in their own ways; every interleaving ends, and it ends
with the bytes or the rejection that `collect` returns.
-/

namespace Pyronova

/-- A handler iterating over the stream, with the chunks it was given. -/
structure Reader (ReadError : Type*) where
  state : StreamState ReadError
  chunks : List Bytes

variable {ReadError : Type*}

namespace Reader

def start : Reader ReadError := { state := .opened, chunks := [] }

/-- `__next__` returns from its receive. -/
def receive (reader : Reader ReadError) (message : Option (ChunkMsg ReadError)) :
    Reader ReadError :=
  match afterReceive (Received.of message) with
  | (.ok chunk, state) => { state, chunks := reader.chunks ++ [chunk] }
  | (.error _, state) => { reader with state }

/-- The iteration is over: `StopIteration` or a failure was raised. -/
def done (reader : Reader ReadError) : Bool :=
  match reader.state with
  | .opened => false
  | _ => true

end Reader

/-- The feeder and the handler over `body_channel`. -/
def bodyPipe (maxSize : Nat) : Pipe (Feeder ReadError) (ChunkMsg ReadError) (Reader ReadError) where
  capacity := channelCapacity
  produce := Feeder.turn maxSize
  receive := Reader.receive
  done := Reader.done

/-- A streamed request: `stream_body_feeder` beside the handler. -/
def streamedRequest (maxSize : Nat) (body : IncomingBody ReadError) :
    Machine (Pipe.State (Feeder ReadError) (ChunkMsg ReadError) (Reader ReadError)) Pipe.Event :=
  (bodyPipe maxSize).machine (Feeder.start body) Reader.start

/-- The feeder stops after handing over its output. -/
theorem feeder_yields (maxSize : Nat) (ending : BodyEnd ReadError) (frames : List Frame)
    (total : Nat) :
    ∃ steps, (bodyPipe maxSize).Yields (.feeding total frames ending) steps
      (Feeder.output maxSize ending total frames) := by
  have closes (fed : Fed ReadError) : (bodyPipe maxSize).Yields (.closing fed) 2 [fed.last] :=
    .emit rfl (.stop rfl)
  induction frames generalizing total with
  | nil =>
      cases ending with
      | complete => exact ⟨3, .silent rfl (closes .complete)⟩
      | failed error => exact ⟨3, .silent rfl (closes (.rejected (.read error)))⟩
  | cons frame frames induction =>
      cases frame with
      | trailers =>
          obtain ⟨steps, yields⟩ := induction total
          exact ⟨steps + 1, .silent rfl yields⟩
      | data chunk =>
          rw [Feeder.output]
          split
          · rename_i exceeds
            refine ⟨3, .silent ?_ (closes (.rejected .tooLarge))⟩
            exact if_pos exceeds
          · rename_i fits
            obtain ⟨steps, yields⟩ := induction (saturatingAdd total chunk.length)
            refine ⟨steps + 1, .emit ?_ yields⟩
            exact if_neg fits

/-- The iteration ended as the buffered path did. -/
def Reader.Matches (reader : Reader ReadError) : Except (BodyReject ReadError) Bytes → Prop
  | .ok bytes => reader.state = .finished ∧ reader.chunks.flatten = bytes
  | .error reject => reader.state = .failed (.rejected reject)

/-- The feeder's total is the buffer's length, short of saturation, so both sides refuse the same
frame. -/
theorem drain_output_matches (maxSize : Nat) (ending : BodyEnd ReadError) (frames : List Frame)
    (buffer : BodyBuf) (chunks : List Bytes) (buffered : chunks.flatten = buffer.freeze) :
    ((bodyPipe maxSize).drain (Feeder.output maxSize ending (min buffer.len usizeMax) frames)
      ⟨.opened, chunks⟩).Matches (collectFrom ungated maxSize ending () buffer frames) := by
  induction frames generalizing buffer chunks with
  | nil =>
      cases ending with
      | complete => exact ⟨rfl, buffered⟩
      | failed error => rfl
  | cons frame frames induction =>
      cases frame with
      | trailers => exact induction buffer chunks buffered
      | data chunk =>
          have sameTotal : saturatingAdd (min buffer.len usizeMax) chunk.length =
              saturatingAdd buffer.len chunk.length :=
            saturatingAdd_min buffer.len chunk.length
          rw [Feeder.output, collectFrom, sameTotal]
          split
          · rfl
          · have pushed : saturatingAdd buffer.len chunk.length =
                min (buffer.push chunk).len usizeMax := by
              rw [saturatingAdd, BodyBuf.len_push]
            rw [pushed]
            apply induction (buffer.push chunk) (chunks ++ [chunk])
            rw [List.flatten_append, buffered, BodyBuf.freeze_push]
            simp

/-- Every interleaving of feeder and handler ends, and it ends as the buffered path does. -/
structure AgreesWithBuffered (maxSize : Nat) (body : IncomingBody ReadError) : Prop where
  bounded : ∃ bound, ∀ schedule state, (streamedRequest maxSize body).run schedule = some state →
    schedule.length ≤ bound
  progresses : ∀ state, (streamedRequest maxSize body).Reachable state →
    state.consumer.state = .opened →
    ∃ event after, (streamedRequest maxSize body).step state event = some after
  delivers : ∀ state, (streamedRequest maxSize body).Reachable state →
    state.consumer.state ≠ .opened → ∀ bytes, readBody maxSize body = .ok bytes ↔
      state.consumer.state = .finished ∧ state.consumer.chunks.flatten = bytes
  rejects : ∀ state, (streamedRequest maxSize body).Reachable state →
    state.consumer.state ≠ .opened → ∀ reject, readBody maxSize body = .error reject ↔
      state.consumer.state = .failed (.rejected reject)

theorem Reader.done_eq_false {reader : Reader ReadError} :
    reader.done = false ↔ reader.state = .opened := by
  unfold done
  split <;> simp_all

theorem closes_channel (maxSize : Nat) (reader : Reader ReadError) :
    (bodyPipe maxSize).done ((bodyPipe maxSize).receive reader none) :=
  rfl

/-- A handler whose iteration is over has seen what `read_body` returns. -/
theorem matches_of_reachable (maxSize : Nat) (body : IncomingBody ReadError)
    {state : Pipe.State (Feeder ReadError) (ChunkMsg ReadError) (Reader ReadError)}
    (reachable : (streamedRequest maxSize body).Reachable state)
    (closed : state.consumer.state ≠ .opened) :
    state.consumer.Matches (readBody maxSize body) := by
  obtain ⟨schedule, execution⟩ := reachable
  obtain ⟨steps, yields⟩ := feeder_yields maxSize body.ending body.frames 0
  have done : (bodyPipe maxSize).done state.consumer := by
    by_contra reading
    exact closed (Reader.done_eq_false.mp (Bool.eq_false_of_not_eq_true reading))
  rw [Pipe.consumer_eq_drain (closes_channel maxSize) yields execution done]
  exact drain_output_matches maxSize body.ending body.frames .empty [] rfl

theorem Reader.Matches.ok_iff {reader : Reader ReadError}
    {result : Except (BodyReject ReadError) Bytes} (same : reader.Matches result) (bytes : Bytes) :
    result = .ok bytes ↔ reader.state = .finished ∧ reader.chunks.flatten = bytes := by
  cases result with
  | ok returned =>
      obtain ⟨finished, rfl⟩ := same
      simp [finished]
  | error reject => simp [show reader.state = .failed (.rejected reject) from same]

theorem Reader.Matches.error_iff {reader : Reader ReadError}
    {result : Except (BodyReject ReadError) Bytes} (same : reader.Matches result)
    (reject : BodyReject ReadError) :
    result = .error reject ↔ reader.state = .failed (.rejected reject) := by
  cases result with
  | ok returned => simp [same.1]
  | error other => simp [show reader.state = .failed (.rejected other) from same]

/-- The buffered and the streamed path agree on every body, and a gate that admits the lengths it
is asked about changes nothing. -/
theorem buffered_agrees_streamed.{u, v, w} {ReadError : Type u} (maxSize : Nat)
    (body : IncomingBody ReadError) :
    AgreesWithBuffered maxSize body ∧
      ∀ {GateState : Type v} {GateError : Type w} (gate : BodyGate ReadError GateState GateError)
        (start : GateState), gate.Admits start (askedLengths maxSize 0 body.frames) →
        collect gate start maxSize body = gate.lift (readBody maxSize body) := by
  refine ⟨⟨?_, ?_, ?_, ?_⟩, ?_⟩
  · obtain ⟨steps, yields⟩ := feeder_yields maxSize body.ending body.frames 0
    exact ⟨2 * steps + 1, fun schedule state execution =>
      Pipe.length_le_of_run (closes_channel maxSize) yields execution⟩
  · intro state _ reading
    exact Pipe.exists_step (show 0 < channelCapacity by decide)
      (Reader.done_eq_false.mpr reading)
  · intro state reachable closed
    exact (matches_of_reachable maxSize body reachable closed).ok_iff
  · intro state reachable closed
    exact (matches_of_reachable maxSize body reachable closed).error_iff
  · intro GateState GateError gate start admits
    exact collectFrom_eq_lift gate maxSize body.ending body.frames start .empty admits

/-- Three bytes in three frames, one of them empty, around trailers. -/
def threeBytes : IncomingBody Unit where
  frames := [.data [1, 2], .trailers, .data [], .data [3]]
  ending := .complete

/-- At the exact limit, through the pool's gate with one permit free. -/
theorem buffered_agrees_streamed_threeBytes :
    AgreesWithBuffered 3 threeBytes ∧
      collect (admission 2) ⟨1, false⟩ 3 threeBytes = .ok [1, 2, 3] := by
  obtain ⟨agrees, gated⟩ := buffered_agrees_streamed 3 threeBytes
  have admitted := gated (admission 2) ⟨1, false⟩ (admission_admits 2 _ _ (Or.inr Nat.one_pos))
  exact ⟨agrees, admitted.trans rfl⟩

end Pyronova
