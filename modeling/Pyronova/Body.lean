import Pyronova.Pipe
import Pyronova.Usize

/-!
# Request bodies: buffered whole, or fed to the handler frame by frame

A body is read under one size limit in two ways.  `collect` buffers it, passing a gate after each
frame; `feed` hands every data frame to the handler and closes with the body's end or with the
reason it gave up.  Neither limit of time is modelled: the body arrives, and the handler reads.
-/

namespace Pyronova

abbrev Bytes := List UInt8

/-- Why a request body was not read; `ReadError` is the transport's own error. -/
inductive BodyReject (ReadError : Type*)
  | tooLarge
  | timedOut
  | read (error : ReadError)
  deriving DecidableEq, Repr

/-- The text of a rejection, given the text of the transport's error. -/
def BodyReject.text {ReadError : Type*} (describe : ReadError → String) :
    BodyReject ReadError → String
  | .tooLarge => "request body is larger than max_body_size"
  | .timedOut => "request body did not arrive within 30s"
  | .read error => "request body read failed: " ++ describe error

/-- One frame of a body. -/
inductive Frame
  | data (bytes : Bytes)
  | trailers
  deriving DecidableEq, Repr

/-- How a body stops after its last frame. -/
inductive BodyEnd (ReadError : Type*)
  | complete
  | failed (error : ReadError)
  deriving DecidableEq, Repr

/-- The frames of a body in order of arrival, and what follows them. -/
structure IncomingBody (ReadError : Type*) where
  frames : List Frame
  ending : BodyEnd ReadError

variable {ReadError : Type*}

/-! ## Buffered -/

/-- Body bytes as they arrive, the first frame kept as it was handed over. -/
inductive BodyBuf
  | empty
  | one (bytes : Bytes)
  | many (bytes : Bytes)

namespace BodyBuf

def len : BodyBuf → Nat
  | empty => 0
  | one bytes => bytes.length
  | many bytes => bytes.length

def push : BodyBuf → Bytes → BodyBuf
  | empty, data => one data
  | one first, data => many (first ++ data)
  | many joined, data => many (joined ++ data)

def freeze : BodyBuf → Bytes
  | empty => []
  | one bytes => bytes
  | many bytes => bytes

@[simp] theorem freeze_push (buffer : BodyBuf) (data : Bytes) :
    (buffer.push data).freeze = buffer.freeze ++ data := by
  cases buffer <;> rfl

theorem len_eq (buffer : BodyBuf) : buffer.len = buffer.freeze.length := by
  cases buffer <;> rfl

theorem len_push (buffer : BodyBuf) (data : Bytes) :
    (buffer.push data).len = buffer.len + data.length := by
  rw [len_eq, freeze_push, List.length_append, ← len_eq]

end BodyBuf

/-- What a body must pass as it is buffered, besides the size limit. -/
structure BodyGate (ReadError GateState GateError : Type*) where
  /-- The gate's error for a body that was not read. -/
  ofReject : BodyReject ReadError → GateError
  /-- Called with the bytes buffered so far, after each frame. -/
  admitBody : GateState → Nat → Except GateError GateState

/-- No gate. -/
def ungated : BodyGate ReadError Unit (BodyReject ReadError) where
  ofReject reject := reject
  admitBody _ _ := .ok ()

section Collect

variable {GateState GateError : Type*}

/-- The loop of `collect`, from a partly filled buffer. -/
def collectFrom (gate : BodyGate ReadError GateState GateError) (max : Nat)
    (ending : BodyEnd ReadError) : GateState → BodyBuf → List Frame → Except GateError Bytes
  | _, buffer, [] =>
      match ending with
      | .complete => .ok buffer.freeze
      | .failed error => .error (gate.ofReject (.read error))
  | state, buffer, .trailers :: frames => collectFrom gate max ending state buffer frames
  | state, buffer, .data data :: frames =>
      if saturatingAdd buffer.len data.length > max then
        .error (gate.ofReject .tooLarge)
      else
        match gate.admitBody state (buffer.push data).len with
        | .error error => .error error
        | .ok state => collectFrom gate max ending state (buffer.push data) frames

/-- The whole body, at most `max` bytes, passing `gate` after each frame. -/
def collect (gate : BodyGate ReadError GateState GateError) (state : GateState) (max : Nat)
    (body : IncomingBody ReadError) : Except GateError Bytes :=
  collectFrom gate max body.ending state .empty body.frames

/-- The whole body, at most `max` bytes. -/
def readBody (max : Nat) (body : IncomingBody ReadError) : Except (BodyReject ReadError) Bytes :=
  collect ungated () max body

/-- The lengths a gate is asked about while a body is buffered and nothing is refused. -/
def askedLengths (max : Nat) : Nat → List Frame → List Nat
  | _, [] => []
  | buffered, .trailers :: frames => askedLengths max buffered frames
  | buffered, .data data :: frames =>
      if saturatingAdd buffered data.length > max then []
      else (buffered + data.length) :: askedLengths max (buffered + data.length) frames

/-- The gate lets every one of these lengths through, asked in order. -/
def BodyGate.Admits (gate : BodyGate ReadError GateState GateError) :
    GateState → List Nat → Prop
  | _, [] => True
  | state, buffered :: later =>
      ∃ next, gate.admitBody state buffered = .ok next ∧ gate.Admits next later

/-- A result of the ungated path, in the gate's error type. -/
def BodyGate.lift (gate : BodyGate ReadError GateState GateError) :
    Except (BodyReject ReadError) Bytes → Except GateError Bytes
  | .ok bytes => .ok bytes
  | .error reject => .error (gate.ofReject reject)

theorem collectFrom_eq_lift (gate : BodyGate ReadError GateState GateError) (max : Nat)
    (ending : BodyEnd ReadError) (frames : List Frame) (state : GateState) (buffer : BodyBuf)
    (admits : gate.Admits state (askedLengths max buffer.len frames)) :
    collectFrom gate max ending state buffer frames =
      gate.lift (collectFrom ungated max ending () buffer frames) := by
  induction frames generalizing state buffer with
  | nil => cases ending <;> rfl
  | cons frame frames induction =>
      cases frame with
      | trailers =>
          simp only [collectFrom, askedLengths] at admits ⊢
          exact induction state buffer admits
      | data data =>
          simp only [collectFrom, askedLengths] at admits ⊢
          split
          · rfl
          · rename_i fits
            rw [if_neg fits] at admits
            obtain ⟨next, admitted, later⟩ := admits
            rw [BodyBuf.len_push, admitted]
            rw [← BodyBuf.len_push] at later
            exact induction next (buffer.push data) later

end Collect

/-- The pool's admission gate: the permits free when it asks, and whether it holds one. -/
structure Admission where
  free : Nat
  permit : Bool

/-- Why the pool does not take a body. -/
inductive AdmissionError (ReadError : Type*)
  | overloaded
  | body (reject : BodyReject ReadError)

/-- A body past `skipBytes` needs a permit; no other request takes or returns one meanwhile. -/
def admission (skipBytes : Nat) : BodyGate ReadError Admission (AdmissionError ReadError) where
  ofReject := .body
  admitBody gate buffered :=
    if gate.permit = false ∧ buffered > skipBytes then
      if gate.free = 0 then .error .overloaded
      else .ok { free := gate.free - 1, permit := true }
    else
      .ok gate

/-- With a permit held or free, the gate admits every body. -/
theorem admission_admits (skipBytes : Nat) (lengths : List Nat) (gate : Admission)
    (available : gate.permit ∨ 0 < gate.free) :
    (@admission ReadError skipBytes).Admits gate lengths := by
  induction lengths generalizing gate with
  | nil => trivial
  | cons buffered later induction =>
      simp only [BodyGate.Admits, admission]
      split
      · rename_i asks
        have free : gate.free ≠ 0 := by
          rcases available with held | free
          · simp [held] at asks
          · omega
        rw [if_neg free]
        exact ⟨_, rfl, induction _ (Or.inl rfl)⟩
      · exact ⟨gate, rfl, induction gate available⟩

/-! ## Streamed -/

/-- Chunks in flight between the feeder and the handler. -/
def channelCapacity : Nat := 8

/-- A message on the channel from the feeder to the handler. -/
inductive ChunkMsg (ReadError : Type*)
  | data (bytes : Bytes)
  | err (reject : BodyReject ReadError)
  | eof
  deriving DecidableEq, Repr

/-- How feeding a body ended, when the handler was there for all of it. -/
inductive Fed (ReadError : Type*)
  | complete
  | rejected (reject : BodyReject ReadError)

/-- The message a feeder closes the channel with. -/
def Fed.last : Fed ReadError → ChunkMsg ReadError
  | .complete => .eof
  | .rejected reject => .err reject

/-- Where `stream_body_feeder` stands: reading frames with a running total, about to hand over its
last message, or about to drop the sender. -/
inductive Feeder (ReadError : Type*)
  | feeding (total : Nat) (frames : List Frame) (ending : BodyEnd ReadError)
  | closing (fed : Fed ReadError)
  | finished

namespace Feeder

/-- `stream_body_feeder` before its first poll. -/
def start (body : IncomingBody ReadError) : Feeder ReadError :=
  .feeding 0 body.frames body.ending

/-- One turn of the feeder. -/
def turn (maxSize : Nat) : Feeder ReadError → Emission (Feeder ReadError) (ChunkMsg ReadError)
  | feeding _ [] .complete => .silent (closing .complete)
  | feeding _ [] (.failed error) => .silent (closing (.rejected (.read error)))
  | feeding total (.trailers :: frames) ending => .silent (feeding total frames ending)
  | feeding total (.data chunk :: frames) ending =>
      -- The total is updated first and compared after, where `collect` compares before it buffers.
      if saturatingAdd total chunk.length > maxSize then
        .silent (closing (.rejected .tooLarge))
      else
        .emit (.data chunk) (feeding (saturatingAdd total chunk.length) frames ending)
  | closing fed => .emit fed.last finished
  | finished => .stop

/-- Everything a feeder hands over, in order. -/
def output (maxSize : Nat) (ending : BodyEnd ReadError) : Nat → List Frame →
    List (ChunkMsg ReadError)
  | _, [] =>
      match ending with
      | .complete => [.eof]
      | .failed error => [.err (.read error)]
  | total, .trailers :: frames => output maxSize ending total frames
  | total, .data chunk :: frames =>
      if saturatingAdd total chunk.length > maxSize then [.err .tooLarge]
      else .data chunk :: output maxSize ending (saturatingAdd total chunk.length) frames

end Feeder

end Pyronova
