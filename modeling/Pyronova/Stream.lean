import Mathlib.Tactic
import Pyronova.EventStream
import Pyronova.Response

/-!
# Streamed responses

A handler writes server-sent events to a `Stream`, each as one chunk of the response body.  Whatever
the data, the event name and the id are, a reader of the body sees exactly the events that were
sent: the lines of a chunk are the fields of its call and a blank line.
-/

namespace Pyronova

open EventStream

/-! ## The lines of an event's data -/

/-- `str::split("\r\n")`. -/
def splitReturnFeed : List Char → List (List Char)
  | [] => [[]]
  | '\r' :: '\n' :: rest => [] :: splitReturnFeed rest
  | char :: rest => (splitReturnFeed rest).modifyHead (char :: ·)

/-- The data without one line ending at its end. -/
def stripEnding (data : List Char) : List Char :=
  match data.reverse with
  | '\n' :: '\r' :: rest => rest.reverse
  | '\n' :: rest => rest.reverse
  | '\r' :: rest => rest.reverse
  | _ => data

def sseLines (data : String) : List (List Char) :=
  (splitReturnFeed (stripEnding data.toList)).flatMap (List.splitOnP isLineEnd)

/-! ## The stream -/

/-- Chunks buffered for a slow client. -/
def STREAM_CHANNEL_CAP : Nat := 1024

inductive PushError
  | valueError (message : String)
  | connectionError (message : String)
  | blockingError (message : String)
  deriving DecidableEq, Repr

/-- A stream with both ends of its channel.  No code reads `sent`: it is every chunk the channel
took, in order. -/
structure PyronovaStream where
  /-- `close` drops the sender. -/
  sender : Bool := true
  receiver : Bool := true
  queue : List Bytes := []
  /-- The chunks the response body took. -/
  delivered : List Bytes := []
  sent : List Bytes := []
  deriving DecidableEq, Repr

/-- The arguments of one `send_event`. -/
structure EventCall where
  data : String
  event : Option String
  id : Option String
  deriving DecidableEq, Repr

namespace EventCall

/-- The lines of an event, without their line feeds: `id`, `event`, one `data` for each line, and
a blank one. -/
def texts (call : EventCall) : List (List Char) :=
  (call.id.map ("id: ".toList ++ ·.toList)).toList ++
    (call.event.map ("event: ".toList ++ ·.toList)).toList ++
    (sseLines call.data).map ("data: ".toList ++ ·) ++ [[]]

/-- The chunk of an event. -/
def message (call : EventCall) : String := String.ofList (call.texts.flatMap (· ++ ['\n']))

end EventCall

namespace PyronovaStream

def push (stream : PyronovaStream) (chunk : Bytes) : Except PushError Unit × PyronovaStream :=
  if stream.sender then
    if stream.receiver then
      if stream.queue.length < STREAM_CHANNEL_CAP then
        (.ok (), { stream with
          queue := stream.queue ++ [chunk], sent := stream.sent ++ [chunk] })
      else
        (.error (.blockingError "stream buffer full (client is slow); retry after a brief pause"),
          stream)
    else
      (.error (.connectionError "client disconnected"), stream)
  else
    (.error (.connectionError "stream was explicitly closed"), stream)

def send (stream : PyronovaStream) (data : String) : Except PushError Unit × PyronovaStream :=
  stream.push (utf8Encode data)

/-- `contains(['\n', '\r'])`. -/
def breaksLine (text : Option String) : Bool :=
  match text with
  | none => false
  | some text => text.toList.any isLineEnd

def sendEvent (stream : PyronovaStream) (call : EventCall) :
    Except PushError Unit × PyronovaStream :=
  if breaksLine call.id then
    (.error (.valueError "SSE id must not contain newline or carriage-return characters"), stream)
  else if breaksLine call.event then
    (.error (.valueError
      "SSE event name must not contain newline or carriage-return characters"), stream)
  else
    stream.push (utf8Encode call.message)

def close (stream : PyronovaStream) : PyronovaStream := { stream with sender := false }

/-- The response body takes the next chunk, if there is one. -/
def poll (stream : PyronovaStream) : PyronovaStream :=
  match stream.queue with
  | [] => stream
  | chunk :: queue => { stream with queue, delivered := stream.delivered ++ [chunk] }

/-- The response body is dropped, with the chunks it has not taken. -/
def disconnect (stream : PyronovaStream) : PyronovaStream :=
  { stream with receiver := false, queue := [] }

end PyronovaStream

/-! ## The lines are the data's own -/

theorem splitReturnFeed_ne_nil (text : List Char) : splitReturnFeed text ≠ [] := by
  induction text using splitReturnFeed.induct with
  | case1 => simp [splitReturnFeed]
  | case2 rest _ => simp [splitReturnFeed]
  | case3 char rest different induction =>
      obtain ⟨first, others, split⟩ := List.exists_cons_of_ne_nil induction
      rw [splitReturnFeed, split]
      · simp
      · exact different

/-- Outside a CR LF, a character goes to the front of the first part. -/
theorem splitReturnFeed_cons (char : Char) (rest : List Char)
    (outside : ∀ more, char = '\r' → rest ≠ '\n' :: more) :
    ∃ first others, splitReturnFeed rest = first :: others ∧
      splitReturnFeed (char :: rest) = (char :: first) :: others := by
  obtain ⟨first, others, split⟩ := List.exists_cons_of_ne_nil (splitReturnFeed_ne_nil rest)
  refine ⟨first, others, split, ?_⟩
  rw [splitReturnFeed, split, List.modifyHead_cons]
  exact outside

/-- Cutting at CR LF and then at the single characters cuts at the line endings. -/
theorem flatMap_splitReturnFeed (text : List Char) :
    (splitReturnFeed text).flatMap (List.splitOnP isLineEnd) = splitLines text := by
  induction text using lines_induction with
  | nil => rfl
  | returnFeed rest induction =>
      rw [splitReturnFeed, splitLines, List.flatMap_cons, induction]
      rfl
  | returnAlone rest single induction =>
      obtain ⟨first, others, split, split'⟩ :=
        splitReturnFeed_cons '\r' rest fun more _ => single more
      rw [split, List.flatMap_cons] at induction
      rw [split', List.flatMap_cons, List.splitOnP_cons_eq_if_modifyHead,
        splitLines_return single, ← induction]
      rfl
  | feed rest induction =>
      obtain ⟨first, others, split, split'⟩ :=
        splitReturnFeed_cons '\n' rest fun _ isReturn => absurd isReturn (by decide)
      rw [split, List.flatMap_cons] at induction
      rw [split', List.flatMap_cons, List.splitOnP_cons_eq_if_modifyHead, splitLines, ← induction]
      rfl
  | cons char rest inside induction =>
      have notReturn : char ≠ '\r' := by
        rintro rfl
        simp [isLineEnd] at inside
      obtain ⟨first, others, split, split'⟩ :=
        splitReturnFeed_cons char rest fun _ isReturn => absurd isReturn notReturn
      obtain ⟨line, lines, parts⟩ :=
        List.exists_cons_of_ne_nil (List.splitOnP_ne_nil isLineEnd first)
      rw [split, List.flatMap_cons, parts] at induction
      rw [split', List.flatMap_cons, List.splitOnP_cons_eq_if_modifyHead, inside, parts,
        splitLines_cons inside, ← induction]
      rfl

/-- The data's lines, less the empty one after a line ending at its end. -/
theorem sseLines_eq (data : String) :
    sseLines data =
      if data.toList.getLast?.any isLineEnd then (splitLines data.toList).dropLast
      else splitLines data.toList := by
  rw [sseLines, flatMap_splitReturnFeed]
  generalize data.toList = text
  have last : text.getLast? = text.reverse.head? := List.head?_reverse.symm
  rw [stripEnding, last]
  split
  · rename_i rest ends
    obtain rfl : text = rest.reverse ++ ['\r', '\n'] := by
      simpa using congrArg List.reverse ends
    rw [splitLines_ending rfl (by simp), List.dropLast_concat, ends]
    rfl
  · rename_i rest single ends
    have apart : rest.reverse.getLast? ≠ some '\r' := by
      rw [List.getLast?_reverse]
      intro isReturn
      obtain ⟨more, rfl⟩ := List.head?_eq_some_iff.mp isReturn
      exact single more rfl
    obtain rfl : text = rest.reverse ++ ['\n'] := by
      simpa using congrArg List.reverse ends
    rw [splitLines_ending rfl fun _ => apart, List.dropLast_concat, ends]
    rfl
  · rename_i rest ends
    obtain rfl : text = rest.reverse ++ ['\r'] := by
      simpa using congrArg List.reverse ends
    rw [splitLines_ending rfl (by simp), List.dropLast_concat, ends]
    rfl
  · rename_i noFeed noReturn
    have inside : text.reverse.head?.any isLineEnd = false := by
      cases ends : text.reverse with
      | nil => rfl
      | cons char rest =>
          have notFeed : char ≠ '\n' := fun same => noFeed rest (by rw [ends, same])
          have notReturn : char ≠ '\r' := fun same => noReturn rest (by rw [ends, same])
          simp [isLineEnd, notFeed, notReturn]
    rw [inside]
    rfl

theorem oneLine_sseLines {data : String} {line : List Char} (member : line ∈ sseLines data) :
    OneLine line := by
  rw [sseLines, flatMap_splitReturnFeed] at member
  exact oneLine_of_mem_splitLines member

theorem sseLines_ne_nil (data : String) : sseLines data ≠ [] := by
  rw [sseLines, flatMap_splitReturnFeed]
  exact splitLines_ne_nil _

/-! ## A chunk read back -/

namespace EventCall

/-- What a reader is to see of a call, line by line. -/
def lines (call : EventCall) : List Line :=
  (call.id.map (Line.field "id".toList ·.toList)).toList ++
    (call.event.map (Line.field "event".toList ·.toList)).toList ++
    (sseLines call.data).map (Line.field "data".toList) ++ [.blank]

/-- Neither the id nor the event name breaks a line. -/
def Valid (call : EventCall) : Prop :=
  (∀ id ∈ call.id, OneLine id.toList) ∧ ∀ event ∈ call.event, OneLine event.toList

/-- The last event id after a call; an id with a NUL is ignored. -/
def idAfter (call : EventCall) (before : List Char) : List Char :=
  match call.id with
  | none => before
  | some id => if '\x00' ∈ id.toList then before else id.toList

def type (call : EventCall) : List Char :=
  match call.event with
  | none => "message".toList
  | some event => if event.toList = [] then "message".toList else event.toList

/-- The event of a call, after calls that left the last event id `before`. -/
def eventAfter (call : EventCall) (before : List Char) : Event where
  type := call.type
  data := ['\n'].intercalate (sseLines call.data)
  lastEventId := call.idAfter before

variable {call : EventCall}

theorem oneLine_texts (valid : call.Valid) : ∀ text ∈ call.texts, OneLine text := by
  have literal : OneLine "id: ".toList ∧ OneLine "event: ".toList ∧ OneLine "data: ".toList := by
    decide
  intro text member
  simp only [texts, List.mem_append, Option.mem_toList, Option.map_eq_some_iff, List.mem_map,
    List.mem_singleton] at member
  rcases member with ((⟨id, isId, rfl⟩ | ⟨event, isEvent, rfl⟩) | ⟨line, isLine, rfl⟩) | rfl
  · exact literal.1.append (valid.1 id isId)
  · exact literal.2.1.append (valid.2 event isEvent)
  · exact literal.2.2.append (oneLine_sseLines isLine)
  · simp [OneLine]

/-- A reader takes every line for what it was written as. -/
theorem ofText_texts (call : EventCall) : call.texts.map Line.ofText = call.lines := by
  have id (value : List Char) : Line.ofText ("id: ".toList ++ value) = .field "id".toList value :=
    Line.ofText_field "id".toList (by decide) (by decide) value
  have event (value : List Char) :
      Line.ofText ("event: ".toList ++ value) = .field "event".toList value :=
    Line.ofText_field "event".toList (by decide) (by decide) value
  have data (value : List Char) :
      Line.ofText ("data: ".toList ++ value) = .field "data".toList value :=
    Line.ofText_field "data".toList (by decide) (by decide) value
  have dataLines : ((sseLines call.data).map ("data: ".toList ++ ·)).map Line.ofText =
      (sseLines call.data).map (Line.field "data".toList) := by
    rw [List.map_map]
    exact List.map_congr_left fun value _ => data value
  have idLine : ((call.id.map ("id: ".toList ++ ·.toList)).toList).map Line.ofText =
      (call.id.map (Line.field "id".toList ·.toList)).toList := by
    cases call.id with
    | none => rfl
    | some value => simp only [Option.map_some, Option.toList_some, List.map_cons, List.map_nil, id]
  have eventLine : ((call.event.map ("event: ".toList ++ ·.toList)).toList).map Line.ofText =
      (call.event.map (Line.field "event".toList ·.toList)).toList := by
    cases call.event with
    | none => rfl
    | some value =>
        simp only [Option.map_some, Option.toList_some, List.map_cons, List.map_nil, event]
  rw [texts, lines, List.map_append, List.map_append, List.map_append, dataLines, idLine, eventLine]
  rfl

/-- Between two events a reader dispatches the call's event and is between two events again. -/
theorem foldl_lines (call : EventCall) (before : List Char) (dispatched : List Event) :
    call.lines.foldl Reader.line (Reader.idle before dispatched) =
      Reader.idle (call.idAfter before) (dispatched ++ [call.eventAfter before]) := by
  have afterId (reader : Reader) :
      (call.id.map (Line.field "id".toList ·.toList)).toList.foldl Reader.line reader =
        { reader with idBuffer := call.idAfter reader.idBuffer } := by
    rw [idAfter]
    cases call.id with
    | none => rfl
    | some id =>
        simp only [Option.map_some, Option.toList_some, List.foldl_cons, List.foldl_nil,
          Reader.line, Reader.field_id]
        split <;> rfl
  have afterEvent (reader : Reader) :
      (call.event.map (Line.field "event".toList ·.toList)).toList.foldl Reader.line reader =
        { reader with eventType := (call.event.map String.toList).getD reader.eventType } := by
    cases call.event with
    | none => rfl
    | some event =>
        simp only [Option.map_some, Option.toList_some, List.foldl_cons, List.foldl_nil,
          Reader.line, Reader.field_event, Option.getD_some]
  have type : (if (call.event.map String.toList).getD [] = [] then "message".toList
      else (call.event.map String.toList).getD []) = call.type := by
    rw [EventCall.type]
    cases call.event with
    | none => rfl
    | some event => rfl
  have gathered : (sseLines call.data).flatMap (· ++ ['\n']) ≠ [] := by
    obtain ⟨first, others, split⟩ := List.exists_cons_of_ne_nil (sseLines_ne_nil call.data)
    simp [split]
  rw [lines, List.foldl_append, List.foldl_append, List.foldl_append, afterId, afterEvent,
    Reader.foldl_data]
  simp only [Reader.idle, List.nil_append, List.foldl_cons, List.foldl_nil, Reader.line,
    Reader.dispatch, if_neg gathered, type, Reader.trimmed_flatMap (sseLines_ne_nil call.data)]
  rfl

/-- The events of a sequence of calls. -/
def events (before : List Char) : List EventCall → List Event
  | [] => []
  | call :: calls => call.eventAfter before :: events (call.idAfter before) calls

/-- The last event id after a sequence of calls. -/
def lastId (before : List Char) (calls : List EventCall) : List Char :=
  calls.foldl (fun before call => call.idAfter before) before

/-- Reading the lines of a sequence of calls dispatches the event of each, in order. -/
theorem foldl_flatMap_lines (calls : List EventCall) (before : List Char)
    (dispatched : List Event) :
    (calls.flatMap EventCall.lines).foldl Reader.line (Reader.idle before dispatched) =
      Reader.idle (lastId before calls) (dispatched ++ events before calls) := by
  induction calls generalizing before dispatched with
  | nil => simp [lastId, events]
  | cons call calls induction =>
      rw [List.flatMap_cons, List.foldl_append, call.foldl_lines, induction, List.append_assoc]
      rfl

/-- The text of a sequence of events. -/
def text (calls : List EventCall) : List Char :=
  (calls.flatMap EventCall.texts).flatMap (· ++ ['\n'])

/-- No event starts with a byte order mark. -/
theorem withoutMark_text (calls : List EventCall) : withoutMark (text calls) = text calls := by
  cases calls with
  | nil => rfl
  | cons call calls =>
      obtain ⟨first, others, split⟩ := List.exists_cons_of_ne_nil (sseLines_ne_nil call.data)
      rw [text, List.flatMap_cons, texts, split]
      cases call.id with
      | some id => rfl
      | none =>
          cases call.event with
          | some event => rfl
          | none => rfl

theorem lines_text {calls : List EventCall} (valid : ∀ call ∈ calls, call.Valid) :
    EventStream.lines (text calls) = calls.flatMap EventCall.lines := by
  have one : ∀ line ∈ calls.flatMap EventCall.texts, OneLine line := by
    intro line member
    obtain ⟨call, isCall, isText⟩ := List.mem_flatMap.mp member
    exact oneLine_texts (valid call isCall) line isText
  rw [text, lines_append one, List.map_flatMap]
  simp only [ofText_texts]

end EventCall

/-! ## Any use of a stream -/

/-- What happens to a stream: calls of the handler, and the response body. -/
inductive StreamAction
  | sendEvent (call : EventCall)
  | send (data : String)
  | close
  | poll
  | disconnect
  deriving DecidableEq, Repr

/-- A stream, with the `send_event` calls that returned without an exception. -/
structure StreamSession where
  stream : PyronovaStream := {}
  accepted : List EventCall := []
  deriving DecidableEq, Repr

namespace StreamSession

def step (session : StreamSession) : StreamAction → StreamSession
  | .sendEvent call =>
      match session.stream.sendEvent call with
      | (.ok (), stream) => { stream, accepted := session.accepted ++ [call] }
      | (.error _, stream) => { session with stream }
  | .send data => { session with stream := (session.stream.send data).2 }
  | .close => { session with stream := session.stream.close }
  | .poll => { session with stream := session.stream.poll }
  | .disconnect => { session with stream := session.stream.disconnect }

def run (actions : List StreamAction) : StreamSession := actions.foldl step {}

end StreamSession

namespace PyronovaStream

variable {stream : PyronovaStream} {call : EventCall}

theorem oneLine_of_breaksLine {text : Option String} (kept : breaksLine text = false) :
    ∀ value ∈ text, OneLine value.toList := by
  rintro value rfl
  simpa [breaksLine, OneLine] using kept

/-- A call is refused and changes nothing, or it queues its chunk. -/
theorem sendEvent_cases (stream : PyronovaStream) (call : EventCall) :
    (∃ error, stream.sendEvent call = (.error error, stream)) ∨
      call.Valid ∧ stream.receiver = true ∧
        stream.sendEvent call = (.ok (), { stream with
          queue := stream.queue ++ [utf8Encode call.message]
          sent := stream.sent ++ [utf8Encode call.message] }) := by
  rw [sendEvent]
  split
  · exact .inl ⟨_, rfl⟩
  rename_i id
  split
  · exact .inl ⟨_, rfl⟩
  rename_i event
  have valid : call.Valid :=
    ⟨oneLine_of_breaksLine (Bool.eq_false_of_not_eq_true id),
      oneLine_of_breaksLine (Bool.eq_false_of_not_eq_true event)⟩
  rw [push]
  split
  · split
    · rename_i receiver
      split
      · exact .inr ⟨valid, receiver, rfl⟩
      · exact .inl ⟨_, rfl⟩
    · exact .inl ⟨_, rfl⟩
  · exact .inl ⟨_, rfl⟩

/-- A line break in the id or the event name is a `ValueError`, and nothing is sent. -/
theorem sendEvent_of_breaksLine (breaks : breaksLine call.id ∨ breaksLine call.event) :
    ∃ message, stream.sendEvent call = (.error (.valueError message), stream) := by
  rw [sendEvent]
  split
  · exact ⟨_, rfl⟩
  · rename_i id
    rw [if_pos (breaks.resolve_left id)]
    exact ⟨_, rfl⟩

end PyronovaStream

namespace StreamSession

/-- The chunks sent are those of the accepted calls, in order, and the body takes them in order. -/
structure Invariant (session : StreamSession) : Prop where
  sent : session.stream.sent = session.accepted.map (utf8Encode ·.message)
  valid : ∀ call ∈ session.accepted, call.Valid
  delivered : ∃ lost, session.stream.delivered ++ session.stream.queue ++ lost = session.stream.sent
  alive : session.stream.receiver →
    session.stream.delivered ++ session.stream.queue = session.stream.sent

theorem Invariant.step {session : StreamSession} (invariant : session.Invariant)
    {action : StreamAction} (noRaw : ∀ data, action ≠ .send data) :
    (session.step action).Invariant := by
  cases action with
  | send data => exact absurd rfl (noRaw data)
  | sendEvent call =>
      rcases session.stream.sendEvent_cases call with ⟨error, refused⟩ | ⟨valid, alive, accepted⟩
      · rw [StreamSession.step, refused]
        exact invariant
      · have flow := invariant.alive alive
        rw [StreamSession.step, accepted]
        refine ⟨?_, ?_, ⟨[], ?_⟩, fun _ => ?_⟩
        · rw [List.map_append, ← invariant.sent]
          rfl
        · intro other member
          rcases List.mem_append.mp member with member | member
          · exact invariant.valid other member
          · rwa [List.mem_singleton.mp member]
        · rw [List.append_nil, ← List.append_assoc, flow]
        · rw [← List.append_assoc, flow]
  | close => exact ⟨invariant.sent, invariant.valid, invariant.delivered, invariant.alive⟩
  | poll =>
      rw [StreamSession.step, PyronovaStream.poll]
      cases queued : session.stream.queue with
      | nil => exact invariant
      | cons chunk queue =>
          have delivered := invariant.delivered
          have alive := invariant.alive
          rw [queued] at delivered alive
          refine ⟨invariant.sent, invariant.valid, ?_, fun receiver => ?_⟩
          · simpa using delivered
          · simpa using alive receiver
  | disconnect =>
      obtain ⟨lost, split⟩ := invariant.delivered
      refine ⟨invariant.sent, invariant.valid, ⟨session.stream.queue ++ lost, ?_⟩, ?_⟩
      · simpa [PyronovaStream.disconnect, StreamSession.step] using split
      · intro receiver
        simp [PyronovaStream.disconnect, StreamSession.step] at receiver

theorem invariant_run {actions : List StreamAction}
    (noRaw : ∀ data, StreamAction.send data ∉ actions) : (run actions).Invariant := by
  induction actions using List.reverseRecOn with
  | nil => exact ⟨rfl, by simp [run], ⟨[], rfl⟩, fun _ => rfl⟩
  | append_singleton actions action induction =>
      have before := induction fun data member => noRaw data (List.mem_append_left _ member)
      have last : ∀ data, action ≠ .send data := by
        rintro data rfl
        exact noRaw data (by simp)
      rw [run, List.foldl_append]
      exact before.step last

end StreamSession

/-- The chunks of a sequence of calls are the UTF-8 of their text. -/
theorem flatten_chunks (calls : List EventCall) :
    (calls.map (utf8Encode ·.message)).flatten =
      utf8Encode (String.ofList (EventCall.text calls)) := by
  induction calls with
  | nil => rfl
  | cons call calls induction =>
      rw [List.map_cons, List.flatten_cons, induction, ← utf8Encode_append, EventCall.message,
        ← String.ofList_append, EventCall.text, EventCall.text, List.flatMap_cons,
        List.flatMap_append]

/-- A reader of the chunks of valid calls sees the fields of each call and nothing else. -/
theorem read_chunks {calls : List EventCall} (valid : ∀ call ∈ calls, call.Valid) :
    ∃ text, utf8Decode (calls.map (utf8Encode ·.message)).flatten = some text ∧
      EventStream.lines (withoutMark text.toList) = calls.flatMap EventCall.lines ∧
      EventStream.read text.toList =
        Reader.idle (EventCall.lastId [] calls) (EventCall.events [] calls) := by
  refine ⟨String.ofList (EventCall.text calls), ?_, ?_, ?_⟩
  · rw [flatten_chunks, utf8Decode_encode]
  · rw [String.toList_ofList, EventCall.withoutMark_text, EventCall.lines_text valid]
  · rw [EventStream.read, String.toList_ofList, EventCall.withoutMark_text,
      EventCall.lines_text valid]
    exact EventCall.foldl_flatMap_lines calls [] []

/-- Over any use of a stream by `send_event` alone, the body reads as the accepted events. -/
theorem sendEvent_read_back {actions : List StreamAction}
    (noRaw : ∀ data, StreamAction.send data ∉ actions) :
    let session := StreamSession.run actions
    (∃ text, utf8Decode session.stream.sent.flatten = some text ∧
      EventStream.lines (withoutMark text.toList) = session.accepted.flatMap EventCall.lines ∧
      EventStream.read text.toList =
        Reader.idle (EventCall.lastId [] session.accepted)
          (EventCall.events [] session.accepted)) ∧
    (∀ data, sseLines data =
      if data.toList.getLast?.any isLineEnd then (splitLines data.toList).dropLast
      else splitLines data.toList) ∧
    ∀ call : EventCall,
      PyronovaStream.breaksLine call.id ∨ PyronovaStream.breaksLine call.event →
        ∃ message,
          session.stream.sendEvent call = (.error (.valueError message), session.stream) := by
  intro session
  have invariant : session.Invariant := StreamSession.invariant_run noRaw
  refine ⟨?_, sseLines_eq, fun call breaks => PyronovaStream.sendEvent_of_breaksLine breaks⟩
  rw [invariant.sent]
  exact read_chunks invariant.valid

/-- Two events with a refused call between them: a line break in the id. -/
theorem sendEvent_read_back_two :
    let session := StreamSession.run [.sendEvent ⟨"a\r\nb\n", some "tick", some "7"⟩, .poll,
      .sendEvent ⟨"c", none, some "8\ndata: d"⟩, .sendEvent ⟨"", some "", none⟩]
    session.accepted = [⟨"a\r\nb\n", some "tick", some "7"⟩, ⟨"", some "", none⟩] ∧
      ∃ text, utf8Decode session.stream.sent.flatten = some text ∧
        (EventStream.read text.toList).dispatched =
          [⟨"tick".toList, "a\nb".toList, "7".toList⟩, ⟨"message".toList, [], "7".toList⟩] := by
  intro session
  have accepted : session.accepted =
      [⟨"a\r\nb\n", some "tick", some "7"⟩, ⟨"", some "", none⟩] := by rfl
  have noRaw : ∀ data, StreamAction.send data ∉
      [.sendEvent ⟨"a\r\nb\n", some "tick", some "7"⟩, .poll,
        .sendEvent ⟨"c", none, some "8\ndata: d"⟩, .sendEvent ⟨"", some "", none⟩] := by simp
  obtain ⟨text, decoded, -, reader⟩ := (sendEvent_read_back noRaw).1
  refine ⟨accepted, text, decoded, ?_⟩
  rw [reader]
  rfl

/-- The client of a stream sees the events of the first accepted calls, as many as it took. -/
theorem delivered_read_back {actions : List StreamAction}
    (noRaw : ∀ data, StreamAction.send data ∉ actions) :
    let session := StreamSession.run actions
    let calls := session.accepted.take session.stream.delivered.length
    ∃ text, utf8Decode session.stream.delivered.flatten = some text ∧
      EventStream.read text.toList =
        Reader.idle (EventCall.lastId [] calls) (EventCall.events [] calls) := by
  intro session calls
  have invariant : session.Invariant := StreamSession.invariant_run noRaw
  obtain ⟨lost, split⟩ := invariant.delivered
  have delivered : session.stream.delivered = calls.map (utf8Encode ·.message) := by
    rw [List.map_take, ← invariant.sent, ← split, List.append_assoc, List.take_left]
  have valid : ∀ call ∈ calls, call.Valid :=
    fun call member => invariant.valid call (List.mem_of_mem_take member)
  obtain ⟨text, decoded, -, reader⟩ := read_chunks valid
  exact ⟨text, by rw [delivered, decoded], reader⟩

end Pyronova
