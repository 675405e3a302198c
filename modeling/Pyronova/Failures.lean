import Mathlib.Tactic
import Pyronova.Body
import Pyronova.Execution
import Pyronova.Headers
import Pyronova.Json
import Pyronova.RequestId
import Pyronova.StaticFs

/-!
# Why a request failed

A failure is logged where it happens, with everything it says, and what is logged becomes a
response.  A refusal is counted as it is made.  The body of a 4xx carries the reason; that of a 5xx
one of four texts and the request's id, whatever the failure says.

Who waits for a handler and who runs it fail on their own: a caller is refused, gives up or loses
its handler, and a handler that fails logs it even when nobody waits any more.
-/

namespace Pyronova.Failures

/-! ## The error -/

/-- A Python exception as it was raised. -/
structure PyException where
  typeName : String
  message : String
  traceback : String
  deriving DecidableEq, Repr

def PyException.text (exception : PyException) : String :=
  exception.typeName ++ ": " ++ exception.message

/-- Why a handler's return value is not a response, on the main interpreter too. -/
inductive ResponseError
  | mapping (error : Pyronova.ResponseError PyException)
  | streamConsumed
  | toPy (exception : PyException)

namespace ResponseError

def text : ResponseError → String
  | .mapping error => error.message PyException.text
  | .streamConsumed => "the returned Stream was already consumed"
  | .toPy exception =>
      "could not build the Response an after_request hook receives: " ++ exception.text

/-- The Python exception behind the error, if one raised. -/
def exception : ResponseError → Option PyException
  | .mapping (.json exception) => some exception
  | .mapping (.text exception) => some exception
  | .mapping (.str _ exception) => some exception
  | .toPy exception => some exception
  | .mapping (.status _) => none
  | .mapping .streamInWorker => none
  | .streamConsumed => none

end ResponseError

/-- Which part of a request raised. -/
inductive Stage
  | setup
  | beforeHook
  | handler
  | afterHook
  | asyncTask
  deriving DecidableEq, Repr

def Stage.text : Stage → String
  | .setup => "setting up the request"
  | .beforeHook => "a before_request hook"
  | .handler => "the handler"
  | .afterHook => "an after_request hook"
  | .asyncTask => "the request's async task"

mutual

inductive HandlerError
  | python (stage : Stage) (exception : PyException)
  | panic (payload : String)
  | response (error : ResponseError)
  /-- The server gave up on the request without an answer from Python. -/
  | refused (refusal : Refusal)
  | bodyRejected (reject : BodyReject String)
  | threadSpawn (error : String)
  | foreignEventLoop (loopInterp current : Int)

/-- Why the server gave up on a request without an answer from Python. -/
inductive Refusal
  | overloaded (what : String)
  | poolClosed (what : String)
  | workerLost (what : String)
  | timeout
  /-- A handler run inline returned, but past the budget, after so many nanoseconds. -/
  | overran (handler : String) (took : Nat) (raised : Option HandlerError)

end

/-- A duration of a second or more, as it is printed: the fraction without trailing zeros. -/
def durationText (nanos : Nat) : String :=
  let digits := (Nat.toDigits 10 (nanos % 10 ^ 9)).leftpad 9 '0'
  let fraction := digits.rdropWhile (· == '0')
  toString (nanos / 10 ^ 9) ++ (if fraction = [] then "" else "." ++ String.ofList fraction) ++ "s"

mutual

def HandlerError.text : HandlerError → String
  | .python stage exception => stage.text ++ " raised " ++ exception.text
  | .panic payload => "a Rust panic while running the request: " ++ payload
  | .response error => error.text
  | .refused refusal => refusal.text
  | .bodyRejected reject => reject.text id
  | .threadSpawn error => "could not start the thread that runs the handler: " ++ error
  | .foreignEventLoop loopInterp current =>
      "this thread's event loop belongs to interpreter " ++ toString loopInterp ++
        ", but the request runs on interpreter " ++ toString current

def Refusal.text : Refusal → String
  | .overloaded what => "no capacity for the request: " ++ what
  | .poolClosed what => what ++ ": the server is shutting down"
  | .workerLost what => what
  | .timeout => "the handler did not answer within 30s"
  | .overran handler took raised =>
      "handler " ++ handler ++ " ran past the 30s request budget (" ++ durationText took ++
        "), blocking its TPC thread the whole time; answered 504 only once it returned. A sync " ++
        "`def` runs inline and cannot be preempted; make slow work `async def` or gil=True, " ++
        "where the 504 is sent on time" ++
        match raised with
        | none => ""
        | some raised => "; it also raised: " ++ raised.text

end

/-- What a stage raised: an exception that stands for a streamed body's rejection, or another. -/
inductive Raised
  | rejected (reject : BodyReject String)
  | exception (exception : PyException)

/-- `HandlerError::python`. -/
def HandlerError.ofRaised (stage : Stage) : Raised → HandlerError
  | .rejected reject => .bodyRejected reject
  | .exception exception => .python stage exception

def HandlerError.traceback : HandlerError → Option String
  | .python _ exception => some exception.traceback
  | .response error => error.exception.map PyException.traceback
  | .refused (.overran _ _ (some raised)) => raised.traceback
  | _ => none

/-! ## The log -/

inductive Level
  | debug
  | warn
  | error
  deriving DecidableEq, Repr

/-- The request an error belongs to, as its log line names it. -/
structure RequestTag where
  id : RequestId
  method : String
  path : String

structure LogLine where
  level : Level
  message : String
  request : RequestTag
  error : String
  traceback : Option String

/-- The line of an error. -/
def HandlerError.line (request : RequestTag) (error : HandlerError) : LogLine :=
  match error with
  | .refused (.overloaded _) | .refused (.poolClosed _) =>
      { level := .warn, message := "request refused", request, error := error.text
        traceback := none }
  | .bodyRejected (.read _) =>
      { level := .warn, message := "request body rejected", request, error := error.text
        traceback := none }
  | .bodyRejected _ =>
      { level := .debug, message := "request body rejected", request, error := error.text
        traceback := none }
  | _ =>
      { level := .error, message := "request failed", request, error := error.text
        traceback := some (error.traceback.getD "") }

/-- An error that has been logged, with the id it was logged under. -/
structure Logged where
  error : HandlerError
  requestId : RequestId

/-- What the process has counted and logged. -/
structure Journal where
  /-- `DROPPED_REQUESTS`. -/
  dropped : Nat
  lines : List LogLine

/-- Giving up on a request counts it. -/
def Journal.refuse (journal : Journal) (refusal : Refusal) : HandlerError × Journal :=
  (.refused refusal, { journal with dropped := journal.dropped + 1 })

/-- `HandlerError::log`. -/
def Journal.log (journal : Journal) (request : RequestTag) (error : HandlerError) :
    Logged × Journal :=
  ({ error, requestId := request.id },
    { journal with lines := journal.lines ++ [error.line request] })

/-! ## The response -/

/-- A character of a string as `serde_json` writes it: only quotes, backslashes and controls are
escaped. -/
def serdeEscape (c : Char) : List Char :=
  match (Json.shortEscapes.filter fun entry => entry.1 != '/').find? fun entry =>
      entry.2 == Json.codePoint c with
  | some entry => ['\\', entry.1]
  | none => if c.toNat < 0x20 then Json.unicodeEscape c.toNat else [c]

def serdeString (text : List Char) : List Char := '"' :: text.flatMap serdeEscape ++ ['"']

def serdeMembers : List (String × List Char) → List Char
  | [] => []
  | [(name, last)] => serdeString name.toList ++ ':' :: serdeString last
  | (name, value) :: members =>
      serdeString name.toList ++ ':' :: (serdeString value ++ ',' :: serdeMembers members)

/-- An object of strings, without blanks. -/
def serdeObject (members : List (String × List Char)) : List Char :=
  '\x7b' :: (serdeMembers members ++ ['\x7d'])

structure ErrorResponse where
  status : Nat
  headers : ResponseHeaders
  body : List Char

/-- `{"error": msg}` for a 4xx. -/
def errorJsonBody (msg : List Char) : List Char := serdeObject [("error", msg)]

/-- `{"error": msg, "request_id": id}` for a 5xx. -/
def serverErrorBody (seed : UInt64) (msg : String) (requestId : RequestId) : List Char :=
  serdeObject [("error", msg.toList), ("request_id", requestId.display seed)]

def jsonError (status : Nat) (body : List Char) : ErrorResponse where
  status
  headers :=
    (ResponseHeaders.insert [] "content-type" "application/json").insert "server" SERVER_HEADER
  body

def GENERIC_500 : String := "Internal Server Error"

def errorResponse (seed : UInt64) (msg : String) (requestId : RequestId) : ErrorResponse :=
  jsonError 500 (serverErrorBody seed msg requestId)

def overloadedResponse (seed : UInt64) (msg : String) (requestId : RequestId) : ErrorResponse :=
  let resp := jsonError 503 (serverErrorBody seed msg requestId)
  { resp with headers := resp.headers.insert "retry-after" "1" }

def unavailableResponse (seed : UInt64) (msg : String) (requestId : RequestId) : ErrorResponse :=
  jsonError 503 (serverErrorBody seed msg requestId)

def badRequestResponse (msg : String) : ErrorResponse := jsonError 400 (errorJsonBody msg.toList)

def requestTimeoutResponse : ErrorResponse :=
  jsonError 408 (errorJsonBody "request body timeout".toList)

def payloadTooLargeResponse : ErrorResponse :=
  jsonError 413 "\x7b\"error\":\"payload too large\"\x7d".toList

def gatewayTimeoutResponse (seed : UInt64) (requestId : RequestId) : ErrorResponse :=
  jsonError 504 (serverErrorBody seed "request timeout" requestId)

/-- The one place that maps an error to its status. -/
def Logged.intoResponse (seed : UInt64) (logged : Logged) : ErrorResponse :=
  match logged.error with
  | .refused (.overloaded _) => overloadedResponse seed "server overloaded" logged.requestId
  | .refused (.poolClosed _) => unavailableResponse seed "server shutting down" logged.requestId
  | .refused .timeout | .refused (.overran ..) => gatewayTimeoutResponse seed logged.requestId
  | .refused (.workerLost _) => errorResponse seed GENERIC_500 logged.requestId
  | .bodyRejected .tooLarge => payloadTooLargeResponse
  | .bodyRejected .timedOut => requestTimeoutResponse
  | .bodyRejected (.read error) => badRequestResponse ((BodyReject.read error).text id)
  | .python .. | .panic _ | .response _ | .threadSpawn _ | .foreignEventLoop .. =>
      errorResponse seed GENERIC_500 logged.requestId

/-! ## Reading a body back -/

/-- Escapes agree with those of `json.dumps` where there is one. -/
theorem serdeEscape_cases (c : Char) :
    serdeEscape c = Json.escape (Json.codePoint c) ∨
      serdeEscape c = [c] ∧ ¬ c.toNat < 0x20 ∧ c ≠ '"' ∧ c ≠ '\\' := by
  unfold serdeEscape Json.escape
  cases found : (Json.shortEscapes.filter fun entry => entry.1 != '/').find? fun entry =>
      entry.2 == Json.codePoint c with
  | some entry => exact .inl rfl
  | none =>
      have point : (Json.codePoint c).val = c.toNat := rfl
      have other (mark : Char) (point : Json.CodePoint)
          (listed : (mark, point) ∈ Json.shortEscapes.filter fun entry => entry.1 != '/')
          (same : mark.toNat = point.val) : c ≠ mark := by
        rintro rfl
        exact List.find?_eq_none.mp found (c, point) listed (beq_iff_eq.mpr (Fin.ext same.symm))
      dsimp only
      by_cases control : c.toNat < 0x20
      · left
        have visible : ¬ (0x20 ≤ c.toNat ∧ c.toNat ≤ 0x7e) := by omega
        have small : c.toNat < 0x10000 := by omega
        rw [if_pos control, point, if_neg visible, if_pos small]
      · right
        rw [if_neg control]
        exact ⟨rfl, control, other '"' 0x22 (by decide) (by decide),
          other '\\' 0x5c (by decide) (by decide)⟩

theorem readString_serdeEscape (c : Char) (rest : List Char) :
    Json.readString (serdeEscape c ++ rest) =
      (Json.readString rest).map fun read => (Json.prepend (Json.codePoint c) read.1, read.2) := by
  obtain escaped | ⟨plain, visible, notQuote, notBackslash⟩ := serdeEscape_cases c
  · rw [escaped, Json.readString_escape]
  · rw [plain]
    exact Json.readString_plain visible notQuote notBackslash rest

theorem readString_serde (text rest : List Char) :
    Json.readString (text.flatMap serdeEscape ++ '"' :: rest) =
      some (text.map Json.codePoint, rest) := by
  induction text with
  | nil => rfl
  | cons c text induction =>
      have notHigh : ¬ Json.isHigh (Json.codePoint c) = true := by
        rw [Json.isHigh_iff]
        have valid : c.toNat < 0xd800 ∨ 0xdfff < c.toNat ∧ c.toNat < 0x110000 := c.valid
        have own : (Json.codePoint c).val = c.toNat := rfl
        omega
      rw [List.flatMap_cons, List.append_assoc, readString_serdeEscape, induction, Option.map_some,
        Json.prepend_of_not_high notHigh]
      rfl

variable {F : Type*} {format : Json.FloatFormat F}

theorem readValue_serde (text rest : List Char) (fuel : Nat) :
    Json.readValue format (fuel + 1) (serdeString text ++ rest) =
      some (.string (text.map Json.codePoint), rest) := by
  have start : Json.skipBlank (serdeString text ++ rest) =
      '"' :: (text.flatMap serdeEscape ++ '"' :: rest) := by
    simp [serdeString, Json.skipBlank, Json.isWhitespace]
  simp only [Json.readValue, start, if_true, readString_serde, Option.map_some]

/-- The members as a reader finds them. -/
def members (given : List (String × List Char)) : List (Json.Text × Json.Value F) :=
  given.map fun (name, value) => (Json.ofString name, .string (value.map Json.codePoint))

/-- A name and a text, up to what follows them. -/
theorem readMembers_member (name : String) (value rest : List Char) (fuel : Nat) :
    Json.readMembers format (fuel + 2)
        (serdeString name.toList ++ ':' :: (serdeString value ++ rest)) =
      match Json.skipBlank rest with
      | ',' :: rest =>
          (Json.readMembers format (fuel + 1) rest).map fun read =>
            ((Json.ofString name, .string (value.map Json.codePoint)) :: read.1, read.2)
      | '\x7d' :: rest => some ([(Json.ofString name, .string (value.map Json.codePoint))], rest)
      | _ => none := by
  have start : Json.skipBlank (serdeString name.toList ++ ':' :: (serdeString value ++ rest)) =
      '"' :: (name.toList.flatMap serdeEscape ++ '"' :: ':' :: (serdeString value ++ rest)) := by
    simp [serdeString, Json.skipBlank, Json.isWhitespace]
  have colon : Json.skipBlank (':' :: (serdeString value ++ rest)) =
      ':' :: (serdeString value ++ rest) := Json.skipBlank_cons (by decide) _
  simp only [Json.readMembers, start, readString_serde, colon, readValue_serde]
  rfl

theorem readMembers_serde (given : List (String × List Char)) (some : given ≠ [])
    (rest : List Char) (fuel : Nat) (enough : given.length ≤ fuel) :
    Json.readMembers format (fuel + 1) (serdeMembers given ++ '\x7d' :: rest) =
      Option.some (members given, rest) := by
  induction given generalizing fuel with
  | nil => exact absurd rfl some
  | cons first given induction =>
      obtain ⟨name, value⟩ := first
      obtain ⟨fuel, rfl⟩ : ∃ less, fuel = less + 1 := ⟨fuel - 1, by
        rw [List.length_cons] at enough
        omega⟩
      cases given with
      | nil =>
          have brace : Json.skipBlank ('\x7d' :: rest) = '\x7d' :: rest :=
            Json.skipBlank_cons (by decide) _
          rw [serdeMembers, List.append_assoc, List.cons_append, readMembers_member, brace]
          rfl
      | cons second given =>
          have comma : Json.skipBlank (',' :: (serdeMembers (second :: given) ++ '\x7d' :: rest)) =
              ',' :: (serdeMembers (second :: given) ++ '\x7d' :: rest) :=
            Json.skipBlank_cons (by decide) _
          rw [serdeMembers, List.append_assoc, List.cons_append, List.append_assoc,
            List.cons_append, readMembers_member, comma]
          · rw [List.length_cons] at enough
            simp only [induction (by simp) fuel (by omega), Option.map_some]
            rfl
          · simp

theorem length_le_serdeMembers (given : List (String × List Char)) :
    given.length ≤ (serdeMembers given).length := by
  induction given with
  | nil => exact Nat.zero_le _
  | cons first given induction =>
      obtain ⟨name, value⟩ := first
      cases given with
      | nil => simp [serdeMembers, serdeString]
      | cons second given =>
          rw [serdeMembers]
          · simp only [List.length_cons, List.length_append] at induction ⊢
            omega
          · simp

theorem starts_serdeMembers {given : List (String × List Char)} (some : given ≠ []) :
    Json.Starts (serdeMembers given) := by
  have quoted (rest : List Char) : Json.Starts ('"' :: rest) :=
    ⟨'"', rest, rfl, by decide, by decide, by decide⟩
  match given with
  | [] => exact absurd rfl some
  | [(name, value)] => exact quoted _
  | (name, value) :: second :: given =>
      rw [serdeMembers]
      · exact quoted _
      · simp

/-- What was written is read back. -/
theorem read_serdeObject (given : List (String × List Char)) (some : given ≠ []) :
    Json.read format (serdeObject given) = Option.some (.object (members given)) := by
  have length : (serdeObject given).length = (serdeMembers given).length + 1 + 1 := by
    simp [serdeObject]
  have enough : given.length ≤ (serdeMembers given).length + 1 :=
    (length_le_serdeMembers given).trans (Nat.le_succ _)
  rw [Json.read, length, serdeObject, Json.readValue_object format _ (starts_serdeMembers some),
    readMembers_serde given some [] _ enough]
  rfl

/-! ## What a client is told -/

/-- The status of an error's kind. -/
def HandlerError.status : HandlerError → Nat
  | .refused (.overloaded _) | .refused (.poolClosed _) => 503
  | .refused .timeout | .refused (.overran ..) => 504
  | .bodyRejected .tooLarge => 413
  | .bodyRejected .timedOut => 408
  | .bodyRejected (.read _) => 400
  | _ => 500

/-- The text of an error's kind; of a body that could not be read, with the reason. -/
def HandlerError.told : HandlerError → String
  | .refused (.overloaded _) => "server overloaded"
  | .refused (.poolClosed _) => "server shutting down"
  | .refused .timeout | .refused (.overran ..) => "request timeout"
  | .bodyRejected .tooLarge => "payload too large"
  | .bodyRejected .timedOut => "request body timeout"
  | .bodyRejected (.read error) => "request body read failed: " ++ error
  | _ => GENERIC_500

/-- Only a full queue says when to come again. -/
def HandlerError.retryAfter : HandlerError → ResponseHeaders
  | .refused (.overloaded _) => [("retry-after", "1")]
  | _ => []

/-- The response that the kind of an error has, and no more of the error. -/
structure Answers (format : Json.FloatFormat F) (seed : UInt64) (request : RequestTag)
    (error : HandlerError) (response : ErrorResponse) : Prop where
  status : response.status = error.status
  headers : response.headers =
    [("content-type", "application/json"), ("server", SERVER_HEADER)] ++ error.retryAfter
  body : Json.read format response.body = some (.object (members
    (("error", error.told.toList) ::
      if error.status < 500 then [] else [("request_id", request.id.display seed)])))

theorem read_serverErrorBody (seed : UInt64) (msg : String) (requestId : RequestId) :
    Json.read format (serverErrorBody seed msg requestId) = some (.object
      (members [("error", msg.toList), ("request_id", requestId.display seed)])) :=
  read_serdeObject _ (by simp)

theorem read_errorJsonBody (msg : List Char) :
    Json.read format (errorJsonBody msg) = some (.object (members [("error", msg)])) :=
  read_serdeObject _ (by simp)

theorem answers_intoResponse (format : Json.FloatFormat F) (seed : UInt64) (request : RequestTag)
    (error : HandlerError) :
    Answers format seed request error
      (Logged.intoResponse seed { error, requestId := request.id }) := by
  cases error with
  | python stage exception => exact ⟨rfl, rfl, read_serverErrorBody ..⟩
  | panic payload => exact ⟨rfl, rfl, read_serverErrorBody ..⟩
  | response error => exact ⟨rfl, rfl, read_serverErrorBody ..⟩
  | threadSpawn error => exact ⟨rfl, rfl, read_serverErrorBody ..⟩
  | foreignEventLoop loopInterp current => exact ⟨rfl, rfl, read_serverErrorBody ..⟩
  | bodyRejected reject =>
      cases reject with
      | tooLarge => exact ⟨rfl, rfl, read_errorJsonBody "payload too large".toList⟩
      | timedOut => exact ⟨rfl, rfl, read_errorJsonBody _⟩
      | read error => exact ⟨rfl, rfl, read_errorJsonBody _⟩
  | refused refusal =>
      cases refusal with
      | overloaded what => exact ⟨rfl, rfl, read_serverErrorBody ..⟩
      | poolClosed what => exact ⟨rfl, rfl, read_serverErrorBody ..⟩
      | workerLost what => exact ⟨rfl, rfl, read_serverErrorBody ..⟩
      | timeout => exact ⟨rfl, rfl, read_serverErrorBody ..⟩
      | overran handler took raised => exact ⟨rfl, rfl, read_serverErrorBody ..⟩

/-- The texts of a 5xx. -/
def genericTexts : List String :=
  ["server overloaded", "server shutting down", "request timeout", GENERIC_500]

/-- A 5xx says nothing of what failed. -/
theorem told_generic {error : HandlerError} (server : 500 ≤ error.status) :
    error.told ∈ genericTexts := by
  have generic : GENERIC_500 ∈ genericTexts := by simp [genericTexts]
  have timeout : "request timeout" ∈ genericTexts := by simp [genericTexts]
  cases error with
  | python stage exception => exact generic
  | panic payload => exact generic
  | response error => exact generic
  | threadSpawn error => exact generic
  | foreignEventLoop loopInterp current => exact generic
  | bodyRejected reject =>
      cases reject with
      | tooLarge => exact absurd server (by decide)
      | timedOut => exact absurd server (by decide)
      | read error => exact absurd server (show ¬ 500 ≤ 400 by decide)
  | refused refusal =>
      cases refusal with
      | overloaded what => exact List.mem_cons_self
      | poolClosed what => exact List.mem_cons_of_mem _ List.mem_cons_self
      | workerLost what => exact generic
      | timeout => exact timeout
      | overran handler took raised => exact timeout

theorem line_spec (request : RequestTag) (error : HandlerError) :
    (error.line request).request = request ∧ (error.line request).error = error.text := by
  unfold HandlerError.line
  split <;> exact ⟨rfl, rfl⟩

/-! ## Requests that fail -/

/-- `REQUEST_BUDGET`, in nanoseconds. -/
def REQUEST_BUDGET : Nat := 30 * 10 ^ 9

/-- The channel on which a handler's result comes to who waits for it. -/
inductive ReplySlot (Reply : Type*)
  | absent
  | pending
  | sent (result : Except Logged Reply)
  /-- Dropped without an answer. -/
  | lost (lost : HandlerError)

/-- Where a request's future is. -/
inductive RequestPlace (Reply : Type*)
  /-- At the edge: its body is read, its handler's thread started, its work queued. -/
  | edge
  /-- In `await_reply`. -/
  | waiting
  | answered (response : Except ErrorResponse Reply)
  /-- The client is gone, and the future with it. -/
  | gone

structure FailingRequest (Reply : Type*) where
  tag : RequestTag
  place : RequestPlace Reply
  reply : ReplySlot Reply
  /-- What the handler came to. -/
  ran : Option (Except HandlerError Reply)
  /-- What the request's own future failed with. -/
  failed : Option HandlerError

structure FailureState (Reply : Type*) where
  journal : Journal
  requests : List (FailingRequest Reply)

inductive FailureEvent (Reply : Type*)
  | arrive (tag : RequestTag)
  /-- `fail`: the body is rejected, no capacity is left, a thread does not start. -/
  | fail (request : Nat) (error : HandlerError)
  /-- The work is handed to who runs the handler. -/
  | submit (request : Nat)
  /-- A handler runs on the request's own thread, and took so many nanoseconds. -/
  | inline (request : Nat) (handler : String) (took : Nat) (result : Except HandlerError Reply)
  /-- A handler elsewhere comes to its end. -/
  | finish (request : Nat) (result : Except HandlerError Reply)
  /-- Who was to answer dropped the reply, or panicked. -/
  | lose (request : Nat) (lost : HandlerError)
  | receive (request : Nat)
  | timeout (request : Nat)
  | disconnect (request : Nat)

/-- An error is made; a refusal is made by `refuse` only. -/
def Journal.make (journal : Journal) : HandlerError → HandlerError × Journal
  | .refused refusal => journal.refuse refusal
  | error => (error, journal)

/-- An error is made, and logged where it happens. -/
def Journal.record (journal : Journal) (tag : RequestTag) (error : HandlerError) :
    Logged × Journal :=
  let (error, journal) := journal.make error
  journal.log tag error

/-- A result that comes past the budget is not sent; what the handler raised is part of the one
error that the overrun makes. -/
def inlineResult {Reply : Type*} (handler : String) (took : Nat) :
    Except HandlerError Reply → Except HandlerError Reply
  | .ok reply => if REQUEST_BUDGET < took then .error (.refused (.overran handler took none))
      else .ok reply
  | .error error =>
      if REQUEST_BUDGET < took then .error (.refused (.overran handler took (some error)))
      else .error error

namespace FailureState

variable {Reply : Type*}

/-- `result.map_err(|e| e.log(..))`. -/
def settle (journal : Journal) (tag : RequestTag) :
    Except HandlerError Reply → Except Logged Reply × Journal
  | .ok reply => (.ok reply, journal)
  | .error error =>
      let (logged, journal) := journal.record tag error
      (.error logged, journal)

/-- `http_response` of a result. -/
def respond (seed : UInt64) : Except Logged Reply → Except ErrorResponse Reply
  | .ok reply => .ok reply
  | .error logged => .error (logged.intoResponse seed)

def set (state : FailureState Reply) (id : Nat) (journal : Journal)
    (request : FailingRequest Reply) : FailureState Reply :=
  { journal, requests := state.requests.set id request }

/-- The request's own future fails, and answers so. -/
def fail (seed : UInt64) (state : FailureState Reply) (id : Nat) (request : FailingRequest Reply)
    (error : HandlerError) : FailureState Reply :=
  let (logged, journal) := state.journal.record request.tag error
  state.set id journal
    { request with failed := some error, place := .answered (.error (logged.intoResponse seed)) }

/-- What an event does to the request it is about. -/
def act (seed : UInt64) (state : FailureState Reply) (id : Nat) (request : FailingRequest Reply) :
    FailureEvent Reply → Option (FailureState Reply)
  | .fail _ error =>
      match request.place with
      | .edge => some (state.fail seed id request error)
      | _ => none
  | .submit _ =>
      match request.place with
      | .edge =>
          some (state.set id state.journal { request with place := .waiting, reply := .pending })
      | _ => none
  | .inline _ handler took result =>
      match request.place with
      | .edge =>
          let result := inlineResult handler took result
          let (settled, journal) := settle state.journal request.tag result
          some (state.set id journal
            { request with ran := some result, place := .answered (respond seed settled) })
      | _ => none
  | .finish _ result =>
      match request.reply with
      | .pending =>
          let (settled, journal) := settle state.journal request.tag result
          some (state.set id journal { request with ran := some result, reply := .sent settled })
      | _ => none
  | .lose _ lost =>
      match request.reply with
      | .pending => some (state.set id state.journal { request with reply := .lost lost })
      | _ => none
  | .receive _ =>
      match request.place, request.reply with
      | .waiting, .sent result =>
          some
            (state.set id state.journal { request with place := .answered (respond seed result) })
      | .waiting, .lost lost => some (state.fail seed id request lost)
      | _, _ => none
  | .timeout _ =>
      match request.place with
      | .waiting => some (state.fail seed id request (.refused .timeout))
      | _ => none
  | .disconnect _ =>
      match request.place with
      | .edge | .waiting => some (state.set id state.journal { request with place := .gone })
      | _ => none
  | .arrive _ => none

/-- The request an event is about. -/
def request? : FailureEvent Reply → Option Nat
  | .arrive _ => none
  | .fail request _ | .submit request | .inline request .. | .finish request _ | .lose request _
  | .receive request | .timeout request | .disconnect request => some request

def step (seed : UInt64) (state : FailureState Reply) (event : FailureEvent Reply) :
    Option (FailureState Reply) :=
  match event with
  | .arrive tag =>
      some
        { state with
          requests := state.requests ++
            [{ tag, place := .edge, reply := .absent, ran := none, failed := none }] }
  | event =>
      (request? event).bind fun id => state.requests[id]?.bind fun request =>
        state.act seed id request event

end FailureState

/-- Requests, their handlers and their clients, in any order of steps. -/
def failureMachine (Reply : Type*) (seed : UInt64) :
    Machine (FailureState Reply) (FailureEvent Reply) where
  init := { journal := { dropped := 0, lines := [] }, requests := [] }
  step := FailureState.step seed

/-! ### What was logged -/

/-- What made the error counts as a dropped request. -/
def isRefused : HandlerError → Bool
  | .refused _ => true
  | _ => false

theorem record_spec (journal : Journal) (tag : RequestTag) (error : HandlerError) :
    journal.record tag error =
      ({ error, requestId := tag.id },
        { dropped := journal.dropped + if isRefused error then 1 else 0
          lines := journal.lines ++ [error.line tag] }) := by
  cases error <;> rfl

namespace FailingRequest

variable {Reply : Type*}

/-- What a handler's result adds to the failures. -/
def raised : Except HandlerError Reply → List HandlerError
  | .ok _ => []
  | .error error => [error]

/-- What the request failed with: its handler, and its own future. -/
def failures (request : FailingRequest Reply) : List HandlerError :=
  (request.ran.elim [] raised) ++ request.failed.toList

/-- The lines that the request has in the log. -/
def lines (request : FailingRequest Reply) : List LogLine :=
  request.failures.map (HandlerError.line request.tag)

/-- What was sent is what the handler came to, its failure logged under the request's id. -/
structure Sent (tag : RequestTag) (ran : Option (Except HandlerError Reply))
    (result : Except Logged Reply) : Prop where
  ok : ∀ reply, result = .ok reply → ran = some (.ok reply)
  error : ∀ logged, result = .error logged →
    ran = some (.error logged.error) ∧ logged.requestId = tag.id

/-- Where the request and its handler are. -/
structure Sound (format : Json.FloatFormat F) (seed : UInt64) (request : FailingRequest Reply) :
    Prop where
  edge : request.place = .edge → request.reply = .absent ∧ request.ran = none
  /-- Only a request that waited with its work submitted can be outrun by its handler. -/
  running : request.reply = .pending ∨ (∃ lost, request.reply = .lost lost) → request.ran = none
  sent : ∀ result, request.reply = .sent result → Sent request.tag request.ran result
  unfailed : request.place = .edge ∨ request.place = .waiting ∨ request.place = .gone →
    request.failed = none
  answered : ∀ response, request.place = .answered (.error response) →
    ∃ error ∈ request.failures, Answers format seed request.tag error response
  served : ∀ reply, request.place = .answered (.ok reply) →
    request.ran = some (.ok reply) ∧ request.failed = none
  late : ∀ error, request.failed = some error →
    error = .refused .timeout ∨ request.ran = none ∧ request.reply ≠ .pending

variable {format : Json.FloatFormat F} {seed : UInt64} {request : FailingRequest Reply}

theorem sound_arrive (tag : RequestTag) :
    ({ tag, place := .edge, reply := .absent, ran := none, failed := none } :
      FailingRequest Reply).Sound format seed where
  edge _ := ⟨rfl, rfl⟩
  running := nofun
  sent := nofun
  unfailed _ := rfl
  answered := nofun
  served := nofun
  late := nofun

/-- The request's own future fails, in time or too late for its handler. -/
theorem Sound.fail {error : HandlerError} (sound : request.Sound format seed)
    (reason : error = .refused .timeout ∨ request.ran = none ∧ request.reply ≠ .pending) :
    { request with
      failed := some error
      place := .answered (.error (Logged.intoResponse seed ⟨error, request.tag.id⟩)) }.Sound
        format seed where
  edge := nofun
  running := sound.running
  sent := sound.sent
  unfailed impossible := by
    obtain edge | waiting | gone := impossible
    · cases edge
    · cases waiting
    · cases gone
  answered response answered := by
    obtain rfl := Except.error.inj (RequestPlace.answered.inj answered)
    exact ⟨error, List.mem_append_right _ List.mem_cons_self, answers_intoResponse ..⟩
  served reply answered := by cases answered
  late other failed := by
    obtain rfl := Option.some.inj failed
    exact reason

/-- A future that answers with what the handler came to, or is dropped. -/
theorem Sound.move {place : RequestPlace Reply} (sound : request.Sound format seed)
    (other : place ≠ .edge) (unfailed : request.failed = none)
    (answered : ∀ response, place = .answered (.error response) →
      ∃ error, request.ran = some (.error error) ∧
        Answers format seed request.tag error response)
    (served : ∀ reply, place = .answered (.ok reply) → request.ran = some (.ok reply)) :
    { request with place }.Sound format seed where
  edge edge := absurd edge other
  running := sound.running
  sent := sound.sent
  unfailed _ := unfailed
  answered response at' := by
    obtain ⟨error, ran, answers⟩ := answered response at'
    exact ⟨error, by simp [failures, raised, ran], answers⟩
  served reply at' := ⟨served reply at', unfailed⟩
  late error failed := by
    rw [unfailed] at failed
    cases failed

/-- The handler comes to its end, whoever waits. -/
theorem Sound.finish {result : Except HandlerError Reply} {settled : Except Logged Reply}
    (sound : request.Sound format seed) (pending : request.reply = .pending)
    (sent : Sent request.tag (some result) settled) :
    { request with ran := some result, reply := .sent settled }.Sound format seed where
  edge edge := by
    have absent := (sound.edge edge).1
    rw [pending] at absent
    cases absent
  running unsent := by
    obtain pending | ⟨lost, same⟩ := unsent
    · cases pending
    · cases same
  sent other same := by
    obtain rfl := ReplySlot.sent.inj same
    exact sent
  unfailed := sound.unfailed
  answered response answered := by
    obtain ⟨error, member, answers⟩ := sound.answered response answered
    refine ⟨error, ?_, answers⟩
    rw [failures, sound.running (.inl pending), Option.elim_none, List.nil_append] at member
    exact List.mem_append_right _ member
  served reply answered := by
    have ran := (sound.served reply answered).1
    rw [sound.running (.inl pending)] at ran
    cases ran
  late error failed := by
    refine .inl ((sound.late error failed).resolve_right ?_)
    exact fun before => before.2 pending

/-- A handler that ran on the request's own thread. -/
theorem Sound.inline {result : Except HandlerError Reply} {response : Except ErrorResponse Reply}
    (sound : request.Sound format seed) (edge : request.place = .edge)
    (ok : ∀ reply, response = .ok reply → some result = some (.ok reply))
    (error : ∀ answer, response = .error answer → ∃ error,
      some result = some (.error error) ∧ Answers format seed request.tag error answer) :
    { request with ran := some result, place := .answered response }.Sound format seed where
  edge := nofun
  running unsent := by
    have absent := (sound.edge edge).1
    obtain pending | ⟨lost, same⟩ := unsent
    · rw [absent] at pending
      cases pending
    · rw [absent] at same
      cases same
  sent other same := by
    have absent := (sound.edge edge).1
    rw [absent] at same
    cases same
  unfailed _ := sound.unfailed (.inl edge)
  answered answer same := by
    obtain rfl := RequestPlace.answered.inj same
    obtain ⟨raising, ran, answers⟩ := error answer rfl
    obtain rfl := Option.some.inj ran
    exact ⟨raising, List.mem_append_left _ List.mem_cons_self, answers⟩
  served reply same := by
    obtain rfl := RequestPlace.answered.inj same
    exact ⟨ok reply rfl, sound.unfailed (.inl edge)⟩
  late error failed := by
    rw [sound.unfailed (.inl edge)] at failed
    cases failed

end FailingRequest

/-! ### The requests together -/

theorem flatMap_set_perm {A B : Type*} {items : List A} {values : A → List B} {index : Nat}
    {before after : A} {new : List B} (found : items[index]? = some before)
    (more : (values after).Perm (values before ++ new)) :
    ((items.set index after).flatMap values).Perm (items.flatMap values ++ new) := by
  induction items generalizing index with
  | nil => cases found
  | cons item items induction =>
      cases index with
      | zero =>
          obtain rfl := Option.some.inj found
          simp only [List.set_cons_zero, List.flatMap_cons]
          have tail : (new ++ items.flatMap values).Perm (items.flatMap values ++ new) :=
            List.perm_append_comm
          refine (more.append_right _).trans ?_
          rw [List.append_assoc, List.append_assoc]
          exact tail.append_left _
      | succ index =>
          simp only [List.set_cons_succ, List.flatMap_cons, List.append_assoc]
          exact (induction found).append_left _

namespace FailureState

variable {Reply : Type*} {format : Json.FloatFormat F} {seed : UInt64}
  {state next : FailureState Reply} {id : Nat} {request after : FailingRequest Reply}
  {journal : Journal} {event : FailureEvent Reply}

structure Invariant (format : Json.FloatFormat F) (seed : UInt64) (state : FailureState Reply) :
    Prop where
  sound : ∀ request ∈ state.requests, request.Sound format seed
  logged : state.journal.lines.Perm (state.requests.flatMap FailingRequest.lines)
  counted : state.journal.dropped =
    (state.requests.flatMap FailingRequest.failures).countP isRefused

/-- One request moves, and logs and counts what it fails with now. -/
theorem Invariant.set (new : List HandlerError) (invariant : state.Invariant format seed)
    (found : state.requests[id]? = some request) (sound : after.Sound format seed)
    (tag : after.tag = request.tag) (failures : after.failures.Perm (request.failures ++ new))
    (lines : journal.lines = state.journal.lines ++ new.map (HandlerError.line request.tag))
    (dropped : journal.dropped = state.journal.dropped + new.countP isRefused) :
    (state.set id journal after).Invariant format seed where
  sound other member := by
    obtain old | rfl := List.mem_or_eq_of_mem_set member
    · exact invariant.sound other old
    · exact sound
  logged := by
    have more : after.lines.Perm (request.lines ++ new.map (HandlerError.line request.tag)) := by
      rw [FailingRequest.lines, FailingRequest.lines, tag, ← List.map_append]
      exact failures.map _
    exact (lines ▸ invariant.logged.append_right _).trans (flatMap_set_perm found more).symm
  counted := by
    have moved : ((state.set id journal after).requests.flatMap FailingRequest.failures).countP
        isRefused = _ := (flatMap_set_perm found failures).countP_eq isRefused
    rw [moved, List.countP_append, ← invariant.counted]
    exact dropped

theorem Invariant.same (invariant : state.Invariant format seed)
    (found : state.requests[id]? = some request) (sound : after.Sound format seed)
    (tag : after.tag = request.tag) (failures : after.failures = request.failures) :
    (state.set id state.journal after).Invariant format seed := by
  refine Invariant.set [] invariant found sound tag ?_ ?_ rfl
  · rw [failures, List.append_nil]
  · rw [List.map_nil, List.append_nil]

theorem Invariant.fail {error : HandlerError} (invariant : state.Invariant format seed)
    (found : state.requests[id]? = some request)
    (before : request.place = .edge ∨ request.place = .waiting)
    (reason : error = .refused .timeout ∨ request.ran = none ∧ request.reply ≠ .pending) :
    (state.fail seed id request error).Invariant format seed := by
  have sound := invariant.sound request (List.mem_of_getElem? found)
  have unfailed : request.failed = none :=
    sound.unfailed (before.imp_right .inl)
  have recorded := record_spec state.journal request.tag error
  rw [FailureState.fail, recorded]
  refine Invariant.set [error] invariant found (sound.fail reason) rfl ?_ rfl ?_
  · simp [FailingRequest.failures, unfailed]
  · simp [List.countP_cons]

/-- What is sent of a handler's result. -/
def settled (tag : RequestTag) : Except HandlerError Reply → Except Logged Reply
  | .ok reply => .ok reply
  | .error error => .error { error, requestId := tag.id }

/-- A handler's result is logged if it is a failure. -/
theorem settle_spec (journal : Journal) (tag : RequestTag) (result : Except HandlerError Reply) :
    settle journal tag result =
      (settled tag result,
        { dropped := journal.dropped + (FailingRequest.raised result).countP isRefused
          lines :=
            journal.lines ++ (FailingRequest.raised result).map (HandlerError.line tag) }) := by
  cases result with
  | ok reply => simp [settle, settled, FailingRequest.raised]
  | error error => simp [settle, settled, FailingRequest.raised, record_spec, List.countP_cons]

theorem sent_settled (tag : RequestTag) (result : Except HandlerError Reply) :
    FailingRequest.Sent tag (some result) (settled tag result) := by
  cases result with
  | ok reply =>
      refine ⟨fun other same => ?_, nofun⟩
      obtain rfl := Except.ok.inj same
      rfl
  | error error =>
      refine ⟨nofun, fun logged same => ?_⟩
      obtain rfl := Except.error.inj same
      exact ⟨rfl, rfl⟩

/-- A result that was sent is answered with, as it was logged. -/
theorem respond_cases {tag : RequestTag} {ran : Option (Except HandlerError Reply)}
    {result : Except Logged Reply} (sent : FailingRequest.Sent tag ran result) :
    (∀ reply, respond seed result = .ok reply → ran = some (.ok reply)) ∧
      ∀ answer, respond seed result = .error answer →
        ∃ error, ran = some (.error error) ∧ Answers format seed tag error answer := by
  cases result with
  | ok reply =>
      refine ⟨fun other same => ?_, nofun⟩
      obtain rfl := Except.ok.inj same
      exact sent.ok reply rfl
  | error logged =>
      refine ⟨nofun, fun answer same => ?_⟩
      obtain rfl := Except.error.inj same
      obtain ⟨ran, own⟩ := sent.error logged rfl
      refine ⟨logged.error, ran, ?_⟩
      have answers := answers_intoResponse format seed tag logged.error
      rwa [← own] at answers

theorem Invariant.act (invariant : state.Invariant format seed)
    (found : state.requests[id]? = some request)
    (fired : state.act seed id request event = some next) : next.Invariant format seed := by
  have sound := invariant.sound request (List.mem_of_getElem? found)
  cases event with
  | fail _ error =>
      simp only [FailureState.act] at fired
      split at fired
      · rename_i edge
        obtain rfl := Option.some.inj fired
        obtain ⟨absent, unrun⟩ := sound.edge edge
        exact invariant.fail found (.inl edge) (.inr ⟨unrun, by simp [absent]⟩)
      · cases fired
  | submit _ =>
      simp only [FailureState.act] at fired
      split at fired
      · rename_i edge
        obtain rfl := Option.some.inj fired
        have unfailed := sound.unfailed (.inl edge)
        refine invariant.same found ?_ rfl rfl
        refine ⟨nofun, fun _ => (sound.edge edge).2, nofun, fun _ => unfailed, nofun, nofun, ?_⟩
        intro error failed
        rw [unfailed] at failed
        cases failed
      · cases fired
  | inline _ handler took result =>
      simp only [FailureState.act] at fired
      split at fired
      · rename_i edge
        simp only [settle_spec] at fired
        obtain rfl := Option.some.inj fired
        obtain ⟨ok, error⟩ := respond_cases (sent_settled request.tag _)
        refine Invariant.set _ invariant found (sound.inline edge ok error) rfl ?_ rfl rfl
        simp [FailingRequest.failures, (sound.edge edge).2, sound.unfailed (.inl edge)]
      · cases fired
  | finish _ result =>
      simp only [FailureState.act] at fired
      split at fired
      · rename_i pending
        simp only [settle_spec] at fired
        obtain rfl := Option.some.inj fired
        refine Invariant.set _ invariant found
          (sound.finish pending (sent_settled request.tag result)) rfl ?_ rfl rfl
        simp only [FailingRequest.failures, sound.running (.inl pending), Option.elim_none,
          Option.elim_some, List.nil_append]
        exact List.perm_append_comm
      · cases fired
  | lose _ lost =>
      simp only [FailureState.act] at fired
      split at fired
      · rename_i pending
        obtain rfl := Option.some.inj fired
        refine invariant.same found ?_ rfl rfl
        refine ⟨fun edge => ?_, fun _ => sound.running (.inl pending), nofun, sound.unfailed,
          sound.answered, sound.served, fun error failed => ?_⟩
        · have absent := (sound.edge edge).1
          rw [pending] at absent
          cases absent
        · exact .inl ((sound.late error failed).resolve_right fun before => before.2 pending)
      · cases fired
  | receive _ =>
      simp only [FailureState.act] at fired
      split at fired
      · rename_i waiting sent
        obtain rfl := Option.some.inj fired
        have unfailed := sound.unfailed (.inr (.inl waiting))
        obtain ⟨ok, error⟩ := respond_cases (sound.sent _ sent)
        exact invariant.same found (sound.move nofun unfailed
          (fun answer same => error answer (RequestPlace.answered.inj same))
          fun reply same => ok reply (RequestPlace.answered.inj same)) rfl rfl
      · rename_i waiting lost
        obtain rfl := Option.some.inj fired
        refine invariant.fail found (.inr waiting) (.inr ⟨sound.running (.inr ⟨_, lost⟩), ?_⟩)
        simp [lost]
      · cases fired
  | timeout _ =>
      simp only [FailureState.act] at fired
      split at fired
      · rename_i waiting
        obtain rfl := Option.some.inj fired
        exact invariant.fail found (.inr waiting) (.inl rfl)
      · cases fired
  | disconnect _ =>
      simp only [FailureState.act] at fired
      split at fired
      · rename_i edge
        obtain rfl := Option.some.inj fired
        exact invariant.same found
          (sound.move nofun (sound.unfailed (.inl edge)) nofun nofun) rfl rfl
      · rename_i waiting
        obtain rfl := Option.some.inj fired
        exact invariant.same found
          (sound.move nofun (sound.unfailed (.inr (.inl waiting))) nofun nofun) rfl rfl
      · cases fired
  | arrive _ => cases fired

theorem Invariant.step (invariant : state.Invariant format seed)
    (fired : state.step seed event = some next) : next.Invariant format seed := by
  unfold FailureState.step at fired
  split at fired
  · rename_i tag
    obtain rfl := Option.some.inj fired
    constructor
    case sound =>
      intro request member
      obtain old | new := List.mem_append.mp member
      · exact invariant.sound request old
      · obtain rfl := List.mem_singleton.mp new
        exact FailingRequest.sound_arrive tag
    case logged =>
      have none : [({ tag, place := .edge, reply := .absent, ran := none, failed := none } :
          FailingRequest Reply)].flatMap FailingRequest.lines = [] := rfl
      simp only [List.flatMap_append, none, List.append_nil]
      exact invariant.logged
    case counted =>
      have none : [({ tag, place := .edge, reply := .absent, ran := none, failed := none } :
          FailingRequest Reply)].flatMap FailingRequest.failures = [] := rfl
      simp only [List.flatMap_append, none, List.append_nil]
      exact invariant.counted
  · obtain ⟨id, -, fired⟩ := Option.bind_eq_some_iff.mp fired
    obtain ⟨request, found, fired⟩ := Option.bind_eq_some_iff.mp fired
    exact invariant.act found fired

theorem invariant_start :
    (failureMachine Reply seed).init.Invariant format seed where
  sound request member := by cases member
  logged := List.Perm.refl _
  counted := rfl

end FailureState

/-! ## Main theorem -/

/-- What holds of the log and of the responses in every state. -/
structure FailuresSound {Reply : Type*} (format : Json.FloatFormat F) (seed : UInt64)
    (state : FailureState Reply) : Prop where
  /-- The log is made of the lines of the failures, each once. -/
  logged : state.journal.lines.Perm (state.requests.flatMap FailingRequest.lines)
  /-- A line has its request and the failure's text. -/
  lines : ∀ request ∈ state.requests, ∀ error ∈ request.failures, ∃ line ∈ state.journal.lines,
    line.request = request.tag ∧ line.error = error.text
  counted : state.journal.dropped =
    (state.requests.flatMap FailingRequest.failures).countP isRefused
  /-- Who is answered with an error is told the kind of a failure that was logged. -/
  answered : ∀ request ∈ state.requests, ∀ response,
    request.place = .answered (.error response) →
      ∃ error ∈ request.failures, Answers format seed request.tag error response ∧
        (500 ≤ error.status → error.told ∈ genericTexts)
  served : ∀ request ∈ state.requests, ∀ reply, request.place = .answered (.ok reply) →
    request.failures = []
  /-- A request fails twice only where its handler fails after it has timed out. -/
  twice : ∀ request ∈ state.requests, request.failures.length ≤ 1 ∨
    request.failed = some (.refused .timeout)

/-- In whatever order requests, handlers and clients take their steps: every failure is logged once,
every refusal counted once, and a client is told no more than the kind of a failure that is in the
log. -/
theorem failure_reported {Reply : Type*} (format : Json.FloatFormat F) (seed : UInt64)
    {state : FailureState Reply} (reachable : (failureMachine Reply seed).Reachable state) :
    FailuresSound format seed state := by
  have invariant : state.Invariant format seed := by
    refine Machine.Reachable.invariant ?_ ?_ reachable
    case refine_1 => exact FailureState.invariant_start
    case refine_2 => exact fun holds fired => holds.step fired
  constructor
  case logged => exact invariant.logged
  case counted => exact invariant.counted
  case lines =>
    intro request member error failed
    obtain ⟨own, text⟩ := line_spec request.tag error
    refine ⟨error.line request.tag, invariant.logged.mem_iff.mpr ?_, own, text⟩
    exact List.mem_flatMap.mpr ⟨request, member, List.mem_map_of_mem failed⟩
  case answered =>
    intro request member response answered
    obtain ⟨error, failed, answers⟩ := (invariant.sound request member).answered response answered
    exact ⟨error, failed, answers, told_generic⟩
  case served =>
    intro request member reply answered
    obtain ⟨ran, unfailed⟩ := (invariant.sound request member).served reply answered
    simp [FailingRequest.failures, FailingRequest.raised, ran, unfailed]
  case twice =>
    intro request member
    have sound := invariant.sound request member
    cases failed : request.failed with
    | none =>
        left
        unfold FailingRequest.failures FailingRequest.raised
        rw [failed]
        cases request.ran with
        | none => simp
        | some result => cases result <;> simp
    | some error =>
        obtain rfl | ⟨unrun, -⟩ := sound.late error failed
        · exact .inr rfl
        · left
          simp [FailingRequest.failures, failed, unrun]

/-- A format of no floats at all; error bodies have none. -/
def noFloats : Json.FloatFormat Empty where
  write := nofun
  read := fun _ => .nan
  literal := nofun
  read_write := nofun

/-- A request whose handler fails after it has timed out, one that ran past the budget on its own
thread, and one that is not let in. -/
def threeFailures : List (FailureEvent Unit) :=
  let tag (id : UInt64) : RequestTag := { id := .minted id, method := "GET", path := "/p" }
  [.arrive (tag 0), .submit 0, .arrive (tag 1), .timeout 0,
    .inline 1 "slow" (31 * 10 ^ 9) (.error (.panic "late")), .arrive (tag 2),
    .fail 2 (.refused (.overloaded "admission permits")), .finish 0 (.error (.panic "too late"))]

theorem failure_reported_threeFailures :
    ∃ state : FailureState Unit, (failureMachine Unit 0).run threeFailures = some state ∧
      state.journal.lines.length = 4 ∧ state.journal.dropped = 3 ∧
        FailuresSound noFloats 0 state :=
  ⟨_, rfl, rfl, rfl, failure_reported _ 0 ⟨threeFailures, rfl⟩⟩

end Pyronova.Failures
