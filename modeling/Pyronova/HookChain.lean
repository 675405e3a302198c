import Pyronova.Response

/-!
# One request's hooks and handler, run inline and by the async engine

The inline worker runs before hooks, handler and after hooks in Rust and turns every returned value
into a `ResponseData` at once.  The async engine runs the same chain in Python and keeps a returned
`Response` as it is until the reply is sent.  The two are compared call by call.
-/

namespace Pyronova

/-- Which part of a request raised. -/
inductive Stage
  | beforeHook
  | handler
  | afterHook
  | asyncTask
  deriving DecidableEq, Repr

/-- Why a request failed. -/
inductive HandlerError (Exc : Type*)
  | python (stage : Stage) (exception : Exc)
  | response (error : ResponseError Exc)
  deriving DecidableEq, Repr

/-- A call of a hook or of the handler, with the response an after hook is passed. -/
inductive HookCall (Object : Type*)
  | before (index : Nat)
  | handler
  | after (index : Nat) (response : PyronovaResponse Object)
  deriving DecidableEq, Repr

/-- What running a part of a request did: the calls it made, how it ended, and the interpreter's
state after it. -/
structure Trace (World Object Exc α : Type*) where
  calls : List (HookCall Object)
  result : Except (HandlerError Exc) α
  world : World

/-- A part of a request, run on the interpreter's state. -/
abbrev Run (World Object Exc α : Type*) := World → Trace World Object Exc α

namespace Run

variable {World Object Exc α β : Type*}

/-- Run `first`, then what follows from its result; an error ends the request. -/
def andThen (first : Run World Object Exc α) (next : α → Run World Object Exc β) :
    Run World Object Exc β := fun world =>
  match (first world).result with
  | .error error => { calls := (first world).calls, result := .error error,
                      world := (first world).world }
  | .ok value =>
      let rest := next value (first world).world
      { rest with calls := (first world).calls ++ rest.calls }

/-- Nothing more to run. -/
def done (value : α) : Run World Object Exc α := fun world =>
  { calls := [], result := .ok value, world }

/-- Call a hook or the handler, an awaitable it returns run to completion. -/
def call (record : HookCall Object) (stage : Stage) (body : World → Except Exc α × World) :
    Run World Object Exc α := fun world =>
  { calls := [record]
    result :=
      match (body world).1 with
      | .ok value => .ok value
      | .error exception => .error (.python stage exception)
    world := (body world).2 }

/-- Map a value to a response. -/
def convert (mapping : World → Except (ResponseError Exc) α × World) :
    Run World Object Exc α := fun world =>
  { calls := []
    result :=
      match (mapping world).1 with
      | .ok value => .ok value
      | .error error => .error (.response error)
    world := (mapping world).2 }

end Run

/-- A before hook or a handler, on a request that is part of the interpreter's state. -/
abbrev Hook (World Object Exc : Type*) := World → Except Exc (PyValue Object) × World

/-- An after hook, given the response so far. -/
abbrev AfterHook (World Object Exc : Type*) :=
  PyronovaResponse Object → World → Except Exc (PyValue Object) × World

/-- What runs for a request. -/
structure RouteChain (World Object Exc : Type*) where
  before : List (Hook World Object Exc)
  handler : Hook World Object Exc
  after : List (AfterHook World Object Exc)

section Chains

variable {World Object Exc : Type*} (interpreter : Interpreter World Object Exc)

/-! ## Inline -/

/-- `Chain::before`, from the hook at `index` on. -/
def chainBefore : Nat → List (Hook World Object Exc) → Run World Object Exc (Option ResponseData)
  | _, [] => .done none
  | index, hook :: hooks =>
      (Run.call (.before index) .beforeHook hook).andThen fun
        | .none => chainBefore (index + 1) hooks
        | value => (Run.convert (workerResponse interpreter value)).andThen fun data =>
            .done (some data)

/-- `Chain::after`, from the hook at `index` on. -/
def chainAfter : Nat → List (AfterHook World Object Exc) → ResponseData →
    Run World Object Exc ResponseData
  | _, [], response => .done response
  | index, hook :: hooks, response =>
      (Run.call (.after index response.toPy) .afterHook (hook response.toPy)).andThen fun
        | .none => chainAfter (index + 1) hooks response
        | value => (Run.convert (workerResponse interpreter value)).andThen
            (chainAfter (index + 1) hooks)

/-- `Inline::run` after the before hooks: a short circuit skips handler and after hooks. -/
def inlineServe (chain : RouteChain World Object Exc) :
    Option ResponseData → Run World Object Exc ResponseData
  | some response => .done response
  | none =>
      (Run.call .handler .handler chain.handler).andThen fun value =>
        (Run.convert (workerResponse interpreter value)).andThen
          (chainAfter interpreter 0 chain.after)

/-- `Inline::run`. -/
def inlineRun (chain : RouteChain World Object Exc) : Run World Object Exc ResponseData :=
  (chainBefore interpreter 0 chain.before).andThen (inlineServe interpreter chain)

/-! ## The async engine -/

/-- `_worker_to_response`: a `Response` passes through. -/
def workerToResponse (value : PyValue Object) (world : World) :
    Except (ResponseError Exc) (PyronovaResponse Object) × World :=
  match value with
  | .response body statusCode contentType headers =>
      (.ok { body, statusCode, contentType, headers }, world)
  | value =>
      match workerResponse interpreter value world with
      | (.ok data, world) => (.ok data.toPy, world)
      | (.error error, world) => (.error error, world)

/-- The before hooks of `_handle`. -/
def handleBefore : Nat → List (Hook World Object Exc) →
    Run World Object Exc (Option (PyronovaResponse Object))
  | _, [] => .done none
  | index, hook :: hooks =>
      (Run.call (.before index) .asyncTask hook).andThen fun
        | .none => handleBefore (index + 1) hooks
        | value => (Run.convert (workerToResponse interpreter value)).andThen fun response =>
            .done (some response)

/-- The after hooks of `_handle`. -/
def handleAfter : Nat → List (AfterHook World Object Exc) → PyronovaResponse Object →
    Run World Object Exc (PyronovaResponse Object)
  | _, [], response => .done response
  | index, hook :: hooks, response =>
      (Run.call (.after index response) .asyncTask (hook response)).andThen fun
        | .none => handleAfter (index + 1) hooks response
        | value => (Run.convert (workerToResponse interpreter value)).andThen
            (handleAfter (index + 1) hooks)

/-- `_handle` after the before hooks. -/
def handleServe (chain : RouteChain World Object Exc) :
    Option (PyronovaResponse Object) → Run World Object Exc (PyronovaResponse Object)
  | some response => .done response
  | none =>
      (Run.call .handler .asyncTask chain.handler).andThen fun value =>
        (Run.convert (workerToResponse interpreter value)).andThen
          (handleAfter interpreter 0 chain.after)

/-- `_handle`. -/
def handle (chain : RouteChain World Object Exc) :
    Run World Object Exc (PyronovaResponse Object) :=
  (handleBefore interpreter 0 chain.before).andThen (handleServe interpreter chain)

/-- `_worker_send`. -/
def workerSend (response : PyronovaResponse Object) : Run World Object Exc ResponseData :=
  Run.convert (workerResponse interpreter response.toValue)

/-- `_process_request`. -/
def processRequest (chain : RouteChain World Object Exc) : Run World Object Exc ResponseData :=
  (handle interpreter chain).andThen (workerSend interpreter)

/-! ## Agreement -/

/-- The same calls with the same responses in the same order, and the same response if either
succeeds. -/
structure Agree (inline async : Trace World Object Exc ResponseData) : Prop where
  calls : inline.calls = async.calls
  result : ∀ data, inline.result = .ok data ↔ async.result = .ok data

/-- The value is no `Response`, or one that the mapping leaves as it is. -/
def PyValue.Normal : PyValue Object → Prop
  | .response body statusCode contentType headers =>
      PyronovaResponse.Normal { body, statusCode, contentType, headers }
  | _ => True

/-- A value about to be passed to these after hooks, and every value one of them returns while
another follows, is normal. -/
def AfterNormal : List (AfterHook World Object Exc) → PyValue Object → World → Prop
  | [], _, _ => True
  | hook :: hooks, value, world =>
      value.Normal ∧
        match workerResponse interpreter value world with
        | (.error _, _) => True
        | (.ok data, world) =>
            match hook data.toPy world with
            | (.error _, _) => True
            | (.ok .none, world) => AfterNormal hooks data.toPy.toValue world
            | (.ok value, world) => AfterNormal hooks value world

/-- The before hooks let the request through to a handler whose value the after hooks can be
passed. -/
def ReturnsNormal (handler : Hook World Object Exc) (after : List (AfterHook World Object Exc)) :
    List (Hook World Object Exc) → World → Prop
  | [], world =>
      match handler world with
      | (.error _, _) => True
      | (.ok value, world) => AfterNormal interpreter after value world
  | hook :: hooks, world =>
      match hook world with
      | (.ok .none, world) => ReturnsNormal handler after hooks world
      | _ => True

end Chains

/-! ## Running two chains side by side -/

section Agreement

variable {World Object Exc α β γ : Type*}

theorem Run.andThen_assoc (first : Run World Object Exc α) (second : α → Run World Object Exc β)
    (third : β → Run World Object Exc γ) :
    (first.andThen second).andThen third = first.andThen fun value =>
      (second value).andThen third := by
  funext world
  simp only [andThen]
  cases (first world).result with
  | error error => rfl
  | ok value =>
      simp only
      cases (second value (first world).world).result <;> simp [List.append_assoc]

@[simp] theorem Run.done_andThen (value : α) (next : α → Run World Object Exc β) :
    (Run.done value).andThen next = next value := by
  funext world
  simp [andThen, done]

@[simp] theorem Run.andThen_done (run : Run World Object Exc α) : run.andThen Run.done = run := by
  funext world
  simp only [andThen, done]
  cases ended : (run world).result <;> simp [← ended]

/-- A call is the first of what it and the rest make. -/
theorem Run.calls_of_call (record : HookCall Object) (stage : Stage)
    (body : World → Except Exc α × World) (next : α → Run World Object Exc β) (world : World) :
    ∃ rest, ((Run.call record stage body).andThen next world).calls = record :: rest := by
  rcases ran : body world with ⟨result, after⟩
  cases result with
  | error exception => exact ⟨[], by simp [andThen, call, ran]⟩
  | ok value => exact ⟨(next value after).calls, by simp [andThen, call, ran]⟩

theorem Agree.refl (trace : Trace World Object Exc ResponseData) : Agree trace trace :=
  ⟨rfl, fun _ => Iff.rfl⟩

/-- Both sides make the same call; only the stage an exception is reported at differs. -/
theorem agree_call_iff (record : HookCall Object) (left right : Stage)
    (body : World → Except Exc α × World)
    (inline async : α → Run World Object Exc ResponseData) (world : World) :
    Agree ((Run.call record left body).andThen inline world)
        ((Run.call record right body).andThen async world) ↔
      match body world with
      | (.error _, _) => True
      | (.ok value, world) => Agree (inline value world) (async value world) := by
  rcases ran : body world with ⟨result, after⟩
  cases result with
  | error exception =>
      simp only [Run.andThen, Run.call, ran, iff_true]
      exact ⟨rfl, by simp⟩
  | ok value =>
      simp only [Run.andThen, Run.call, ran]
      constructor
      · rintro ⟨calls, result⟩
        exact ⟨by simpa using calls, result⟩
      · rintro ⟨calls, result⟩
        exact ⟨by simpa using calls, result⟩

/-- Both sides map the same value. -/
theorem agree_convert_iff (mapping : World → Except (ResponseError Exc) α × World)
    (inline async : α → Run World Object Exc ResponseData) (world : World) :
    Agree ((Run.convert mapping).andThen inline world)
        ((Run.convert mapping).andThen async world) ↔
      match mapping world with
      | (.error _, _) => True
      | (.ok value, world) => Agree (inline value world) (async value world) := by
  rcases ran : mapping world with ⟨result, after⟩
  cases result with
  | error error =>
      simp only [Run.andThen, Run.convert, ran, iff_true]
      exact Agree.refl _
  | ok value =>
      simp only [Run.andThen, Run.convert, ran, List.nil_append]

variable (interpreter : Interpreter World Object Exc)

/-- A value that is no `Response` is mapped at once on both sides. -/
theorem convert_toResponse_eq {value : PyValue Object}
    (plain : workerToResponse interpreter value = fun world =>
      match workerResponse interpreter value world with
      | (.ok data, world) => (.ok data.toPy, world)
      | (.error error, world) => (.error error, world))
    (next : PyronovaResponse Object → Run World Object Exc ResponseData) (world : World) :
    (Run.convert (workerToResponse interpreter value)).andThen next world =
      (Run.convert (workerResponse interpreter value)).andThen
        (fun data => next data.toPy) world := by
  rcases mapped : workerResponse interpreter value world with ⟨result, after⟩
  cases result <;> simp [Run.andThen, Run.convert, plain, mapped]

/-- The engine passes a normal value on as the inline chain does. -/
theorem convert_toResponse_of_normal {value : PyValue Object} (normal : value.Normal)
    (next : PyronovaResponse Object → Run World Object Exc ResponseData) (world : World) :
    (Run.convert (workerToResponse interpreter value)).andThen next world =
      (Run.convert (workerResponse interpreter value)).andThen
        (fun data => next data.toPy) world := by
  cases value with
  | response body statusCode contentType headers =>
      obtain ⟨data, mapped, same⟩ := workerResponse_of_normal interpreter normal world
      simp only [PyronovaResponse.toValue] at mapped
      simp [Run.andThen, Run.convert, workerToResponse, mapped, same]
  | none | str | bytes | bytearray | json | stream | other =>
      exact convert_toResponse_eq interpreter rfl next world

/-- Sending a response made by `toPy` ends in the response it was made of. -/
theorem workerSend_toPy (data : ResponseData) :
    workerSend interpreter data.toPy = (Run.done data : Run World Object Exc ResponseData) := by
  funext world
  simp [workerSend, Run.convert, Run.done, workerResponse_toPy]

/-- A response made by `toPy`, returned by a hook, stands for the response it was made of. -/
theorem convert_response_toPy (data : ResponseData)
    (next : ResponseData → Run World Object Exc ResponseData) (world : World) :
    (Run.convert (workerResponse interpreter data.toPy.toValue)).andThen next world =
      next data world := by
  simp [Run.andThen, Run.convert, workerResponse_toPy]

theorem convert_toResponse_toPy (data : ResponseData)
    (next : PyronovaResponse Object → Run World Object Exc ResponseData) (world : World) :
    (Run.convert (workerToResponse interpreter data.toPy.toValue)).andThen next world =
      next data.toPy world := by
  simp [Run.andThen, Run.convert, workerToResponse, PyronovaResponse.toValue]

/-- With no hook left to pass it to, every value ends in the same reply. -/
theorem agree_unhooked (value : PyValue Object) (world : World) :
    Agree ((Run.convert (workerResponse interpreter value)).andThen Run.done world)
      ((Run.convert (workerToResponse interpreter value)).andThen
        (workerSend interpreter) world) := by
  cases value with
  | response body statusCode contentType headers =>
      -- The engine has kept the `Response`; sending it is the mapping the inline chain made.
      have kept : (Run.convert (workerToResponse interpreter
            (.response body statusCode contentType headers))).andThen
          (workerSend interpreter) world =
          (Run.convert (workerResponse interpreter
            (.response body statusCode contentType headers)) : Run World Object Exc _) world := by
        simp [Run.andThen, Run.convert, workerToResponse, workerSend, PyronovaResponse.toValue]
      rw [kept, Run.andThen_done]
      exact Agree.refl _
  | none | str | bytes | bytearray | json | stream | other =>
      rw [convert_toResponse_of_normal interpreter (by trivial), agree_convert_iff]
      split
      · trivial
      · rw [workerSend_toPy]
        exact Agree.refl _

theorem calls_chainAfter (hook : AfterHook World Object Exc)
    (hooks : List (AfterHook World Object Exc)) (index : Nat) (data : ResponseData)
    (world : World) :
    ∃ rest, (chainAfter interpreter index (hook :: hooks) data world).calls =
      .after index data.toPy :: rest :=
  Run.calls_of_call _ _ _ _ world

theorem calls_handleAfter (hook : AfterHook World Object Exc)
    (hooks : List (AfterHook World Object Exc)) (index : Nat)
    (response : PyronovaResponse Object) (world : World) :
    ∃ rest, ((handleAfter interpreter index (hook :: hooks) response).andThen
      (workerSend interpreter) world).calls = .after index response :: rest := by
  rw [handleAfter, Run.andThen_assoc]
  exact Run.calls_of_call _ _ _ _ world

/-- Before an after hook, agreement needs the value to be normal: the hook is passed the `Response`
itself on one side, what the mapping makes of it on the other. -/
theorem normal_of_agree {hook : AfterHook World Object Exc}
    {hooks : List (AfterHook World Object Exc)} {index : Nat} {value : PyValue Object}
    {world : World}
    (agree : Agree ((Run.convert (workerResponse interpreter value)).andThen
          (chainAfter interpreter index (hook :: hooks)) world)
        ((Run.convert (workerToResponse interpreter value)).andThen (fun response =>
          (handleAfter interpreter index (hook :: hooks) response).andThen
            (workerSend interpreter)) world)) : value.Normal := by
  cases value with
  | none | str | bytes | bytearray | json | stream | other => trivial
  | response body statusCode contentType headers =>
      have calls := agree.calls
      obtain ⟨asyncRest, asyncCalls⟩ := calls_handleAfter interpreter hook hooks index
        { body, statusCode, contentType, headers } world
      rw [show Run.convert (workerToResponse interpreter
          (.response body statusCode contentType headers)) =
          Run.done { body, statusCode, contentType, headers } from rfl, Run.done_andThen,
        asyncCalls] at calls
      rcases mapped : workerResponse interpreter
        (.response body statusCode contentType headers) world with ⟨result, after⟩
      cases result with
      | error error =>
          -- The inline chain stops before the hook, which the engine calls.
          simp [Run.andThen, Run.convert, mapped] at calls
      | ok data =>
          obtain ⟨inlineRest, inlineCalls⟩ :=
            calls_chainAfter interpreter hook hooks index data after
          simp only [Run.andThen, Run.convert, mapped, List.nil_append, inlineCalls] at calls
          obtain ⟨same, -⟩ := List.cons.inj calls
          obtain ⟨-, same⟩ := HookCall.after.inj same
          rw [PyValue.Normal, ← same]
          exact toPy_normal data

theorem agree_after_iff (hooks : List (AfterHook World Object Exc)) (index : Nat)
    (value : PyValue Object) (world : World) :
    Agree ((Run.convert (workerResponse interpreter value)).andThen
          (chainAfter interpreter index hooks) world)
        ((Run.convert (workerToResponse interpreter value)).andThen (fun response =>
          (handleAfter interpreter index hooks response).andThen (workerSend interpreter)) world) ↔
      AfterNormal interpreter hooks value world := by
  induction hooks generalizing index value world with
  | nil =>
      simp only [chainAfter, handleAfter, Run.done_andThen, AfterNormal, iff_true]
      exact agree_unhooked interpreter value world
  | cons hook hooks induction =>
      by_cases normal : value.Normal
      · rw [convert_toResponse_of_normal interpreter normal, agree_convert_iff]
        simp only [AfterNormal, normal, true_and]
        rcases workerResponse interpreter value world with ⟨result, after⟩
        cases result with
        | error error => rfl
        | ok data =>
            simp only [chainAfter, handleAfter, Run.andThen_assoc]
            rw [agree_call_iff]
            rcases hook data.toPy after with ⟨returned, later⟩
            cases returned with
            | error exception => rfl
            | ok replaced =>
                cases replaced with
                | none =>
                    -- The response stays, which is to return it as it was passed.
                    have kept := induction (index + 1) data.toPy.toValue later
                    rw [convert_response_toPy, convert_toResponse_toPy] at kept
                    exact kept
                | str | bytes | bytearray | json | response | stream | other =>
                    simp only [Run.andThen_assoc]
                    exact induction (index + 1) _ later
      · constructor
        · intro agree
          exact absurd (normal_of_agree interpreter agree) normal
        · intro holds
          exact absurd holds.1 normal

/-- Once the before hooks have let a request through, it is the handler's value that matters. -/
theorem agree_serve_iff (chain : RouteChain World Object Exc) (world : World) :
    Agree (inlineServe interpreter chain none world)
        ((handleServe interpreter chain none).andThen (workerSend interpreter) world) ↔
      ReturnsNormal interpreter chain.handler chain.after [] world := by
  rw [inlineServe, handleServe, Run.andThen_assoc, agree_call_iff, ReturnsNormal]
  rcases chain.handler world with ⟨returned, later⟩
  cases returned with
  | error exception => rfl
  | ok value =>
      simp only [Run.andThen_assoc]
      exact agree_after_iff interpreter chain.after 0 value later

/-- The before hooks are called alike, and a request one of them answers ends alike. -/
theorem agree_before_iff (chain : RouteChain World Object Exc)
    (hooks : List (Hook World Object Exc)) (index : Nat) (world : World) :
    Agree ((chainBefore interpreter index hooks).andThen (inlineServe interpreter chain) world)
        ((handleBefore interpreter index hooks).andThen (fun response =>
          (handleServe interpreter chain response).andThen (workerSend interpreter)) world) ↔
      ReturnsNormal interpreter chain.handler chain.after hooks world := by
  induction hooks generalizing index world with
  | nil =>
      rw [chainBefore, handleBefore, Run.done_andThen, Run.done_andThen]
      exact agree_serve_iff interpreter chain world
  | cons hook hooks induction =>
      rw [chainBefore, handleBefore, Run.andThen_assoc, Run.andThen_assoc, agree_call_iff,
        ReturnsNormal]
      rcases hook world with ⟨returned, later⟩
      cases returned with
      | error exception => rfl
      | ok value =>
          cases value with
          | none => exact induction (index + 1) later
          | str | bytes | bytearray | json | response | stream | other =>
              simp only [Run.andThen_assoc, Run.done_andThen, inlineServe, handleServe, iff_true]
              exact agree_unhooked interpreter _ later

/-- The inline worker and the async engine treat a request alike exactly when every `Response`
returned with an after hook still to run is one that the mapping leaves as it is. -/
theorem inline_agrees_async_iff (chain : RouteChain World Object Exc) (world : World) :
    Agree (inlineRun interpreter chain world) (processRequest interpreter chain world) ↔
      ReturnsNormal interpreter chain.handler chain.after chain.before world := by
  rw [inlineRun, processRequest, handle, Run.andThen_assoc]
  exact agree_before_iff interpreter chain chain.before 0 world

end Agreement

/-- An interpreter whose only `dict` is empty. -/
def emptyDictInterpreter : Interpreter Unit Unit Unit where
  jsonDumps _ world := (.ok (utf8Encode "\x7b\x7d"), world)
  str _ world := (.ok (.text "<object>"), world)
  bytearray _ _ := []
  unicodeError _ := ()
  typeName _ := "object"

/-- A handler that returns `Response({})`, and an after hook that changes nothing. -/
def dictBodyChain : RouteChain Unit Unit Unit where
  before := []
  handler world := (.ok (.response (.json ()) 200 none []), world)
  after := [fun _ world => (.ok .none, world)]

/-- The inline chain passes the after hook JSON text, the engine the `dict` itself. -/
theorem dictBody_differs_inAfterHook :
    ¬ Agree (inlineRun emptyDictInterpreter dictBodyChain ())
      (processRequest emptyDictInterpreter dictBodyChain ()) := by
  intro agree
  have inlineCalls : (inlineRun emptyDictInterpreter dictBodyChain ()).calls =
      [.handler, .after 0 ⟨.str (.text "\x7b\x7d"), 200, some JSON, []⟩] := by
    simp [inlineRun, chainBefore, inlineServe, chainAfter, Run.andThen, Run.call, Run.convert,
      Run.done, dictBodyChain, workerResponse, extractResponseData, fromResponse, httpStatus,
      bodyOf, emptyDictInterpreter, ResponseData.toPy]
  have asyncCalls : (processRequest emptyDictInterpreter dictBodyChain ()).calls =
      [.handler, .after 0 ⟨.json (), 200, none, []⟩] := by
    rfl
  rw [agree.calls, asyncCalls] at inlineCalls
  simp at inlineCalls

end Pyronova
