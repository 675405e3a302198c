import Mathlib.Tactic
import Pyronova.Mcp

/-!
# What the MCP server replies

A notification is answered with nothing, but for positional parameters, which are refused before
the server looks whether an answer is due.  A reply is one object of JSON-RPC, with the id of the
message it answers, but where the id is echoed before it is checked, or a number in it has no JSON
form.
-/

namespace Pyronova

namespace Mcp

open Json

variable {F : Type}

@[simp] theorem getKey_nil (key : String) : getKey ([] : Members F) key = none := rfl

@[simp] theorem getKey_cons (name key : String) (value : Value F) (members : Members F) :
    getKey ((ofString name, value) :: members) key =
      if key = name then some value else getKey members key := by
  rw [getKey, List.lookup_cons, ofString_beq]
  by_cases same : key = name
  · rw [if_pos same, beq_iff_eq.mpr same]
  · rw [if_neg same, beq_eq_false_iff_ne.mpr same]
    rfl

theorem write_ne_nil (format : FloatFormat F) (value : Value F) : write format value ≠ [] := by
  obtain ⟨first, rest, whole, -⟩ := starts_write format value
  rw [whole]
  exact List.cons_ne_nil _ _

namespace MCPServer

variable (py : PyJson F) (server : MCPServer F)

/-- The reply is the empty string where there is nothing to send. -/
theorem handleRequest_eq_nil {Body : Type*} {loads : Body → Loads F} {body : Body}
    {requestId : Option Text} :
    server.handleRequest py loads body requestId = .ok [] ↔
      server.replyTo py (loads body) requestId = .ok none := by
  rw [handleRequest]
  cases server.replyTo py (loads body) requestId with
  | error raised => simp [Except.map]
  | ok reply =>
      cases reply with
      | none => simp [Except.map]
      | some value => simp [Except.map, write_ne_nil]

/-! ## Notifications -/

/-- A valid notification of JSON-RPC 2.0. -/
structure Notification (req : Members F) : Prop where
  version : getKey req "jsonrpc" = some (.string (ofString "2.0"))
  noId : getKey req "id" = none
  method : ∃ method, getKey req "method" = some (.string method)
  params : getKey req "params" = none ∨ (∃ params, getKey req "params" = some (.object params)) ∨
    ∃ items, getKey req "params" = some (.array items)

/-- The parameters are given by name, or not at all. -/
def namedParams (req : Members F) : Option (Members F) :=
  match getKey req "params" with
  | none => some []
  | some (.object params) => some params
  | _ => none

/-- The handler of the message's method raises a `BaseException` that is no `Exception`. -/
def Exits (req : Members F) : Prop :=
  ∃ method params handler, getKey req "method" = some (.string method) ∧
    namedParams req = some params ∧ server.handlerFor py method = some handler ∧
    handler params = .error .base

theorem dispatch_notification (requestId : Option Text) {method : Text} {params : Members F} :
    server.dispatch py none method params requestId = .ok none ↔
      ¬ ∃ handler, server.handlerFor py method = some handler ∧ handler params = .error .base := by
  rw [dispatch]
  cases found : server.handlerFor py method with
  | none => simp
  | some handler =>
      cases ran : handler params with
      | ok result => simp [ran]
      | error raised => cases raised <;> simp [ran]

/-- The steps of `handle_request` for a notification. -/
theorem handleObject_notification {req : Members F} (notification : Notification req)
    (requestId : Option Text) :
    server.handleObject py req requestId = .ok none ↔
      (∀ items, getKey req "params" ≠ some (.array items)) ∧ ¬ server.Exits py req := by
  obtain ⟨method, named⟩ := notification.method
  have version : isText "2.0" (getKey req "jsonrpc") = true := by
    rw [notification.version, isText, decide_eq_true_iff]
  rcases notification.params with absent | ⟨params, given⟩ | ⟨items, given⟩
  · have exits : server.Exits py req ↔ ∃ handler,
        server.handlerFor py method = some handler ∧ handler [] = .error .base := by
      simp [Exits, namedParams, named, absent]
    rw [exits, ← dispatch_notification py server requestId]
    simp [handleObject, version, notification.noId, named, absent, isJsonRpcId]
  · have exits : server.Exits py req ↔ ∃ handler,
        server.handlerFor py method = some handler ∧ handler params = .error .base := by
      simp [Exits, namedParams, named, given]
    rw [exits, ← dispatch_notification py server requestId]
    simp [handleObject, version, notification.noId, named, given, isJsonRpcId]
  · simp [handleObject, version, notification.noId, named, given, isJsonRpcId]

/-! ### Who exits -/

/-- The registered handlers. -/
def handlers : List (Handler F) :=
  server.tools.map (fun entry => entry.2.handler) ++
    server.resources.map (fun entry => entry.2.handler) ++
      server.prompts.map fun entry => entry.2.handler

theorem asText_ne_base (returned : Returned F) : asText py returned ≠ .error .base := by
  intro failed
  rw [asText.eq_def] at failed
  split at failed <;> cases failed

theorem callText_base {handler : Handler F} {arguments : Members F}
    (failed : callText py handler arguments = .error .base) : handler arguments = .error .base := by
  rcases Except.error_of_bind failed with ran | ⟨returned, -, shown⟩
  · exact ran
  · exact absurd shown (asText_ne_base py returned)

theorem strParam_ne_base (params : Members F) (key : String) :
    strParam py params key ≠ .error .base := by
  intro failed
  rw [strParam] at failed
  split at failed <;> cases failed

theorem argumentsObject_ne_base (params : Members F) :
    argumentsObject params ≠ .error .base := by
  intro failed
  rw [argumentsObject] at failed
  split at failed <;> cases failed

theorem requireNone_ne_base (missing : Checked (List (Value F))) :
    requireNone py missing ≠ .error .base := by
  intro failed
  rw [requireNone.eq_def] at failed
  split at failed
  · rename_i failure
    cases failure <;> cases failed
  · cases failed
  · cases failed

theorem check_ne_base (params : Params) (arguments : Members F) :
    params.check py arguments ≠ .error .base := by
  intro failed
  rw [Params.check] at failed
  split at failed <;> cases failed

theorem mapError_ne_base (message : Text → Text) (checked : Checked Unit) :
    checked.mapError (raisedOf message) ≠ .error .base := by
  intro failed
  cases checked with
  | ok => cases failed
  | error failure => cases failure <;> cases failed

/-- A method handler exits only where a registered handler did. -/
theorem handleToolsCall_base {params : Members F}
    (failed : server.handleToolsCall py params = .error .base) :
    ∃ handler ∈ server.handlers, ∃ arguments, handler arguments = .error .base := by
  obtain named | ⟨name, -, failed⟩ := Except.error_of_bind failed
  · exact absurd named (strParam_ne_base py params "name")
  split at failed
  · cases failed
  rename_i tool found
  obtain given | ⟨arguments, -, failed⟩ := Except.error_of_bind failed
  · exact absurd given (argumentsObject_ne_base params)
  obtain required | ⟨-, -, failed⟩ := Except.error_of_bind failed
  · exact absurd required (requireNone_ne_base py _)
  obtain accepted | ⟨-, -, failed⟩ := Except.error_of_bind failed
  · exact absurd accepted (check_ne_base py _ arguments)
  obtain checked | ⟨-, -, failed⟩ := Except.error_of_bind failed
  · exact absurd checked (mapError_ne_base _ _)
  obtain ran | ⟨text, -, failed⟩ := Except.error_of_bind failed
  · have listed : tool.handler ∈ server.handlers := by
      have own := List.mem_map_of_mem (f := fun entry => entry.2.handler) (List.mem_of_lookup found)
      exact List.mem_append_left _ (List.mem_append_left _ own)
    exact ⟨tool.handler, listed, arguments, callText_base py ran⟩
  · cases failed

theorem handleResourcesRead_base {params : Members F}
    (failed : server.handleResourcesRead py params = .error .base) :
    ∃ handler ∈ server.handlers, ∃ arguments, handler arguments = .error .base := by
  obtain named | ⟨uri, -, failed⟩ := Except.error_of_bind failed
  · exact absurd named (strParam_ne_base py params "uri")
  split at failed
  · cases failed
  rename_i resource found
  obtain ran | ⟨text, -, failed⟩ := Except.error_of_bind failed
  · have listed : resource.handler ∈ server.handlers := by
      have own := List.mem_map_of_mem (f := fun entry => entry.2.handler) (List.mem_of_lookup found)
      exact List.mem_append_left _ (List.mem_append_right _ own)
    exact ⟨resource.handler, listed, [], callText_base py ran⟩
  · cases failed

theorem handlePromptsGet_base {params : Members F}
    (failed : server.handlePromptsGet py params = .error .base) :
    ∃ handler ∈ server.handlers, ∃ arguments, handler arguments = .error .base := by
  obtain named | ⟨name, -, failed⟩ := Except.error_of_bind failed
  · exact absurd named (strParam_ne_base py params "name")
  split at failed
  · cases failed
  rename_i prompt found
  obtain given | ⟨arguments, -, failed⟩ := Except.error_of_bind failed
  · exact absurd given (argumentsObject_ne_base params)
  obtain required | ⟨-, -, failed⟩ := Except.error_of_bind failed
  · exact absurd required (requireNone_ne_base py _)
  obtain accepted | ⟨-, -, failed⟩ := Except.error_of_bind failed
  · exact absurd accepted (check_ne_base py _ arguments)
  obtain ran | ⟨text, -, failed⟩ := Except.error_of_bind failed
  · have listed : prompt.handler ∈ server.handlers := by
      have own := List.mem_map_of_mem (f := fun entry => entry.2.handler) (List.mem_of_lookup found)
      exact List.mem_append_right _ own
    exact ⟨prompt.handler, listed, arguments, callText_base py ran⟩
  · cases failed

/-- The handlers of the methods, by cases. -/
theorem handlerFor_cases {method : Text} {handler : Members F → Except Raised (Value F)}
    (found : server.handlerFor py method = some handler) :
    (method = ofString "tools/list" ∧ handler = fun _ => .ok server.handleToolsList) ∨
      (method = ofString "prompts/list" ∧ handler = fun _ => .ok server.handlePromptsList) ∨
      (method ≠ ofString "tools/list" ∧ method ≠ ofString "prompts/list" ∧
        ((handler = fun _ => .ok server.handleInitialize) ∨
          (handler = fun _ => .ok server.handleResourcesList) ∨
          handler = server.handleToolsCall py ∨ handler = server.handleResourcesRead py ∨
          handler = server.handlePromptsGet py)) := by
  obtain ⟨⟨name, own⟩, listed, rfl⟩ := Option.map_eq_some_iff.mp found
  have named : ofString name = method := by simpa using List.find?_some listed
  have member := List.mem_of_find?_eq_some listed
  subst named
  simp only [handlerMap, List.mem_cons, Prod.mk.injEq, List.not_mem_nil, or_false] at member
  rcases member with ⟨rfl, rfl⟩ | ⟨rfl, rfl⟩ | ⟨rfl, rfl⟩ | ⟨rfl, rfl⟩ | ⟨rfl, rfl⟩ | ⟨rfl, rfl⟩ |
    ⟨rfl, rfl⟩ <;> simp [ofString_injective.eq_iff]

/-- A message exits only where a registered handler does. -/
theorem exits_registered {req : Members F} (exits : server.Exits py req) :
    ∃ handler ∈ server.handlers, ∃ arguments, handler arguments = .error .base := by
  obtain ⟨method, params, handler, -, -, found, failed⟩ := exits
  rcases handlerFor_cases py server found with ⟨-, rfl⟩ | ⟨-, rfl⟩ |
    ⟨-, -, rfl | rfl | rfl | rfl | rfl⟩
  · cases failed
  · cases failed
  · cases failed
  · cases failed
  · exact handleToolsCall_base py server failed
  · exact handleResourcesRead_base py server failed
  · exact handlePromptsGet_base py server failed

/-! ### An interpreter with one float -/

/-- The float `0.5`, written and read as it is. -/
def oneHalf : PyJson Unit where
  write _ := ['0', '.', '5']
  read _ := .finite ()
  literal _ := by decide
  read_write _ := rfl
  repr _ := ofString "0.5"
  equalsInt _ _ := false
  equalsFloat _ _ := true

/-- `json.loads`, on texts whose only float is `0.5`. -/
def loadsHalf (body : List Char) : Loads Unit :=
  match read oneHalf.toFloatFormat body with
  | some value => .value value
  | none => .malformed (ofString "Expecting value: line 1 column 1 (char 0)")

theorem loadsHalf_write {value : Value Unit} (finite : isFinite value = true)
    (joined : join value = value) :
    loadsHalf (write oneHalf.toFloatFormat value) = .value value := by
  rw [loadsHalf, read_write, finite, if_pos rfl, joined]

/-! ### Notifications are not answered -/

/-- Whatever is registered, a notification is answered with the empty string if and only if
`json.loads` returns it, its parameters are not positional, and its handler does not exit. -/
theorem notification_unanswered {Body : Type*} (loads : Body → Loads F) (body : Body)
    (requestId : Option Text) {req : Members F} (notification : Notification req)
    (decodes : loads body = .value (.object req) ∨ loads body = .raised) :
    server.handleRequest py loads body requestId = .ok [] ↔
      loads body = .value (.object req) ∧
        (∀ items, getKey req "params" ≠ some (.array items)) ∧ ¬ server.Exits py req := by
  rw [handleRequest_eq_nil]
  rcases decodes with loaded | loaded
  · rw [loaded, replyTo, handleObject_notification py server notification]
    simp
  · rw [loaded, replyTo]
    simp

/-- A call of a tool that raises, as a notification. -/
theorem notification_unanswered_raising :
    let req : Members Unit :=
      [stringMember "jsonrpc" (ofString "2.0"), stringMember "method" (ofString "tools/call"),
        (ofString "params", .object [stringMember "name" (ofString "boom")])]
    let boom : Tool Unit :=
      { description := [], inputSchema := .object [(ofString "type", .string (ofString "object"))]
        params := ⟨[], [], false⟩, handler := fun _ => .error .exception }
    (⟨[], [(ofString "boom", boom)], [], []⟩ : MCPServer Unit).handleRequest oneHalf loadsHalf
      (write oneHalf.toFloatFormat (.object req)) (some (ofString "id")) = .ok [] := by
  intro req boom
  have notification : Notification req := by
    refine ⟨?_, ?_, ⟨ofString "tools/call", ?_⟩,
      .inr (.inl ⟨[stringMember "name" (ofString "boom")], ?_⟩)⟩ <;> simp [req, stringMember]
  have loaded : loadsHalf (write oneHalf.toFloatFormat (.object req)) = .value (.object req) := by
    apply loadsHalf_write
    · simp [req, stringMember, isFinite, membersFinite]
    · simp [req, stringMember, join, joinMembers]
  refine (notification_unanswered oneHalf _ loadsHalf _ _ notification (.inl loaded)).mpr
    ⟨loaded, by simp [req, stringMember], ?_⟩
  intro exits
  obtain ⟨handler, listed, arguments, failed⟩ := exits_registered oneHalf _ exits
  obtain rfl : boom.handler = handler := by simpa [handlers, eq_comm] using listed
  cases failed

/-- A notification with positional parameters. -/
def positional : Members Unit :=
  [stringMember "jsonrpc" (ofString "2.0"),
    stringMember "method" (ofString "notifications/progress"), (ofString "params", .array [])]

/-- `{"jsonrpc": "2.0", "method": "notifications/progress", "params": []}` is answered. -/
theorem notification_answered :
    Notification positional ∧
      loadsHalf (write oneHalf.toFloatFormat (.object positional)) = .value (.object positional) ∧
      (⟨[], [], [], []⟩ : MCPServer Unit).handleRequest oneHalf loadsHalf
        (write oneHalf.toFloatFormat (.object positional)) none ≠ .ok [] := by
  have notification : Notification positional := by
    refine ⟨?_, ?_, ⟨ofString "notifications/progress", ?_⟩, .inr (.inr ⟨[], ?_⟩)⟩ <;>
      simp [positional, stringMember]
  have loaded : loadsHalf (write oneHalf.toFloatFormat (.object positional)) =
      .value (.object positional) := by
    apply loadsHalf_write
    · simp [positional, stringMember, isFinite, membersFinite, areFinite]
    · simp [positional, stringMember, join, joinMembers, joinItems]
  refine ⟨notification, loaded, ?_⟩
  rw [ne_eq, handleRequest_eq_nil, loaded, replyTo, handleObject_notification _ _ notification]
  simp [positional, stringMember]

/-! ## Replies -/

/-- What a reply has to be: an object of JSON-RPC 2.0 with either a result or an error of an integer
code, with an id, and with the id of the message where that is a string or a number. -/
structure ReplyObject (loaded : Loads F) (members : Members F) : Prop where
  version : getKey members "jsonrpc" = some (.string (ofString "2.0"))
  one : (getKey members "result").isSome = !(getKey members "error").isSome
  code : ∀ error, getKey members "error" = some error →
    ∃ parts code, error = .object parts ∧ getKey parts "code" = some (.int code)
  id : ∃ id, getKey members "id" = some id ∧ isJsonRpcId id = true
  echoed : ∀ req id, loaded = .value (.object req) → getKey req "id" = some id →
    isJsonRpcId id = true → id ≠ .null → getKey members "id" = some id

/-- The reply is the text of such an object. -/
def WellFormedReply (loaded : Loads F) (reply : List Char) : Prop :=
  ∃ members, read py.toFloatFormat reply = some (.object members) ∧ ReplyObject loaded members

/-- The id comes back as it was: a number of it is finite, and it holds no two surrogates that are
read as one character. -/
def Echoes (id : Value F) : Prop := isFinite id = true ∧ join id = id

/-- No number in what a method lists is NaN or infinite. -/
def ListsFinite (req : Members F) : Prop :=
  (namedParams req).isSome = true →
    (getKey req "method" = some (.string (ofString "tools/list")) →
      ∀ entry ∈ server.tools, isFinite entry.2.inputSchema = true) ∧
    (getKey req "method" = some (.string (ofString "prompts/list")) →
      ∀ entry ∈ server.prompts, areFinite entry.2.arguments = true)

/-- A message whose reply, if there is one, is as it has to be. -/
def RepliesWell (req : Members F) : Prop :=
  let id := (getKey req "id").getD .null
  if isText "2.0" (getKey req "jsonrpc") = true then
    isJsonRpcId id = true → Echoes id ∧ server.ListsFinite req
  else isJsonRpcId id = true ∧ Echoes id

/-! ### One reply -/

/-- A reply with a result or an error. -/
def replyMembers (id : Value F) (kind : String) (payload : Value F) : Members F :=
  [stringMember "jsonrpc" (ofString "2.0"), (ofString "id", id), (ofString kind, payload)]

theorem isFinite_replyMembers (id payload : Value F) (kind : String) :
    isFinite (.object (replyMembers id kind payload)) = (isFinite id && isFinite payload) := by
  simp [replyMembers, stringMember, isFinite, membersFinite]

theorem join_replyMembers (id payload : Value F) (kind : String) :
    join (.object (replyMembers id kind payload)) =
      .object (replyMembers (join id) kind (join payload)) := by
  simp [replyMembers, stringMember, join, joinMembers]

theorem isJsonRpcId_join (id : Value F) : isJsonRpcId (join id) = isJsonRpcId id := by
  cases id <;> rfl

/-- The payload is a result, or an error with an integer code. -/
def IsPayload (kind : String) (payload : Value F) : Prop :=
  kind = "result" ∨ kind = "error" ∧
    ∃ parts code, payload = .object parts ∧ getKey parts "code" = some (.int code)

/-- The id of a message, where it is a string or a number, is the given one. -/
def EchoesOf (loaded : Loads F) (id : Value F) : Prop :=
  ∀ req given, loaded = .value (.object req) → getKey req "id" = some given →
    isJsonRpcId given = true → given ≠ .null → id = given

theorem replyObject_iff {loaded : Loads F} {id payload : Value F} {kind : String}
    (valid : IsPayload kind payload) :
    ReplyObject loaded (replyMembers id kind payload) ↔
      isJsonRpcId id = true ∧ EchoesOf loaded id := by
  have found : getKey (replyMembers id kind payload) "id" = some id := by
    simp [replyMembers, stringMember]
  constructor
  · rintro ⟨-, -, -, ⟨other, own, isId⟩, echoed⟩
    obtain rfl := Option.some.inj (found.symm.trans own)
    refine ⟨isId, fun req given loads named known nonnull => ?_⟩
    exact Option.some.inj (found.symm.trans (echoed req given loads named known nonnull))
  · rintro ⟨isId, echoed⟩
    refine ⟨by simp [replyMembers, stringMember], ?_, ?_, ⟨id, found, isId⟩, ?_⟩
    · rcases valid with rfl | ⟨rfl, -⟩ <;> simp [replyMembers, stringMember]
    · rintro error given
      rcases valid with rfl | ⟨rfl, parts, code, rfl, coded⟩
      · simp [replyMembers, stringMember] at given
      · obtain rfl : .object parts = error := by simpa [replyMembers, stringMember] using given
        exact ⟨parts, code, rfl, coded⟩
    · intro req given loads named known nonnull
      rw [found, echoed req given loads named known nonnull]

theorem wellFormed_replyMembers {loaded : Loads F} {id payload : Value F} {kind : String}
    (valid : IsPayload kind (join payload)) :
    WellFormedReply py loaded (write py.toFloatFormat (.object (replyMembers id kind payload))) ↔
      isFinite id = true ∧ isFinite payload = true ∧ isJsonRpcId id = true ∧
        EchoesOf loaded (join id) := by
  rw [WellFormedReply, read_write, isFinite_replyMembers, join_replyMembers]
  cases finite : isFinite id && isFinite payload with
  | false =>
      rw [Bool.and_eq_false_iff] at finite
      rcases finite with infinite | infinite <;> simp [infinite]
  | true =>
      obtain ⟨idFinite, payloadFinite⟩ := Bool.and_eq_true_iff.mp finite
      rw [← isJsonRpcId_join id, ← replyObject_iff valid]
      simp [idFinite, payloadFinite]

theorem isPayload_errorObject (code : JsonRpcCode) (message : Text) (data : Option (Value F)) :
    IsPayload "error" (join (errorObject code message data)) := by
  refine .inr ⟨rfl, _, code.value, rfl, ?_⟩
  simp [joinMembers, join]

theorem isFinite_errorObject (code : JsonRpcCode) (message : Text) {data : Option (Value F)}
    (finite : ∀ value ∈ data, isFinite value = true) :
    isFinite (errorObject code message data) = true := by
  cases data with
  | none => simp [errorObject, stringMember, membersFinite, isFinite]
  | some value => simp [errorObject, stringMember, membersFinite, isFinite, finite value rfl]

theorem isFinite_requestData (requestId : Option Text) :
    ∀ value ∈ (requestData requestId : Option (Value F)), isFinite value = true := by
  intro value given
  obtain ⟨text, -, rfl⟩ := Option.map_eq_some_iff.mp given
  simp [stringMember, membersFinite, isFinite]

/-- An error is as it has to be where its id is. -/
theorem wellFormed_errorResponse {loaded : Loads F} {id : Value F} {code : JsonRpcCode}
    {message : Text} {data : Option (Value F)} (finite : ∀ value ∈ data, isFinite value = true) :
    WellFormedReply py loaded (write py.toFloatFormat (errorResponse id code message data)) ↔
      isFinite id = true ∧ isJsonRpcId id = true ∧ EchoesOf loaded (join id) := by
  refine (wellFormed_replyMembers py (isPayload_errorObject code message data)).trans ?_
  rw [isFinite_errorObject code message finite]
  simp

theorem wellFormed_resultResponse {loaded : Loads F} {id result : Value F} :
    WellFormedReply py loaded (write py.toFloatFormat (resultResponse id result)) ↔
      isFinite id = true ∧ isFinite result = true ∧ isJsonRpcId id = true ∧
        EchoesOf loaded (join id) :=
  wellFormed_replyMembers py (.inl rfl)

/-- A reply without an id is always as it has to be, where the message has none to echo. -/
theorem wellFormed_null {loaded : Loads F} {code : JsonRpcCode} {message : Text}
    (nothing : ∀ req given, loaded = .value (.object req) → getKey req "id" = some given →
      isJsonRpcId given = false) :
    WellFormedReply py loaded (write py.toFloatFormat (errorResponse .null code message none)) := by
  rw [wellFormed_errorResponse py (by simp)]
  refine ⟨rfl, rfl, fun req given loads named known => ?_⟩
  rw [nothing req given loads named] at known
  cases known

/-- The id of a message that is a valid one comes back if it echoes. -/
theorem echoesOf_iff {loaded : Loads F} {req : Members F} (loads : loaded = .value (.object req))
    (known : isJsonRpcId ((getKey req "id").getD .null) = true) :
    EchoesOf loaded (join ((getKey req "id").getD .null)) ↔
      join ((getKey req "id").getD .null) = (getKey req "id").getD .null := by
  subst loads
  constructor
  · intro echoes
    cases named : getKey req "id" with
    | none => rfl
    | some given =>
        rw [named, Option.getD_some] at known echoes
        by_cases null : given = .null
        · rw [null]
          rfl
        · exact echoes req given rfl named known null
  · rintro same other given loads named - -
    obtain rfl : req = other := by simpa using loads
    rw [same, named, Option.getD_some]

/-! ### Results -/

theorem isFinite_textContent (text : Text) : isFinite (textContent text : Value F) = true := by
  simp [textContent, stringMember, membersFinite, isFinite]

theorem isFinite_toolsList :
    isFinite server.handleToolsList = true ↔
      ∀ entry ∈ server.tools, isFinite entry.2.inputSchema = true := by
  simp [handleToolsList, stringMember, membersFinite, isFinite, areFinite_map]

theorem isFinite_promptsList :
    isFinite server.handlePromptsList = true ↔
      ∀ entry ∈ server.prompts, areFinite entry.2.arguments = true := by
  simp [handlePromptsList, stringMember, membersFinite, isFinite, areFinite_map]

theorem isFinite_resourcesList : isFinite server.handleResourcesList = true := by
  simp [handleResourcesList, stringMember, membersFinite, isFinite, areFinite_map]

theorem isFinite_initialize : isFinite server.handleInitialize = true := by
  simp [handleInitialize, stringMember, membersFinite, isFinite]

theorem isFinite_toolsCall {params : Members F} {result : Value F}
    (called : server.handleToolsCall py params = .ok result) : isFinite result = true := by
  obtain ⟨name, -, called⟩ := Except.ok_of_bind called
  split at called
  · cases called
  obtain ⟨arguments, -, called⟩ := Except.ok_of_bind called
  obtain ⟨-, -, called⟩ := Except.ok_of_bind called
  obtain ⟨-, -, called⟩ := Except.ok_of_bind called
  obtain ⟨-, -, called⟩ := Except.ok_of_bind called
  obtain ⟨text, -, called⟩ := Except.ok_of_bind called
  obtain rfl := Except.ok.inj called
  simp [membersFinite, isFinite, areFinite, isFinite_textContent]

theorem isFinite_resourcesRead {params : Members F} {result : Value F}
    (called : server.handleResourcesRead py params = .ok result) : isFinite result = true := by
  obtain ⟨uri, -, called⟩ := Except.ok_of_bind called
  split at called
  · cases called
  obtain ⟨text, -, called⟩ := Except.ok_of_bind called
  obtain rfl := Except.ok.inj called
  simp [stringMember, membersFinite, isFinite, areFinite]

theorem isFinite_promptsGet {params : Members F} {result : Value F}
    (called : server.handlePromptsGet py params = .ok result) : isFinite result = true := by
  obtain ⟨name, -, called⟩ := Except.ok_of_bind called
  split at called
  · cases called
  obtain ⟨arguments, -, called⟩ := Except.ok_of_bind called
  obtain ⟨-, -, called⟩ := Except.ok_of_bind called
  obtain ⟨-, -, called⟩ := Except.ok_of_bind called
  obtain ⟨text, -, called⟩ := Except.ok_of_bind called
  obtain rfl := Except.ok.inj called
  simp [stringMember, membersFinite, isFinite, areFinite, isFinite_textContent]

/-- A result is finite but for what a list of registrations holds. -/
theorem isFinite_result {method : Text} {params : Members F} {result : Value F}
    {handler : Members F → Except Raised (Value F)}
    (found : server.handlerFor py method = some handler) (called : handler params = .ok result) :
    isFinite result = true ↔
      (method = ofString "tools/list" →
        ∀ entry ∈ server.tools, isFinite entry.2.inputSchema = true) ∧
      (method = ofString "prompts/list" →
        ∀ entry ∈ server.prompts, areFinite entry.2.arguments = true) := by
  rcases handlerFor_cases py server found with ⟨rfl, rfl⟩ | ⟨rfl, rfl⟩ |
    ⟨noTools, noPrompts, others⟩
  · obtain rfl := Except.ok.inj called
    simp [isFinite_toolsList, ofString_injective.eq_iff]
  · obtain rfl := Except.ok.inj called
    simp [isFinite_promptsList, ofString_injective.eq_iff]
  · have finite : isFinite result = true := by
      rcases others with rfl | rfl | rfl | rfl | rfl
      · obtain rfl := Except.ok.inj called
        exact server.isFinite_initialize
      · obtain rfl := Except.ok.inj called
        exact server.isFinite_resourcesList
      · exact isFinite_toolsCall py server called
      · exact isFinite_resourcesRead py server called
      · exact isFinite_promptsGet py server called
    simp [finite, noTools, noPrompts]

theorem handlerFor_toolsList :
    server.handlerFor py (ofString "tools/list") = some fun _ => .ok server.handleToolsList := by
  simp [handlerFor, handlerMap, ofString_injective.eq_iff]

theorem handlerFor_promptsList :
    server.handlerFor py (ofString "prompts/list") =
      some fun _ => .ok server.handlePromptsList := by
  simp [handlerFor, handlerMap, ofString_injective.eq_iff]

/-- A call that has no result is no list. -/
theorem not_list {method : Text} {params : Members F}
    (failed : ∀ handler, server.handlerFor py method = some handler →
      ∃ raised, handler params = .error raised) :
    method ≠ ofString "tools/list" ∧ method ≠ ofString "prompts/list" := by
  constructor
  · rintro rfl
    obtain ⟨raised, ran⟩ := failed _ (handlerFor_toolsList py server)
    cases ran
  · rintro rfl
    obtain ⟨raised, ran⟩ := failed _ (handlerFor_promptsList py server)
    cases ran

/-- A reply to a call is as it has to be where its id echoes and what it lists is finite. -/
theorem wellFormed_dispatch {loaded : Loads F} {id : Value F} {method : Text} {params : Members F}
    {requestId : Option Text} {value : Value F} (known : isJsonRpcId id = true)
    (answered : server.dispatch py (some id) method params requestId = .ok (some value)) :
    WellFormedReply py loaded (write py.toFloatFormat value) ↔
      (isFinite id = true ∧ EchoesOf loaded (join id)) ∧
        (method = ofString "tools/list" →
          ∀ entry ∈ server.tools, isFinite entry.2.inputSchema = true) ∧
        (method = ofString "prompts/list" →
          ∀ entry ∈ server.prompts, areFinite entry.2.arguments = true) := by
  have refused {code : JsonRpcCode} {message : Text} {data : Option (Value F)}
      (finite : ∀ value ∈ data, isFinite value = true)
      (failed : ∀ handler, server.handlerFor py method = some handler →
        ∃ raised, handler params = .error raised)
      (same : errorResponse id code message data = value) :
      WellFormedReply py loaded (write py.toFloatFormat value) ↔
        (isFinite id = true ∧ EchoesOf loaded (join id)) ∧
          (method = ofString "tools/list" →
            ∀ entry ∈ server.tools, isFinite entry.2.inputSchema = true) ∧
          (method = ofString "prompts/list" →
            ∀ entry ∈ server.prompts, areFinite entry.2.arguments = true) := by
    obtain ⟨noTools, noPrompts⟩ := not_list py server failed
    rw [← same, wellFormed_errorResponse py finite]
    simp [known, noTools, noPrompts]
  rw [dispatch] at answered
  cases found : server.handlerFor py method with
  | none =>
      rw [found] at answered
      exact refused (by simp) (by simp [found]) (Option.some.inj (Except.ok.inj answered))
  | some handler =>
      rw [found] at answered
      cases ran : handler params with
      | ok result =>
          simp only [ran] at answered
          obtain rfl := Option.some.inj (Except.ok.inj answered)
          rw [wellFormed_resultResponse, ← isFinite_result py server found ran, known]
          tauto
      | error raised =>
          have failed : ∀ other, server.handlerFor py method = some other →
              ∃ raised, other params = .error raised := by
            intro other same
            obtain rfl := Option.some.inj (found.symm.trans same)
            exact ⟨raised, ran⟩
          cases raised with
          | jsonRpc error =>
              simp only [ran] at answered
              exact refused (by simp) failed (Option.some.inj (Except.ok.inj answered))
          | exception =>
              simp only [ran] at answered
              exact refused (isFinite_requestData requestId) failed
                (Option.some.inj (Except.ok.inj answered))
          | base =>
              simp only [ran] at answered
              cases answered

/-- A refusal of a message with a valid id is as it has to be where the id echoes. -/
theorem wellFormed_refusal {req : Members F} {code : JsonRpcCode} {message : Text}
    (known : isJsonRpcId ((getKey req "id").getD .null) = true) :
    WellFormedReply py (.value (.object req)) (write py.toFloatFormat
        (errorResponse ((getKey req "id").getD .null) code message none)) ↔
      Echoes ((getKey req "id").getD .null) := by
  rw [wellFormed_errorResponse py (by simp), echoesOf_iff rfl known, Echoes]
  simp [known]

theorem dispatch_none_ne_some {method : Text} {params : Members F} {requestId : Option Text}
    {value : Value F} : server.dispatch py none method params requestId ≠ .ok (some value) := by
  intro answered
  rw [dispatch] at answered
  split at answered
  · cases answered
  · split at answered <;> cases answered

/-- The reply to an object. -/
theorem wellFormed_object {req : Members F} {requestId : Option Text} {value : Value F}
    (answered : server.handleObject py req requestId = .ok (some value)) :
    WellFormedReply py (.value (.object req)) (write py.toFloatFormat value) ↔
      server.RepliesWell req := by
  unfold handleObject at answered
  dsimp only at answered
  unfold RepliesWell
  dsimp only
  split at answered
  · rename_i version
    obtain rfl := Option.some.inj (Except.ok.inj answered)
    rw [if_neg version]
    by_cases known : isJsonRpcId ((getKey req "id").getD .null) = true
    · rw [wellFormed_refusal py known]
      simp [known]
    · rw [wellFormed_errorResponse py (by simp)]
      simp [known]
  rename_i version
  rw [if_pos (not_not.mp version)]
  split at answered
  · rename_i unknown
    obtain rfl := Option.some.inj (Except.ok.inj answered)
    refine iff_of_true (wellFormed_null py ?_) fun known => absurd known unknown
    intro other given loads named
    obtain rfl : req = other := by simpa using loads
    simpa [named] using unknown
  rename_i known
  have known := not_not.mp known
  -- with a valid id only what a list holds is left to look at
  have enough (lists : server.ListsFinite req ↔ True)
      (refused : WellFormedReply py (.value (.object req)) (write py.toFloatFormat value) ↔
        Echoes ((getKey req "id").getD .null)) :
      WellFormedReply py (.value (.object req)) (write py.toFloatFormat value) ↔
        (isJsonRpcId ((getKey req "id").getD .null) = true →
          Echoes ((getKey req "id").getD .null) ∧ server.ListsFinite req) := by
    rw [refused, lists]
    simp [known]
  split at answered
  · rename_i method named
    split at answered
    · rename_i params given
      have isNamed : namedParams req = some params := by
        cases present : getKey req "params" with
        | none =>
            have own : ([] : Members F) = params := by simpa [present] using given
            simp [namedParams, present, own]
        | some value =>
            have own : value = .object params := by simpa [present] using given
            simp [namedParams, present, own]
      have lists : server.ListsFinite req ↔
          (method = ofString "tools/list" →
            ∀ entry ∈ server.tools, isFinite entry.2.inputSchema = true) ∧
          (method = ofString "prompts/list" →
            ∀ entry ∈ server.prompts, areFinite entry.2.arguments = true) := by
        simp [ListsFinite, isNamed, named]
      have echo : EchoesOf (.value (.object req)) (join ((getKey req "id").getD .null)) ↔
          join ((getKey req "id").getD .null) = (getKey req "id").getD .null :=
        echoesOf_iff rfl known
      cases id : getKey req "id" with
      | none =>
          rw [id] at answered
          exact absurd answered (dispatch_none_ne_some py server)
      | some id' =>
          rw [id] at answered known echo
          rw [Option.getD_some] at known echo ⊢
          rw [wellFormed_dispatch py server known answered, lists, echo, Echoes]
          simp [known]
    · rename_i items given
      obtain rfl := Option.some.inj (Except.ok.inj answered)
      have notNamed : namedParams req = none := by
        cases present : getKey req "params" with
        | none => simp [present] at given
        | some value =>
            have own : value = .array items := by simpa [present] using given
            simp [namedParams, present, own]
      exact enough (by simp [ListsFinite, notNamed]) (wellFormed_refusal py known)
    · rename_i noObject noArray
      obtain rfl := Option.some.inj (Except.ok.inj answered)
      have notNamed : namedParams req = none := by
        unfold namedParams
        split
        · rename_i absent
          exact absurd (by rw [absent]; rfl) (noObject [])
        · rename_i params present
          exact absurd (by rw [present]; rfl) (noObject params)
        · rfl
      exact enough (by simp [ListsFinite, notNamed]) (wellFormed_refusal py known)
  · rename_i noMethod
    obtain rfl := Option.some.inj (Except.ok.inj answered)
    have noText (method : Text) : getKey req "method" ≠ some (.string method) := noMethod method
    exact enough (by simp [ListsFinite, noText]) (wellFormed_refusal py known)

/-- A reply that is sent is an object of JSON-RPC with the id of its message if and only if the body
is no object or a message that `RepliesWell` tells. -/
theorem reply_wellFormed {Body : Type*} (loads : Body → Loads F) (body : Body)
    (requestId : Option Text) {reply : List Char}
    (answered : server.handleRequest py loads body requestId = .ok reply) (nonempty : reply ≠ []) :
    WellFormedReply py (loads body) reply ↔
      ∀ req, loads body = .value (.object req) → server.RepliesWell req := by
  rw [handleRequest] at answered
  cases sent : server.replyTo py (loads body) requestId with
  | error raised =>
      rw [sent] at answered
      cases answered
  | ok value =>
      rw [sent] at answered
      obtain rfl := Except.ok.inj answered
      cases value with
      | none => exact absurd rfl nonempty
      | some value =>
          rw [replyTo.eq_def] at sent
          split at sent
          · cases sent
          · rename_i problem loaded
            obtain rfl := Option.some.inj (Except.ok.inj sent)
            exact iff_of_true (wellFormed_null py (by simp [loaded])) (by simp [loaded])
          · rename_i req loaded
            rw [loaded]
            refine (wellFormed_object py server sent).trans ?_
            simp
          · rename_i other noObject loaded
            obtain rfl := Option.some.inj (Except.ok.inj sent)
            have notObject : ∀ req, loads body ≠ .value (.object req) := by
              intro req same
              exact noObject req (by simpa [loaded] using same)
            exact iff_of_true
              (wellFormed_null py fun req given same => absurd same (notObject req))
              fun req same => absurd same (notObject req)

/-- A list of one tool, to a message with a number as its id. -/
theorem reply_wellFormed_tools :
    let req : Members Unit :=
      [stringMember "jsonrpc" (ofString "2.0"), (ofString "id", .int 7),
        stringMember "method" (ofString "tools/list")]
    let tool : Tool Unit :=
      { description := [], inputSchema := .object [(ofString "type", .string (ofString "object"))]
        params := ⟨[], [], false⟩, handler := fun _ => .ok (.json .null) }
    let body := write oneHalf.toFloatFormat (.object req)
    ∃ reply, (⟨[], [(ofString "echo", tool)], [], []⟩ : MCPServer Unit).handleRequest oneHalf
        loadsHalf body none = .ok reply ∧ WellFormedReply oneHalf (loadsHalf body) reply := by
  intro req tool body
  have loaded : loadsHalf body = .value (.object req) := by
    apply loadsHalf_write
    · simp [req, stringMember, isFinite, membersFinite]
    · simp [req, stringMember, join, joinMembers]
  let server : MCPServer Unit := ⟨[], [(ofString "echo", tool)], [], []⟩
  have answered : server.handleRequest oneHalf loadsHalf body none =
      .ok (write oneHalf.toFloatFormat (resultResponse (.int 7) server.handleToolsList)) := by
    simp [handleRequest, loaded, replyTo, handleObject, req, stringMember, isText, isJsonRpcId,
      dispatch, handlerFor_toolsList, Except.map]
  refine ⟨_, answered, (reply_wellFormed oneHalf server loadsHalf body none answered
    (write_ne_nil _ _)).mpr ?_⟩
  intro other same
  obtain rfl : req = other := by simpa [loaded] using same
  have echoes : Echoes (.int 7 : Value Unit) := ⟨rfl, rfl⟩
  simp [RepliesWell, req, stringMember, isText, echoes, ListsFinite, server, tool, membersFinite,
    isFinite, ofString_injective.eq_iff]

/-- `{"jsonrpc": "1.0", "id": [1]}` is answered with the list as the id. -/
theorem reply_echoes_list :
    let req : Members Unit :=
      [stringMember "jsonrpc" (ofString "1.0"), (ofString "id", .array [.int 1])]
    let body := write oneHalf.toFloatFormat (.object req)
    loadsHalf body = .value (.object req) ∧
      ∃ reply, (⟨[], [], [], []⟩ : MCPServer Unit).handleRequest oneHalf loadsHalf body none =
          .ok reply ∧ reply ≠ [] ∧ ¬ WellFormedReply oneHalf (loadsHalf body) reply := by
  intro req body
  have loaded : loadsHalf body = .value (.object req) := by
    apply loadsHalf_write
    · simp [req, stringMember, isFinite, membersFinite, areFinite]
    · simp [req, stringMember, join, joinMembers, joinItems]
  let reply := errorResponse (.array [.int 1] : Value Unit) .INVALID_REQUEST
    (ofString "Invalid Request: jsonrpc must be '2.0'") none
  have answered : (⟨[], [], [], []⟩ : MCPServer Unit).handleRequest oneHalf loadsHalf body none =
      .ok (write oneHalf.toFloatFormat reply) := by
    simp [handleRequest, loaded, replyTo, handleObject, req, reply, stringMember, isText,
      Except.map, ofString_injective.eq_iff]
  refine ⟨loaded, _, answered, write_ne_nil _ _, ?_⟩
  rw [loaded, wellFormed_errorResponse oneHalf (by simp)]
  simp [isJsonRpcId]

end MCPServer

end Mcp

end Pyronova
