import Mathlib.Data.String.Basic
import Mathlib.Tactic
import Pyronova.Failures
import Pyronova.JsonLoads
import Pyronova.OriginPolicy
import Pyronova.PyText

/-!
# Remote calls

`RPCClient` posts the arguments of a call in JSON or MsgPack, and asks for the reply in the same
encoding; the endpoint that `rpc_decorator` registers decodes them, calls its handler and answers
with an envelope.  Either side may lack MsgPack.  What the codecs make of a body is a parameter, as
is the handler.
-/

namespace Pyronova

namespace Rpc

open Csrf (Python OriginPolicy)
open Failures (GENERIC_500 serverErrorBody)
open Json (Text Value ofString codePoint)

variable {F Body Exc : Type}

/-- What a decoder makes of a body. -/
inductive Decoded (F : Type)
  | value (value : Value F)
  /-- A `ValueError`, with its text. -/
  | malformed (reason : Text)
  /-- Any other exception. -/
  | raised

/-- The encodings as the two sides use them. -/
structure Wire (F Body : Type) where
  format : Json.FloatFormat F
  /-- `str.encode("utf-8")`. -/
  encoded : List Char → Body
  isEmpty : Body → Bool
  /-- `req.json()`. -/
  json : Body → Decoded F
  /-- `resp.json()`, or nothing where it raises. -/
  clientJson : Body → Option (Value F)
  /-- The engine's JSON of a `dict` that a handler returned, or nothing where it raises. -/
  jsonDumps : Value F → Option Body
  packb : Value F → Option Body
  unpackb : Body → Decoded F

inductive Codec
  | json
  | msgpack
  | protobuf
  deriving DecidableEq

def mediaTypes : List (List Char × Codec) :=
  [("application/json".toList, .json), ("application/msgpack".toList, .msgpack),
    ("application/x-msgpack".toList, .msgpack), ("application/protobuf".toList, .protobuf),
    ("application/x-protobuf".toList, .protobuf)]

/-- `media_type`, without a result where there is none. -/
def mediaType (contentType : Option (List Char)) : Option (List Char) :=
  contentType.bind fun text =>
    let media := lower (strip (text.takeWhile (· != ';')))
    if media = [] then none else some media

structure Request (Body : Type) where
  contentType : Option (List Char)
  accept : Option (List Char)
  origin : Option (List Char)
  authority : Option (List Char)
  requestId : RequestId
  body : Body

structure Reply (Body : Type) where
  status : Nat
  contentType : List Char
  body : Body

/-- What a handler's result is to the encoders. -/
inductive Returned (F : Type)
  | value (value : Value F)
  /-- An object that none of them takes. -/
  | other

structure Endpoint (F Body Exc : Type) where
  python : Python
  repr : List Char → List Char
  hasMsgpack : Bool
  /-- `proto_model().parse`. -/
  protoModel : Option (Body → Decoded F)
  policy : OriginPolicy
  handler : Request Body → Value F → Except Exc (Returned F)
  /-- The engine's random seed of the request ids. -/
  seed : UInt64

/-- Why a request was answered with a 500. -/
inductive Fault (Exc : Type)
  | raised (error : Exc)
  | undecodable
  | unencodable
  deriving DecidableEq

/-- The endpoint's answer, what its handler was called with, and what was logged. -/
structure Served (F Body Exc : Type) where
  reply : Reply Body
  called : Option (Value F)
  logged : Option (Fault Exc)

structure Refused where
  status : Nat
  reason : List Char

def object (members : List (String × Value F)) : Value F :=
  .object (members.map fun member => (ofString member.1, member.2))

/-- The result in its envelope. -/
def okEnvelope (result : Value F) : Value F := object [("ok", .bool true), ("result", result)]

/-- The codecs that an `Accept` header names, else the one of the request. -/
def wantedCodecs (accept : Option (List Char)) (codec : Codec) : List (Option Codec) :=
  match accept with
  | none => [some codec]
  | some accept => (accept.splitOn ',').map fun part =>
      (mediaType (some part)).bind fun media => mediaTypes.lookup media

namespace Endpoint

variable (wire : Wire F Body) (endpoint : Endpoint F Body Exc)

def acceptedMediaTypes : List (List Char × Codec) :=
  mediaTypes.filter fun media =>
    match media.2 with
    | .json => true
    | .msgpack => endpoint.hasMsgpack
    | .protobuf => endpoint.protoModel.isSome

/-- Names the types that the endpoint takes. -/
def unsupported (request : Request Body) : Refused where
  status := 415
  reason :=
    let types := (endpoint.acceptedMediaTypes.map Prod.fst).mergeSort fun left right =>
      decide (left ≤ right)
    "Content-Type must be ".toList ++ " or ".toList.intercalate types ++ ", got ".toList ++
      (request.contentType.map endpoint.repr).getD "none".toList

def crossSite (request : Request Body) : Refused where
  status := 403
  reason := "Origin ".toList ++ (request.origin.map endpoint.repr).getD "None".toList ++
    " is not allowed: not this server's host and not in app.trusted_origins".toList

/-- `_csrf.check`. -/
def check (request : Request Body) : Except Refused Codec :=
  match (mediaType request.contentType).bind fun media =>
      endpoint.acceptedMediaTypes.lookup media with
  | none => .error (endpoint.unsupported request)
  | some codec =>
      if endpoint.policy.admits endpoint.python request.origin request.authority then .ok codec
      else .error (endpoint.crossSite request)

/-- `_reply_codec`, which is never Protobuf. -/
def replyCodec (request : Request Body) (codec : Codec) : Codec :=
  if endpoint.hasMsgpack ∧ some .msgpack ∈ wantedCodecs request.accept codec then .msgpack
  else .json

def jsonReply (status : Nat) (value : Value F) : Reply Body where
  status
  contentType := "application/json".toList
  body := wire.encoded (Json.write wire.format value)

def clientError (status : Nat) (reason : Text) : Reply Body :=
  jsonReply wire status (object [("ok", .bool false), ("error", .string reason)])

def serverError (requestId : RequestId) : Reply Body :=
  jsonReply wire 500 (object [("ok", .bool false), ("error", .string (ofString GENERIC_500)),
    ("request_id", .string ((requestId.display endpoint.seed).map codePoint))])

/-- What the engine answers a handler that raises. -/
def engineError (requestId : RequestId) : Reply Body where
  status := 500
  contentType := "application/json".toList
  body := wire.encoded (serverErrorBody endpoint.seed GENERIC_500 requestId)

def decodeRequest (request : Request Body) (codec : Codec) : Decoded F :=
  if wire.isEmpty request.body then .value (.object [])
  else
    match codec with
    | .json => wire.json request.body
    | .msgpack => wire.unpackb request.body
    | .protobuf => (endpoint.protoModel.map fun parse => parse request.body).getD .raised

/-- The reply to what the handler returned, or nothing where the encoder raises: in the handler's
wrapper for MsgPack, and in the engine for JSON. -/
def encodeResponse (result : Returned F) : Codec → Option (Reply Body)
  | .msgpack =>
      match result with
      | .value value => (wire.packb (okEnvelope value)).map fun body =>
          ⟨200, "application/msgpack".toList, body⟩
      | .other => none
  | .json | .protobuf =>
      match result with
      | .value value => (wire.jsonDumps (okEnvelope value)).map fun body =>
          ⟨200, "application/json".toList, body⟩
      | .other => none

/-- The wrapper that is registered as the route's handler, and what the engine makes of it. -/
def serve (request : Request Body) : Served F Body Exc :=
  match endpoint.check request with
  | .error refused => ⟨clientError wire refused.status (refused.reason.map codePoint), none, none⟩
  | .ok codec =>
      match endpoint.decodeRequest wire request codec with
      | .malformed reason => ⟨clientError wire 400 reason, none, none⟩
      | .raised => ⟨endpoint.engineError wire request.requestId, none, some .undecodable⟩
      | .value data =>
          match endpoint.handler request data with
          | .error error =>
              ⟨endpoint.serverError wire request.requestId, some data, some (.raised error)⟩
          | .ok result =>
              match encodeResponse wire result (endpoint.replyCodec request codec) with
              | some reply => ⟨reply, some data, none⟩
              | none =>
                  ⟨if endpoint.replyCodec request codec = .msgpack
                    then endpoint.serverError wire request.requestId
                    else endpoint.engineError wire request.requestId, some data, some .unencodable⟩

end Endpoint

/-- How a call fails at the client. -/
inductive CallError (F : Type)
  /-- The arguments cannot be packed. -/
  | unsent
  | undecodable (status : Nat)
  /-- An envelope that is not ok, with its `error` and its `request_id`. -/
  | failed (status : Nat) (error : Option (Value F)) (requestId : Option (Value F))
  | notAnObject (status : Nat)
  | noResult (status : Nat)

/-- `RPCClient`, where it has MsgPack and uses it, or not. -/
structure Client where
  useMsgpack : Bool

namespace Client

variable (wire : Wire F Body) (client : Client)

def contentType : List Char :=
  if client.useMsgpack then "application/msgpack".toList else "application/json".toList

def payload (kwargs : List (Text × Value F)) : Option Body :=
  if client.useMsgpack then wire.packb (.object kwargs)
  else some (wire.encoded (Json.write wire.format (.object kwargs)))

def request (authority : Option (List Char)) (requestId : RequestId) (body : Body) :
    Request Body where
  contentType := some client.contentType
  accept := some client.contentType
  origin := none
  authority
  requestId
  body

def decodeReply (reply : Reply Body) : Option (Value F) :=
  if client.useMsgpack ∧ "msgpack".toList <:+: reply.contentType then
    match wire.unpackb reply.body with
    | .value value => some value
    | .malformed _ | .raised => none
  else wire.clientJson reply.body

/-- `bool` of a member of the envelope, where no endpoint puts a float. -/
def isTrue : Value F → Bool
  | .null | .bool false | .string [] | .array [] | .object [] => false
  | .int number => number != 0
  | _ => true

/-- Read an envelope, or what was found in its place. -/
def readEnvelope (status : Nat) : Option (Value F) → Except (CallError F) (Value F)
  | none => .error (.undecodable status)
  | some (.object data) =>
      if ((data.lookup (ofString "ok")).map isTrue).getD false then
        match data.lookup (ofString "result") with
        | some result => .ok result
        | none => .error (.noResult status)
      else .error (.failed status (data.lookup (ofString "error"))
        (data.lookup (ofString "request_id")))
  | some _ => .error (.notAnObject status)

def readReply (reply : Reply Body) : Except (CallError F) (Value F) :=
  readEnvelope reply.status (client.decodeReply wire reply)

/-- One call: what the client comes to, and what the endpoint did. -/
def call (endpoint : Endpoint F Body Exc) (authority : Option (List Char)) (requestId : RequestId)
    (kwargs : List (Text × Value F)) :
    Except (CallError F) (Value F) × Option (Served F Body Exc) :=
  match client.payload wire kwargs with
  | none => (.error .unsent, none)
  | some body =>
      let served := endpoint.serve wire (client.request authority requestId body)
      (client.readReply wire served.reply, some served)

end Client

/-! ### What the encodings promise -/

/-- JSON carries the value over unchanged. -/
def Plain (value : Value F) : Prop := Json.isFinite value = true ∧ Json.join value = value

/-- A decoder undoes what the encoder of the other side made. -/
structure Wire.Lawful (wire : Wire F Body) : Prop where
  isEmpty : ∀ text, wire.isEmpty (wire.encoded text) = text.isEmpty
  json : ∀ text value, Json.read wire.format text = some value →
    wire.json (wire.encoded text) = .value value
  malformed : ∀ text, Json.read wire.format text = none →
    ∃ reason, wire.json (wire.encoded text) = .malformed reason
  clientJson : ∀ text value, Json.read wire.format text = some value →
    wire.clientJson (wire.encoded text) = some value
  jsonDumps : ∀ value body, wire.jsonDumps value = some body → Json.isFinite value →
    wire.clientJson body = some (Json.join value)
  packb : ∀ value body, wire.packb value = some body →
    wire.unpackb body = .value value ∧ wire.isEmpty body = false

theorem joinText_codePoints (text : List Char) :
    Json.joinText (text.map codePoint) = text.map codePoint := by
  have written := Json.joinText_ofString (String.ofList text)
  rwa [ofString, String.toList_ofList] at written

section Calls

variable {wire : Wire F Body} {client : Client} {endpoint : Endpoint F Body Exc}
  {authority : Option (List Char)} {requestId : RequestId} {body : Body}

/-- The codec of what the client sends. -/
def Client.codec (client : Client) : Codec := if client.useMsgpack then .msgpack else .json

/-- The endpoint takes what the client sends. -/
def Speaks (client : Client) (endpoint : Endpoint F Body Exc) : Prop :=
  client.useMsgpack = true → endpoint.hasMsgpack = true

theorem mediaType_contentType :
    mediaType (some client.contentType) = some client.contentType := by
  cases client with
  | mk useMsgpack => cases useMsgpack <;> decide

theorem lookup_contentType (speaks : Speaks client endpoint) :
    endpoint.acceptedMediaTypes.lookup client.contentType = some client.codec := by
  cases client with
  | mk useMsgpack =>
      cases useMsgpack with
      | false => rfl
      | true =>
          have has := speaks rfl
          simp only [Endpoint.acceptedMediaTypes, mediaTypes, has, List.filter_cons, if_true]
          rfl

theorem lookup_contentType_none (packs : client.useMsgpack = true)
    (lacks : endpoint.hasMsgpack = false) :
    endpoint.acceptedMediaTypes.lookup client.contentType = none := by
  rw [Client.contentType, if_pos packs]
  cases proto : endpoint.protoModel.isSome <;>
    simp [Endpoint.acceptedMediaTypes, mediaTypes, lacks, proto]

theorem check_request (speaks : Speaks client endpoint) :
    endpoint.check (client.request authority requestId body) = .ok client.codec := by
  have admitted : endpoint.policy.admits endpoint.python
      (client.request authority requestId body).origin authority = true := rfl
  have known : ((mediaType (client.request authority requestId body).contentType).bind fun media =>
      endpoint.acceptedMediaTypes.lookup media) = some client.codec := by
    rw [Client.request, mediaType_contentType, Option.bind_some, lookup_contentType speaks]
  rw [Endpoint.check, known]
  exact if_pos admitted

theorem wantedCodecs_contentType (codec : Codec) :
    wantedCodecs (some client.contentType) codec = [some client.codec] := by
  cases client with
  | mk useMsgpack => cases useMsgpack <;> rfl

theorem replyCodec_request (speaks : Speaks client endpoint) (codec : Codec) :
    endpoint.replyCodec (client.request authority requestId body) codec = client.codec := by
  rw [Endpoint.replyCodec, Client.request, wantedCodecs_contentType]
  cases packs : client.useMsgpack with
  | false => simp [Client.codec, packs]
  | true => simp [Client.codec, packs, speaks packs]

theorem write_isEmpty (format : Json.FloatFormat F) (value : Value F) :
    (Json.write format value).isEmpty = false := by
  obtain ⟨first, rest, whole, -⟩ := Json.starts_write format value
  rw [whole]
  rfl

/-- The endpoint reads the arguments back. -/
theorem decodeRequest_payload (lawful : wire.Lawful) {kwargs : List (Text × Value F)}
    (sent : client.payload wire kwargs = some body)
    (plain : client.useMsgpack = false → Plain (.object kwargs)) :
    endpoint.decodeRequest wire (client.request authority requestId body) client.codec =
      .value (.object kwargs) := by
  cases packs : client.useMsgpack with
  | false =>
      obtain ⟨finite, joined⟩ := plain packs
      simp only [Client.payload, packs, Bool.false_eq_true, if_false, Option.some.injEq] at sent
      have read := Json.read_write wire.format (.object kwargs)
      rw [finite, if_pos rfl, joined] at read
      simp only [Endpoint.decodeRequest, Client.request, ← sent, lawful.isEmpty, write_isEmpty,
        Client.codec, packs]
      exact lawful.json _ _ read
  | true =>
      simp only [Client.payload, packs, if_true] at sent
      obtain ⟨unpacked, full⟩ := lawful.packb _ _ sent
      simp only [Endpoint.decodeRequest, Client.request, full, Client.codec, packs]
      exact unpacked

/-- Arguments that JSON does not allow are refused. -/
theorem decodeRequest_malformed (lawful : wire.Lawful) {kwargs : List (Text × Value F)}
    (sent : client.payload wire kwargs = some body) (json : client.useMsgpack = false)
    (infinite : Json.isFinite (.object kwargs : Value F) = false) :
    ∃ reason, endpoint.decodeRequest wire (client.request authority requestId body) client.codec =
      .malformed reason := by
  simp only [Client.payload, json, Bool.false_eq_true, if_false, Option.some.injEq] at sent
  have read := Json.read_write wire.format (.object kwargs)
  rw [infinite, if_neg (by simp)] at read
  simp only [Endpoint.decodeRequest, Client.request, ← sent, lawful.isEmpty, write_isEmpty,
    Client.codec, json]
  exact lawful.malformed _ read

/-! ### Reading a reply -/

theorem lookup_ofString (members : List (String × Value F)) (key : String) :
    (members.map fun member => (ofString member.1, member.2)).lookup (ofString key) =
      members.lookup key := by
  induction members with
  | nil => rfl
  | cons member members induction =>
      have same : (ofString key == ofString member.1) = (key == member.1) := by
        rw [Bool.eq_iff_iff, beq_iff_eq, beq_iff_eq, Json.ofString_injective.eq_iff]
      simp only [List.map_cons, List.lookup_cons, same, induction]
      rfl

theorem join_object (members : List (String × Value F)) :
    Json.join (object members) =
      object (members.map fun member => (member.1, Json.join member.2)) := by
  have joined : Json.joinMembers (members.map fun member => (ofString member.1, member.2)) =
      members.map fun member => (ofString member.1, Json.join member.2) := by
    induction members with
    | nil => rfl
    | cons member members induction =>
        simp only [List.map_cons, Json.joinMembers, Json.joinText_ofString, induction]
  simp [object, Json.join, joined]

/-- An envelope is read by the names that the endpoint gave its members. -/
theorem readEnvelope_object (status : Nat) (members : List (String × Value F)) :
    Client.readEnvelope status (some (object members)) =
      if ((members.lookup "ok").map Client.isTrue).getD false then
        match members.lookup "result" with
        | some result => .ok result
        | none => .error (.noResult status)
      else .error (.failed status (members.lookup "error") (members.lookup "request_id")) := by
  simp only [object, Client.readEnvelope, lookup_ofString]

theorem decodeReply_encoded (lawful : wire.Lawful) (status : Nat) {text : List Char}
    {value : Value F} (read : Json.read wire.format text = some value) :
    client.decodeReply wire ⟨status, "application/json".toList, wire.encoded text⟩ =
      some value := by
  have other : ¬ "msgpack".toList <:+: "application/json".toList := by decide
  rw [Client.decodeReply, if_neg fun both => other both.2]
  exact lawful.clientJson _ _ read

theorem readReply_jsonReply (lawful : wire.Lawful) (status : Nat)
    {members : List (String × Value F)} (finite : Json.isFinite (object members) = true) :
    client.readReply wire (Endpoint.jsonReply wire status (object members)) =
      Client.readEnvelope status
        (some (object (members.map fun member => (member.1, Json.join member.2)))) := by
  have read := Json.read_write wire.format (object members)
  rw [finite, if_pos rfl, join_object] at read
  rw [Client.readReply, Endpoint.jsonReply, decodeReply_encoded lawful status read]

/-- The client learns the reason of a refusal. -/
theorem readReply_clientError (lawful : wire.Lawful) (client : Client) (status : Nat)
    (reason : Text) :
    client.readReply wire (Endpoint.clientError wire status reason) =
      .error (.failed status (some (.string (Json.joinText reason))) none) := by
  rw [Endpoint.clientError, readReply_jsonReply lawful status rfl, readEnvelope_object]
  rfl

/-- What a client learns of a 500: the generic text, and the id to quote. -/
def generic (endpoint : Endpoint F Body Exc) (requestId : RequestId) : CallError F :=
  .failed 500 (some (.string (ofString GENERIC_500)))
    (some (.string ((requestId.display endpoint.seed).map codePoint)))

theorem readReply_serverError (lawful : wire.Lawful) :
    client.readReply wire (endpoint.serverError wire requestId) =
      .error (generic endpoint requestId) := by
  rw [Endpoint.serverError, readReply_jsonReply lawful 500 rfl, readEnvelope_object]
  simp only [List.map_cons, List.map_nil, Json.join, Json.joinText_ofString, joinText_codePoints]
  rfl

theorem readReply_engineError (lawful : wire.Lawful) (client : Client)
    (endpoint : Endpoint F Body Exc) (requestId : RequestId) :
    client.readReply wire (endpoint.engineError wire requestId) =
      .error (generic endpoint requestId) := by
  have read : Json.read wire.format (serverErrorBody endpoint.seed GENERIC_500 requestId) =
      some (object [("error", .string (ofString GENERIC_500)),
        ("request_id", .string ((requestId.display endpoint.seed).map codePoint))]) :=
    Failures.read_serdeObject _ (by simp)
  rw [Client.readReply, Endpoint.engineError, decodeReply_encoded lawful 500 read,
    readEnvelope_object]
  rfl

/-! ### A whole call -/

/-- The codec of the call takes the result and carries it over unchanged. -/
def Carries (wire : Wire F Body) (client : Client) (result : Value F) : Prop :=
  if client.useMsgpack then (wire.packb (okEnvelope result)).isSome = true
  else (wire.jsonDumps (okEnvelope result)).isSome ∧ Plain result

theorem readReply_packed (lawful : wire.Lawful) (packs : client.useMsgpack = true)
    {result : Value F} (packed : wire.packb (okEnvelope result) = some body) :
    client.readReply wire ⟨200, "application/msgpack".toList, body⟩ = .ok result := by
  have named : "msgpack".toList <:+: "application/msgpack".toList := by decide
  have unpacked := (lawful.packb _ _ packed).1
  simp only [Client.readReply, Client.decodeReply, packs, named, and_self, if_true, unpacked]
  rw [okEnvelope, readEnvelope_object]
  rfl

theorem readReply_dumped (lawful : wire.Lawful) {result : Value F} (plain : Plain result)
    (dumped : wire.jsonDumps (okEnvelope result) = some body) :
    client.readReply wire ⟨200, "application/json".toList, body⟩ = .ok result := by
  have other : ¬ "msgpack".toList <:+: "application/json".toList := by decide
  have finite : Json.isFinite (okEnvelope result) = true := by
    simp [okEnvelope, object, Json.isFinite, Json.membersFinite, plain.1]
  have read := lawful.jsonDumps _ _ dumped finite
  rw [Client.readReply, Client.decodeReply, if_neg fun both => other both.2, read, okEnvelope,
    join_object, readEnvelope_object]
  simp only [List.map_cons, List.map_nil, plain.2]
  rfl

/-- Such a result comes back to the client. -/
theorem Carries.reply (lawful : wire.Lawful) {result : Value F}
    (carries : Carries wire client result) :
    ∃ reply, Endpoint.encodeResponse wire (.value result) client.codec = some reply ∧
      client.readReply wire reply = .ok result := by
  unfold Carries at carries
  cases packs : client.useMsgpack with
  | true =>
      rw [if_pos packs] at carries
      obtain ⟨body, packed⟩ := Option.isSome_iff_exists.mp carries
      refine ⟨_, ?_, readReply_packed lawful packs packed⟩
      rw [Client.codec, packs]
      exact Option.map_eq_some_iff.mpr ⟨body, packed, rfl⟩
  | false =>
      rw [packs, if_neg (by simp)] at carries
      obtain ⟨body, dumped⟩ := Option.isSome_iff_exists.mp carries.1
      refine ⟨_, ?_, readReply_dumped lawful carries.2 dumped⟩
      rw [Client.codec, packs]
      exact Option.map_eq_some_iff.mpr ⟨body, dumped, rfl⟩

/-- An endpoint without MsgPack refuses what the client packed. -/
theorem serve_unspoken (mute : ¬ Speaks client endpoint) :
    endpoint.serve wire (client.request authority requestId body) =
      ⟨Endpoint.clientError wire 415 ((endpoint.unsupported
        (client.request authority requestId body)).reason.map codePoint), none, none⟩ := by
  obtain ⟨packs, lacks⟩ := not_forall.mp mute
  have unknown : ((mediaType (client.request authority requestId body).contentType).bind
      fun media => endpoint.acceptedMediaTypes.lookup media) = none := by
    rw [Client.request, mediaType_contentType, Option.bind_some,
      lookup_contentType_none packs (by simpa using lacks)]
  simp only [Endpoint.serve, Endpoint.check, unknown]
  rfl

section Served

variable {data : Value F}
  (decoded : endpoint.decodeRequest wire (client.request authority requestId body) client.codec =
    .value data) (speaks : Speaks client endpoint)

include decoded speaks

theorem serve_raised {error : Exc}
    (raised : endpoint.handler (client.request authority requestId body) data = .error error) :
    endpoint.serve wire (client.request authority requestId body) =
      ⟨endpoint.serverError wire requestId, some data, some (.raised error)⟩ := by
  simp only [Endpoint.serve, check_request speaks, decoded, raised]
  rfl

theorem serve_returned {result : Returned F} {reply : Reply Body}
    (returned : endpoint.handler (client.request authority requestId body) data = .ok result)
    (encoded : Endpoint.encodeResponse wire result client.codec = some reply) :
    endpoint.serve wire (client.request authority requestId body) = ⟨reply, some data, none⟩ := by
  simp only [Endpoint.serve, check_request speaks, decoded, returned, replyCodec_request speaks,
    encoded]

theorem serve_unencodable {result : Returned F}
    (returned : endpoint.handler (client.request authority requestId body) data = .ok result)
    (encoded : Endpoint.encodeResponse wire result client.codec = none) :
    endpoint.serve wire (client.request authority requestId body) =
      ⟨if client.codec = .msgpack then endpoint.serverError wire requestId
        else endpoint.engineError wire requestId, some data, some .unencodable⟩ := by
  simp only [Endpoint.serve, check_request speaks, decoded, returned, replyCodec_request speaks,
    encoded]
  rfl

end Served

/-- What a call comes to at the client, and what the endpoint did for it. -/
structure RoundTrip (wire : Wire F Body) (client : Client) (endpoint : Endpoint F Body Exc)
    (request : Request Body) (kwargs : List (Text × Value F))
    (outcome : Except (CallError F) (Value F)) (served : Served F Body Exc) : Prop where
  /-- Without a common encoding the client learns what the endpoint takes. -/
  unspoken : ¬ Speaks client endpoint → served.called = none ∧ served.logged = none ∧
    outcome = .error (.failed 415
      (some (.string ((endpoint.unsupported request).reason.map codePoint))) none)
  /-- Arguments with a NaN in them are not for JSON. -/
  malformed : Speaks client endpoint → client.useMsgpack = false →
    Json.isFinite (.object kwargs : Value F) = false → served.called = none ∧
      ∃ reason, outcome = .error (.failed 400 (some (.string reason)) none)
  /-- The handler gets the arguments as they are. -/
  called : Speaks client endpoint → (client.useMsgpack = false → Plain (.object kwargs)) →
    served.called = some (.object kwargs)
  returned : ∀ data result, served.called = some data →
    endpoint.handler request data = .ok (.value result) → Carries wire client result →
      outcome = .ok result ∧ served.logged = none
  /-- What the handler raises is logged, and the client learns nothing of it. -/
  raised : ∀ data error, served.called = some data →
    endpoint.handler request data = .error error →
      outcome = .error (generic endpoint request.requestId) ∧ served.logged = some (.raised error)
  unencodable : ∀ data result, served.called = some data →
    endpoint.handler request data = .ok result →
      Endpoint.encodeResponse wire result client.codec = none →
        outcome = .error (generic endpoint request.requestId) ∧ served.logged = some .unencodable
  /-- What the client returns is what a handler returned. -/
  genuine : ∀ value, outcome = .ok value → ∃ data result, served.called = some data ∧
    endpoint.handler request data = .ok (.value result) ∧
      (Carries wire client result → value = result)

/-- A call that does not get to the handler. -/
theorem roundTrip_of_uncalled {kwargs : List (Text × Value F)}
    {outcome : Except (CallError F) (Value F)} {served : Served F Body Exc} {error : CallError F}
    (uncalled : served.called = none) (failed : outcome = .error error)
    (unspoken : ¬ Speaks client endpoint → served.logged = none ∧
      outcome = .error (.failed 415 (some (.string ((endpoint.unsupported
        (client.request authority requestId body)).reason.map codePoint))) none))
    (malformed : Speaks client endpoint → client.useMsgpack = false →
      Json.isFinite (.object kwargs : Value F) = false →
        ∃ reason, outcome = .error (.failed 400 (some (.string reason)) none))
    (decodes : ¬ (Speaks client endpoint ∧
      (client.useMsgpack = false → Plain (.object kwargs : Value F)))) :
    RoundTrip wire client endpoint (client.request authority requestId body) kwargs outcome
      served where
  unspoken := fun mute => ⟨uncalled, unspoken mute⟩
  malformed := fun speaks json infinite => ⟨uncalled, malformed speaks json infinite⟩
  called := fun speaks plain => absurd ⟨speaks, plain⟩ decodes
  returned := by
    intro data result called
    cases uncalled.symm.trans called
  raised := by
    intro data error called
    cases uncalled.symm.trans called
  unencodable := by
    intro data result called
    cases uncalled.symm.trans called
  genuine := by
    intro value succeeded
    cases failed.symm.trans succeeded

/-- The endpoint's handler is called with what it has decoded. -/
theorem roundTrip_of_decoded (lawful : wire.Lawful) (speaks : Speaks client endpoint)
    {kwargs : List (Text × Value F)} {data : Value F} {served : Served F Body Exc}
    (decoded : endpoint.decodeRequest wire (client.request authority requestId body) client.codec =
      .value data)
    (exact : (client.useMsgpack = false → Plain (.object kwargs)) → data = .object kwargs)
    (finite : client.useMsgpack = false → Json.isFinite (.object kwargs : Value F) = true)
    (answer : endpoint.serve wire (client.request authority requestId body) = served) :
    RoundTrip wire client endpoint (client.request authority requestId body) kwargs
      (client.readReply wire served.reply) served := by
  have called : served.called = some data := by
    subst answer
    cases handled : endpoint.handler (client.request authority requestId body) data with
    | error error => rw [serve_raised decoded speaks handled]
    | ok result =>
        cases encoded : Endpoint.encodeResponse wire result client.codec with
        | some reply => rw [serve_returned decoded speaks handled encoded]
        | none => rw [serve_unencodable decoded speaks handled encoded]
  refine ⟨fun mute => absurd speaks mute, ?_, ?_, ?_, ?_, ?_, ?_⟩
  · intro _ json infinite
    rw [finite json] at infinite
    cases infinite
  · intro _ plain
    rw [called, exact plain]
  · intro other result same handled carries
    obtain rfl := Option.some.inj (called.symm.trans same)
    obtain ⟨reply, encoded, read⟩ := carries.reply lawful
    rw [← answer, serve_returned decoded speaks handled encoded]
    exact ⟨read, rfl⟩
  · intro other error same handled
    obtain rfl := Option.some.inj (called.symm.trans same)
    rw [← answer, serve_raised decoded speaks handled]
    exact ⟨readReply_serverError lawful, rfl⟩
  · intro other result same handled encoded
    obtain rfl := Option.some.inj (called.symm.trans same)
    rw [← answer, serve_unencodable decoded speaks handled encoded]
    refine ⟨?_, rfl⟩
    dsimp only
    split
    · exact readReply_serverError lawful
    · exact readReply_engineError lawful client endpoint requestId
  · intro value succeeded
    cases handled : endpoint.handler (client.request authority requestId body) data with
    | error error =>
        rw [← answer, serve_raised decoded speaks handled, readReply_serverError lawful]
          at succeeded
        cases succeeded
    | ok result =>
        cases result with
        | value result =>
            refine ⟨data, result, called, handled, ?_⟩
            intro carries
            obtain ⟨reply, encoded, read⟩ := carries.reply lawful
            rw [← answer, serve_returned decoded speaks handled encoded, read] at succeeded
            exact (Except.ok.inj succeeded).symm
        | other =>
            have encoded : Endpoint.encodeResponse wire .other client.codec = none := by
              cases client.codec <;> rfl
            rw [← answer, serve_unencodable decoded speaks handled encoded] at succeeded
            dsimp only at succeeded
            split at succeeded
            · cases (readReply_serverError lawful).symm.trans succeeded
            · cases (readReply_engineError lawful client endpoint requestId).symm.trans succeeded

end Calls

/-- A body of text, or one that MsgPack made. -/
inductive SampleBody
  | text (text : List Char)
  | packed (value : Value Unit)

def sampleWire : Wire Unit SampleBody where
  format := someFloat
  encoded := .text
  isEmpty
    | .text text => text.isEmpty
    | .packed _ => false
  json
    | .text text => ((Json.read someFloat text).map .value).getD (.malformed [])
    | .packed _ => .malformed []
  clientJson
    | .text text => Json.read someFloat text
    | .packed _ => none
  jsonDumps := fun value =>
    if Json.isFinite value then some (.text (Json.write someFloat value)) else none
  packb := fun value => some (.packed value)
  unpackb
    | .text _ => .malformed []
    | .packed value => .value value

theorem sampleWire_lawful : sampleWire.Lawful where
  isEmpty := fun _ => rfl
  json := by
    intro text value read
    exact congrArg (fun found => (found.map Decoded.value).getD (.malformed [])) read
  malformed := by
    intro text unread
    exact ⟨[], congrArg (fun found => (found.map Decoded.value).getD (.malformed [])) unread⟩
  clientJson := fun _ _ read => read
  jsonDumps := by
    intro value body dumped finite
    simp only [sampleWire, finite, if_true, Option.some.injEq] at dumped
    subst dumped
    exact (Json.read_write someFloat value).trans (if_pos finite)
  packb := by
    rintro value _ ⟨⟩
    exact ⟨rfl, rfl⟩

/-- Its handler gives its arguments back. -/
def echo (hasMsgpack : Bool) : Endpoint Unit SampleBody Unit where
  python := Csrf.asciiPython
  repr := id
  hasMsgpack
  protoModel := none
  policy := ⟨[]⟩
  handler := fun _ data => .ok (.value data)
  seed := 0

end Rpc

end Pyronova
