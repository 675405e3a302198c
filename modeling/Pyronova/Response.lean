import Pyronova.Body

/-!
# From a returned value to a response

What a handler or a hook returned becomes a `ResponseData`, by one mapping for every interpreter,
and a `ResponseData` becomes the `Response` an after hook receives.  Serialising a `dict`, asking an
object for its `str` and reading a `bytearray` run in the interpreter, on its current state.
-/

namespace Pyronova

abbrev HeaderValue := String

/-- Header lines, one entry per line sent. -/
abbrev ResponseHeaders := List (String × HeaderValue)

/-- A Python `str`: Unicode text, or code points with a lone surrogate among them. -/
inductive PyStr
  | text (text : String)
  | surrogates (codePoints : List Nat)
  deriving DecidableEq, Repr

/-- A Python value, as far as making a response of it tells values apart. -/
inductive PyValue (Object : Type*)
  | none
  | str (text : PyStr)
  | bytes (bytes : Bytes)
  | bytearray (object : Object)
  /-- A `dict` or a `list`. -/
  | json (object : Object)
  | response (body : PyValue Object) (statusCode : UInt16) (contentType : Option HeaderValue)
      (headers : ResponseHeaders)
  | stream (object : Object)
  | other (object : Object)
  deriving DecidableEq, Repr

/-- A `Response`; without a `contentType` the type is derived from the body. -/
structure PyronovaResponse (Object : Type*) where
  body : PyValue Object
  statusCode : UInt16
  contentType : Option HeaderValue
  headers : ResponseHeaders
  deriving DecidableEq, Repr

/-- `hyper::StatusCode`. -/
def StatusCode := { code : UInt16 // 100 ≤ code ∧ code ≤ 999 }
  deriving DecidableEq, Repr

def StatusCode.OK : StatusCode := ⟨200, by decide⟩

/-- A handler's result as the HTTP layer sends it. -/
structure ResponseData where
  body : Bytes
  contentType : HeaderValue
  status : StatusCode
  headers : ResponseHeaders
  deriving DecidableEq, Repr

/-- Why a returned value is no response. -/
inductive ResponseError (Exc : Type*)
  | json (exception : Exc)
  | text (exception : Exc)
  | str (typeName : String) (exception : Exc)
  | status (code : UInt16)
  | streamInWorker
  deriving DecidableEq, Repr

/-- The text of a response error, given the text of an exception. -/
def ResponseError.message {Exc : Type*} (describe : Exc → String) : ResponseError Exc → String
  | .json exception =>
      "the returned value could not be serialized as JSON: " ++ describe exception
  | .text exception => "response text is not valid Unicode: " ++ describe exception
  | .str typeName exception =>
      "str() of the returned " ++ typeName ++ " raised " ++ describe exception
  | .status code => "handler returned invalid HTTP status " ++ toString code
  | .streamInWorker =>
      "a sub-interpreter handler returned a Stream; a Stream response is only served " ++
      "from the main interpreter, so register the route with gil=True"

/-- What the mapping asks of the interpreter, each request run on the interpreter's state. -/
structure Interpreter (World Object Exc : Type*) where
  /-- The JSON serializer, on a `dict` or `list`. -/
  jsonDumps : Object → World → Except Exc Bytes × World
  /-- `str(value)`. -/
  str : PyValue Object → World → Except Exc PyStr × World
  /-- The bytes of a `bytearray`. -/
  bytearray : Object → World → Bytes
  /-- The exception for a `str` that is not valid Unicode. -/
  unicodeError : List Nat → Exc
  typeName : PyValue Object → String

/-! ## Text and bytes -/

/-- The UTF-8 bytes of a text. -/
def utf8Encode (text : String) : Bytes := text.toByteArray.data.toList

/-- `std::str::from_utf8`. -/
def utf8Decode (bytes : Bytes) : Option String := String.fromUTF8? ⟨bytes.toArray⟩

@[simp] theorem utf8Decode_encode (text : String) : utf8Decode (utf8Encode text) = some text := by
  have valid : ByteArray.IsValidUTF8 ⟨text.toByteArray.data.toList.toArray⟩ := by
    rw [Array.toArray_toList]
    exact text.isValidUTF8
  rw [utf8Decode, utf8Encode, String.fromUTF8?, dif_pos valid, Option.some.injEq,
    ← String.toByteArray_inj]
  simp [String.fromUTF8]

theorem utf8Encode_of_decode {bytes : Bytes} {text : String}
    (decoded : utf8Decode bytes = some text) : utf8Encode text = bytes := by
  rw [utf8Decode, String.fromUTF8?] at decoded
  split at decoded
  · obtain rfl := Option.some.inj decoded
    simp [utf8Encode, String.fromUTF8]
  · simp at decoded

theorem utf8Encode_append (front back : String) :
    utf8Encode (front ++ back) = utf8Encode front ++ utf8Encode back := by
  simp [utf8Encode, String.toByteArray_append]

theorem utf8Encode_ofList (text : List Char) :
    utf8Encode (String.ofList text) = text.flatMap String.utf8EncodeChar := by
  simp [utf8Encode, List.utf8Encode]

/-- A character of ASCII as its byte. -/
def asciiByte (c : Char) : UInt8 := UInt8.ofNat c.toNat

theorem utf8EncodeChar_ascii {c : Char} (ascii : c.toNat < 128) :
    String.utf8EncodeChar c = [asciiByte c] := by
  have small : c.val.toNat ≤ 127 := Nat.le_of_lt_succ ascii
  rw [String.utf8EncodeChar, if_pos small]
  rfl

theorem utf8Encode_ascii {text : List Char} (ascii : ∀ c ∈ text, c.toNat < 128) :
    utf8Encode (String.ofList text) = text.map asciiByte := by
  rw [utf8Encode_ofList, List.map_eq_flatMap]
  exact List.flatMap_congr fun c member => utf8EncodeChar_ascii (ascii c member)

/-- A byte of a character is the character itself or none of ASCII. -/
theorem toNat_of_mem_utf8EncodeChar {c : Char} {byte : UInt8}
    (member : byte ∈ String.utf8EncodeChar c) : byte.toNat = c.toNat ∨ 128 ≤ byte.toNat := by
  have code : c.val.toNat = c.toNat := rfl
  simp only [String.utf8EncodeChar] at member
  split_ifs at member with one two three
  all_goals simp only [List.mem_cons, List.not_mem_nil, or_false] at member
  · rw [member, UInt8.toNat_ofNat']
    omega
  · rcases member with rfl | rfl <;> rw [UInt8.toNat_ofNat'] <;> omega
  · rcases member with rfl | rfl | rfl <;> rw [UInt8.toNat_ofNat'] <;> omega
  · rcases member with rfl | rfl | rfl | rfl <;> rw [UInt8.toNat_ofNat'] <;> omega

/-- A byte of ASCII is in the bytes of a text only for its character. -/
theorem mem_of_mem_utf8Encode {mark : Char} (ascii : mark.toNat < 128) {text : String}
    (member : asciiByte mark ∈ utf8Encode text) : mark ∈ text.toList := by
  have code : (asciiByte mark).toNat = mark.toNat := by
    rw [asciiByte, UInt8.toNat_ofNat', Nat.mod_eq_of_lt (by omega)]
  rw [← String.ofList_toList (s := text), utf8Encode_ofList, List.mem_flatMap] at member
  obtain ⟨c, inText, inside⟩ := member
  have same : c.toNat = mark.toNat := by
    rcases toNat_of_mem_utf8EncodeChar inside with same | large <;> omega
  exact Char.toNat_inj.mp same ▸ inText

/-! ## The mapping -/

def JSON : HeaderValue := "application/json"
def TEXT : HeaderValue := "text/plain; charset=utf-8"
def OCTET_STREAM : HeaderValue := "application/octet-stream"

section Mapping

variable {World Object Exc : Type*} (interpreter : Interpreter World Object Exc)

/-- A `str`'s UTF-8 bytes; a lone surrogate is an error. -/
def textBytes : PyStr → Except (ResponseError Exc) Bytes
  | .text text => .ok (utf8Encode text)
  | .surrogates codePoints => .error (.text (interpreter.unicodeError codePoints))

/-- A text as a body. -/
def textBody (text : PyStr) : Except (ResponseError Exc) (Bytes × HeaderValue) :=
  match textBytes interpreter text with
  | .ok bytes => .ok (bytes, TEXT)
  | .error error => .error error

/-- A value as a body, and the type that body has. -/
def bodyOf (value : PyValue Object) (world : World) :
    Except (ResponseError Exc) (Bytes × HeaderValue) × World :=
  match value with
  | .json object =>
      match interpreter.jsonDumps object world with
      | (.ok bytes, world) => (.ok (bytes, JSON), world)
      | (.error exception, world) => (.error (.json exception), world)
  | .str text => (textBody interpreter text, world)
  | .bytes bytes => (.ok (bytes, OCTET_STREAM), world)
  | .bytearray object => (.ok (interpreter.bytearray object world, OCTET_STREAM), world)
  | .none => (.ok ([], TEXT), world)
  | .response .. | .stream _ | .other _ =>
      match interpreter.str value world with
      | (.ok text, world) => (textBody interpreter text, world)
      | (.error exception, world) =>
          (.error (.str (interpreter.typeName value) exception), world)

/-- A handler's status code as an HTTP status. -/
def httpStatus (code : UInt16) : Except (ResponseError Exc) StatusCode :=
  if valid : 100 ≤ code ∧ code ≤ 999 then .ok ⟨code, valid⟩ else .error (.status code)

/-- A value that is no `Response`: a 200 with the value as its body. -/
def plainResponse (value : PyValue Object) (world : World) :
    Except (ResponseError Exc) ResponseData × World :=
  match bodyOf interpreter value world with
  | (.ok (body, contentType), world) =>
      (.ok { body, contentType, status := .OK, headers := [] }, world)
  | (.error error, world) => (.error error, world)

/-- A `Response`: its status is checked before its body is made. -/
def fromResponse (response : PyronovaResponse Object) (world : World) :
    Except (ResponseError Exc) ResponseData × World :=
  match httpStatus response.statusCode with
  | .error error => (.error error, world)
  | .ok status =>
      match bodyOf interpreter response.body world with
      | (.ok (body, derivedType), world) =>
          (.ok { body, contentType := response.contentType.getD derivedType, status,
                 headers := response.headers }, world)
      | (.error error, world) => (.error error, world)

/-- What a handler or a hook returned, as a response. -/
def extractResponseData (value : PyValue Object) (world : World) :
    Except (ResponseError Exc) ResponseData × World :=
  match value with
  | .response body statusCode contentType headers =>
      fromResponse interpreter { body, statusCode, contentType, headers } world
  | value => plainResponse interpreter value world

/-- The mapping of a worker, which cannot stream. -/
def workerResponse (value : PyValue Object) (world : World) :
    Except (ResponseError Exc) ResponseData × World :=
  match value with
  | .stream _ => (.error .streamInWorker, world)
  | value => extractResponseData interpreter value world

end Mapping

/-- A response as the `Response` an after hook receives: UTF-8 bodies are `str`, others `bytes`. -/
def ResponseData.toPy {Object : Type*} (data : ResponseData) : PyronovaResponse Object where
  body :=
    match utf8Decode data.body with
    | some text => .str (.text text)
    | none => .bytes data.body
  statusCode := data.status.val
  contentType := some data.contentType
  headers := data.headers

/-- The same `Response`, as a value. -/
def PyronovaResponse.toValue {Object : Type*} (response : PyronovaResponse Object) :
    PyValue Object :=
  .response response.body response.statusCode response.contentType response.headers

/-! ## Responses the mapping leaves as they are -/

/-- What `toPy` makes of some response: a status, a content type, and for a body either text or
bytes that are no text. -/
def PyronovaResponse.Normal {Object : Type*} (response : PyronovaResponse Object) : Prop :=
  (100 ≤ response.statusCode ∧ response.statusCode ≤ 999) ∧ response.contentType.isSome ∧
    match response.body with
    | .str (.text _) => True
    | .bytes bytes => utf8Decode bytes = none
    | _ => False

section RoundTrip

variable {World Object Exc : Type*} (interpreter : Interpreter World Object Exc)

theorem toPy_normal (data : ResponseData) : (data.toPy : PyronovaResponse Object).Normal := by
  refine ⟨data.status.property, rfl, ?_⟩
  cases decoded : utf8Decode data.body <;> simp [ResponseData.toPy, decoded]

/-- A `Response` made by `toPy` maps back to the response it was made of. -/
theorem workerResponse_toPy (data : ResponseData) (world : World) :
    workerResponse interpreter data.toPy.toValue world = (.ok data, world) := by
  obtain ⟨body, contentType, status, headers⟩ := data
  have valid : @httpStatus Exc status.val = .ok status := dif_pos status.property
  have sameBody : ∃ derived, bodyOf interpreter
      (match utf8Decode body with
        | some text => .str (.text text)
        | none => .bytes body) world = (.ok (body, derived), world) := by
    split
    · rename_i text decoded
      refine ⟨TEXT, ?_⟩
      simp only [bodyOf, textBody, textBytes]
      rw [utf8Encode_of_decode decoded]
    · exact ⟨OCTET_STREAM, rfl⟩
  obtain ⟨derived, sameBody⟩ := sameBody
  simp only [PyronovaResponse.toValue, ResponseData.toPy, workerResponse, extractResponseData,
    fromResponse, valid, sameBody, Option.getD_some]

/-- A normal `Response` is what the mapping and `toPy` make of it. -/
theorem workerResponse_of_normal {response : PyronovaResponse Object} (normal : response.Normal)
    (world : World) :
    ∃ data, workerResponse interpreter response.toValue world = (.ok data, world) ∧
      data.toPy = response := by
  obtain ⟨body, statusCode, contentType, headers⟩ := response
  obtain ⟨status, given, plain⟩ := normal
  obtain ⟨contentType, rfl⟩ := Option.isSome_iff_exists.mp given
  have valid : @httpStatus Exc statusCode = .ok ⟨statusCode, status⟩ := dif_pos status
  simp only at plain
  split at plain
  · rename_i text
    refine ⟨⟨utf8Encode text, contentType, ⟨statusCode, status⟩, headers⟩, ?_, ?_⟩
    · simp only [PyronovaResponse.toValue, workerResponse, extractResponseData, fromResponse, valid,
        bodyOf, textBody, textBytes, Option.getD_some]
    · simp [ResponseData.toPy]
  · rename_i bytes
    refine ⟨⟨bytes, contentType, ⟨statusCode, status⟩, headers⟩, ?_, ?_⟩
    · simp only [PyronovaResponse.toValue, workerResponse, extractResponseData, fromResponse, valid,
        bodyOf, Option.getD_some]
    · simp [ResponseData.toPy, plain]
  · exact plain.elim

end RoundTrip

end Pyronova
