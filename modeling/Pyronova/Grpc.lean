import Mathlib.Data.Nat.Bitwise
import Pyronova.BigEndian
import Pyronova.Body
import Pyronova.ProtoWire

/-!
# The benchmark's gRPC method

A unary call carries one message behind a frame header.  The request is two optional 32-bit
fields, among which any other field is skipped, and the reply is their sum.
-/

namespace Pyronova

namespace Grpc

/-- Why a message is not a `SumRequest`. -/
inductive DecodeError
  | varint
  | truncated (field : UInt64)
  | wireType (field : UInt64) (wireType : UInt8)
deriving DecidableEq

def DecodeError.text : DecodeError → String
  | .varint => "truncated or over-long varint"
  | .truncated field => "field " ++ toString field ++ " runs past the end of the message"
  | .wireType field kind =>
      "field " ++ toString field ++ " uses wire type " ++ toString kind ++
        ", which proto3 does not allow"

/-- The status codes that are emitted. -/
inductive GrpcStatus
  | ok
  | deadlineExceeded
  | resourceExhausted
  | unimplemented
  | internal
  | unavailable
deriving DecidableEq

def GrpcStatus.headerValue : GrpcStatus → String
  | .ok => "0"
  | .deadlineExceeded => "4"
  | .resourceExhausted => "8"
  | .unimplemented => "12"
  | .internal => "13"
  | .unavailable => "14"

/-- Why a call failed. -/
inductive GrpcError (ReadError : Type*)
  | bodyTooLarge (limit : Nat)
  | bodyTimedOut
  | bodyRead (error : ReadError)
  | shortFrame (len : Nat)
  | compressed (flag : UInt8)
  | truncatedFrame (declared actual : Nat)
  | trailingBytes (declared actual : Nat)
  | decode (error : DecodeError)
deriving DecidableEq

variable {ReadError : Type*}

/-- The text sent as `grpc-message`, given the text of the transport's error. -/
def GrpcError.text (describe : ReadError → String) : GrpcError ReadError → String
  | .bodyTooLarge limit =>
      "request body exceeds max_body_size (" ++ toString limit ++ " bytes)"
  | .bodyTimedOut => "request body did not arrive within 30s"
  | .bodyRead error => "request body read failed: " ++ describe error
  | .shortFrame len =>
      "request is " ++ toString len ++ " bytes, shorter than the 5-byte gRPC frame header"
  | .compressed flag =>
      "message is compressed (flag " ++ toString flag ++ "); no grpc-encoding is supported"
  | .truncatedFrame declared actual =>
      "frame declares a " ++ toString declared ++ "-byte message but carries " ++
        toString actual ++ " bytes"
  | .trailingBytes declared actual =>
      "frame declares a " ++ toString declared ++ "-byte message but carries " ++
        toString actual ++ " bytes: a unary call sends exactly one message, nothing after it"
  | .decode error => "malformed SumRequest: " ++ error.text

def GrpcError.status : GrpcError ReadError → GrpcStatus
  | .bodyTooLarge _ => .resourceExhausted
  | .bodyTimedOut => .deadlineExceeded
  | .bodyRead _ => .unavailable
  | .compressed _ => .unimplemented
  | .shortFrame _ | .truncatedFrame _ _ | .trailingBytes _ _ | .decode _ => .internal

/-! ## The frame -/

/-- `[compressed flag: u8][length: u32 BE]` stands before the message. -/
def unframe (framed : Bytes) : Except (GrpcError ReadError) Bytes :=
  match framed with
  | flag :: first :: second :: third :: fourth :: message =>
      if flag != 0 then .error (.compressed flag)
      else
        let declared := BigEndian.value [first, second, third, fourth]
        match compare message.length declared with
        | .lt => .error (.truncatedFrame declared message.length)
        | .gt => .error (.trailingBytes declared message.length)
        | .eq => .ok message
  | short => .error (.shortFrame short.length)

/-- The length is cut to 32 bits. -/
def frame (message : Bytes) : Bytes :=
  0 :: BigEndian.bytes 4 (message.length % 2 ^ 32) ++ message

/-! ## Varints -/

/-- The loop of `read_varint`, with what it read so far. -/
def readVarintFrom (result : UInt64) (shift : Nat) : Bytes → Option (UInt64 × Bytes)
  | [] => none
  | byte :: rest =>
      let result := result ||| (byte &&& 0x7F).toUInt64 <<< UInt64.ofNat shift
      if byte &&& 0x80 = 0 then some (result, rest)
      else if 64 ≤ shift + 7 then none
      else readVarintFrom result (shift + 7) rest

def readVarint (input : Bytes) : Option (UInt64 × Bytes) := readVarintFrom 0 0 input

theorem toNat_shiftRight (word : UInt64) : (word >>> 7).toNat = word.toNat / 128 := by
  rw [UInt64.toNat_shiftRight]
  exact Nat.shiftRight_eq_div_pow _ 7

theorem shiftRight_eq_zero_iff (word : UInt64) : word >>> 7 = 0 ↔ word.toNat < 128 := by
  rw [← UInt64.toNat_inj, toNat_shiftRight]
  exact Nat.div_eq_zero_iff_lt (by decide)

theorem shiftRight_lt {word : UInt64} (more : word >>> 7 ≠ 0) :
    (word >>> 7).toNat < word.toNat := by
  rw [Ne, shiftRight_eq_zero_iff] at more
  rw [toNat_shiftRight]
  omega

/-- The loop of `write_varint_i32`. -/
def writeVarint (word : UInt64) : Bytes :=
  if word >>> 7 = 0 then [(word &&& 0x7F).toUInt8]
  else ((word &&& 0x7F).toUInt8 ||| 0x80) :: writeVarint (word >>> 7)
termination_by word.toNat
decreasing_by exact shiftRight_lt ‹_›

/-- A negative number is extended to 64 bits with its sign. -/
def writeVarintI32 (value : Int32) : Bytes := writeVarint value.toInt64.toUInt64

/-! ## The messages -/

structure SumRequest where
  a : Int32
  b : Int32
deriving DecidableEq, Inhabited

/-- `SumRequest::default`. -/
def SumRequest.default : SumRequest := ⟨0, 0⟩

/-- `as i32`: the low 32 bits. -/
def asI32 (word : UInt64) : Int32 := word.toUInt32.toInt32

/-- `bytes.get(len..)`. -/
def getFrom (bytes : Bytes) (len : Nat) : Option Bytes :=
  if len ≤ bytes.length then some (bytes.drop len) else none

/-- The bytes behind a field that is not read.  A `usize` holds every length of a varint. -/
def skipField (field : UInt64) (wireType : UInt8) (input : Bytes) : Except DecodeError Bytes :=
  match wireType with
  | 0 =>
      match readVarint input with
      | some (_, rest) => .ok rest
      | none => .error .varint
  | 1 =>
      match getFrom input 8 with
      | some rest => .ok rest
      | none => .error (.truncated field)
  | 5 =>
      match getFrom input 4 with
      | some rest => .ok rest
      | none => .error (.truncated field)
  | 2 =>
      match readVarint input with
      | none => .error .varint
      | some (len, rest) =>
          match getFrom rest len.toNat with
          | some rest => .ok rest
          | none => .error (.truncated field)
  | _ => .error (.wireType field wireType)

/-- One round of `decode_sum_request`: the field at the cursor, and the bytes behind it. -/
def decodeField (request : SumRequest) (cursor : Bytes) : Except DecodeError (SumRequest × Bytes) :=
  match readVarint cursor with
  | none => .error .varint
  | some (tag, rest) =>
      let field := tag >>> 3
      let wireType := (tag &&& 0x07).toUInt8
      if (field = 1 ∨ field = 2) ∧ wireType = 0 then
        match readVarint rest with
        | none => .error .varint
        | some (value, rest) =>
            if field = 1 then .ok ({ request with a := asI32 value }, rest)
            else .ok ({ request with b := asI32 value }, rest)
      else (skipField field wireType rest).map fun rest => (request, rest)

/-! ## What a varint reads as -/

theorem toNat_low (byte : UInt8) : (byte &&& 0x7F).toUInt64.toNat = byte.toNat % 128 := by
  rw [UInt8.toNat_toUInt64, UInt8.toNat_and]
  exact Nat.and_two_pow_sub_one_eq_mod _ 7

theorem high_eq_zero_iff (byte : UInt8) : byte &&& 0x80 = 0 ↔ byte.toNat < 128 := by
  have small := byte.toNat_lt
  rw [← UInt8.toNat_inj, UInt8.toNat_and]
  change byte.toNat &&& 2 ^ 7 = 0 ↔ _
  rw [Nat.and_two_pow, Nat.testBit_eq_decide_div_mod_eq]
  by_cases set : byte.toNat / 2 ^ 7 % 2 = 1
  · rw [decide_eq_true set, Bool.toNat_true]
    omega
  · rw [decide_eq_false set, Bool.toNat_false]
    omega

/-- Bits that are put behind those of a smaller word. -/
theorem or_shiftLeft {low : UInt64} {shift : Nat} (inside : shift < 64)
    (below : low.toNat < 2 ^ shift) (high : UInt64) :
    low ||| high <<< UInt64.ofNat shift = UInt64.ofNat (low.toNat + 2 ^ shift * high.toNat) := by
  apply UInt64.toNat_inj.mp
  have wide : (UInt64.ofNat shift).toNat % 64 = shift := by
    rw [UInt64.toNat_ofNat']
    omega
  obtain ⟨rest, split⟩ : ∃ rest, 64 = shift + rest := ⟨64 - shift, by omega⟩
  have cut : high.toNat * 2 ^ shift % 2 ^ 64 = 2 ^ shift * (high.toNat % 2 ^ rest) := by
    rw [split, pow_add, Nat.mul_comm, Nat.mul_mod_mul_left]
  have whole : (low.toNat + 2 ^ shift * high.toNat) % 2 ^ 64 =
      low.toNat + 2 ^ shift * (high.toNat % 2 ^ rest) := by
    rw [split, pow_add, Nat.mod_mul, Nat.add_mul_mod_self_left, Nat.mod_eq_of_lt below,
      Nat.add_mul_div_left _ _ (by positivity), Nat.div_eq_of_lt below, Nat.zero_add]
  rw [UInt64.toNat_or, UInt64.toNat_shiftLeft, wide, Nat.shiftLeft_eq, cut, Nat.or_comm,
    ← Nat.two_pow_add_eq_or_of_lt below, UInt64.toNat_ofNat', whole, Nat.add_comm]

/-- The loop reads the bytes of a varint and stops behind them. -/
theorem readVarintFrom_append {bytes : Bytes} (ends : Base128.Terminated bytes) {shift : Nat}
    (short : shift + 7 * bytes.length < 71) {result : UInt64} (below : result.toNat < 2 ^ shift)
    (rest : Bytes) :
    readVarintFrom result shift (bytes ++ rest) =
      some (UInt64.ofNat (result.toNat + 2 ^ shift * Base128.value bytes), rest) := by
  induction bytes generalizing shift result with
  | nil => cases ends
  | cons byte bytes induction =>
      rw [List.length_cons] at short
      have inside : shift < 64 := by omega
      have read := or_shiftLeft inside below (byte &&& 0x7F).toUInt64
      rw [toNat_low] at read
      rw [List.cons_append, readVarintFrom, read]
      rcases Nat.lt_or_ge byte.toNat 128 with last | more
      · rw [Base128.Terminated, if_pos last] at ends
        subst ends
        rw [if_pos ((high_eq_zero_iff byte).mpr last), Base128.value, Base128.value, Nat.mul_zero,
          Nat.add_zero, List.nil_append]
      · rw [Base128.terminated_cons more] at ends
        have nonempty : 0 < bytes.length := by
          cases bytes with
          | nil => cases ends
          | cons _ _ => exact Nat.succ_pos _
        have continues : byte &&& 0x80 ≠ 0 := fun zero =>
          Nat.not_lt.mpr more ((high_eq_zero_iff byte).mp zero)
        have low : byte.toNat % 128 < 2 ^ 7 := Nat.mod_lt _ (by decide)
        have grown : result.toNat + 2 ^ shift * (byte.toNat % 128) < 2 ^ (shift + 7) := by
          rw [pow_add]
          nlinarith
        have fits : 2 ^ (shift + 7) < 2 ^ 64 := Nat.pow_lt_pow_right (by decide) (by omega)
        have next : (UInt64.ofNat (result.toNat + 2 ^ shift * (byte.toNat % 128))).toNat =
            result.toNat + 2 ^ shift * (byte.toNat % 128) := by
          rw [UInt64.toNat_ofNat', Nat.mod_eq_of_lt (grown.trans fits)]
        rw [if_neg continues, if_neg (by omega), induction ends (by omega) (next.symm ▸ grown),
          next, Base128.value, pow_add]
        congr 3
        ring

/-- Whatever the loop reads is a varint at the beginning of the bytes. -/
theorem terminated_of_readVarintFrom {input rest : Bytes} {shift : Nat} {result word : UInt64}
    (inside : shift < 64) (read : readVarintFrom result shift input = some (word, rest)) :
    ∃ bytes, input = bytes ++ rest ∧ Base128.Terminated bytes ∧ shift + 7 * bytes.length < 71 := by
  induction input generalizing shift result with
  | nil => cases read
  | cons byte input induction =>
      simp only [readVarintFrom] at read
      split at read
      · rename_i zero
        obtain ⟨-, rfl⟩ := Prod.mk.inj (Option.some.inj read)
        refine ⟨[byte], rfl, Base128.terminated_singleton ((high_eq_zero_iff byte).mp zero), ?_⟩
        rw [List.length_singleton]
        omega
      · rename_i more
        split at read
        · cases read
        · rename_i within
          obtain ⟨bytes, rfl, ends, short⟩ := induction (by omega) read
          refine ⟨byte :: bytes, rfl, ?_, ?_⟩
          · rw [Base128.terminated_cons]
            · exact ends
            · exact Nat.not_lt.mp fun less => more ((high_eq_zero_iff byte).mpr less)
          · rw [List.length_cons]
            omega

open ProtoWire

/-- Reading gives back a varint's number, and the bytes behind it. -/
theorem readVarint_append (varint : Varint) (rest : Bytes) :
    readVarint (varint.bytes ++ rest) = some (varint.value, rest) := by
  have short := varint.short
  rw [readVarint, readVarintFrom_append varint.ends (by omega) (by decide), Varint.value]
  simp

theorem readVarint_eq_some_iff {input rest : Bytes} {word : UInt64} :
    readVarint input = some (word, rest) ↔
      ∃ varint : Varint, input = varint.bytes ++ rest ∧ word = varint.value := by
  constructor
  · intro read
    obtain ⟨bytes, rfl, ends, short⟩ := terminated_of_readVarintFrom (by decide) read
    have same := readVarint_append ⟨bytes, ends, by omega⟩ rest
    rw [read] at same
    exact ⟨⟨bytes, ends, by omega⟩, rfl, (Prod.mk.inj (Option.some.inj same)).1⟩
  · rintro ⟨varint, rfl, rfl⟩
    exact readVarint_append varint rest

theorem toNat_group (word : UInt64) : (word &&& 0x7F).toUInt8.toNat = word.toNat % 128 := by
  rw [UInt64.toNat_toUInt8, UInt64.toNat_and]
  change (word.toNat &&& 2 ^ 7 - 1) % 2 ^ 8 = word.toNat % 128
  rw [Nat.and_two_pow_sub_one_eq_mod]
  omega

theorem toNat_group_or (word : UInt64) :
    ((word &&& 0x7F).toUInt8 ||| 0x80).toNat = word.toNat % 128 + 128 := by
  have low : word.toNat % 128 < 2 ^ 7 := Nat.mod_lt _ (by decide)
  rw [UInt8.toNat_or, toNat_group, Nat.or_comm]
  change 2 ^ 7 * 1 ||| word.toNat % 128 = _
  rw [← Nat.two_pow_add_eq_or_of_lt low, Nat.add_comm]

/-- The bytes written are the shortest varint. -/
theorem writeVarint_eq (word : UInt64) : writeVarint word = (Varint.of word).bytes := by
  change writeVarint word = Base128.encode word.toNat
  induction word using writeVarint.induct with
  | case1 word done =>
      have small := (shiftRight_eq_zero_iff word).mp done
      have byte := toNat_group word
      rw [Nat.mod_eq_of_lt small] at byte
      rw [writeVarint, if_pos done, Base128.encode_of_lt small, ← byte, UInt8.ofNat_toNat]
  | case2 word more induction =>
      have large : 128 ≤ word.toNat := Nat.not_lt.mp fun small =>
        more ((shiftRight_eq_zero_iff word).mpr small)
      rw [writeVarint, if_neg more, induction, toNat_shiftRight, Base128.encode_of_le large]
      rw [← toNat_group_or, UInt8.ofNat_toNat]

/-! ## Which bytes are a request -/

theorem getFrom_eq_some_iff {bytes rest : Bytes} {len : Nat} :
    getFrom bytes len = some rest ↔ ∃ front, bytes = front ++ rest ∧ front.length = len := by
  unfold getFrom
  constructor
  · intro found
    split at found
    · rename_i within
      obtain rfl := Option.some.inj found
      exact ⟨bytes.take len, (List.take_append_drop len bytes).symm, List.length_take_of_le within⟩
    · cases found
  · rintro ⟨front, rfl, rfl⟩
    rw [if_pos (by rw [List.length_append]; omega), List.drop_left]

theorem getFrom_append {front : Bytes} {len : Nat} (complete : front.length = len) (rest : Bytes) :
    getFrom (front ++ rest) len = some rest :=
  getFrom_eq_some_iff.mpr ⟨front, rfl, complete⟩

/-- What is skipped is a complete payload of the wire type. -/
theorem exists_payload_of_skipField {field : UInt64} {wireType : UInt8} {input rest : Bytes}
    (skipped : skipField field wireType input = .ok rest) :
    ∃ payload : Payload, payload.wireType = wireType.toUInt64 ∧ input = payload.encode ++ rest := by
  unfold skipField at skipped
  split at skipped
  · split at skipped
    · rename_i read
      obtain rfl := Except.ok.inj skipped
      obtain ⟨varint, rfl, -⟩ := readVarint_eq_some_iff.mp read
      exact ⟨.varint varint, rfl, rfl⟩
    · cases skipped
  · split at skipped
    · rename_i found
      obtain rfl := Except.ok.inj skipped
      obtain ⟨front, rfl, length⟩ := getFrom_eq_some_iff.mp found
      exact ⟨.i64 front length, rfl, rfl⟩
    · cases skipped
  · split at skipped
    · rename_i found
      obtain rfl := Except.ok.inj skipped
      obtain ⟨front, rfl, length⟩ := getFrom_eq_some_iff.mp found
      exact ⟨.i32 front length, rfl, rfl⟩
    · cases skipped
  · split at skipped
    · cases skipped
    · rename_i read
      split at skipped
      · rename_i found
        obtain rfl := Except.ok.inj skipped
        obtain ⟨varint, rfl, rfl⟩ := readVarint_eq_some_iff.mp read
        obtain ⟨front, rfl, length⟩ := getFrom_eq_some_iff.mp found
        refine ⟨.len varint front length, rfl, ?_⟩
        rw [Payload.encode, List.append_assoc]
      · cases skipped
  · cases skipped

/-- Every payload is skipped, whatever follows it. -/
theorem skipField_encode {wireType : UInt8} {payload : Payload}
    (announced : payload.wireType = wireType.toUInt64) (field : UInt64) (rest : Bytes) :
    skipField field wireType (payload.encode ++ rest) = .ok rest := by
  cases payload with
  | varint value =>
      have kind : wireType = 0 := UInt8.toUInt64_inj.mp announced.symm
      simp only [kind, skipField, Payload.encode, readVarint_append]
  | i64 bytes complete =>
      have kind : wireType = 1 := UInt8.toUInt64_inj.mp announced.symm
      have found := getFrom_append complete rest
      simp only [kind, skipField, Payload.encode, found]
  | len length bytes complete =>
      have kind : wireType = 2 := UInt8.toUInt64_inj.mp announced.symm
      have found := getFrom_append complete rest
      simp only [kind, skipField, Payload.encode, List.append_assoc, readVarint_append, found]
  | i32 bytes complete =>
      have kind : wireType = 5 := UInt8.toUInt64_inj.mp announced.symm
      have found := getFrom_append complete rest
      simp only [kind, skipField, Payload.encode, found]

/-- What one field does to the request. -/
def SumRequest.set (request : SumRequest) (field : Field) : SumRequest :=
  match field.varintOf 1 with
  | some value => { request with a := asI32 value }
  | none =>
      match field.varintOf 2 with
      | some value => { request with b := asI32 value }
      | none => request

theorem toUInt64_wireType (tag : UInt64) : (tag &&& 0x07).toUInt8.toUInt64 = tag &&& 0x07 := by
  apply UInt64.toNat_inj.mp
  rw [UInt8.toNat_toUInt64, UInt64.toNat_toUInt8, UInt64.toNat_and]
  change (tag.toNat &&& 2 ^ 3 - 1) % 2 ^ 8 = tag.toNat &&& 2 ^ 3 - 1
  rw [Nat.and_two_pow_sub_one_eq_mod]
  omega

theorem wireType_eq_zero_iff {tag : UInt64} : (tag &&& 0x07).toUInt8 = 0 ↔ tag &&& 7 = 0 := by
  rw [← UInt8.toUInt64_inj, toUInt64_wireType]
  rfl

theorem SumRequest.set_of_varint (request : SumRequest) {field : Field} {varint : Varint}
    (payload : field.payload = .varint varint) :
    request.set field =
      if field.number = 1 then { request with a := asI32 varint.value }
      else if field.number = 2 then { request with b := asI32 varint.value } else request := by
  rw [SumRequest.set, Field.varintOf, Field.varintOf, payload]
  by_cases first : field.number = 1
  · simp only [first, if_true]
  · by_cases second : field.number = 2
    · simp only [second, if_true]
      rfl
    · simp only [first, second, if_false]

theorem SumRequest.set_of_other (request : SumRequest) {field : Field}
    (first : field.varintOf 1 = none) (second : field.varintOf 2 = none) :
    request.set field = request := by
  rw [SumRequest.set, first, second]

theorem wireType_ne_zero {field : Field} (other : ∀ varint, field.payload ≠ .varint varint) :
    (field.tag.value &&& 0x07).toUInt8 ≠ 0 := by
  rw [Ne, wireType_eq_zero_iff, field.announced]
  cases payload : field.payload with
  | varint varint => exact absurd payload (other varint)
  | i64 bytes complete => simp [Payload.wireType]
  | len length bytes complete => simp [Payload.wireType]
  | i32 bytes complete => simp [Payload.wireType]

theorem varintOf_of_other {field : Field} (other : ∀ varint, field.payload ≠ .varint varint)
    (number : UInt64) : field.varintOf number = none := by
  rw [Field.varintOf]
  cases payload : field.payload with
  | varint varint => exact absurd payload (other varint)
  | i64 bytes complete => rfl
  | len length bytes complete => rfl
  | i32 bytes complete => rfl

theorem wireType_of_varint {field : Field} {varint : Varint}
    (payload : field.payload = .varint varint) : (field.tag.value &&& 0x07).toUInt8 = 0 := by
  rw [wireType_eq_zero_iff, field.announced, payload]
  rfl

/-- A field that is not one of the two is skipped. -/
theorem decodeField_of_other (request : SumRequest) {field : Field}
    (other : ¬((field.number = 1 ∨ field.number = 2) ∧ (field.tag.value &&& 0x07).toUInt8 = 0))
    (rest : Bytes) : decodeField request (field.encode ++ rest) = .ok (request, rest) := by
  have skipped : skipField (field.tag.value >>> 3) (field.tag.value &&& 0x07).toUInt8
      (field.payload.encode ++ rest) = .ok rest :=
    skipField_encode (field.announced.symm.trans (toUInt64_wireType _).symm) _ rest
  rw [decodeField, Field.encode, List.append_assoc, readVarint_append]
  dsimp only
  refine (if_neg other).trans ?_
  rw [skipped]
  rfl

/-- One round reads a field, whatever follows it. -/
theorem decodeField_encode (request : SumRequest) (field : Field) (rest : Bytes) :
    decodeField request (field.encode ++ rest) = .ok (request.set field, rest) := by
  by_cases isVarint : ∃ varint, field.payload = .varint varint
  · obtain ⟨varint, payload⟩ := isVarint
    have kind := wireType_of_varint payload
    rw [request.set_of_varint payload]
    by_cases summand : field.number = 1 ∨ field.number = 2
    · rw [decodeField, Field.encode, List.append_assoc, readVarint_append]
      dsimp only
      refine (if_pos ⟨summand, kind⟩).trans ?_
      rw [payload, Payload.encode, readVarint_append]
      dsimp only
      rcases summand with first | second
      · rw [if_pos first]
        exact if_pos first
      · have notFirst : field.number ≠ 1 := fun first => by
          rw [second] at first
          cases first
        rw [if_neg notFirst, if_pos second]
        exact if_neg notFirst
    · rw [decodeField_of_other request (fun both => summand both.1)]
      rw [not_or] at summand
      rw [if_neg summand.1, if_neg summand.2]
  · have other := not_exists.mp isVarint
    rw [decodeField_of_other request (fun both => wireType_ne_zero other both.2),
      request.set_of_other (varintOf_of_other other 1) (varintOf_of_other other 2)]

/-- Whatever a round reads is a field at the cursor. -/
theorem exists_field_of_decodeField {request after : SumRequest} {cursor rest : Bytes}
    (decoded : decodeField request cursor = .ok (after, rest)) :
    ∃ field : Field, cursor = field.encode ++ rest := by
  unfold decodeField at decoded
  split at decoded
  · cases decoded
  · rename_i tag behind read
    obtain ⟨tag, rfl, rfl⟩ := readVarint_eq_some_iff.mp read
    dsimp only at decoded
    split at decoded
    · rename_i summand
      have announced := wireType_eq_zero_iff.mp summand.2
      split at decoded
      · cases decoded
      · rename_i value
        obtain ⟨varint, rfl, rfl⟩ := readVarint_eq_some_iff.mp value
        refine ⟨⟨tag, .varint varint, announced⟩, ?_⟩
        split at decoded
        · obtain ⟨-, rfl⟩ := Prod.mk.inj (Except.ok.inj decoded)
          exact (List.append_assoc _ _ _).symm
        · obtain ⟨-, rfl⟩ := Prod.mk.inj (Except.ok.inj decoded)
          exact (List.append_assoc _ _ _).symm
    · cases skipped : skipField (tag.value >>> 3) (tag.value &&& 0x07).toUInt8 behind with
      | error error =>
          rw [skipped] at decoded
          cases decoded
      | ok after =>
          rw [skipped] at decoded
          obtain ⟨-, rfl⟩ := Prod.mk.inj (Except.ok.inj decoded)
          obtain ⟨payload, announced, rfl⟩ := exists_payload_of_skipField skipped
          rw [toUInt64_wireType] at announced
          exact ⟨⟨tag, payload, announced.symm⟩, (List.append_assoc _ _ _).symm⟩

theorem length_lt_of_decodeField {request after : SumRequest} {cursor rest : Bytes}
    (decoded : decodeField request cursor = .ok (after, rest)) : rest.length < cursor.length := by
  obtain ⟨field, rfl⟩ := exists_field_of_decodeField decoded
  have nonempty := List.length_pos_iff.mpr field.encode_ne_nil
  rw [List.length_append]
  omega

/-- The loop of `decode_sum_request`; every round moves the cursor. -/
def decodeSumRequestFrom (request : SumRequest) (cursor : Bytes) :
    Except DecodeError SumRequest :=
  if cursor.isEmpty then .ok request
  else
    match _ : decodeField request cursor with
    | .error error => .error error
    | .ok (request, rest) => decodeSumRequestFrom request rest
termination_by cursor.length
decreasing_by exact length_lt_of_decodeField ‹_›

def decodeSumRequest (message : Bytes) : Except DecodeError SumRequest :=
  decodeSumRequestFrom .default message

/-- The reply to a message: field 1 with the sum, which wraps. -/
def getSum (message : Bytes) : Except (GrpcError ReadError) Bytes :=
  match decodeSumRequest message with
  | .error error => .error (.decode error)
  | .ok request => .ok (0x08 :: writeVarintI32 (request.a + request.b))

/-- The data, the status and the message of the reply to a call whose body was read or not. -/
def handleGetSum (describe : ReadError → String) (limit : Nat)
    (body : Except (BodyReject ReadError) Bytes) : Option Bytes × GrpcStatus × Option String :=
  let message := match body with
    | .error .tooLarge => .error (.bodyTooLarge limit)
    | .error .timedOut => .error .bodyTimedOut
    | .error (.read error) => .error (.bodyRead error)
    | .ok collected => unframe collected
  match message >>= getSum with
  | .ok reply => (some (frame reply), .ok, none)
  | .error error => (none, error.status, some (error.text describe))

theorem decodeSumRequestFrom_nil (request : SumRequest) :
    decodeSumRequestFrom request [] = .ok request := by
  rw [decodeSumRequestFrom]
  rfl

theorem decodeSumRequestFrom_encode (request : SumRequest) (field : Field) (rest : Bytes) :
    decodeSumRequestFrom request (field.encode ++ rest) =
      decodeSumRequestFrom (request.set field) rest := by
  have nonempty : (field.encode ++ rest).isEmpty = false := by
    rw [List.isEmpty_eq_false_iff]
    exact List.append_ne_nil_of_left_ne_nil field.encode_ne_nil rest
  rw [decodeSumRequestFrom, if_neg (by rw [nonempty]; exact Bool.false_ne_true)]
  split
  · rename_i failed
    rw [decodeField_encode] at failed
    cases failed
  · rename_i decoded
    rw [decodeField_encode] at decoded
    obtain ⟨rfl, rfl⟩ := Prod.mk.inj (Except.ok.inj decoded)
    rfl

/-- The fields of a message are set one after the other, whatever follows them. -/
theorem decodeSumRequestFrom_message (request : SumRequest) (fields : List Field) (rest : Bytes) :
    decodeSumRequestFrom request (message fields ++ rest) =
      decodeSumRequestFrom (fields.foldl SumRequest.set request) rest := by
  induction fields generalizing request with
  | nil => rfl
  | cons field fields induction =>
      rw [message_cons, List.append_assoc, decodeSumRequestFrom_encode, induction, List.foldl_cons]

/-- Only messages are accepted. -/
theorem exists_fields_of_decodeSumRequestFrom {request result : SumRequest} {cursor : Bytes}
    (decoded : decodeSumRequestFrom request cursor = .ok result) :
    ∃ fields : List Field, cursor = message fields := by
  induction request, cursor using decodeSumRequestFrom.induct with
  | case1 request cursor empty => exact ⟨[], List.isEmpty_iff.mp empty⟩
  | case2 request cursor nonempty error failed =>
      rw [decodeSumRequestFrom, if_neg nonempty] at decoded
      split at decoded
      · cases decoded
      · rename_i read
        rw [failed] at read
        cases read
  | case3 request cursor nonempty after rest read induction =>
      rw [decodeSumRequestFrom, if_neg nonempty] at decoded
      split at decoded
      · cases decoded
      · rename_i same
        rw [read] at same
        obtain ⟨rfl, rfl⟩ := Prod.mk.inj (Except.ok.inj same)
        obtain ⟨field, rfl⟩ := exists_field_of_decodeField read
        obtain ⟨fields, rfl⟩ := induction decoded
        exact ⟨field :: fields, rfl⟩

/-! ## What it computes -/

theorem SumRequest.set_a (request : SumRequest) (field : Field) :
    (request.set field).a = ((field.varintOf 1).map asI32).getD request.a := by
  unfold SumRequest.set
  cases first : field.varintOf 1 with
  | some value => rfl
  | none => cases field.varintOf 2 <;> rfl

theorem varintOf_two_of_one {field : Field} {value : UInt64}
    (first : field.varintOf 1 = some value) : field.varintOf 2 = none := by
  unfold Field.varintOf at first ⊢
  cases payload : field.payload with
  | varint varint =>
      simp only [payload, Option.ite_none_right_eq_some] at first
      rw [first.1]
      rfl
  | i64 bytes complete => rfl
  | len length bytes complete => rfl
  | i32 bytes complete => rfl

theorem SumRequest.set_b (request : SumRequest) (field : Field) :
    (request.set field).b = ((field.varintOf 2).map asI32).getD request.b := by
  unfold SumRequest.set
  cases first : field.varintOf 1 with
  | some value =>
      rw [varintOf_two_of_one first]
      rfl
  | none => cases field.varintOf 2 <;> rfl

/-- What a message asks for: of each number the last varint, in 32 bits. -/
def SumRequest.of (fields : List Field) : SumRequest where
  a := ((lastVarint 1 fields).map asI32).getD 0
  b := ((lastVarint 2 fields).map asI32).getD 0

theorem foldl_set (fields : List Field) :
    fields.foldl SumRequest.set .default = .of fields := by
  induction fields using List.reverseRecOn with
  | nil => rfl
  | append_singleton fields field induction =>
      rw [List.foldl_append, List.foldl_cons, List.foldl_nil, induction, SumRequest.mk.injEq,
        SumRequest.set_a, SumRequest.set_b, SumRequest.of, SumRequest.of, lastVarint_concat,
        lastVarint_concat]
      constructor
      · cases field.varintOf 1 <;> rfl
      · cases field.varintOf 2 <;> rfl

theorem decodeSumRequest_eq_ok_iff {input : Bytes} {request : SumRequest} :
    decodeSumRequest input = .ok request ↔
      ∃ fields : List Field, input = message fields ∧ request = .of fields := by
  have message_ok (fields : List Field) : decodeSumRequest (message fields) = .ok (.of fields) := by
    have whole := decodeSumRequestFrom_message .default fields []
    rw [List.append_nil, decodeSumRequestFrom_nil, foldl_set] at whole
    exact whole
  constructor
  · intro decoded
    obtain ⟨fields, rfl⟩ := exists_fields_of_decodeSumRequestFrom decoded
    have same := message_ok fields
    rw [decoded] at same
    exact ⟨fields, rfl, Except.ok.inj same⟩
  · rintro ⟨fields, rfl, rfl⟩
    exact message_ok fields

/-- A field that is neither of the two changes nothing, wherever it stands and whatever follows. -/
theorem decodeSumRequest_insert (front : List Field) {extra : Field}
    (notFirst : extra.varintOf 1 = none) (notSecond : extra.varintOf 2 = none) (rest : Bytes) :
    decodeSumRequest (message front ++ (extra.encode ++ rest)) =
      decodeSumRequest (message front ++ rest) := by
  rw [decodeSumRequest, decodeSumRequest, decodeSumRequestFrom_message,
    decodeSumRequestFrom_message, decodeSumRequestFrom_encode,
    SumRequest.set_of_other _ notFirst notSecond]

theorem asI32_signExtend (value : Int32) : asI32 value.toInt64.toUInt64 = value := by
  have cut : asI32 value.toInt64.toUInt64 = value.toInt64.toInt32 := by
    apply Int32.toBitVec_inj.mp
    exact (BitVec.signExtend_eq_setWidth_of_le (v := 32) value.toInt64.toBitVec (by decide)).symm
  rw [cut, Int32.toInt32_toInt64]

theorem readVarint_writeVarintI32 (value : Int32) (rest : Bytes) :
    readVarint (writeVarintI32 value ++ rest) = some (value.toInt64.toUInt64, rest) := by
  rw [writeVarintI32, writeVarint_eq, readVarint_append, Varint.value_of]

/-- The field a reply consists of. -/
def replyField (value : Int32) : Field where
  tag := .of 8
  payload := .varint (.of value.toInt64.toUInt64)
  announced := by rw [Varint.value_of]; rfl

theorem encode_replyField (value : Int32) :
    (replyField value).encode = 0x08 :: writeVarintI32 value := by
  rw [writeVarintI32, writeVarint_eq]
  have tag : (Varint.of 8).bytes = [0x08] := Base128.encode_of_lt (by decide)
  rw [Field.encode, replyField, tag]
  rfl

theorem decodeSumRequest_reply (value : Int32) :
    decodeSumRequest (0x08 :: writeVarintI32 value) = .ok ⟨value, 0⟩ := by
  refine decodeSumRequest_eq_ok_iff.mpr ⟨[replyField value], ?_, ?_⟩
  · rw [message_cons, message_nil, List.append_nil, encode_replyField]
  · have one : (replyField value).number = 1 := by
      rw [Field.number, replyField, Varint.value_of]
      rfl
    have first : (replyField value).varintOf 1 = some value.toInt64.toUInt64 := by
      refine Eq.trans (if_pos one) ?_
      rw [Varint.value_of]
    rw [SumRequest.of, lastVarint, lastVarint]
    simp [first, varintOf_two_of_one first, asI32_signExtend]

/-! ## The frame -/

theorem unframe_eq_ok_iff {framed message : Bytes} :
    (unframe framed : Except (GrpcError ReadError) Bytes) = .ok message ↔
      message.length < 2 ^ 32 ∧ framed = frame message := by
  constructor
  · intro accepted
    unfold unframe at accepted
    split at accepted
    · rename_i flag first second third fourth behind
      split at accepted
      · cases accepted
      · rename_i plain
        dsimp only at accepted
        split at accepted
        · cases accepted
        · cases accepted
        · rename_i exact
          obtain rfl := Except.ok.inj accepted
          have length : behind.length = BigEndian.value [first, second, third, fourth] :=
            Nat.compare_eq_eq.mp exact
          have below := BigEndian.value_lt [first, second, third, fourth]
          have small : behind.length < 2 ^ 32 := (length.trans_lt below).trans_eq (by norm_num)
          have header := BigEndian.bytes_value [first, second, third, fourth]
          have zero : flag = 0 := by simpa using plain
          refine ⟨small, ?_⟩
          rw [frame, Nat.mod_eq_of_lt small, length, zero]
          exact congrArg (fun header => 0 :: (header ++ behind)) header.symm
    · cases accepted
  · rintro ⟨small, rfl⟩
    have wide : message.length < 256 ^ 4 := small.trans_eq (by norm_num)
    have declared := BigEndian.value_bytes wide
    have four := BigEndian.length_bytes 4 message.length
    rw [frame, Nat.mod_eq_of_lt small]
    match header : BigEndian.bytes 4 message.length, four with
    | [first, second, third, fourth], _ =>
        rw [header] at declared
        simp [unframe, declared]

theorem getSum_eq_ok_iff {input reply : Bytes} :
    (getSum input : Except (GrpcError ReadError) Bytes) = .ok reply ↔
      ∃ request, decodeSumRequest input = .ok request ∧
        reply = 0x08 :: writeVarintI32 (request.a + request.b) := by
  unfold getSum
  cases decoded : decodeSumRequest input with
  | error error => simp
  | ok request => simp [eq_comm]

theorem GrpcError.status_ne_ok (error : GrpcError ReadError) : error.status ≠ .ok := by
  cases error <;> exact GrpcStatus.noConfusion

/-- A call succeeds if and only if its body is a frame of a message of fields, and is answered with
the frame of the sum. -/
theorem handleGetSum_ok_iff {describe : ReadError → String} {limit : Nat}
    {body : Except (BodyReject ReadError) Bytes} {data : Option Bytes} {text : Option String} :
    handleGetSum describe limit body = (data, .ok, text) ↔
      ∃ fields : List Field, (message fields).length < 2 ^ 32 ∧
        body = .ok (frame (message fields)) ∧ text = none ∧
          data = some (frame
            (0x08 :: writeVarintI32 ((SumRequest.of fields).a + (SumRequest.of fields).b))) := by
  constructor
  · intro answered
    unfold handleGetSum at answered
    cases body with
    | error reject => cases reject <;> cases answered
    | ok collected =>
        cases framed : (unframe collected : Except (GrpcError ReadError) Bytes) with
        | error error =>
            simp only [framed, bind, Except.bind] at answered
            exact absurd (Prod.mk.inj (Prod.mk.inj answered).2).1 error.status_ne_ok
        | ok inside =>
            obtain ⟨small, rfl⟩ := unframe_eq_ok_iff.mp framed
            cases summed : (getSum inside : Except (GrpcError ReadError) Bytes) with
            | error error =>
                simp only [framed, bind, Except.bind, summed] at answered
                exact absurd (Prod.mk.inj (Prod.mk.inj answered).2).1 error.status_ne_ok
            | ok reply =>
                simp only [framed, bind, Except.bind, summed] at answered
                obtain ⟨rfl, rest⟩ := Prod.mk.inj answered
                obtain ⟨-, rfl⟩ := Prod.mk.inj rest
                obtain ⟨request, decoded, rfl⟩ := getSum_eq_ok_iff.mp summed
                obtain ⟨fields, rfl, rfl⟩ := decodeSumRequest_eq_ok_iff.mp decoded
                exact ⟨fields, small, rfl, rfl, rfl⟩
  · rintro ⟨fields, small, rfl, rfl, rfl⟩
    have framed : (unframe (frame (message fields)) : Except (GrpcError ReadError) Bytes) =
        .ok (message fields) := unframe_eq_ok_iff.mpr ⟨small, rfl⟩
    have summed : (getSum (message fields) : Except (GrpcError ReadError) Bytes) = .ok _ :=
      getSum_eq_ok_iff.mpr ⟨_, decodeSumRequest_eq_ok_iff.mpr ⟨fields, rfl, rfl⟩, rfl⟩
    simp only [handleGetSum, framed, bind, Except.bind, summed]

/-- A frame carries every message that its length fits and nothing else is one; a 32-bit number
comes back as it was written, extended with its sign; a request is fields one after the other, of
which the last varints of numbers 1 and 2 count and no other field does, wherever it stands; and
the reply carries their sum. -/
theorem grpc_codec (ReadError : Type*) :
    (∀ framed message, (unframe framed : Except (GrpcError ReadError) Bytes) = .ok message ↔
      message.length < 2 ^ 32 ∧ framed = frame message) ∧
    (∀ (value : Int32) (rest : Bytes), readVarint (writeVarintI32 value ++ rest) =
      some (value.toInt64.toUInt64, rest)) ∧
    (∀ input request, decodeSumRequest input = .ok request ↔
      ∃ fields : List Field, input = message fields ∧
        request.a = ((lastVarint 1 fields).map asI32).getD 0 ∧
        request.b = ((lastVarint 2 fields).map asI32).getD 0) ∧
    (∀ (front : List Field) (extra : Field) (rest : Bytes),
      extra.varintOf 1 = none → extra.varintOf 2 = none →
        decodeSumRequest (message front ++ (extra.encode ++ rest)) =
          decodeSumRequest (message front ++ rest)) ∧
    ∀ input request, decodeSumRequest input = .ok request →
      ∃ reply, (getSum input : Except (GrpcError ReadError) Bytes) = .ok reply ∧
        decodeSumRequest reply = .ok ⟨request.a + request.b, 0⟩ := by
  refine ⟨?_, readVarint_writeVarintI32, ?_, ?_, ?_⟩
  · intro framed message
    exact unframe_eq_ok_iff
  · intro input request
    rw [decodeSumRequest_eq_ok_iff]
    refine exists_congr fun fields => and_congr_right fun _ => ?_
    rw [← SumRequest.mk.injEq]
    rfl
  · intro front extra rest notFirst notSecond
    exact decodeSumRequest_insert front notFirst notSecond rest
  · intro input request decoded
    exact ⟨_, getSum_eq_ok_iff.mpr ⟨request, decoded, rfl⟩, decodeSumRequest_reply _⟩

end Grpc

end Pyronova
