import Pyronova.Base128

/-!
# The wire format of protocol buffers

A message is its fields one after the other.  A field is a tag, which carries the field's number
and the shape of its payload, and the payload.  The number of a varint is what fits a word of 64
bits; a varint of up to ten bytes may have more and need not be the shortest.
-/

namespace ProtoWire

/-- A number of up to ten groups of seven bits. -/
structure Varint where
  bytes : List UInt8
  ends : Base128.Terminated bytes
  short : bytes.length ≤ 10

/-- The low 64 bits of the number. -/
def Varint.value (varint : Varint) : UInt64 := UInt64.ofNat (Base128.value varint.bytes)

/-- The shortest varint of a word. -/
def Varint.of (word : UInt64) : Varint where
  bytes := Base128.encode word.toNat
  ends := Base128.terminated_encode _
  short := by
    have small : word.toNat < 128 ^ 10 := word.toNat_lt.trans (by norm_num)
    exact Base128.length_encode_le small

@[simp] theorem Varint.value_of (word : UInt64) : (Varint.of word).value = word := by
  rw [Varint.value, Varint.of, Base128.value_encode, UInt64.ofNat_toNat]

theorem Varint.bytes_ne_nil (varint : Varint) : varint.bytes ≠ [] := by
  intro empty
  have ends := varint.ends
  rw [empty] at ends
  exact ends

/-- What a field carries behind its tag. -/
inductive Payload
  | varint (value : Varint)
  | i64 (bytes : List UInt8) (complete : bytes.length = 8)
  | len (length : Varint) (bytes : List UInt8) (complete : bytes.length = length.value.toNat)
  | i32 (bytes : List UInt8) (complete : bytes.length = 4)

namespace Payload

/-- How the tag announces the payload. -/
def wireType : Payload → UInt64
  | .varint _ => 0
  | .i64 _ _ => 1
  | .len _ _ _ => 2
  | .i32 _ _ => 5

def encode : Payload → List UInt8
  | .varint value => value.bytes
  | .i64 bytes _ => bytes
  | .len length bytes _ => length.bytes ++ bytes
  | .i32 bytes _ => bytes

end Payload

/-- A tag, and the payload that it announces. -/
structure Field where
  tag : Varint
  payload : Payload
  announced : tag.value &&& 7 = payload.wireType

namespace Field

def number (field : Field) : UInt64 := field.tag.value >>> 3

def encode (field : Field) : List UInt8 := field.tag.bytes ++ field.payload.encode

/-- The varint a field gives for a field number. -/
def varintOf (number : UInt64) (field : Field) : Option UInt64 :=
  match field.payload with
  | .varint value => if field.number = number then some value.value else none
  | _ => none

theorem encode_ne_nil (field : Field) : field.encode ≠ [] :=
  List.append_ne_nil_of_left_ne_nil field.tag.bytes_ne_nil _

end Field

/-- The bytes of a message. -/
def message (fields : List Field) : List UInt8 := fields.flatMap Field.encode

/-- The last varint given for a field number. -/
def lastVarint (number : UInt64) (fields : List Field) : Option UInt64 :=
  (fields.filterMap (Field.varintOf number)).getLast?

@[simp] theorem message_nil : message [] = [] := rfl

@[simp] theorem message_cons (field : Field) (fields : List Field) :
    message (field :: fields) = field.encode ++ message fields := rfl

@[simp] theorem lastVarint_nil (number : UInt64) : lastVarint number [] = none := rfl

theorem lastVarint_concat (number : UInt64) (fields : List Field) (field : Field) :
    lastVarint number (fields ++ [field]) =
      (field.varintOf number).or (lastVarint number fields) := by
  rw [lastVarint, List.filterMap_append, List.getLast?_append]
  cases given : field.varintOf number with
  | none => simp [given, lastVarint]
  | some value => simp [given]

end ProtoWire
