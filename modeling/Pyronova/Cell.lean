import Mathlib.Tactic
import Pyronova.Param

/-!
# Python objects, out to a parameter and back from a cell

What is copied out of an argument is decided by its Python type; what a result cell becomes is
decided by the kind of its column.  The driver's decoders and the JSON codec are given.
-/

namespace Pyronova

namespace Db

open BinaryFloat

/-! ## Dates -/

/-- `PG_EPOCH_ORDINAL`: the day 2000-01-01, counted from 0001-01-01 as 1. -/
def pgEpochOrdinal : Int := 730120

/-- `date.max.toordinal()`. -/
def lastOrdinal : Int := 3652059

/-- A day, in microseconds. -/
def dayMicros : Int := 86400000000

structure PyDate where
  ordinal : Int
  first : 1 ≤ ordinal
  last : ordinal ≤ lastOrdinal

/-- A time in microseconds since 2000-01-01 00:00 that Python has a date for. -/
def InYears (micros : Int) : Prop :=
  (1 - pgEpochOrdinal) * dayMicros ≤ micros ∧
    micros < (lastOrdinal + 1 - pgEpochOrdinal) * dayMicros

instance (micros : Int) : Decidable (InYears micros) := inferInstanceAs (Decidable (_ ∧ _))

/-- The clock counts microseconds since 2000-01-01 00:00 by itself; the offset is what `utcoffset()`
gives. -/
structure PyDatetime where
  clock : Int
  inYears : InYears clock
  offset : Option Int
  small : ∀ given ∈ offset, -dayMicros < given ∧ given < dayMicros

/-- Microseconds since the epoch of its kind. -/
def PyDatetime.micros (datetime : PyDatetime) : Int := datetime.clock - datetime.offset.getD 0

/-! ## Objects -/

/-- A Python object, as far as parameters and cells go. -/
inductive PyObject (J : Type)
  | none
  | bool (value : Bool)
  | int (number : Int)
  | float (number : F64)
  /-- Without a text where it has a lone surrogate; then, what encoding it raises. -/
  | str (text : Except String String)
  | bytes (bytes : Bytes)
  /-- A `dict`, a list, or whatever JSON is read as; without a value where it is no JSON. -/
  | json (value : Except String J)
  | datetime (value : PyDatetime)
  | date (value : PyDate)
  | uuid (bytes : Vector UInt8 16)
  /-- With its plain decimal text. -/
  | decimal (text : String)
  | other (typeName : String)

/-- The text of an integer. -/
def IntText.ofInt (number : Int) : IntText where
  negative := number < 0
  digits := Nat.toDigits 10 number.natAbs
  all := DecimalDigits.allDigits_toDigits _
  nonempty := Nat.toDigits_ne_nil

variable {J : Type}

/-- `str` of an integer, with the interpreter's limit on its digits; zero is no limit. -/
def strInt (maxDigits : Nat) (number : Int) : Except String IntText :=
  let text := IntText.ofInt number
  if maxDigits ≠ 0 ∧ maxDigits < text.digits.length then
    .error ("ValueError: Exceeds the limit (" ++ toString maxDigits ++
      " digits) for integer string conversion; use sys.set_int_max_str_digits() to increase " ++
      "the limit")
  else .ok text

def readable {α : Type} (index : Nat) (result : Except String α) (param : α → PyParam J) :
    Except ParamError (PyParam J) :=
  match result with
  | .ok value => .ok (param value)
  | .error source => .error (.unreadable index source)

/-- `extract`; an integer that fits is an `i64`. -/
def extract (maxDigits : Nat) (object : PyObject J) (index : Nat) :
    Except ParamError (PyParam J) :=
  match object with
  | .none => .ok .null
  | .bool value => .ok (.bool value)
  | .int number =>
      if -2 ^ 63 ≤ number ∧ number < 2 ^ 63 then .ok (.int (.ofInt number))
      else readable index (strInt maxDigits number) .bigInt
  | .float number => .ok (.float number)
  | .str text => readable index text .text
  | .bytes bytes => .ok (.bytes bytes)
  | .json value => readable index value .json
  | .datetime value =>
      match value.offset with
      | Option.none => .ok (.timestamp (.ofInt value.micros))
      | some _ => .ok (.timestampTz (.ofInt value.micros))
  | .date value => .ok (.date (.ofInt (value.ordinal - pgEpochOrdinal)))
  | .uuid bytes => .ok (.uuid bytes)
  | .decimal text => .ok (.decimal text)
  | .other typeName => .error (.unsupported index typeName)

/-! ## Cells -/

/-- The driver's decoders of binary values: big-endian numbers of a fixed width, and UTF-8. -/
structure Driver where
  bool : Bytes → Except String Bool
  int : Nat → Bytes → Except String Int
  float32 : Bytes → Except String F32
  float64 : Bytes → Except String F64
  str : Bytes → Except String String
  bool_byte : ∀ value : Bool, bool [if value then 1 else 0] = .ok value
  int_bigEndian : ∀ bytes : Bytes, bytes.length ∈ [2, 4, 8] →
    int bytes.length bytes = .ok (BigEndian.signedValue bytes)
  str_utf8 : ∀ text : String, str (utf8Encode text) = .ok text

/-- `crate::json::loads`. -/
abbrev LoadsJson (J : Type) := Bytes → Except String J

inductive CellError
  | undecodable (reason : String)
  | jsonbHeader
  | infinity (pgType : String)
  /-- Of a Python constructor. -/
  | raised
  deriving DecidableEq, Repr

def CellError.text : CellError → Option String
  | undecodable reason => some ("undecodable value: " ++ reason)
  | jsonbHeader => some "jsonb value without version 1 header"
  | infinity pgType =>
      some (pgType ++ " ±infinity has no Python equivalent; select it as text (col::text)")
  | raised => none

/-- `decode`. -/
def decodeCell {α : Type} (result : Except String α) (object : α → PyObject J) :
    Except CellError (PyObject J) :=
  match result with
  | .ok value => .ok (object value)
  | .error reason => .error (.undecodable reason)

/-- The exact float of a smaller one. -/
def widen (number : F32) : F64 :=
  if number.isNan then
    { negative := number.negative
      magnitude := binary64.infinity + 2 ^ 51 + number.magnitude % 2 ^ 22 * 2 ^ 29
      fits := by
        have infinity : binary64.infinity = 2 ^ 63 - 2 ^ 52 := rfl
        have bits : binary64.exponent + binary64.fraction = 63 := rfl
        have payload : number.magnitude % 2 ^ 22 < 2 ^ 22 := Nat.mod_lt _ (by decide)
        rw [infinity, bits]
        omega }
  else if number.isInfinite then .infinite binary64 number.negative
  else .nearest binary64 number.negative (binary32.valueOf number.magnitude)

/-- `date.fromordinal`. -/
def fromOrdinal (ordinal : Int) : Except CellError (PyObject J) :=
  if bounds : 1 ≤ ordinal ∧ ordinal ≤ lastOrdinal then
    .ok (.date ⟨ordinal, bounds.1, bounds.2⟩)
  else .error .raised

def date (days : Int) : Except CellError (PyObject J) :=
  if days = 2 ^ 31 - 1 ∨ days = -2 ^ 31 then .error (.infinity "date")
  else fromOrdinal (days + pgEpochOrdinal)

/-- An epoch and a `timedelta`. -/
def afterEpoch (micros : Int) (utc : Bool) : Except CellError (PyObject J) :=
  if inYears : InYears micros then
    .ok (.datetime
      { clock := micros
        inYears
        offset := if utc then some 0 else none
        small := by
          intro given offset
          cases utc with
          | false => cases offset
          | true =>
              cases offset
              decide })
  else .error .raised

def timestamp (micros : Int) (utc : Bool) : Except CellError (PyObject J) :=
  if micros = 2 ^ 63 - 1 ∨ micros = -2 ^ 63 then
    .error (.infinity (if utc then "timestamptz" else "timestamp"))
  else afterEpoch micros utc

/-- `UUID(bytes=...)`. -/
def uuidOf (bytes : Bytes) : Except CellError (PyObject J) :=
  if length : bytes.length = 16 then .ok (.uuid ⟨bytes.toArray, by simpa using length⟩)
  else .error .raised

/-- The rows of `cell_to_py`'s match. -/
def readCell (driver : Driver) (loads : LoadsJson J) (quoted : String → String) (kind : PgKind)
    (bytes : Bytes) : Except CellError (PyObject J) :=
  match kind with
  | .bool => decodeCell (driver.bool bytes) .bool
  | .int2 => decodeCell (driver.int 2 bytes) .int
  | .int4 => decodeCell (driver.int 4 bytes) .int
  | .int8 => decodeCell (driver.int 8 bytes) .int
  | .float4 => decodeCell (driver.float32 bytes) fun number => .float (widen number)
  | .float8 => decodeCell (driver.float64 bytes) .float
  | .text => decodeCell (driver.str bytes) fun text => .str (.ok text)
  | .bytea | .other => .ok (.bytes bytes)
  | .json => decodeCell (loads bytes) fun value => .json (.ok value)
  | .jsonb =>
      match bytes with
      | version :: text =>
          if version = jsonbVersion then decodeCell (loads text) fun value => .json (.ok value)
          else .error .jsonbHeader
      | [] => .error .jsonbHeader
  | .numeric =>
      match Numeric.decode bytes with
      | .ok text => .ok (.decimal text)
      | .error error => .error (.undecodable (error.text quoted))
  | .uuid => uuidOf bytes
  | .date =>
      match driver.int 4 bytes with
      | .ok days => date days
      | .error reason => .error (.undecodable reason)
  | .timestamp =>
      match driver.int 8 bytes with
      | .ok micros => timestamp micros false
      | .error reason => .error (.undecodable reason)
  | .timestamptz =>
      match driver.int 8 bytes with
      | .ok micros => timestamp micros true
      | .error reason => .error (.undecodable reason)

/-- `cell_to_py`; no bytes is a NULL. -/
def cellToPy (driver : Driver) (loads : LoadsJson J) (quoted : String → String)
    (type : PgTypeInfo) : Option Bytes → Except CellError (PyObject J)
  | none => .ok .none
  | some bytes => readCell driver loads quoted (PgKind.of type) bytes

end Db

end Pyronova
