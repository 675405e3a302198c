import Mathlib.Tactic
import Pyronova.BinaryFloat
import Pyronova.NumericCanonical
import Pyronova.Response

/-!
# Parameters as the statement declares them

A Python argument is copied out of the interpreter, and encoded as the type that the server declared
for it: the kind of that type and the argument's own type select the encoding, or there is none.
-/

namespace Pyronova

namespace Db

open BinaryFloat DecimalDigits

abbrev F32 := Number binary32

abbrev F64 := Number binary64

/-! ## Types of the server -/

/-- The `oid` module. -/
def BOOL : Nat := 16
def BYTEA : Nat := 17
def NAME : Nat := 19
def INT8 : Nat := 20
def INT2 : Nat := 21
def INT4 : Nat := 23
def TEXT : Nat := 25
def JSON : Nat := 114
def FLOAT4 : Nat := 700
def FLOAT8 : Nat := 701
def UNKNOWN : Nat := 705
def BPCHAR : Nat := 1042
def VARCHAR : Nat := 1043
def DATE : Nat := 1082
def TIMESTAMP : Nat := 1114
def TIMESTAMPTZ : Nat := 1184
def NUMERIC : Nat := 1700
def UUID : Nat := 2950
def JSONB : Nat := 3802

inductive PgKind
  | bool
  | int2
  | int4
  | int8
  | float4
  | float8
  | numeric
  | text
  | bytea
  | json
  | jsonb
  | uuid
  | date
  | timestamp
  | timestamptz
  | other
  deriving DecidableEq, Repr

mutual

/-- A type of the server; one the driver has not resolved has no OID. -/
inductive PgTypeInfo
  | info (oid : Option Nat) (name : String) (kind : PgTypeKind)

inductive PgTypeKind
  | enum
  | domain (base : PgTypeInfo)
  /-- Simple, pseudo, composite, array or range. -/
  | other

end

def PgTypeInfo.name : PgTypeInfo → String
  | info _ name _ => name

namespace PgKind

/-- The table of `from_oid`. -/
def oids : List (Nat × PgKind) :=
  [(BOOL, bool), (INT2, int2), (INT4, int4), (INT8, int8), (FLOAT4, float4), (FLOAT8, float8),
    (NUMERIC, numeric), (TEXT, text), (VARCHAR, text), (BPCHAR, text), (NAME, text),
    (UNKNOWN, text), (BYTEA, bytea), (JSON, json), (JSONB, jsonb), (UUID, uuid), (DATE, date),
    (TIMESTAMP, timestamp), (TIMESTAMPTZ, timestamptz)]

def fromOid (oid : Nat) : PgKind := (oids.lookup oid).getD other

mutual

def of : PgTypeInfo → PgKind
  | .info oid _ kind =>
      let builtin := (oid.map fromOid).getD other
      if builtin ≠ other then builtin else ofKind kind

def ofKind : PgTypeKind → PgKind
  | .enum => text
  | .domain base => of base
  | .other => other

end

end PgKind

/-! ## Parameters -/

/-- The decimal text of an integer. -/
structure IntText where
  negative : Bool
  digits : List Char
  all : AllDigits digits
  nonempty : digits ≠ []

namespace IntText

variable (given : IntText)

def text : String := String.ofList ((if given.negative then ['-'] else []) ++ given.digits)

def magnitude : Nat := value given.digits

def number : Int := (if given.negative then -1 else 1) * given.magnitude

end IntText

/-- An argument copied out of the interpreter. -/
inductive PyParam (J : Type)
  | null
  | bool (value : Bool)
  | int (number : Int64)
  | bigInt (text : IntText)
  | float (number : F64)
  | text (text : String)
  | bytes (bytes : Bytes)
  | json (value : J)
  /-- The 16 bytes. -/
  | uuid (bytes : Vector UInt8 16)
  | decimal (text : String)
  | date (days : Int32)
  | timestamp (micros : Int64)
  | timestampTz (micros : Int64)

/-- The name of its type. -/
def PyParam.pythonType {J : Type} : PyParam J → String
  | null => "None"
  | bool _ => "bool"
  | int _ | bigInt _ => "int"
  | float _ => "float"
  | text _ => "str"
  | bytes _ => "bytes"
  | json _ => "dict/list"
  | uuid _ => "uuid.UUID"
  | decimal _ => "decimal.Decimal"
  | date _ => "datetime.date"
  | timestamp _ => "naive datetime.datetime"
  | timestampTz _ => "aware datetime.datetime"

inductive ValueProblem
  | outOfRange (value : String) (pgType : String)
  | numeric (error : Numeric.NumericError)
  deriving DecidableEq

inductive ParamError
  | count (expected given : Nat)
  | type (index : Nat) (pgType given : String)
  | value (index : Nat) (problem : ValueProblem)
  | encode (index : Nat) (source : String)
  | unsupported (index : Nat) (pythonType : String)
  | unreadable (index : Nat) (source : String)
  deriving DecidableEq

def ValueProblem.message (quoted : String → String) : ValueProblem → String
  | outOfRange value pgType => value ++ " is out of range for " ++ pgType
  | numeric error => error.text quoted

def ParamError.text (quoted : String → String) : ParamError → String
  | count expected given =>
      "the statement takes " ++ toString expected ++ " parameter(s), " ++ toString given ++ " given"
  | type index pgType given =>
      "parameter $" ++ toString index ++ " is " ++ pgType ++ "; a Python " ++ given ++
        " cannot be sent as " ++ pgType
  | value index problem => "parameter $" ++ toString index ++ ": " ++ problem.message quoted
  | encode index source => "parameter $" ++ toString index ++ ": " ++ source
  | unsupported index pythonType =>
      "parameter $" ++ toString index ++ ": unsupported parameter type " ++ pythonType ++
        " (supported: int, float, str, bool, bytes, None, dict, list, datetime.date, " ++
        "datetime.datetime, uuid.UUID, decimal.Decimal)"
  | unreadable index source => "parameter $" ++ toString index ++ ": " ++ source

/-! ## Numbers of the language -/

/-- How a float and a JSON value are printed: `f64::to_string` and that of `serde_json`. -/
structure Printing (J : Type) where
  display : F64 → String
  json : J → String

/-- `as f32` and `as f64`, of an integer. -/
def ofInt (format : Format) (number : Int) : Number format :=
  .nearest format (number < 0) number.natAbs

/-- `parse::<f64>`, of the decimal text of an integer. -/
def parseF64 (text : IntText) : F64 := .nearest binary64 text.negative text.magnitude

/-- `as f32`, of a float; a NaN keeps its sign and the upper part of its payload, and is quiet. -/
def narrow (number : F64) : F32 :=
  if number.isNan then
    { negative := number.negative
      magnitude := binary32.infinity + 2 ^ 22 + number.magnitude / 2 ^ 29 % 2 ^ 22
      fits := by
        have infinity : binary32.infinity = 2 ^ 31 - 2 ^ 23 := rfl
        have bits : binary32.exponent + binary32.fraction = 31 := rfl
        have payload : number.magnitude / 2 ^ 29 % 2 ^ 22 < 2 ^ 22 := Nat.mod_lt _ (by decide)
        rw [infinity, bits]
        omega }
  else if number.isInfinite then .infinite binary32 number.negative
  else .nearest binary32 number.negative (binary64.valueOf number.magnitude)

/-! ## Encoding -/

/-- `JSONB_VERSION`. -/
def jsonbVersion : UInt8 := 1

variable {J : Type}

def outOfRange {α : Type} (value pgType : String) : Except ValueProblem α :=
  .error (.outOfRange value pgType)

/-- The closure `float4`. -/
def float4 (print : Printing J) (number : F64) : Except ValueProblem Bytes :=
  let narrowed := narrow number
  if narrowed.isInfinite && number.isFinite then outOfRange (print.display number) "float4"
  else .ok narrowed.toBeBytes

/-- The closure `big_float`; the text of an integer parses. -/
def bigFloat (text : IntText) : Except ValueProblem F64 := .ok (parseF64 text)

/-- The closure `numeric`. -/
def numeric (text : String) : Except ValueProblem Bytes :=
  match Numeric.encode text [] with
  | (.ok (), wire) => .ok wire
  | (.error error, _) => .error (.numeric error)

/-- `try_from` and `to_be_bytes`, for a width in bytes. -/
def narrowInt (width : Nat) (pgType : String) (number : Int64) : Except ValueProblem Bytes :=
  if -(256 ^ width : Nat) ≤ number.toInt * 2 ∧ number.toInt * 2 < (256 ^ width : Nat) then
    .ok (BigEndian.signedBytes width number.toInt)
  else outOfRange (toString number.toInt) pgType

/-- The rows of `to_wire`'s match. -/
def wireOf (print : Printing J) : PgKind → PyParam J → Option (Except ValueProblem Bytes)
  | .bool, .bool value => some (.ok [if value then 1 else 0])
  | .int2, .int number => some (narrowInt 2 "int2" number)
  | .int4, .int number => some (narrowInt 4 "int4" number)
  | .int8, .int number => some (.ok (BigEndian.signedBytes 8 number.toInt))
  | .int2, .bigInt text => some (outOfRange text.text "int2")
  | .int4, .bigInt text => some (outOfRange text.text "int4")
  | .int8, .bigInt text => some (outOfRange text.text "int8")
  | .float4, .float number => some (float4 print number)
  | .float4, .int number => some (.ok (ofInt binary32 number.toInt).toBeBytes)
  | .float4, .bigInt text => some (bigFloat text >>= float4 print)
  | .float8, .float number => some (.ok number.toBeBytes)
  | .float8, .int number => some (.ok (ofInt binary64 number.toInt).toBeBytes)
  | .float8, .bigInt text => some ((bigFloat text).map Number.toBeBytes)
  | .numeric, .int number => some (numeric (toString number.toInt))
  | .numeric, .bigInt text => some (numeric text.text)
  | .numeric, .float number => some (numeric (print.display number))
  | .numeric, .decimal text => some (numeric text)
  | .text, .text text => some (.ok (utf8Encode text))
  | .bytea, .bytes bytes => some (.ok bytes)
  | .json, .json value => some (.ok (utf8Encode (print.json value)))
  | .jsonb, .json value => some (.ok (jsonbVersion :: utf8Encode (print.json value)))
  | .uuid, .uuid bytes => some (.ok bytes.toList)
  | .date, .date days => some (.ok (BigEndian.signedBytes 4 days.toInt))
  | .timestamp, .timestamp micros => some (.ok (BigEndian.signedBytes 8 micros.toInt))
  | .timestamptz, .timestampTz micros => some (.ok (BigEndian.signedBytes 8 micros.toInt))
  | .other, .bytes bytes => some (.ok bytes)
  | _, _ => none

def asciiLower (text : String) : String := text.map Char.toLower

/-- `to_wire`; no bytes is a NULL. -/
def toWire (print : Printing J) (type : PgTypeInfo) (param : PyParam J) (index : Nat) :
    Except ParamError (Option Bytes) :=
  match param with
  | .null => .ok none
  | param =>
      match wireOf print (PgKind.of type) param with
      | some row => (row.mapError (.value index)).map some
      | none => .error (.type index (asciiLower type.name) param.pythonType)

theorem wireOf_null (print : Printing J) (kind : PgKind) : wireOf print kind .null = none := by
  cases kind <;> rfl

theorem toWire_of_row {print : Printing J} {type : PgTypeInfo} {param : PyParam J}
    {row : Except ValueProblem Bytes} (found : wireOf print (PgKind.of type) param = some row)
    (index : Nat) :
    toWire print type param index = (row.mapError (.value index)).map some := by
  cases param with
  | null =>
      rw [wireOf_null] at found
      cases found
  | _ => simp only [toWire, found]

theorem toWire_of_none {print : Printing J} {type : PgTypeInfo} {param : PyParam J}
    (absent : wireOf print (PgKind.of type) param = none) (notNull : param ≠ .null) (index : Nat) :
    toWire print type param index =
      .error (.type index (asciiLower type.name) param.pythonType) := by
  cases param with
  | null => exact absurd rfl notNull
  | _ => simp only [toWire, absent]

/-- The arguments from number `index` on. -/
def encodeFrom (print : Printing J) (index : Nat) :
    List (PgTypeInfo × PyParam J) → Except ParamError (List (Option Bytes))
  | [] => .ok []
  | (type, param) :: rest => do
      let wire ← toWire print type param index
      let wires ← encodeFrom print (index + 1) rest
      .ok (wire :: wires)

/-- `encode_args`. -/
def encodeArgs (print : Printing J) (declared : List PgTypeInfo) (params : List (PyParam J)) :
    Except ParamError (List (Option Bytes)) :=
  if declared.length ≠ params.length then .error (.count declared.length params.length)
  else encodeFrom print 1 (declared.zip params)

/-- The wires are those of the arguments, each with its own number. -/
theorem encodeFrom_ok {print : Printing J} {index : Nat} {args : List (PgTypeInfo × PyParam J)}
    {wires : List (Option Bytes)} (sent : encodeFrom print index args = .ok wires) :
    wires.length = args.length ∧
      ∀ place type param, args[place]? = some (type, param) →
        ∃ wire, wires[place]? = some wire ∧ toWire print type param (index + place) = .ok wire := by
  induction args generalizing index wires with
  | nil =>
      cases sent
      refine ⟨rfl, ?_⟩
      rintro place type param ⟨⟩
  | cons arg args induction =>
      obtain ⟨type, param⟩ := arg
      rw [encodeFrom] at sent
      cases first : toWire print type param index with
      | error error =>
          rw [first] at sent
          cases sent
      | ok wire =>
          cases rest : encodeFrom print (index + 1) args with
          | error error =>
              rw [first, rest] at sent
              cases sent
          | ok tail =>
              rw [first, rest] at sent
              cases sent
              obtain ⟨length, each⟩ := induction rest
              refine ⟨congrArg (· + 1) length, ?_⟩
              intro place type param found
              cases place with
              | zero =>
                  cases found
                  exact ⟨wire, rfl, first⟩
              | succ place =>
                  have shifted : index + (place + 1) = index + 1 + place := by omega
                  rw [shifted]
                  exact each place type param found

/-- The error is that of the first argument that has one. -/
theorem encodeFrom_error {print : Printing J} {index : Nat} {args : List (PgTypeInfo × PyParam J)}
    {error : ParamError} (refused : encodeFrom print index args = .error error) :
    ∃ place type param, args[place]? = some (type, param) ∧
      toWire print type param (index + place) = .error error ∧
      ∃ wires, encodeFrom print index (args.take place) = .ok wires := by
  induction args generalizing index with
  | nil => cases refused
  | cons arg args induction =>
      obtain ⟨type, param⟩ := arg
      rw [encodeFrom] at refused
      cases first : toWire print type param index with
      | error reason =>
          rw [first] at refused
          cases refused
          exact ⟨0, type, param, rfl, first, [], rfl⟩
      | ok wire =>
          cases rest : encodeFrom print (index + 1) args with
          | error reason =>
              rw [first, rest] at refused
              cases refused
              obtain ⟨place, other, given, found, failed, wires, before⟩ := induction rest
              have shifted : index + (place + 1) = index + 1 + place := by omega
              refine ⟨place + 1, other, given, found, ?_, wire :: wires, ?_⟩
              · rw [shifted]
                exact failed
              · rw [List.take_succ_cons, encodeFrom, first, before]
                rfl
          | ok tail =>
              rw [first, rest] at refused
              cases refused

/-- There is one wire for each declared type, of the argument at its place; numbers start at 1. -/
theorem encodeArgs_ok {print : Printing J} {declared : List PgTypeInfo} {params : List (PyParam J)}
    {wires : List (Option Bytes)} (sent : encodeArgs print declared params = .ok wires) :
    params.length = declared.length ∧ wires.length = declared.length ∧
      ∀ place type param, declared[place]? = some type → params[place]? = some param →
        ∃ wire, wires[place]? = some wire ∧ toWire print type param (place + 1) = .ok wire := by
  rw [encodeArgs] at sent
  split at sent
  · cases sent
  · rename_i same
    have lengths : declared.length = params.length := not_not.mp same
    obtain ⟨length, each⟩ := encodeFrom_ok sent
    rw [List.length_zip, ← lengths, Nat.min_self] at length
    refine ⟨lengths.symm, length, ?_⟩
    intro place type param isType isParam
    rw [Nat.add_comm]
    apply each place type param
    rw [List.getElem?_zip_eq_some]
    exact ⟨isType, isParam⟩

/-- The count is wrong, or an argument has no wire. -/
theorem encodeArgs_error {print : Printing J} {declared : List PgTypeInfo}
    {params : List (PyParam J)} {error : ParamError}
    (refused : encodeArgs print declared params = .error error) :
    declared.length ≠ params.length ∧ error = .count declared.length params.length ∨
      ∃ place type param, declared[place]? = some type ∧ params[place]? = some param ∧
        toWire print type param (place + 1) = .error error := by
  rw [encodeArgs] at refused
  split at refused
  · rename_i different
    cases refused
    exact .inl ⟨different, rfl⟩
  · obtain ⟨place, type, param, found, failed, -⟩ := encodeFrom_error refused
    rw [List.getElem?_zip_eq_some] at found
    rw [Nat.add_comm] at failed
    exact .inr ⟨place, type, param, found.1, found.2, failed⟩

end Db

end Pyronova
