import Mathlib.Tactic
import Pyronova.Cell

/-!
# What comes back of a parameter

A cell that holds the wire of a parameter, with the same type, reads as the object that was sent.
But a float for a numeric is sent as its printed text, and comes back as the number of that, and a
time with an offset may lie in a year that Python has no date for once it is in UTC.
-/

namespace Pyronova

namespace Numeric

open DecimalDigits

/-- The text of a decimal number. -/
def Denotes (text : String) (number : ℚ) : Prop :=
  ∃ negative integer fraction, Spells text negative integer fraction ∧ integer ++ fraction ≠ [] ∧
    decimalValue negative integer fraction = number

/-- The texts stand for the same number, or for the same value that is none. -/
def SameNumber (left right : String) : Prop :=
  (∃ sign, Numeric.special left = some sign ∧ Numeric.special right = some sign) ∨
    ∃ number, Denotes left number ∧ Denotes right number

theorem truncated_decimalValue (negative : Bool) (integer fraction : List Char) :
    truncated fraction.length (decimalValue negative integer fraction) =
      decimalValue negative integer fraction := by
  have whole : ((value (integer ++ fraction) : ℚ) / 10 ^ fraction.length) * 10 ^ fraction.length =
      value (integer ++ fraction) := div_mul_cancel₀ _ (by positivity)
  rw [decimalValue_eq, truncated_signed _ _ (by positivity), whole, Nat.floor_natCast]

theorem Decimal.denotes_text {decimal : Decimal} {text : String} {wire : Wire}
    (success : decimal.wire text = .ok wire) :
    Denotes wire.text (decimalValue decimal.negative decimal.integer decimal.fraction) := by
  have sign : wire.sign = .positive ∨ wire.sign = .negative := by
    rw [(Decimal.wire_spec success).2.2.1, Decimal.sign]
    split_ifs
    · exact .inr rfl
    · exact .inl rfl
  have places := (Decimal.wire_spec success).2.2.2
  have written := Wire.text_of_sign sign
  refine ⟨decide (wire.sign = .negative), wire.integerText, wire.fractionText,
    ⟨wire.allDigits_integerText, wire.allDigits_fractionText, ?_⟩, ?_, ?_⟩
  · rw [written, Wire.decimalText, String.toList_ofList]
    by_cases noFraction : wire.fractionText = []
    · exact .inr ⟨noFraction, by simp [noFraction]⟩
    · exact .inl (by simp [noFraction])
  · exact List.append_ne_nil_of_left_ne_nil wire.integerText_ne_nil _
  · rw [wire.decimalValue_text, Decimal.value_wire success, places, truncated_decimalValue]

/-- An accepted text reads as the same number. -/
theorem sameNumber_normalForm {text : String} {wire : Wire} (success : wireOf text = .ok wire) :
    SameNumber text (normalForm text) := by
  rw [← text_wireOf success]
  rw [wireOf] at success
  split at success
  · rename_i sign isSpecial
    cases success
    refine .inl ⟨sign, isSpecial, ?_⟩
    unfold Numeric.special at isSpecial
    split at isSpecial <;> cases isSpecial <;> rfl
  · split at success
    · cases success
    · rename_i decimal parsed
      obtain ⟨spells, digits⟩ := Decimal.spells parsed
      exact .inr ⟨_, ⟨_, _, _, spells, digits, rfl⟩, Decimal.denotes_text success⟩

/-- A text denotes one number, and none where it is special. -/
theorem Denotes.unique {text : String} {left right : ℚ} (first : Denotes text left)
    (second : Denotes text right) : left = right := by
  obtain ⟨negative, integer, fraction, spells, -, rfl⟩ := first
  obtain ⟨otherNegative, otherInteger, otherFraction, otherSpells, -, rfl⟩ := second
  obtain ⟨sign, parts⟩ := spells.split
  obtain ⟨otherSign, otherParts⟩ := otherSpells.split
  rw [sign] at otherSign
  rw [parts] at otherParts
  cases otherSign
  cases otherParts
  rfl

theorem Spells.chars {text : String} {negative : Bool} {integer fraction : List Char}
    (spells : Spells text negative integer fraction) {c : Char} (member : c ∈ text.toList) :
    c = '-' ∨ c = '.' ∨ c.isDigit = true := by
  obtain ⟨allInteger, allFraction, whole⟩ := spells
  have within : c ∈ (if negative then ['-'] else []) ++ integer ++ '.' :: fraction := by
    rcases whole with pointed | ⟨rfl, plain⟩
    · rwa [← pointed]
    · rw [plain] at member
      exact List.mem_append_left _ member
  rw [List.mem_append, List.mem_append, List.mem_cons] at within
  rcases within with (sign | digit) | point | digit
  · split at sign
    · exact .inl (List.mem_singleton.mp sign)
    · cases sign
  · exact .inr (.inr (allInteger c digit))
  · exact .inr (.inl point)
  · exact .inr (.inr (allFraction c digit))

/-- The special spellings have letters. -/
theorem Denotes.special_eq_none {text : String} {number : ℚ} (denotes : Denotes text number) :
    Numeric.special text = none := by
  obtain ⟨negative, integer, fraction, spells, -⟩ := denotes
  rw [Numeric.special_eq_none]
  intro special
  have letter : 'a' ∈ text.toList ∨ 'n' ∈ text.toList := by
    simp only [List.mem_cons, List.not_mem_nil, or_false] at special
    rcases special with rfl | rfl | rfl | rfl | rfl
    · exact .inl (by simp)
    all_goals exact .inr (by simp)
  rcases letter with member | member
  · have other := spells.chars member
    revert other
    decide
  · have other := spells.chars member
    revert other
    decide

/-- What is the same as a number is that number. -/
theorem SameNumber.denotes {left right : String} {number : ℚ} (same : SameNumber left right)
    (denotes : Denotes left number) : Denotes right number := by
  rcases same with ⟨sign, special, -⟩ | ⟨other, denotesLeft, denotesRight⟩
  · rw [denotes.special_eq_none] at special
    cases special
  · rwa [denotes.unique denotesLeft]

end Numeric

namespace Db

open BinaryFloat Numeric

variable {J : Type}

/-! ## What may be sent, and what should come back -/

/-- The types of arguments that a kind takes. -/
def PgKind.takes : PgKind → PyObject J → Bool
  | bool, .bool _ | int2, .int _ | int4, .int _ | int8, .int _ | numeric, .int _
  | numeric, .float _ | numeric, .decimal _ | text, .str _ | bytea, .bytes _ | other, .bytes _
  | uuid, .uuid _ | date, .date _ => true
  | timestamp, .datetime value => value.offset.isNone
  | timestamptz, .datetime value => value.offset.isSome
  | _, _ => false

/-- The kinds without floats and JSON. -/
def PgKind.exact : List PgKind :=
  [bool, int2, int4, int8, numeric, text, bytea, uuid, date, timestamp, timestamptz, other]

/-- The text of a number. -/
def numberText (print : Printing J) : PyObject J → Option String
  | .int number => some (toString number)
  | .float number => some (print.display number)
  | .decimal text => some text
  | _ => none

def Accepts (text : String) : Prop := ∃ written, Numeric.encode text [] = (.ok (), written)

/-- The object is in the range of the kind. -/
def InRange (print : Printing J) : PgKind → PyObject J → Prop
  | .int2, .int number => -2 ^ 15 ≤ number ∧ number < 2 ^ 15
  | .int4, .int number => -2 ^ 31 ≤ number ∧ number < 2 ^ 31
  | .int8, .int number => -2 ^ 63 ≤ number ∧ number < 2 ^ 63
  | .numeric, object => ∀ text, numberText print object = some text → Accepts text
  | _, _ => True

/-- The same value; for a float that was sent as a numeric, the number of its printed text. -/
def Same (print : Printing J) : PyObject J → PyObject J → Prop
  | .bool value, .bool read => read = value
  | .int number, .int read => read = number
  | .int number, .decimal read => Denotes read number
  | .float number, .decimal read => SameNumber (print.display number) read
  | .decimal text, .decimal read => SameNumber text read
  | .str (.ok text), .str (.ok read) => read = text
  | .bytes bytes, .bytes read => read = bytes
  | .uuid bytes, .uuid read => read = bytes
  | .date value, .date read => read.ordinal = value.ordinal
  | .datetime value, .datetime read =>
      read.offset.isSome = value.offset.isSome ∧ read.micros = value.micros
  | _, _ => False

/-- The time has a date once it is in UTC. -/
def HasDate : PyObject J → Prop
  | .datetime value => InYears value.micros
  | _ => True

/-! ## Integers -/

theorem IntText.text_ofInt (number : Int) : (IntText.ofInt number).text = toString number := by
  cases number with
  | ofNat magnitude =>
      have nonneg : ¬ Int.ofNat magnitude < 0 := by simp
      simp only [IntText.text, IntText.ofInt, nonneg, decide_false, Bool.false_eq_true, if_false,
        List.nil_append]
      rfl
  | negSucc magnitude =>
      have negative : Int.negSucc magnitude < 0 := Int.negSucc_lt_zero magnitude
      have printed : toString (Int.negSucc magnitude) =
        "-" ++ String.ofList (Nat.toDigits 10 (magnitude + 1)) := rfl
      simp only [IntText.text, IntText.ofInt, negative, decide_true, if_true, printed,
        String.ofList_append]
      rfl

theorem denotes_toString (number : Int) : Denotes (toString number) number := by
  have noDigits : DecimalDigits.AllDigits [] := by
    rintro digit ⟨⟩
  have written : (toString number).toList =
      (if decide (number < 0) = true then ['-'] else []) ++ Nat.toDigits 10 number.natAbs := by
    rw [← IntText.text_ofInt]
    exact String.toList_ofList
  refine ⟨decide (number < 0), Nat.toDigits 10 number.natAbs, [],
    ⟨DecimalDigits.allDigits_toDigits _, noDigits, .inr ⟨rfl, written⟩⟩, ?_, ?_⟩
  · exact List.append_ne_nil_of_left_ne_nil Nat.toDigits_ne_nil _
  · rw [decimalValue, DecimalDigits.value_toDigits]
    by_cases negative : number < 0
    · have magnitude : ((number.natAbs : Nat) : ℚ) = -(number : ℚ) := by
        rw [Nat.cast_natAbs, abs_of_neg negative]
        push_cast
        rfl
      simp [negative, magnitude]
    · have magnitude : ((number.natAbs : Nat) : ℚ) = (number : ℚ) := by
        rw [Nat.cast_natAbs, abs_of_nonneg (not_lt.mp negative)]
      simp [negative, magnitude]

/-! ## Numerics -/

theorem numeric_ok {text : String} {wire : Bytes} (sent : numeric text = .ok wire) :
    Numeric.decode wire = .ok (normalForm text) ∧ SameNumber text (normalForm text) := by
  rw [numeric] at sent
  split at sent
  · rename_i written accepted
    cases sent
    obtain ⟨read, whole, decoded⟩ := Numeric.decode_encode accepted
    rw [List.nil_append] at whole
    subst whole
    obtain ⟨wire, success, -⟩ := Numeric.encode_ok_iff.mp accepted
    exact ⟨decoded, sameNumber_normalForm success⟩
  · cases sent

theorem numeric_ok_iff (text : String) : (∃ wire, numeric text = .ok wire) ↔ Accepts text := by
  rw [numeric]
  constructor
  · rintro ⟨wire, sent⟩
    split at sent
    · rename_i written accepted
      exact ⟨written, accepted⟩
    · cases sent
  · rintro ⟨written, accepted⟩
    rw [accepted]
    exact ⟨written, rfl⟩

/-! ## Kinds and types -/

theorem extract_int {maxDigits index : Nat} {number : Int} {param : PyParam J}
    (extracted : extract maxDigits (.int number) index = .ok param) :
    (-2 ^ 63 ≤ number ∧ number < 2 ^ 63 ∧ param = .int (.ofInt number)) ∨
      (¬ (-2 ^ 63 ≤ number ∧ number < 2 ^ 63) ∧ param = .bigInt (.ofInt number)) := by
  rw [extract] at extracted
  split at extracted
  · rename_i fits
    cases extracted
    exact .inl ⟨fits.1, fits.2, rfl⟩
  · rename_i large
    rw [strInt] at extracted
    split at extracted
    · cases extracted
    · cases extracted
      exact .inr ⟨large, rfl⟩

theorem extract_str {maxDigits index : Nat} {text : Except String String} {param : PyParam J}
    (extracted : extract maxDigits (.str text) index = .ok param) :
    ∃ given, text = .ok given ∧ param = .text given := by
  cases text with
  | error source => cases extracted
  | ok given =>
      cases extracted
      exact ⟨given, rfl, rfl⟩

theorem extract_json {maxDigits index : Nat} {value : Except String J} {param : PyParam J}
    (extracted : extract maxDigits (.json value) index = .ok param) :
    ∃ given, param = .json given := by
  cases value with
  | error source => cases extracted
  | ok given =>
      cases extracted
      exact ⟨given, rfl⟩

theorem extract_datetime {maxDigits index : Nat} {value : PyDatetime} {param : PyParam J}
    (extracted : extract maxDigits (.datetime value) index = .ok param) :
    (value.offset.isSome = false ∧ param = .timestamp (.ofInt value.micros)) ∨
      (value.offset.isSome = true ∧ param = .timestampTz (.ofInt value.micros)) := by
  rw [extract] at extracted
  split at extracted
  · rename_i naive
    cases extracted
    exact .inl ⟨by rw [naive]; rfl, rfl⟩
  · rename_i offset aware
    cases extracted
    exact .inr ⟨by rw [aware]; rfl, rfl⟩

theorem eq_none_of_extract {maxDigits index : Nat} {object : PyObject J}
    (extracted : extract maxDigits object index = .ok .null) : object = .none := by
  cases object with
  | none => rfl
  | int number =>
      rcases extract_int extracted with ⟨_, _, copied⟩ | ⟨_, copied⟩
      · cases copied
      · cases copied
  | str text => obtain ⟨given, -, ⟨⟩⟩ := extract_str extracted
  | json value => obtain ⟨given, ⟨⟩⟩ := extract_json extracted
  | datetime value =>
      rcases extract_datetime extracted with ⟨_, copied⟩ | ⟨_, copied⟩
      · cases copied
      · cases copied
  | _ => cases extracted

/-- The match has a row for the arguments that a kind takes, and for no other. -/
theorem isSome_wireOf (print : Printing J) {kind : PgKind} (exact : kind ∈ PgKind.exact)
    {maxDigits index : Nat} {object : PyObject J} {param : PyParam J}
    (extracted : extract maxDigits object index = .ok param) :
    (wireOf print kind param).isSome = kind.takes object := by
  cases object with
  | int number =>
      rcases extract_int extracted with ⟨-, -, rfl⟩ | ⟨-, rfl⟩ <;> fin_cases exact <;> rfl
  | str text =>
      obtain ⟨given, -, rfl⟩ := extract_str extracted
      fin_cases exact <;> rfl
  | json value =>
      obtain ⟨given, rfl⟩ := extract_json extracted
      fin_cases exact <;> rfl
  | datetime value =>
      rcases extract_datetime extracted with ⟨naive, rfl⟩ | ⟨aware, rfl⟩ <;> fin_cases exact <;>
        simp_all [wireOf, PgKind.takes]
  | other typeName => cases extracted
  | _ =>
      cases extracted
      fin_cases exact <;> rfl

/-! ## Wires -/

theorem Driver.int_signedBytes (driver : Driver) {width : Nat} (fixed : width ∈ [2, 4, 8])
    {number : Int} (lower : -(256 ^ width : Nat) ≤ number * 2)
    (upper : number * 2 < (256 ^ width : Nat)) :
    driver.int width (BigEndian.signedBytes width number) = .ok number := by
  have decoded := driver.int_bigEndian (BigEndian.signedBytes width number)
  rw [BigEndian.length_signedBytes] at decoded
  rw [decoded fixed, BigEndian.signedValue_signedBytes lower upper]

theorem narrowInt_ok_iff {width : Nat} {pgType : String} {number : Int64} :
    (∃ wire, narrowInt width pgType number = .ok wire) ↔
      -(256 ^ width : Nat) ≤ number.toInt * 2 ∧ number.toInt * 2 < (256 ^ width : Nat) := by
  rw [narrowInt]
  constructor
  · rintro ⟨wire, sent⟩
    by_contra outside
    rw [if_neg outside] at sent
    cases sent
  · intro inside
    exact ⟨_, if_pos inside⟩

theorem narrowInt_ok {width : Nat} {pgType : String} {number : Int64} {wire : Bytes}
    (sent : narrowInt width pgType number = .ok wire) :
    wire = BigEndian.signedBytes width number.toInt := by
  rw [narrowInt] at sent
  split at sent
  · cases sent
    rfl
  · cases sent

/-- What a row of the match promises of its object. -/
structure RoundTrips (print : Printing J) (driver : Driver) (loads : LoadsJson J)
    (quoted : String → String) (kind : PgKind) (object : PyObject J)
    (row : Except ValueProblem Bytes) : Prop where
  sent : (∃ wire, row = .ok wire) ↔ InRange print kind object
  same : ∀ wire, row = .ok wire → HasDate object →
    ∃ read, readCell driver loads quoted kind wire = .ok read ∧ Same print object read
  raised : ∀ wire, row = .ok wire → ¬ HasDate object →
    readCell driver loads quoted kind wire = .error .raised

section Rows

variable {print : Printing J} {driver : Driver} {loads : LoadsJson J} {quoted : String → String}
  {kind : PgKind} {object : PyObject J}

/-- A row that always gives a wire. -/
theorem RoundTrips.of_ok {wire : Bytes} (read : PyObject J)
    (decoded : readCell driver loads quoted kind wire = .ok read)
    (inRange : InRange print kind object) (hasDate : HasDate object)
    (same : Same print object read) :
    RoundTrips print driver loads quoted kind object (.ok wire) where
  sent := iff_of_true ⟨wire, rfl⟩ inRange
  same := by
    rintro _ ⟨⟩ -
    exact ⟨read, decoded, same⟩
  raised := by
    intro _ _ noDate
    exact absurd hasDate noDate

/-- A row that never does. -/
theorem RoundTrips.of_error {problem : ValueProblem} (outside : ¬ InRange print kind object) :
    RoundTrips print driver loads quoted kind object (.error problem) where
  sent := by
    apply iff_of_false _ outside
    rintro ⟨wire, ⟨⟩⟩
  same := by
    rintro wire ⟨⟩
  raised := by
    rintro wire ⟨⟩

/-- A number as a numeric, by the text that it is sent as. -/
theorem RoundTrips.of_numeric {text : String} (sentAs : numberText print object = some text)
    (hasDate : HasDate object)
    (same : ∀ read, SameNumber text read → Same print object (.decimal read)) :
    RoundTrips print driver loads quoted .numeric object (numeric text) where
  sent := by
    rw [numeric_ok_iff]
    constructor
    · intro accepted other given
      rw [sentAs] at given
      cases given
      exact accepted
    · intro inRange
      exact inRange text sentAs
  same := by
    intro wire sent _
    obtain ⟨decoded, number⟩ := numeric_ok sent
    refine ⟨.decimal (normalForm text), ?_, same _ number⟩
    rw [readCell, decoded]
  raised := by
    intro _ _ noDate
    exact absurd hasDate noDate

/-- An integer, by its two's complement. -/
theorem RoundTrips.of_int {width : Nat} (fixed : width ∈ [2, 4, 8]) {pgType : String}
    {small : Int64} {number : Int} (copied : small.toInt = number)
    (inRange : InRange print kind (.int number) ↔
      -(256 ^ width : Nat) ≤ number * 2 ∧ number * 2 < (256 ^ width : Nat))
    (reads : ∀ wire, readCell driver loads quoted kind wire =
      decodeCell (driver.int width wire) .int) :
    RoundTrips print driver loads quoted kind (.int number) (narrowInt width pgType small) where
  sent := by
    rw [narrowInt_ok_iff, inRange, copied]
  same := by
    intro wire sent _
    have bounds := narrowInt_ok_iff.mp ⟨wire, sent⟩
    rw [copied] at bounds
    refine ⟨.int number, ?_, rfl⟩
    rw [narrowInt_ok sent, copied, reads, driver.int_signedBytes fixed bounds.1 bounds.2]
    rfl
  raised := by
    intro _ _ noDate
    exact absurd trivial noDate

/-- An integer of 64 bits. -/
theorem roundTrips_int {number : Int} (lower : -2 ^ 63 ≤ number) (upper : number < 2 ^ 63)
    (exact : kind ∈ PgKind.exact) {row : Except ValueProblem Bytes}
    (found : wireOf print kind (.int (.ofInt number)) = some row) :
    RoundTrips print driver loads quoted kind (.int number) row := by
  have copied : (Int64.ofInt number).toInt = number := Int64.toInt_ofInt_of_le lower upper
  cases kind with
  | int2 =>
      cases found
      refine RoundTrips.of_int (by decide) copied ?_ fun _ => rfl
      simp only [InRange]
      omega
  | int4 =>
      cases found
      refine RoundTrips.of_int (by decide) copied ?_ fun _ => rfl
      simp only [InRange]
      omega
  | int8 =>
      cases found
      rw [copied]
      refine RoundTrips.of_ok (.int number) ?_ ⟨lower, upper⟩ trivial rfl
      rw [readCell, driver.int_signedBytes (by decide) (by omega) (by omega)]
      rfl
  | numeric =>
      cases found
      rw [copied]
      refine RoundTrips.of_numeric rfl trivial ?_
      intro read same
      exact same.denotes (denotes_toString number)
  | float4 | float8 => exact absurd exact (by decide)
  | _ => cases found

/-- A larger one, which only a numeric holds. -/
theorem roundTrips_bigInt {number : Int} (large : ¬ (-2 ^ 63 ≤ number ∧ number < 2 ^ 63))
    (exact : kind ∈ PgKind.exact) {row : Except ValueProblem Bytes}
    (found : wireOf print kind (.bigInt (.ofInt number)) = some row) :
    RoundTrips print driver loads quoted kind (.int number) row := by
  cases kind with
  | int2 | int4 =>
      cases found
      apply RoundTrips.of_error
      rintro ⟨lower, upper⟩
      exact large (by omega)
  | int8 =>
      cases found
      exact RoundTrips.of_error large
  | numeric =>
      cases found
      rw [IntText.text_ofInt]
      refine RoundTrips.of_numeric rfl trivial ?_
      intro read same
      exact same.denotes (denotes_toString number)
  | float4 | float8 => exact absurd exact (by decide)
  | _ => cases found

/-! ## Dates and times -/

/-- A date is the only one of its day. -/
theorem roundTrips_date (value : PyDate) {row : Except ValueProblem Bytes}
    (found : wireOf print kind (.date (.ofInt (value.ordinal - pgEpochOrdinal))) = some row) :
    RoundTrips print driver loads quoted kind (.date value : PyObject J) row := by
  have first := value.first
  have last := value.last
  simp only [lastOrdinal] at last
  have days : (Int32.ofInt (value.ordinal - pgEpochOrdinal)).toInt =
      value.ordinal - pgEpochOrdinal := by
    simp only [pgEpochOrdinal]
    apply Int32.toInt_ofInt_of_le <;> omega
  cases kind with
  | date =>
      cases found
      rw [days]
      simp only [pgEpochOrdinal]
      refine RoundTrips.of_ok (.date value) ?_ trivial trivial rfl
      rw [readCell, driver.int_signedBytes (by decide) (by omega) (by omega)]
      have finite : ¬ (value.ordinal - 730120 = 2 ^ 31 - 1 ∨ value.ordinal - 730120 = -2 ^ 31) := by
        omega
      simp only [Db.date, if_neg finite, fromOrdinal, pgEpochOrdinal, Int.sub_add_cancel,
        dif_pos (And.intro value.first value.last)]
  | _ => cases found

theorem PyDatetime.micros_bounds (value : PyDatetime) :
    -2 ^ 63 < value.micros ∧ value.micros < 2 ^ 63 - 1 := by
  have inYears := value.inYears
  have offset : -dayMicros ≤ value.offset.getD 0 ∧ value.offset.getD 0 ≤ dayMicros := by
    cases given : value.offset with
    | none => decide
    | some offset =>
        obtain ⟨lower, upper⟩ := value.small offset given
        exact ⟨lower.le, upper.le⟩
  simp only [InYears, pgEpochOrdinal, lastOrdinal, dayMicros] at inYears offset
  rw [PyDatetime.micros]
  omega

/-- The time of a microsecond, with an offset of zero or none. -/
theorem afterEpoch_same {value : PyDatetime} (inYears : InYears value.micros) :
    ∃ read, afterEpoch value.micros value.offset.isSome = .ok read ∧
      Same print (.datetime value : PyObject J) read := by
  rw [afterEpoch, dif_pos inYears]
  refine ⟨_, rfl, ?_⟩
  cases given : value.offset with
  | none => exact ⟨by simp [given], by simp [PyDatetime.micros]⟩
  | some offset => exact ⟨by simp [given], by simp [PyDatetime.micros]⟩

/-- A time, in the kind that its offset decides. -/
theorem RoundTrips.of_time (value : PyDatetime)
    (reads : ∀ wire, readCell driver loads quoted kind wire =
      match driver.int 8 wire with
      | .ok micros => timestamp micros value.offset.isSome
      | .error reason => .error (.undecodable reason))
    (inRange : InRange print kind (.datetime value : PyObject J)) :
    RoundTrips print driver loads quoted kind (.datetime value)
      (.ok (BigEndian.signedBytes 8 (Int64.ofInt value.micros).toInt)) := by
  obtain ⟨lower, upper⟩ := value.micros_bounds
  have copied : (Int64.ofInt value.micros).toInt = value.micros :=
    Int64.toInt_ofInt_of_le lower.le (by omega)
  have finite : ¬ (value.micros = 2 ^ 63 - 1 ∨ value.micros = -2 ^ 63) := by omega
  have decoded : readCell driver loads quoted kind
      (BigEndian.signedBytes 8 (Int64.ofInt value.micros).toInt) =
        afterEpoch value.micros value.offset.isSome := by
    rw [reads, copied, driver.int_signedBytes (by decide) (by omega) (by omega)]
    simp only [timestamp, if_neg finite]
  constructor
  · exact iff_of_true ⟨_, rfl⟩ inRange
  · rintro _ ⟨⟩ inYears
    rw [decoded]
    exact afterEpoch_same inYears
  · rintro _ ⟨⟩ outside
    rw [decoded, afterEpoch]
    exact dif_neg outside

theorem roundTrips_timestamp {value : PyDatetime} (naive : value.offset.isSome = false)
    {row : Except ValueProblem Bytes}
    (found : wireOf print kind (.timestamp (.ofInt value.micros)) = some row) :
    RoundTrips print driver loads quoted kind (.datetime value : PyObject J) row := by
  cases kind with
  | timestamp =>
      cases found
      refine RoundTrips.of_time value ?_ trivial
      intro wire
      rw [naive]
      rfl
  | _ => cases found

theorem roundTrips_timestampTz {value : PyDatetime} (aware : value.offset.isSome = true)
    {row : Except ValueProblem Bytes}
    (found : wireOf print kind (.timestampTz (.ofInt value.micros)) = some row) :
    RoundTrips print driver loads quoted kind (.datetime value : PyObject J) row := by
  cases kind with
  | timestamptz =>
      cases found
      refine RoundTrips.of_time value ?_ trivial
      intro wire
      rw [aware]
      rfl
  | _ => cases found

/-! ## The others -/

theorem roundTrips_bool {value : Bool} {row : Except ValueProblem Bytes}
    (found : wireOf print kind (.bool value) = some row) :
    RoundTrips print driver loads quoted kind (.bool value : PyObject J) row := by
  cases kind with
  | bool =>
      cases found
      refine RoundTrips.of_ok (.bool value) ?_ trivial trivial rfl
      rw [readCell, driver.bool_byte]
      rfl
  | _ => cases found

theorem roundTrips_float {number : F64} (exact : kind ∈ PgKind.exact)
    {row : Except ValueProblem Bytes} (found : wireOf print kind (.float number) = some row) :
    RoundTrips print driver loads quoted kind (.float number : PyObject J) row := by
  cases kind with
  | numeric =>
      cases found
      refine RoundTrips.of_numeric rfl trivial ?_
      intro read same
      exact same
  | float4 | float8 => exact absurd exact (by decide)
  | _ => cases found

theorem roundTrips_text {text : String} {row : Except ValueProblem Bytes}
    (found : wireOf print kind (.text text) = some row) :
    RoundTrips print driver loads quoted kind (.str (.ok text) : PyObject J) row := by
  cases kind with
  | text =>
      cases found
      refine RoundTrips.of_ok (.str (.ok text)) ?_ trivial trivial rfl
      rw [readCell, driver.str_utf8]
      rfl
  | _ => cases found

theorem roundTrips_bytes {bytes : Bytes} {row : Except ValueProblem Bytes}
    (found : wireOf print kind (.bytes bytes) = some row) :
    RoundTrips print driver loads quoted kind (.bytes bytes : PyObject J) row := by
  cases kind with
  | bytea | other =>
      cases found
      exact RoundTrips.of_ok (.bytes bytes) rfl trivial trivial rfl
  | _ => cases found

theorem roundTrips_uuid {bytes : Vector UInt8 16} {row : Except ValueProblem Bytes}
    (found : wireOf print kind (.uuid bytes) = some row) :
    RoundTrips print driver loads quoted kind (.uuid bytes : PyObject J) row := by
  cases kind with
  | uuid =>
      cases found
      refine RoundTrips.of_ok (.uuid bytes) ?_ trivial trivial rfl
      rw [readCell, uuidOf, dif_pos bytes.length_toList]
      rfl
  | _ => cases found

theorem roundTrips_decimal {text : String} {row : Except ValueProblem Bytes}
    (found : wireOf print kind (.decimal text) = some row) :
    RoundTrips print driver loads quoted kind (.decimal text : PyObject J) row := by
  cases kind with
  | numeric =>
      cases found
      refine RoundTrips.of_numeric rfl trivial ?_
      intro read same
      exact same
  | _ => cases found

/-- What a row of the match promises, whatever object the parameter was copied from. -/
theorem roundTrips {maxDigits index : Nat} {param : PyParam J}
    (extracted : extract maxDigits object index = .ok param) (exact : kind ∈ PgKind.exact)
    {row : Except ValueProblem Bytes} (found : wireOf print kind param = some row) :
    RoundTrips print driver loads quoted kind object row := by
  cases object with
  | none =>
      cases extracted
      rw [wireOf_null] at found
      cases found
  | bool value =>
      cases extracted
      exact roundTrips_bool found
  | int number =>
      rcases extract_int extracted with ⟨lower, upper, rfl⟩ | ⟨large, rfl⟩
      · exact roundTrips_int lower upper exact found
      · exact roundTrips_bigInt large exact found
  | float number =>
      cases extracted
      exact roundTrips_float exact found
  | str text =>
      obtain ⟨given, rfl, rfl⟩ := extract_str extracted
      exact roundTrips_text found
  | bytes bytes =>
      cases extracted
      exact roundTrips_bytes found
  | json value =>
      obtain ⟨given, rfl⟩ := extract_json extracted
      cases kind with
      | json | jsonb => exact absurd exact (by decide)
      | _ => cases found
  | datetime value =>
      rcases extract_datetime extracted with ⟨naive, rfl⟩ | ⟨aware, rfl⟩
      · exact roundTrips_timestamp naive found
      · exact roundTrips_timestampTz aware found
  | date value =>
      cases extracted
      exact roundTrips_date value found
  | uuid bytes =>
      cases extracted
      exact roundTrips_uuid found
  | decimal text =>
      cases extracted
      exact roundTrips_decimal found
  | other typeName => cases extracted

end Rows

/-! ## The round trip -/

/-- A matching argument is sent where it is in range, and reads back as the same value where that
has a date; any other is refused. -/
theorem toWire_cellToPy (print : Printing J) (driver : Driver) (loads : LoadsJson J)
    (quoted : String → String) {type : PgTypeInfo} (exact : PgKind.of type ∈ PgKind.exact)
    {maxDigits index : Nat} {object : PyObject J} {param : PyParam J}
    (extracted : extract maxDigits object index = .ok param) :
    (object = .none →
      toWire print type param index = .ok none ∧
        cellToPy driver loads quoted type none = .ok .none) ∧
    ((PgKind.of type).takes object = true →
      ((∃ wire, toWire print type param index = .ok wire) ↔
        InRange print (PgKind.of type) object) ∧
      ∀ wire, toWire print type param index = .ok wire →
        (HasDate object →
          ∃ read, cellToPy driver loads quoted type wire = .ok read ∧ Same print object read) ∧
        (¬ HasDate object → cellToPy driver loads quoted type wire = .error .raised)) ∧
    ((PgKind.of type).takes object = false → object ≠ .none →
      toWire print type param index =
        .error (.type index (asciiLower type.name) param.pythonType)) := by
  have rows := isSome_wireOf print exact extracted
  refine ⟨?_, ?_, ?_⟩
  · rintro rfl
    cases extracted
    exact ⟨rfl, rfl⟩
  · intro takes
    rw [takes, Option.isSome_iff_exists] at rows
    obtain ⟨row, found⟩ := rows
    have promised : RoundTrips print driver loads quoted (PgKind.of type) object row :=
      roundTrips extracted exact found
    rw [toWire_of_row found]
    cases row with
    | error problem =>
        refine ⟨iff_of_false ?_ ?_, ?_⟩
        · rintro ⟨wire, ⟨⟩⟩
        · intro inRange
          obtain ⟨wire, ⟨⟩⟩ := promised.sent.mpr inRange
        · rintro wire ⟨⟩
    | ok wire =>
        refine ⟨iff_of_true ⟨some wire, rfl⟩ (promised.sent.mp ⟨wire, rfl⟩), ?_⟩
        rintro _ ⟨⟩
        exact ⟨promised.same wire rfl, promised.raised wire rfl⟩
  · intro takes notNone
    rw [takes, Option.isSome_eq_false_iff, Option.isNone_iff_eq_none] at rows
    apply toWire_of_none rows
    rintro rfl
    exact notNone (eq_none_of_extract extracted)

/-- A float of a format, from its bytes. -/
def numberOf (format : Format) (bytes : Bytes) : Except String (Number format) :=
  if 8 * bytes.length = format.exponent + format.fraction + 1 then
    .ok
      { negative := 2 ^ (format.exponent + format.fraction) ≤ BigEndian.value bytes
        magnitude := BigEndian.value bytes % 2 ^ (format.exponent + format.fraction)
        fits := Nat.mod_lt _ (by positivity) }
  else .error "failed to fill whole buffer"

def plainDriver : Driver where
  bool
    | [] => .error "no bytes"
    | byte :: _ => .ok (byte ≠ 0)
  int width bytes :=
    if bytes.length = width then .ok (BigEndian.signedValue bytes)
    else .error "out of range integral type conversion attempted"
  float32 := numberOf binary32
  float64 := numberOf binary64
  str bytes :=
    match utf8Decode bytes with
    | some text => .ok text
    | none => .error "invalid utf-8 sequence"
  bool_byte := by decide
  int_bigEndian bytes _ := if_pos rfl
  str_utf8 text := by rw [utf8Decode_encode]

/-- It reads no JSON. -/
def noJson : LoadsJson Unit := fun _ => .error "unexpected character"

/-- `0.1`. -/
def tenth : F64 := ⟨false, 0x3FB999999999999A, by decide⟩

/-- A printer of whole floats and of that one. -/
def tenthPrinting : Printing Unit where
  display number := if number = tenth then "0.1" else toString ⌊number.value⌋
  json _ := "null"

/-- An integer for an `int2`. -/
theorem toWire_cellToPy_int2 :
    ∃ wire, toWire tenthPrinting (.info (some INT2) "INT2" .other) (.int (.ofInt (-300))) 1 =
        .ok wire ∧
      ∃ read, cellToPy plainDriver noJson id (.info (some INT2) "INT2" .other) wire = .ok read ∧
        Same tenthPrinting (.int (-300)) read := by
  have exact : PgKind.of (.info (some INT2) "INT2" .other) ∈ PgKind.exact := by decide
  have extracted : extract 4300 (.int (-300) : PyObject Unit) 1 = .ok (.int (.ofInt (-300))) := rfl
  obtain ⟨-, matching, -⟩ :=
    toWire_cellToPy tenthPrinting plainDriver noJson id exact extracted
  obtain ⟨sent, back⟩ := matching rfl
  have inRange : InRange tenthPrinting .int2 (.int (-300) : PyObject Unit) :=
    ⟨by decide, by decide⟩
  obtain ⟨wire, success⟩ := sent.mpr inRange
  exact ⟨wire, success, (back wire success).1 trivial⟩

theorem value_tenth : tenth.value = 7205759403792794 / 2 ^ 56 := by
  have bits : tenth.magnitude = (1018 + 1) * 2 ^ binary64.fraction + 0x999999999999A := by
    decide +kernel
  have exponent : binary64.least + 1018 - binary64.fraction = -56 := by decide +kernel
  rw [Number.value, bits, Format.valueOf_normal _ _ (by decide +kernel), Format.unit]
  push_cast
  rw [exponent, show binary64.fraction = 52 from rfl, zpow_neg]
  norm_num [tenth]

/-- The last microsecond of the last year, an hour west of UTC. -/
def lastWest : PyDatetime where
  clock := (lastOrdinal + 1 - pgEpochOrdinal) * dayMicros - 1
  inYears := by decide
  offset := some (-3600000000)
  small := by
    rintro _ ⟨⟩
    decide

def numericType : PgTypeInfo := .info (some NUMERIC) "NUMERIC" .other

def timestamptzType : PgTypeInfo := .info (some TIMESTAMPTZ) "TIMESTAMPTZ" .other

/-- The float reads back as another number, and the time is sent but not read. -/
theorem tenth_lastWest :
    (∃ param wire read,
      extract 4300 (.float tenth) 1 = .ok param ∧
        toWire tenthPrinting numericType param 1 = .ok (some wire) ∧
        cellToPy plainDriver noJson id numericType (some wire) = .ok (.decimal read) ∧
        ¬ Denotes read tenth.value) ∧
    ∃ param wire,
      extract 4300 (.datetime lastWest) 1 = .ok param ∧
        toWire tenthPrinting timestamptzType param 1 = .ok (some wire) ∧
        cellToPy plainDriver noJson id timestamptzType (some wire) = .error .raised := by
  constructor
  · have accepted : Accepts "0.1" := ⟨[0, 1, 255, 255, 0, 0, 0, 1, 3, 232], rfl⟩
    obtain ⟨wire, sent⟩ := (numeric_ok_iff _).mpr accepted
    obtain ⟨decoded, same⟩ := numeric_ok sent
    have printed : tenthPrinting.display tenth = "0.1" := by
      simp only [tenthPrinting, if_true]
    have found : wireOf tenthPrinting (PgKind.of numericType) (.float tenth) =
        some (.ok wire) := by
      change some (numeric (tenthPrinting.display tenth)) = _
      rw [printed, sent]
    have spelled : Denotes "0.1" (1 / 10) := by
      refine ⟨false, ['0'], ['1'], ⟨by decide, by decide, .inl rfl⟩, List.cons_ne_nil _ _, ?_⟩
      have digits : DecimalDigits.value (['0'] ++ ['1']) = 1 := rfl
      rw [decimalValue_eq, digits]
      norm_num
    refine ⟨_, wire, normalForm "0.1", rfl, toWire_of_row found 1, ?_, ?_⟩
    · change readCell plainDriver noJson id .numeric wire = _
      rw [readCell, decoded]
    · intro exact
      have equal := (same.denotes spelled).unique exact
      rw [value_tenth] at equal
      norm_num at equal
  · have extracted : extract 4300 (.datetime lastWest : PyObject Unit) 1 =
        .ok (.timestampTz (.ofInt lastWest.micros)) := rfl
    have row : ∃ wire, wireOf tenthPrinting (PgKind.of timestamptzType)
        (.timestampTz (.ofInt lastWest.micros)) = some (.ok wire) := ⟨_, rfl⟩
    obtain ⟨wire, found⟩ := row
    have promised : RoundTrips tenthPrinting plainDriver noJson id (PgKind.of timestamptzType)
      (.datetime lastWest) (.ok wire) := roundTrips extracted (by decide) found
    have outside : ¬ InYears lastWest.micros := by decide
    exact ⟨_, wire, extracted, toWire_of_row found 1, promised.raised wire rfl outside⟩

end Db

end Pyronova
