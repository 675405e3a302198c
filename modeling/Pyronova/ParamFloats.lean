import Mathlib.Tactic
import Pyronova.Param

/-!
# Numbers past the range of a float

A finite number that rounds past the largest float of its parameter should be refused.  The check
stands where a float is narrowed, and looks at the float: an integer so large that its text already
parses to infinity is sent as infinity.
-/

namespace Pyronova

namespace Db

open BinaryFloat

variable {J : Type}

/-- The number of a finite numeric argument. -/
def PyParam.finiteNumber : PyParam J → Option ℚ
  | int number => some number.toInt
  | bigInt given => some given.number
  | float number => if number.isFinite then some number.value else none
  | _ => none

/-- The format of a float's kind, and its name in an error. -/
def PgKind.floatFormat : PgKind → Option (Format × String)
  | float4 => some (binary32, "float4")
  | float8 => some (binary64, "float8")
  | _ => none

/-- What is sent is no infinity, and a number that rounds to one is refused. -/
def KeepsFinite (print : Printing J) (type : PgTypeInfo) (param : PyParam J) (index : Nat)
    (format : Format) (pgType : String) (number : ℚ) : Prop :=
  (∀ negative,
    toWire print type param index ≠ .ok (some (Number.infinite format negative).toBeBytes)) ∧
    (format.overflow ≤ |number| → ∃ shown,
      toWire print type param index = .error (.value index (.outOfRange shown pgType)))

/-! ## Bytes -/

theorem toBeBytes_ne_infinite {format : Format} (whole : 8 ∣ format.exponent + format.fraction + 1)
    {number : Number format} (finite : number.isFinite = true) (negative : Bool) :
    number.toBeBytes ≠ (Number.infinite format negative).toBeBytes := by
  intro same
  rw [Number.toBeBytes_injective whole same, Number.isFinite, decide_eq_true_eq] at finite
  exact lt_irrefl _ finite

theorem whole_binary32 : 8 ∣ binary32.exponent + binary32.fraction + 1 := by decide

theorem whole_binary64 : 8 ∣ binary64.exponent + binary64.fraction + 1 := by decide

/-! ## Conversions -/

theorem abs_signed (negative : Bool) {magnitude : ℚ} (nonneg : 0 ≤ magnitude) :
    |(if negative then -1 else 1) * magnitude| = magnitude := by
  cases negative <;> simp [abs_of_nonneg nonneg]

theorem abs_number (text : IntText) : |(text.number : ℚ)| = text.magnitude := by
  rw [IntText.number]
  push_cast
  exact abs_signed text.negative (Nat.cast_nonneg _)

theorem abs_value {format : Format} (number : Number format) :
    |number.value| = format.valueOf number.magnitude :=
  abs_signed number.negative (format.valueOf_nonneg _)

/-- The integers of the language are far below either overflow. -/
theorem abs_toInt_lt_overflow {format : Format} (large : 64 ≤ format.bias) (number : Int64) :
    |(number.toInt : ℚ)| < format.overflow := by
  have lower := number.le_toInt
  have upper := number.toInt_lt
  have small : |number.toInt| < 2 ^ 64 := by
    rw [abs_lt]
    omega
  calc |(number.toInt : ℚ)| < 2 ^ 64 := by exact_mod_cast small
    _ ≤ 2 ^ (format.bias : Int) := by
        rw [zpow_natCast]
        exact pow_le_pow_right₀ one_le_two large
    _ ≤ format.overflow := format.two_pow_bias_le_overflow

theorem isFinite_ofInt {format : Format} (large : 64 ≤ format.bias) (number : Int64) :
    (ofInt format number.toInt).isFinite = true := by
  have magnitude : ((number.toInt.natAbs : Nat) : ℚ) = |(number.toInt : ℚ)| := by
    rw [Nat.cast_natAbs, Int.cast_abs]
  apply (Number.isFinite_nearest (Nat.cast_nonneg _) _).mpr
  rw [magnitude]
  exact abs_toInt_lt_overflow large number

theorem narrow_of_finite {number : F64} (finite : number.isFinite = true) :
    narrow number = .nearest binary32 number.negative (binary64.valueOf number.magnitude) := by
  rw [Number.isFinite, decide_eq_true_eq] at finite
  have notNan : number.isNan = false := by
    rw [Number.isNan, decide_eq_false_iff_not]
    omega
  have notInfinite : number.isInfinite = false := by
    rw [Number.isInfinite, decide_eq_false_iff_not]
    omega
  simp [narrow, notNan, notInfinite]

theorem narrow_infinite (negative : Bool) :
    narrow (.infinite binary64 negative) = .infinite binary32 negative := by
  cases negative <;> decide

/-- Infinity is no number that is refused. -/
theorem float4_infinite (print : Printing J) (negative : Bool) :
    float4 print (.infinite binary64 negative) =
      .ok (Number.infinite binary32 negative).toBeBytes := by
  have infinite : (Number.infinite binary64 negative).isFinite = false := by
    cases negative <;> decide
  simp [float4, narrow_infinite, infinite]

/-- A finite float is narrowed, unless it overflows. -/
theorem float4_of_finite (print : Printing J) {number : F64} (finite : number.isFinite = true) :
    float4 print number =
      if binary32.overflow ≤ binary64.valueOf number.magnitude then
        outOfRange (print.display number) "float4"
      else .ok (narrow number).toBeBytes := by
  have infinite := @Number.isInfinite_nearest binary32 _
    (binary64.valueOf_nonneg number.magnitude) number.negative
  rw [← narrow_of_finite finite] at infinite
  simp only [float4, finite, Bool.and_true, infinite]

/-- The text of an integer is parsed to infinity exactly where the float overflows. -/
theorem parseF64_of_large {given : IntText} (large : binary64.overflow ≤ given.magnitude) :
    parseF64 given = .infinite binary64 given.negative :=
  Number.nearest_eq_infinite (Nat.cast_nonneg _) large _

theorem isFinite_parseF64 {given : IntText} (small : (given.magnitude : ℚ) < binary64.overflow) :
    (parseF64 given).isFinite = true :=
  (Number.isFinite_nearest (Nat.cast_nonneg _) _).mpr small

/-- An integer that overflows the smaller format is not parsed to a number below the overflow: that
is a number of the larger one. -/
theorem overflow_le_valueOf_parse {given : IntText}
    (small : (given.magnitude : ℚ) < binary64.overflow)
    (large : binary32.overflow ≤ (given.magnitude : ℚ)) :
    binary32.overflow ≤ binary64.valueOf (parseF64 given).magnitude := by
  have positive : (0 : ℚ) < given.magnitude := binary32.overflow_pos.trans_le large
  have finite : binary64.magnitudeOf given.magnitude ≠ binary64.infinity := by
    rw [ne_eq, Format.magnitudeOf_eq_infinity_iff (Nat.cast_nonneg _), not_le]
    exact small
  have reached : (127 : Int) ≤ binary64.binade given.magnitude := by
    rw [Format.le_binade_iff positive (by decide)]
    exact binary32.two_pow_bias_le_overflow.trans large
  rcases reached.eq_or_lt with top | beyond
  · -- in the binade of the largest numbers of the smaller format, the overflow counts units
    have units : binary32.overflow = ((2 ^ 25 - 1) * 2 ^ 28 : Nat) *
        binary64.unit (binary64.binade given.magnitude) := by
      rw [← top, overflow_binary32]
      norm_num [Format.unit, binary64]
    exact Format.le_valueOf_magnitudeOf positive _ units large finite
  · have units : (2 : ℚ) ^ binary64.binade given.magnitude = (2 ^ 52 : Nat) *
        binary64.unit (binary64.binade given.magnitude) := by
      rw [← binary64.two_pow_fraction_mul_unit]
      norm_num [binary64]
    calc binary32.overflow ≤ 2 ^ ((binary32.bias : Int) + 1) := binary32.overflow_lt.le
      _ ≤ 2 ^ binary64.binade given.magnitude := zpow_le_zpow_right₀ one_le_two beyond
      _ ≤ binary64.valueOf (parseF64 given).magnitude :=
          Format.le_valueOf_magnitudeOf positive _ units
            (Format.le_of_least_lt_binade positive (lt_trans (by decide) beyond)) finite

/-! ## What is sent -/

section Sent

variable {print : Printing J} {type : PgTypeInfo} {param : PyParam J} {index : Nat}
  {format : Format} {pgType : String} {number : ℚ}

theorem keepsFinite_of_finite {sent : Number format}
    (whole : 8 ∣ format.exponent + format.fraction + 1)
    (found : wireOf print (PgKind.of type) param = some (.ok sent.toBeBytes))
    (finite : sent.isFinite = true) (small : |number| < format.overflow) :
    KeepsFinite print type param index format pgType number := by
  have result := toWire_of_row found index
  refine ⟨fun negative infinite => ?_, fun large => absurd small (not_lt.mpr large)⟩
  rw [result] at infinite
  exact toBeBytes_ne_infinite whole finite negative (Option.some.inj (Except.ok.inj infinite))

theorem keepsFinite_of_refused {shown : String}
    (found : wireOf print (PgKind.of type) param = some (outOfRange shown pgType)) :
    KeepsFinite print type param index format pgType number := by
  have result : toWire print type param index = .error (.value index (.outOfRange shown pgType)) :=
    toWire_of_row found index
  refine ⟨fun negative infinite => ?_, fun _ => ⟨shown, result⟩⟩
  rw [result] at infinite
  cases infinite

theorem not_keepsFinite {negative : Bool}
    (found : wireOf print (PgKind.of type) param =
      some (.ok (Number.infinite format negative).toBeBytes)) :
    ¬ KeepsFinite print type param index format pgType number :=
  fun keeps => keeps.1 negative (toWire_of_row found index)

/-- A finite float as the smaller type: what overflows is refused. -/
theorem keepsFinite_float4 {given : F64} (finite : given.isFinite = true)
    (found : wireOf print (PgKind.of type) param = some (float4 print given))
    (reaches : binary32.overflow ≤ |number| →
      binary32.overflow ≤ binary64.valueOf given.magnitude) :
    KeepsFinite print type param index binary32 "float4" number := by
  rw [float4_of_finite print finite] at found
  by_cases large : binary32.overflow ≤ binary64.valueOf given.magnitude
  · rw [if_pos large] at found
    exact keepsFinite_of_refused found
  · rw [if_neg large] at found
    have narrowed : (narrow given).isFinite = true := by
      rw [narrow_of_finite finite]
      exact (Number.isFinite_nearest (binary64.valueOf_nonneg _) _).mpr (not_le.mp large)
    exact keepsFinite_of_finite whole_binary32 found narrowed
      (not_le.mp fun reached => large (reaches reached))

/-- The text of an integer is the only argument that may be sent as infinity. -/
theorem keepsFinite_bigInt_iff {given : IntText}
    (small : (given.magnitude : ℚ) < binary64.overflow →
      KeepsFinite print type (.bigInt given) index format pgType number)
    (large : binary64.overflow ≤ given.magnitude →
      wireOf print (PgKind.of type) (.bigInt given) =
        some (.ok (Number.infinite format given.negative).toBeBytes)) :
    KeepsFinite print type (.bigInt given) index format pgType number ↔
      ∀ other, (.bigInt given : PyParam J) = .bigInt other →
        (other.magnitude : ℚ) < binary64.overflow := by
  constructor
  · rintro keeps _ ⟨⟩
    by_contra overflow
    exact not_keepsFinite (large (not_lt.mp overflow)) keeps
  · intro condition
    exact small (condition given rfl)

theorem keepsFinite_float4_iff (kind : PgKind.of type = .float4)
    (finite : param.finiteNumber = some number) :
    KeepsFinite print type param index binary32 "float4" number ↔
      ∀ given, param = .bigInt given → (given.magnitude : ℚ) < binary64.overflow := by
  cases param with
  | int given =>
      cases finite
      refine iff_of_true ?_ (by rintro _ ⟨⟩)
      exact keepsFinite_of_finite whole_binary32 (by rw [kind]; rfl)
        (isFinite_ofInt (by decide) given) (abs_toInt_lt_overflow (by decide) given)
  | bigInt given =>
      cases finite
      have found : wireOf print (PgKind.of type) (.bigInt given) =
          some (float4 print (parseF64 given)) := by
        rw [kind]
        rfl
      apply keepsFinite_bigInt_iff
      · intro small
        apply keepsFinite_float4 (isFinite_parseF64 small) found
        rw [abs_number]
        exact overflow_le_valueOf_parse small
      · intro large
        rw [found, parseF64_of_large large, float4_infinite]
  | float given =>
      rw [PyParam.finiteNumber] at finite
      split at finite
      · rename_i isFinite
        cases finite
        refine iff_of_true ?_ (by rintro _ ⟨⟩)
        apply keepsFinite_float4 isFinite (by rw [kind]; rfl)
        rw [abs_value]
        exact id
      · cases finite
  | _ => cases finite

theorem keepsFinite_float8_iff (kind : PgKind.of type = .float8)
    (finite : param.finiteNumber = some number) :
    KeepsFinite print type param index binary64 "float8" number ↔
      ∀ given, param = .bigInt given → (given.magnitude : ℚ) < binary64.overflow := by
  cases param with
  | int given =>
      cases finite
      refine iff_of_true ?_ (by rintro _ ⟨⟩)
      exact keepsFinite_of_finite whole_binary64 (by rw [kind]; rfl)
        (isFinite_ofInt (by decide) given) (abs_toInt_lt_overflow (by decide) given)
  | bigInt given =>
      cases finite
      have found : wireOf print (PgKind.of type) (.bigInt given) =
          some (.ok (parseF64 given).toBeBytes) := by
        rw [kind]
        rfl
      apply keepsFinite_bigInt_iff
      · intro small
        apply keepsFinite_of_finite whole_binary64 found (isFinite_parseF64 small)
        rwa [abs_number]
      · intro large
        rw [found, parseF64_of_large large]
  | float given =>
      rw [PyParam.finiteNumber] at finite
      split at finite
      · rename_i isFinite
        cases finite
        refine iff_of_true ?_ (by rintro _ ⟨⟩)
        apply keepsFinite_of_finite whole_binary64 (by rw [kind]; rfl) isFinite
        rw [abs_value]
        apply Format.valueOf_lt_overflow
        rwa [Number.isFinite, decide_eq_true_eq] at isFinite
      · cases finite
  | _ => cases finite

end Sent

/-- A finite number keeps finite, or is refused, exactly if it is no integer whose text parses to
infinity. -/
theorem keepsFinite_iff (print : Printing J) (type : PgTypeInfo) (param : PyParam J) (index : Nat)
    (format : Format) (pgType : String) (number : ℚ)
    (float : (PgKind.of type).floatFormat = some (format, pgType))
    (finite : param.finiteNumber = some number) :
    KeepsFinite print type param index format pgType number ↔
      ∀ given, param = .bigInt given → (given.magnitude : ℚ) < 2 ^ 1024 - 2 ^ 970 := by
  rw [← overflow_binary64]
  cases kind : PgKind.of type with
  | float4 =>
      rw [kind] at float
      cases float
      exact keepsFinite_float4_iff kind finite
  | float8 =>
      rw [kind] at float
      cases float
      exact keepsFinite_float8_iff kind finite
  | _ =>
      rw [kind] at float
      cases float

/-- A printer of whole floats. -/
def plainPrinting : Printing Unit where
  display number := toString ⌊number.value⌋
  json _ := "null"

/-- The text of a power of ten. -/
def powerText (zeros : Nat) : IntText where
  negative := false
  digits := ['1'] ++ List.replicate zeros '0'
  all := by
    apply DecimalDigits.AllDigits.append _ (DecimalDigits.allDigits_replicate zeros)
    decide
  nonempty := List.cons_ne_nil _ _

theorem magnitude_powerText (zeros : Nat) : (powerText zeros).magnitude = 10 ^ zeros := by
  have digits : (powerText zeros).magnitude =
      DecimalDigits.value (['1'] ++ List.replicate zeros '0') := rfl
  have one : DecimalDigits.value ['1'] = 1 := rfl
  rw [digits, DecimalDigits.value_append, DecimalDigits.value_replicate, List.length_replicate,
    one, Nat.one_mul, Nat.add_zero]

/-- An integer past the range of a `float4` is refused. -/
theorem keepsFinite_pastFloat4 :
    KeepsFinite plainPrinting (.info (some FLOAT4) "FLOAT4" .other) (.bigInt (powerText 39)) 1
        binary32 "float4" (powerText 39).number ∧
      binary32.overflow ≤ (powerText 39).magnitude := by
  refine ⟨?_, ?_⟩
  · apply (keepsFinite_iff plainPrinting (.info (some FLOAT4) "FLOAT4" .other)
      (.bigInt (powerText 39)) 1 binary32 "float4" _ rfl rfl).mpr
    intro given same
    obtain rfl := PyParam.bigInt.inj same
    have small : 10 ^ 39 + 2 ^ 970 < 2 ^ 1024 := by decide +kernel
    rw [magnitude_powerText, lt_sub_iff_add_lt]
    exact_mod_cast small
  · rw [magnitude_powerText, overflow_binary32]
    norm_num

/-- The text of `10 ** 309`. -/
def largeText : IntText := powerText 309

theorem overflow_le_largeText : binary64.overflow ≤ largeText.magnitude := by
  have magnitude : largeText.magnitude = 10 ^ 309 := magnitude_powerText 309
  have large : 2 ^ 1024 ≤ 10 ^ 309 := by decide +kernel
  have cast : (2 : ℚ) ^ 1024 ≤ (largeText.magnitude : ℚ) := by
    rw [magnitude]
    exact_mod_cast large
  have positive : (0 : ℚ) < 2 ^ 970 := by positivity
  rw [overflow_binary64]
  exact (sub_le_self _ positive.le).trans cast

/-- An integer that overflows is sent as infinity. -/
theorem largeText_infinite :
    toWire plainPrinting (.info (some FLOAT8) "FLOAT8" .other) (.bigInt largeText) 1 =
        .ok (some (Number.infinite binary64 false).toBeBytes) ∧
      ¬ KeepsFinite plainPrinting (.info (some FLOAT8) "FLOAT8" .other) (.bigInt largeText) 1
        binary64 "float8" largeText.number := by
  have parsed := parseF64_of_large overflow_le_largeText
  have found : wireOf plainPrinting (PgKind.of (.info (some FLOAT8) "FLOAT8" .other))
      (.bigInt largeText) = some (.ok (Number.infinite binary64 false).toBeBytes) := by
    have row : wireOf plainPrinting (PgKind.of (.info (some FLOAT8) "FLOAT8" .other))
        (.bigInt largeText) = some (.ok (parseF64 largeText).toBeBytes) := rfl
    rw [row, parsed]
    rfl
  exact ⟨toWire_of_row found 1, not_keepsFinite found⟩

end Db

end Pyronova
