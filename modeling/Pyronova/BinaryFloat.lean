import Mathlib.Data.Int.Log
import Mathlib.Data.Rat.Floor
import Mathlib.Tactic
import Pyronova.BigEndian

/-!
# Binary floating-point formats

The exponent and the fraction of a number are one field, read as a natural number: it grows with the
magnitude, infinity is the number after the largest finite one, and what is above infinity is no
number.  A rational is rounded to the nearest magnitude, to the even one of two; what rounds past
the largest becomes infinity.
-/

namespace BinaryFloat

/-! ## Formats and numbers -/

/-- The bits of the fraction and of the exponent. -/
structure Format where
  fraction : Nat
  exponent : Nat
  wide : 2 ≤ exponent
  deriving DecidableEq

namespace Format

/-- The exponent of the largest numbers; that of the smallest normal ones is `1 - bias`. -/
def bias (format : Format) : Nat := 2 ^ (format.exponent - 1) - 1

def least (format : Format) : Int := 1 - format.bias

def infinity (format : Format) : Nat := (2 ^ format.exponent - 1) * 2 ^ format.fraction

/-- The number of a magnitude, below infinity. -/
def valueOf (format : Format) (magnitude : Nat) : ℚ :=
  if magnitude / 2 ^ format.fraction = 0 then
    magnitude * 2 ^ (format.least - format.fraction)
  else
    (2 ^ format.fraction + (magnitude % 2 ^ format.fraction : Nat)) *
      2 ^ ((magnitude / 2 ^ format.fraction : Nat) - 1 + format.least - format.fraction)

end Format

/-- The nearest natural number, the even one of two. -/
def roundHalfEven (number : ℚ) : Nat :=
  let below := ⌊number⌋₊
  if number - below < 1 / 2 then below
  else if number - below = 1 / 2 then below + below % 2
  else below + 1

namespace Format

/-- The exponent that a number is rounded at. -/
def binade (format : Format) (number : ℚ) : Int := max (Int.log 2 number) format.least

/-- The unit of the last bit at an exponent. -/
def unit (format : Format) (exponent : Int) : ℚ := 2 ^ (exponent - format.fraction)

/-- The magnitude nearest to a number that is not negative. -/
def magnitudeOf (format : Format) (number : ℚ) : Nat :=
  if number = 0 then 0
  else
    min ((format.binade number - format.least).toNat * 2 ^ format.fraction +
      roundHalfEven (number / format.unit (format.binade number))) format.infinity

end Format

/-- A sign and a magnitude. -/
structure Number (format : Format) where
  negative : Bool
  magnitude : Nat
  fits : magnitude < 2 ^ (format.exponent + format.fraction)
  deriving DecidableEq

variable {format : Format}

/-! ## Rounding -/

section Rounding

variable {number : ℚ} {whole : Nat}

theorem floor_le_roundHalfEven (number : ℚ) : ⌊number⌋₊ ≤ roundHalfEven number := by
  rw [roundHalfEven]
  split_ifs <;> omega

theorem le_roundHalfEven (below : (whole : ℚ) ≤ number) : whole ≤ roundHalfEven number :=
  (Nat.le_floor below).trans (floor_le_roundHalfEven number)

theorem roundHalfEven_le (above : number ≤ whole) (nonneg : 0 ≤ number) :
    roundHalfEven number ≤ whole := by
  have floor := Nat.floor_le nonneg
  rcases (Nat.floor_le_of_le above).lt_or_eq with less | same
  · rw [roundHalfEven]
    split_ifs <;> omega
  · have exact : number - ⌊number⌋₊ < 1 / 2 := by
      rw [same]
      linarith
    rw [roundHalfEven, if_pos exact, same]

theorem roundHalfEven_le_succ (number : ℚ) : roundHalfEven number ≤ ⌊number⌋₊ + 1 := by
  rw [roundHalfEven]
  split_ifs <;> omega

/-- Up to an even number, from half a unit below it on. -/
theorem even_le_roundHalfEven (nonneg : 0 ≤ number) (even : Even whole) :
    whole ≤ roundHalfEven number ↔ (whole : ℚ) - 1 / 2 ≤ number := by
  have floor := Nat.floor_le nonneg
  have next := Nat.lt_floor_add_one number
  have near := roundHalfEven_le_succ number
  rcases lt_trichotomy whole (⌊number⌋₊ + 1) with low | rfl | high
  · refine iff_of_true ((Nat.lt_succ_iff.mp low).trans (floor_le_roundHalfEven number)) ?_
    have cast : (whole : ℚ) ≤ ⌊number⌋₊ := by exact_mod_cast Nat.lt_succ_iff.mp low
    linarith
  · -- the number below is odd, so that a tie goes up
    have odd : ⌊number⌋₊ % 2 = 1 := by
      have parity := Nat.even_iff.mp even
      omega
    rw [roundHalfEven]
    push_cast
    split_ifs with under tie
    · refine iff_of_false (by omega) ?_
      linarith
    · refine iff_of_true (by omega) ?_
      linarith
    · refine iff_of_true le_rfl ?_
      have beyond : 1 / 2 < number - ⌊number⌋₊ :=
        lt_of_le_of_ne (not_lt.mp under) (Ne.symm tie)
      linarith
  · refine iff_of_false (by omega) ?_
    have cast : (⌊number⌋₊ : ℚ) + 2 ≤ whole := by exact_mod_cast high
    linarith

end Rounding

/-! ## The binade of a number -/

section Binade

variable {number : ℚ} {exponent : Int}

namespace Format

theorem unit_pos (format : Format) (exponent : Int) : 0 < format.unit exponent := by
  rw [unit]
  positivity

theorem two_pow_fraction_mul_unit (format : Format) (exponent : Int) :
    2 ^ format.fraction * format.unit exponent = 2 ^ exponent := by
  rw [unit, ← zpow_natCast, ← zpow_add₀ two_ne_zero]
  congr 1
  omega

theorem lt_of_binade (format : Format) (number : ℚ) : number < 2 ^ (format.binade number + 1) := by
  calc number < 2 ^ (Int.log 2 number + 1) := Int.lt_zpow_succ_log_self (by decide) number
    _ ≤ 2 ^ (format.binade number + 1) := by
        apply zpow_le_zpow_right₀ one_le_two
        rw [binade]
        omega

theorem le_of_least_lt_binade (positive : 0 < number)
    (normal : format.least < format.binade number) : 2 ^ format.binade number ≤ number := by
  have same : format.binade number = Int.log 2 number := by
    rw [binade] at normal ⊢
    omega
  rw [same]
  exact Int.zpow_log_le_self (by decide) positive

/-- The exponents above the least are those of the powers of two at or below the number. -/
theorem le_binade_iff (positive : 0 < number) (normal : format.least < exponent) :
    exponent ≤ format.binade number ↔ 2 ^ exponent ≤ number := by
  rw [binade, le_max_iff, or_iff_left (by omega)]
  exact Int.zpow_le_iff_le_log (by decide) positive |>.symm

/-- In its binade, a number has as many units as a fraction with the bit before it counts. -/
theorem div_unit_lt (format : Format) (number : ℚ) :
    number / format.unit (format.binade number) < 2 ^ (format.fraction + 1) := by
  rw [div_lt_iff₀ (format.unit_pos _), pow_succ, mul_right_comm, two_pow_fraction_mul_unit]
  have below := lt_of_binade format number
  rwa [zpow_add₀ two_ne_zero, zpow_one] at below

theorem le_div_unit (positive : 0 < number) (normal : format.least < format.binade number) :
    2 ^ format.fraction ≤ number / format.unit (format.binade number) := by
  rw [le_div_iff₀ (format.unit_pos _), two_pow_fraction_mul_unit]
  exact le_of_least_lt_binade positive normal

/-- The units of a number in its binade, rounded. -/
def units (format : Format) (number : ℚ) : Nat :=
  roundHalfEven (number / format.unit (format.binade number))

/-- The binades above the least. -/
def steps (format : Format) (number : ℚ) : Nat := (format.binade number - format.least).toNat

theorem steps_eq (format : Format) (number : ℚ) :
    (format.steps number : Int) = format.binade number - format.least := by
  have least : format.least ≤ format.binade number := le_max_right _ _
  rw [steps]
  omega

theorem units_le (nonneg : 0 ≤ number) : format.units number ≤ 2 ^ (format.fraction + 1) := by
  apply roundHalfEven_le
  · push_cast
    exact (format.div_unit_lt number).le
  · exact div_nonneg nonneg (format.unit_pos _).le

theorem le_units (positive : 0 < number) (normal : format.steps number ≠ 0) :
    2 ^ format.fraction ≤ format.units number := by
  have steps := format.steps_eq number
  apply le_roundHalfEven
  push_cast
  exact le_div_unit positive (by omega)

theorem magnitudeOf_of_pos (positive : 0 < number) :
    format.magnitudeOf number =
      min (format.steps number * 2 ^ format.fraction + format.units number) format.infinity :=
  if_neg positive.ne'

end Format

end Binade

/-! ## Overflow -/

namespace Format

theorem two_pow_exponent (format : Format) : 2 ^ format.exponent = 2 * (format.bias + 1) := by
  have positive : 0 < 2 ^ (format.exponent - 1) := by positivity
  rw [bias, Nat.sub_add_cancel positive, ← pow_succ', Nat.sub_add_cancel]
  have wide := format.wide
  omega

theorem infinity_eq (format : Format) :
    format.infinity = (2 * format.bias + 1) * 2 ^ format.fraction := by
  rw [infinity, two_pow_exponent]
  rfl

theorem bias_pos (format : Format) : 0 < format.bias := by
  have wide := format.wide
  have power : 2 ^ 1 ≤ 2 ^ (format.exponent - 1) := Nat.pow_le_pow_right (by decide) (by omega)
  rw [bias]
  omega

theorem infinity_pos (format : Format) : 0 < format.infinity := by
  rw [infinity_eq]
  positivity

theorem infinity_lt (format : Format) :
    format.infinity < 2 ^ (format.exponent + format.fraction) := by
  rw [infinity, pow_add]
  apply Nat.mul_lt_mul_of_pos_right
  · have positive : 0 < 2 ^ format.exponent := by positivity
    omega
  · positivity

/-- From here on a number is rounded past the largest. -/
def overflow (format : Format) : ℚ :=
  2 ^ ((format.bias : Int) + 1) - 2 ^ ((format.bias : Int) - format.fraction - 1)

theorem two_pow_bias_le_overflow (format : Format) : 2 ^ (format.bias : Int) ≤ format.overflow := by
  have half : (2 : ℚ) ^ ((format.bias : Int) - format.fraction - 1) ≤ 2 ^ (format.bias : Int) :=
    zpow_le_zpow_right₀ one_le_two (by omega)
  rw [overflow, zpow_add₀ two_ne_zero, zpow_one]
  linarith

theorem overflow_pos (format : Format) : 0 < format.overflow :=
  lt_of_lt_of_le (by positivity) format.two_pow_bias_le_overflow

theorem overflow_lt (format : Format) : format.overflow < 2 ^ ((format.bias : Int) + 1) := by
  rw [overflow]
  have positive : (0 : ℚ) < 2 ^ ((format.bias : Int) - format.fraction - 1) := by positivity
  linarith

theorem overflow_div_unit (format : Format) :
    format.overflow / format.unit format.bias = 2 ^ (format.fraction + 1) - 1 / 2 := by
  rw [div_eq_iff (format.unit_pos _).ne', sub_mul, pow_succ, mul_right_comm,
    two_pow_fraction_mul_unit, overflow, unit, zpow_add₀ two_ne_zero, zpow_one,
    zpow_sub₀ two_ne_zero, zpow_one]
  ring

/-- A number becomes infinity exactly when it reaches the midpoint between the largest finite number
and the power of two after it. -/
theorem magnitudeOf_eq_infinity_iff {number : ℚ} (nonneg : 0 ≤ number) :
    format.magnitudeOf number = format.infinity ↔ format.overflow ≤ number := by
  rcases nonneg.eq_or_lt with rfl | positive
  · refine iff_of_false ?_ (not_le.mpr format.overflow_pos)
    rw [magnitudeOf, if_pos rfl]
    exact format.infinity_pos.ne
  have steps := format.steps_eq number
  have least : format.least = 1 - format.bias := rfl
  have bias := format.bias_pos
  have units := format.units_le nonneg
  rw [pow_succ] at units
  rw [magnitudeOf_of_pos positive, min_eq_right_iff, infinity_eq]
  rcases lt_trichotomy (format.binade number) format.bias with low | top | high
  · refine iff_of_false ?_ ?_
    · have few : (format.steps number + 2) * 2 ^ format.fraction ≤
          2 * format.bias * 2 ^ format.fraction := Nat.mul_le_mul_right _ (by omega)
      have positive : 0 < 2 ^ format.fraction := by positivity
      rw [add_mul] at few ⊢
      omega
    · rw [not_le]
      calc number < 2 ^ (format.binade number + 1) := lt_of_binade format number
        _ ≤ 2 ^ (format.bias : Int) := zpow_le_zpow_right₀ one_le_two (by omega)
        _ ≤ format.overflow := format.two_pow_bias_le_overflow
  · have even : Even (2 ^ format.fraction * 2) := even_two.mul_left _
    have reaches : 2 ^ format.fraction * 2 ≤ format.units number ↔ format.overflow ≤ number := by
      rw [Format.units, even_le_roundHalfEven (div_nonneg nonneg (format.unit_pos _).le) even, top,
        le_div_iff₀ (format.unit_pos _)]
      push_cast
      rw [← pow_succ, ← overflow_div_unit, div_mul_cancel₀ _ (format.unit_pos _).ne']
    rw [← reaches]
    have count : format.steps number + 1 = 2 * format.bias := by omega
    rw [← count, add_mul, add_mul]
    omega
  · have normal := le_units positive (by omega : format.steps number ≠ 0)
    refine iff_of_true ?_ ?_
    · have many : 2 * format.bias * 2 ^ format.fraction ≤
          format.steps number * 2 ^ format.fraction := Nat.mul_le_mul_right _ (by omega)
      rw [add_mul]
      omega
    · calc format.overflow ≤ 2 ^ ((format.bias : Int) + 1) := format.overflow_lt.le
        _ ≤ 2 ^ format.binade number := zpow_le_zpow_right₀ one_le_two (by omega)
        _ ≤ number := le_of_least_lt_binade positive (by omega)

theorem magnitudeOf_lt (format : Format) (number : ℚ) :
    format.magnitudeOf number < 2 ^ (format.exponent + format.fraction) := by
  refine lt_of_le_of_lt ?_ format.infinity_lt
  rw [magnitudeOf]
  split_ifs
  · exact Nat.zero_le _
  · exact min_le_right _ _

/-! ## The value of what is rounded -/

theorem valueOf_normal (format : Format) (field : Nat) {fraction : Nat}
    (small : fraction < 2 ^ format.fraction) :
    format.valueOf ((field + 1) * 2 ^ format.fraction + fraction) =
      (2 ^ format.fraction + fraction) * format.unit (format.least + field) := by
  have positive : 0 < 2 ^ format.fraction := by positivity
  have quotient : ((field + 1) * 2 ^ format.fraction + fraction) / 2 ^ format.fraction =
      field + 1 := by
    rw [Nat.mul_comm, Nat.mul_add_div positive, Nat.div_eq_of_lt small, Nat.add_zero]
  have remainder : ((field + 1) * 2 ^ format.fraction + fraction) % 2 ^ format.fraction =
      fraction := by
    rw [Nat.mul_comm, Nat.mul_add_mod, Nat.mod_eq_of_lt small]
  rw [valueOf, quotient, remainder, if_neg (by omega), unit]
  congr 2
  push_cast
  ring

/-- A fraction field that runs up into the exponent counts units all the same. -/
theorem valueOf_add (format : Format) {steps units : Nat}
    (few : units ≤ 2 ^ (format.fraction + 1)) (many : steps = 0 ∨ 2 ^ format.fraction ≤ units) :
    format.valueOf (steps * 2 ^ format.fraction + units) =
      units * format.unit (format.least + steps) := by
  rw [pow_succ] at few
  rcases lt_or_ge units (2 ^ format.fraction) with subnormal | normal
  · obtain rfl : steps = 0 := many.resolve_right (not_le.mpr subnormal)
    rw [Nat.zero_mul, Nat.zero_add, valueOf, if_pos (Nat.div_eq_of_lt subnormal), unit]
    simp
  · obtain ⟨fraction, rfl⟩ := Nat.exists_eq_add_of_le normal
    rcases few.lt_or_eq with less | full
    · have value := format.valueOf_normal steps (by omega : fraction < 2 ^ format.fraction)
      rw [add_mul, one_mul, add_assoc] at value
      rw [value]
      push_cast
      ring
    · -- the next power of two
      have value := format.valueOf_normal (steps + 1) (by positivity : 0 < 2 ^ format.fraction)
      have same : steps * 2 ^ format.fraction + (2 ^ format.fraction + fraction) =
          (steps + 1 + 1) * 2 ^ format.fraction + 0 := by
        rw [full]
        ring
      have double : format.unit (format.least + (steps + 1 : Nat)) =
          2 * format.unit (format.least + steps) := by
        rw [unit, unit, ← zpow_one_add₀ two_ne_zero]
        congr 1
        push_cast
        ring
      rw [same, value, double, full]
      push_cast
      ring

theorem valueOf_nonneg (format : Format) (magnitude : Nat) : 0 ≤ format.valueOf magnitude := by
  rw [valueOf]
  split_ifs <;> positivity

/-- What is below infinity is below the numbers that round to it. -/
theorem valueOf_lt_overflow {magnitude : Nat} (finite : magnitude < format.infinity) :
    format.valueOf magnitude < format.overflow := by
  have positive : 0 < 2 ^ format.fraction := by positivity
  have whole := Nat.div_add_mod' magnitude (2 ^ format.fraction)
  have small := Nat.mod_lt magnitude positive
  have least : format.least = 1 - format.bias := rfl
  have bias := format.bias_pos
  rw [infinity_eq, ← Nat.div_lt_iff_lt_mul positive] at finite
  rw [← whole]
  cases quotient : magnitude / 2 ^ format.fraction with
  | zero =>
      rw [Nat.zero_mul, Nat.zero_add, valueOf, if_pos (Nat.div_eq_of_lt small)]
      have below : ((magnitude % 2 ^ format.fraction : Nat) : ℚ) < 2 ^ format.fraction := by
        exact_mod_cast small
      calc ((magnitude % 2 ^ format.fraction : Nat) : ℚ) * 2 ^ (format.least - format.fraction)
          < 2 ^ format.fraction * format.unit format.least :=
            mul_lt_mul_of_pos_right below (format.unit_pos _)
        _ = 2 ^ format.least := format.two_pow_fraction_mul_unit _
        _ ≤ 2 ^ (format.bias : Int) := zpow_le_zpow_right₀ one_le_two (by omega)
        _ ≤ format.overflow := format.two_pow_bias_le_overflow
  | succ field =>
      rw [format.valueOf_normal field small]
      have exponent : format.unit (format.least + field) ≤ format.unit format.bias :=
        zpow_le_zpow_right₀ one_le_two (by omega)
      have units : (2 ^ format.fraction + (magnitude % 2 ^ format.fraction : Nat) : ℚ) + 1 ≤
          2 ^ (format.fraction + 1) := by
        have below : ((magnitude % 2 ^ format.fraction : Nat) : ℚ) + 1 ≤ 2 ^ format.fraction := by
          exact_mod_cast small
        rw [pow_succ]
        linarith
      have top : format.overflow =
          (2 ^ (format.fraction + 1) - 1 / 2) * format.unit format.bias := by
        rw [← overflow_div_unit, div_mul_cancel₀ _ (format.unit_pos _).ne']
      rw [top]
      apply mul_lt_mul_of_lt_of_le_of_nonneg_of_pos _ exponent _ (format.unit_pos _)
      · linarith
      · positivity

/-- A number made of units of a rounded one's binade, and not above it, is not above its value. -/
theorem le_valueOf_magnitudeOf {number bound : ℚ} (positive : 0 < number) (whole : Nat)
    (multiple : bound = whole * format.unit (format.binade number)) (below : bound ≤ number)
    (finite : format.magnitudeOf number ≠ format.infinity) :
    bound ≤ format.valueOf (format.magnitudeOf number) := by
  have steps := format.steps_eq number
  have few := format.units_le positive.le
  have many : format.steps number = 0 ∨ 2 ^ format.fraction ≤ format.units number :=
    or_iff_not_imp_left.mpr (le_units positive)
  have counted : whole ≤ format.units number := by
    apply le_roundHalfEven
    rwa [le_div_iff₀ (format.unit_pos _), ← multiple]
  have exponent : format.least + format.steps number = format.binade number := by omega
  have sum : format.magnitudeOf number =
      format.steps number * 2 ^ format.fraction + format.units number := by
    rw [magnitudeOf_of_pos positive] at finite ⊢
    exact min_eq_left (not_le.mp fun reaches => finite (min_eq_right reaches)).le
  rw [sum, format.valueOf_add few many, exponent, multiple]
  have cast : (whole : ℚ) ≤ format.units number := by exact_mod_cast counted
  exact mul_le_mul_of_nonneg_right cast (format.unit_pos _).le

end Format

/-! ## Numbers -/

namespace Number

variable (number : Number format)

def isFinite : Bool := number.magnitude < format.infinity

def isInfinite : Bool := number.magnitude = format.infinity

def isNan : Bool := format.infinity < number.magnitude

/-- The value of a finite number. -/
def value : ℚ := (if number.negative then -1 else 1) * format.valueOf number.magnitude

/-- The number nearest to a rational. -/
def nearest (format : Format) (negative : Bool) (magnitude : ℚ) : Number format where
  negative
  magnitude := format.magnitudeOf magnitude
  fits := format.magnitudeOf_lt magnitude

def infinite (format : Format) (negative : Bool) : Number format where
  negative
  magnitude := format.infinity
  fits := format.infinity_lt

/-- The sign, the exponent and the fraction. -/
def bits : Nat :=
  (if number.negative then 2 ^ (format.exponent + format.fraction) else 0) + number.magnitude

theorem bits_lt : number.bits < 2 ^ (format.exponent + format.fraction + 1) := by
  have fits := number.fits
  rw [bits, pow_succ]
  split_ifs <;> omega

theorem bits_injective {left right : Number format} (same : left.bits = right.bits) :
    left = right := by
  obtain ⟨leftNegative, leftMagnitude, leftFits⟩ := left
  obtain ⟨rightNegative, rightMagnitude, rightFits⟩ := right
  simp only [bits] at same
  cases leftNegative <;> cases rightNegative <;> simp at same ⊢ <;> omega

theorem isInfinite_nearest {magnitude : ℚ} (nonneg : 0 ≤ magnitude) (negative : Bool) :
    (nearest format negative magnitude).isInfinite = true ↔ format.overflow ≤ magnitude := by
  rw [isInfinite, decide_eq_true_eq]
  exact Format.magnitudeOf_eq_infinity_iff nonneg

/-- What is nearest to a number is no NaN. -/
theorem nearest_le_infinity (format : Format) (negative : Bool) (magnitude : ℚ) :
    (nearest format negative magnitude).magnitude ≤ format.infinity := by
  change format.magnitudeOf magnitude ≤ format.infinity
  rw [Format.magnitudeOf]
  split_ifs
  · exact Nat.zero_le _
  · exact min_le_right _ _

theorem isFinite_nearest {magnitude : ℚ} (nonneg : 0 ≤ magnitude) (negative : Bool) :
    (nearest format negative magnitude).isFinite = true ↔ magnitude < format.overflow := by
  have most := nearest_le_infinity format negative magnitude
  rw [← not_le, ← isInfinite_nearest nonneg negative, isFinite, isInfinite, decide_eq_true_eq,
    decide_eq_true_eq]
  omega

theorem nearest_eq_infinite {magnitude : ℚ} (nonneg : 0 ≤ magnitude)
    (large : format.overflow ≤ magnitude) (negative : Bool) :
    nearest format negative magnitude = infinite format negative := by
  rw [nearest, infinite]
  simp only [Number.mk.injEq, true_and]
  exact (Format.magnitudeOf_eq_infinity_iff nonneg).mpr large

/-- The bytes of the bits. -/
def toBeBytes (number : Number format) : List UInt8 :=
  BigEndian.bytes ((format.exponent + format.fraction + 1) / 8) number.bits

theorem toBeBytes_injective (whole : 8 ∣ format.exponent + format.fraction + 1)
    {left right : Number format} (same : left.toBeBytes = right.toBeBytes) : left = right := by
  have power : 256 ^ ((format.exponent + format.fraction + 1) / 8) =
      2 ^ (format.exponent + format.fraction + 1) := by
    obtain ⟨bytes, count⟩ := whole
    rw [count, Nat.mul_div_cancel_left _ (by decide), pow_mul]
    rfl
  apply bits_injective
  apply BigEndian.bytes_injective _ _ same
  · rw [power]
    exact left.bits_lt
  · rw [power]
    exact right.bits_lt

end Number

def binary32 : Format := ⟨23, 8, by decide⟩

def binary64 : Format := ⟨52, 11, by decide⟩

theorem overflow_binary32 : binary32.overflow = 2 ^ 128 - 2 ^ 103 := by
  norm_num [Format.overflow, Format.bias, binary32]

theorem overflow_binary64 : binary64.overflow = 2 ^ 1024 - 2 ^ 970 := by
  norm_num [Format.overflow, Format.bias, binary64]

end BinaryFloat
