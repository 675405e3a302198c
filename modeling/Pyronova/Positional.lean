import Mathlib.Algebra.Order.Floor.Semifield
import Mathlib.Data.Rat.Floor
import Mathlib.Tactic

/-!
# Positional notation

The number a list of digits denotes in a base, and the rational it denotes when its first digit
stands at a given place.  A window onto the digits that begins at or before the first of them
denotes the whole part of the number, scaled to the window's end.
-/

namespace Positional

/-- The number a list of digits denotes, the most significant first. -/
def number (base : Nat) (digits : List Nat) : Nat :=
  digits.foldl (fun number digit => number * base + digit) 0

/-- The rational the digits denote with the first of them at place `weight`. -/
def placed (base : Nat) (digits : List Nat) (weight : Int) : ℚ :=
  ∑ index ∈ Finset.range digits.length,
    ((digits[index]?.getD 0 : Nat) : ℚ) * (base : ℚ) ^ (weight - index)

/-- The digit `index` places after the first; zero outside the digits. -/
def nth (digits : List Nat) (index : Int) : Nat :=
  if index < 0 then 0 else digits[index.toNat]?.getD 0

/-- The digit of a nonnegative rational at a place. -/
def digitAt (base : Nat) (magnitude : ℚ) (place : Int) : Nat :=
  ⌊magnitude / (base : ℚ) ^ place⌋₊ % base

variable {base : Nat} {digits : List Nat}

@[simp] theorem number_nil : number base [] = 0 := rfl

theorem number_concat (digits : List Nat) (digit : Nat) :
    number base (digits ++ [digit]) = number base digits * base + digit := by
  simp [number]

theorem number_append (front back : List Nat) :
    number base (front ++ back) = number base front * base ^ back.length + number base back := by
  induction back using List.reverseRecOn with
  | nil => simp
  | append_singleton back digit induction =>
      rw [← List.append_assoc, number_concat, induction, number_concat, List.length_append,
        List.length_singleton, pow_succ]
      ring

theorem number_of_zeros (zeros : ∀ digit ∈ digits, digit = 0) : number base digits = 0 := by
  induction digits using List.reverseRecOn with
  | nil => rfl
  | append_singleton digits digit induction =>
      have front := induction fun digit member => zeros digit (List.mem_append_left _ member)
      have last := zeros digit (by simp)
      rw [number_concat, front, last, Nat.zero_mul]

theorem number_lt (below : ∀ digit ∈ digits, digit < base) :
    number base digits < base ^ digits.length := by
  induction digits using List.reverseRecOn with
  | nil => simp
  | append_singleton digits digit induction =>
      have front := induction fun digit member => below digit (List.mem_append_left _ member)
      have last := below digit (by simp)
      rw [number_concat, List.length_append, List.length_singleton, pow_succ]
      calc number base digits * base + digit
          < number base digits * base + base := Nat.add_lt_add_left last _
        _ = (number base digits + 1) * base := (Nat.succ_mul _ _).symm
        _ ≤ base ^ digits.length * base := Nat.mul_le_mul_right _ front

/-- Cutting digits off the end divides. -/
theorem number_take (below : ∀ digit ∈ digits, digit < base) (count : Nat) :
    number base (digits.take count) = number base digits / base ^ (digits.length - count) := by
  have small : number base (digits.drop count) < base ^ (digits.length - count) := by
    rw [← List.length_drop]
    exact number_lt fun digit member => below digit (List.mem_of_mem_drop member)
  have split := @number_append base (digits.take count) (digits.drop count)
  rw [List.take_append_drop, List.length_drop] at split
  rw [split, Nat.mul_comm, Nat.mul_add_div (by omega), Nat.div_eq_of_lt small, Nat.add_zero]

/-- The digit `place` places from the end. -/
theorem number_div_mod (below : ∀ digit ∈ digits, digit < base) (place : Nat) :
    number base digits / base ^ place % base = (digits.reverse[place]?).getD 0 := by
  induction digits using List.reverseRecOn generalizing place with
  | nil => simp
  | append_singleton digits digit induction =>
      have last : digit < base := below digit (by simp)
      have front := induction fun digit member => below digit (List.mem_append_left _ member)
      rw [number_concat, List.reverse_append, List.reverse_singleton, List.singleton_append]
      cases place with
      | zero => simp [Nat.mod_eq_of_lt last]
      | succ place =>
          have shifted : (number base digits * base + digit) / base = number base digits := by
            rw [Nat.mul_comm, Nat.mul_add_div (by omega), Nat.div_eq_of_lt last, Nat.add_zero]
          rw [pow_succ', ← Nat.div_div_eq_div_mul, shifted, front, List.getElem?_cons_succ]

/-! ## Digits at a place -/

theorem placed_eq (positive : 0 < base) (digits : List Nat) (weight : Int) :
    placed base digits weight =
      number base digits * (base : ℚ) ^ (weight + 1 - digits.length) := by
  have nonzero : (base : ℚ) ≠ 0 := by positivity
  induction digits using List.reverseRecOn with
  | nil => simp [placed]
  | append_singleton digits digit induction =>
      have front : ∀ index ∈ Finset.range digits.length,
          (((digits ++ [digit])[index]?.getD 0 : Nat) : ℚ) * (base : ℚ) ^ (weight - index) =
            ((digits[index]?.getD 0 : Nat) : ℚ) * (base : ℚ) ^ (weight - index) := by
        intro index member
        rw [List.getElem?_append_left (Finset.mem_range.mp member)]
      have step : (base : ℚ) ^ (weight + 1 - digits.length) =
          base * (base : ℚ) ^ (weight - digits.length) := by
        rw [← zpow_one_add₀ nonzero]
        congr 1
        omega
      have place : weight + 1 - ((digits.length + 1 : Nat) : Int) = weight - digits.length := by
        omega
      rw [placed, List.length_append, List.length_singleton, Finset.sum_range_succ,
        Finset.sum_congr rfl front, ← placed, induction, number_concat, step, place,
        List.getElem?_concat_length, Option.getD_some]
      push_cast
      ring

/-- Zeros on both sides of the digits denote nothing. -/
theorem placed_of_zeros (positive : 0 < base) {front back : List Nat} (digits : List Nat)
    (zerosFront : ∀ digit ∈ front, digit = 0) (zerosBack : ∀ digit ∈ back, digit = 0)
    (weight : Int) :
    placed base (front ++ digits ++ back) weight = placed base digits (weight - front.length) := by
  have nonzero : (base : ℚ) ≠ 0 := by positivity
  have exponent : weight - front.length + 1 - digits.length =
      (back.length : Int) + (weight + 1 - (front ++ digits ++ back).length) := by
    rw [List.length_append, List.length_append]
    omega
  rw [placed_eq positive, placed_eq positive, number_append, number_append,
    number_of_zeros zerosFront, number_of_zeros zerosBack, Nat.zero_mul, Nat.zero_add,
    Nat.add_zero, exponent, zpow_add₀ nonzero, zpow_natCast, ← mul_assoc, Nat.cast_mul,
    Nat.cast_pow]

theorem floor_scaled_sub (number : Nat) (places : Nat) :
    ⌊(number : ℚ) * (base : ℚ) ^ (-(places : Int))⌋₊ = number / base ^ places := by
  have quotient : (number : ℚ) * (base : ℚ) ^ (-(places : Int)) =
      (number : ℚ) / ((base ^ places : Nat) : ℚ) := by
    rw [zpow_neg, zpow_natCast, ← div_eq_mul_inv, Nat.cast_pow]
  rw [quotient, Nat.floor_div_eq_div]

/-- Every digit is found at its place, and zeros before the first and after the last. -/
theorem digitAt_placed (positive : 0 < base) (below : ∀ digit ∈ digits, digit < base)
    (weight place : Int) :
    digitAt base (placed base digits weight) place = nth digits (weight - place) := by
  have nonzero : (base : ℚ) ≠ 0 := by positivity
  have scaled : placed base digits weight / (base : ℚ) ^ place =
      number base digits * (base : ℚ) ^ (weight + 1 - digits.length - place) := by
    rw [placed_eq positive, mul_div_assoc, ← zpow_sub₀ nonzero]
  rw [digitAt, scaled, nth]
  rcases le_or_gt (digits.length : Int) (weight - place) with beyond | within
  · -- after the last digit: the scaled number is a multiple of the base
    obtain ⟨places, exponent⟩ : ∃ places : Nat,
        weight + 1 - digits.length - place = ((places + 1 : Nat) : Int) :=
      ⟨(weight - place - digits.length).toNat, by omega⟩
    have whole : (number base digits : ℚ) * (base : ℚ) ^ ((places + 1 : Nat) : Int) =
        ((number base digits * base ^ places * base : Nat) : ℚ) := by
      rw [zpow_natCast]
      push_cast
      ring
    have outside : digits.length ≤ (weight - place).toNat := by omega
    have late : ¬ weight - place < 0 := by omega
    rw [exponent, whole, Nat.floor_natCast, Nat.mul_mod_left, if_neg late,
      List.getElem?_eq_none outside, Option.getD_none]
  · obtain ⟨places, exponent⟩ : ∃ places : Nat,
        weight + 1 - digits.length - place = -(places : Int) :=
      ⟨(digits.length - 1 - (weight - place)).toNat, by omega⟩
    rw [exponent, floor_scaled_sub, number_div_mod below]
    by_cases early : weight - place < 0
    · have outside : digits.reverse.length ≤ places := by
        rw [List.length_reverse]
        omega
      rw [if_pos early, List.getElem?_eq_none outside, Option.getD_none]
    · have fromEnd : places < digits.length := by omega
      have position : digits.length - 1 - places = (weight - place).toNat := by omega
      rw [if_neg early, List.getElem?_reverse fromEnd, position]

/-- The first digit, not zero, is at the greatest place with a digit. -/
theorem isGreatest_place (positive : 0 < base) {first : Nat} {rest : List Nat}
    (below : ∀ digit ∈ first :: rest, digit < base) (nonzero : first ≠ 0) (weight : Int) :
    IsGreatest {place | digitAt base (placed base (first :: rest) weight) place ≠ 0} weight := by
  constructor
  · simpa [digitAt_placed positive below, nth] using nonzero
  · intro place present
    have digit : digitAt base (placed base (first :: rest) weight) place ≠ 0 := present
    rw [digitAt_placed positive below, nth] at digit
    by_contra beyond
    exact digit (if_pos (by omega))

/-- The last digit, not zero, is at the least place with a digit. -/
theorem isLeast_place (positive : 0 < base) {front : List Nat} {last : Nat}
    (below : ∀ digit ∈ front ++ [last], digit < base) (nonzero : last ≠ 0) (weight : Int) :
    IsLeast {place | digitAt base (placed base (front ++ [last]) weight) place ≠ 0}
      (weight - front.length) := by
  constructor
  · have index : weight - (weight - front.length) = front.length := by omega
    simpa [digitAt_placed positive below, nth, index] using nonzero
  · intro place present
    have digit : digitAt base (placed base (front ++ [last]) weight) place ≠ 0 := present
    rw [digitAt_placed positive below, nth] at digit
    by_contra before
    have outside : (front ++ [last]).length ≤ (weight - place).toNat := by
      rw [List.length_append, List.length_singleton]
      omega
    rw [if_neg (by omega), List.getElem?_eq_none outside] at digit
    exact digit rfl

/-- Multiplying by the base shifts in the digit at the place of the units. -/
theorem floor_mul_base (positive : 0 < base) (magnitude : ℚ) :
    ⌊magnitude * base⌋₊ = ⌊magnitude⌋₊ * base + ⌊magnitude * base⌋₊ % base := by
  have nonzero : (base : ℚ) ≠ 0 := by positivity
  have units : ⌊magnitude * base⌋₊ / base = ⌊magnitude⌋₊ := by
    rw [← Nat.floor_div_natCast, mul_div_cancel_right₀ _ nonzero]
  rw [← units]
  exact (Nat.div_add_mod' _ _).symm

/-- A window that begins at or before the first digit denotes the whole part of the number,
scaled to the window's end. -/
theorem number_window (positive : 0 < base) (below : ∀ digit ∈ digits, digit < base)
    (weight : Int) {start : Int} (early : start ≤ 0) (count : Nat) :
    number base ((List.range count).map fun index : Nat => nth digits (start + index)) =
      ⌊placed base digits weight / (base : ℚ) ^ (weight + 1 - start - count)⌋₊ := by
  have nonzero : (base : ℚ) ≠ 0 := by positivity
  induction count with
  | zero =>
      have small : placed base digits weight < (base : ℚ) ^ (weight + 1) := by
        have bound : (number base digits : ℚ) < (base : ℚ) ^ (digits.length : Int) := by
          rw [zpow_natCast]
          exact_mod_cast number_lt below
        calc placed base digits weight
            = number base digits * (base : ℚ) ^ (weight + 1 - digits.length) :=
              placed_eq positive digits weight
          _ < (base : ℚ) ^ (digits.length : Int) * (base : ℚ) ^ (weight + 1 - digits.length) := by
              gcongr
          _ = (base : ℚ) ^ (weight + 1) := by
              rw [← zpow_add₀ nonzero]
              congr 1
              omega
      have oneLe : (1 : ℚ) ≤ base := by exact_mod_cast positive
      have wider : (base : ℚ) ^ (weight + 1) ≤ (base : ℚ) ^ (weight + 1 - start - (0 : Nat)) :=
        zpow_le_zpow_right₀ oneLe (by omega)
      have fraction : placed base digits weight /
          (base : ℚ) ^ (weight + 1 - start - (0 : Nat)) < 1 := by
        rw [div_lt_one (by positivity)]
        exact lt_of_lt_of_le small wider
      rw [List.range_zero, List.map_nil, number_nil, Nat.floor_eq_zero.mpr fraction]
  | succ count induction =>
      have shift : placed base digits weight /
          (base : ℚ) ^ (weight + 1 - start - ((count + 1 : Nat) : Int)) =
            placed base digits weight / (base : ℚ) ^ (weight + 1 - start - (count : Int)) *
              base := by
        have exponent : weight + 1 - start - (count : Int) =
            weight + 1 - start - ((count + 1 : Nat) : Int) + 1 := by omega
        rw [exponent, zpow_add_one₀ nonzero]
        field_simp
      have digit : nth digits (start + count) =
          digitAt base (placed base digits weight)
            (weight + 1 - start - ((count + 1 : Nat) : Int)) := by
        rw [digitAt_placed positive below]
        congr 1
        omega
      rw [List.range_succ, List.map_append, List.map_singleton, number_concat, induction, shift,
        floor_mul_base positive, digit, digitAt, shift]

end Positional
