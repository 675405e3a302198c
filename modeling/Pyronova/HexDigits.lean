import Mathlib.Tactic
import Pyronova.Positional

/-!
# Hexadecimal digit strings

A number printed in lower-case hexadecimal with zeros in front up to a width, and the number such a
string denotes.
-/

namespace HexDigits

/-- A lower-case hexadecimal digit. -/
def isHexDigit (digit : Char) : Bool := "0123456789abcdef".toList.contains digit

/-- The digit a character stands for. -/
def digitValue (digit : Char) : Nat :=
  if digit.isDigit then digit.toNat - '0'.toNat else digit.toNat - 'a'.toNat + 10

/-- The number a digit string denotes. -/
def value (digits : List Char) : Nat := Positional.number 16 (digits.map digitValue)

/-- A number in hexadecimal, with zeros in front up to `width` digits. -/
def padded (width number : Nat) : List Char := (Nat.toDigits 16 number).leftpad width '0'

theorem digitValue_digitChar {digit : Nat} (small : digit < 16) :
    digitValue digit.digitChar = digit := by
  interval_cases digit <;> rfl

theorem isHexDigit_digitChar {digit : Nat} (small : digit < 16) :
    isHexDigit digit.digitChar = true := by
  interval_cases digit <;> rfl

/-- The last digit stands for the remainder, those before it for the quotient. -/
theorem toDigits_induction {motive : Nat → List Char → Prop}
    (short : ∀ digit < 16, motive digit [digit.digitChar])
    (long : ∀ number digits, ∀ digit < 16, motive number digits →
      motive (number * 16 + digit) (digits ++ [digit.digitChar]))
    (number : Nat) : motive number (Nat.toDigits 16 number) := by
  induction number using Nat.strong_induction_on with
  | h number induction =>
      rcases Nat.lt_or_ge number 16 with small | large
      · rw [Nat.toDigits_of_lt_base small]
        exact short number small
      · have smaller : number / 16 < number := Nat.div_lt_self (by omega) (by decide)
        have last := long _ _ (number % 16) (Nat.mod_lt _ (by decide)) (induction _ smaller)
        rw [Nat.div_add_mod'] at last
        rw [Nat.toDigits_of_base_le (by decide) large]
        exact last

theorem value_toDigits (number : Nat) : value (Nat.toDigits 16 number) = number := by
  refine toDigits_induction (motive := fun number digits => value digits = number) ?_ ?_ number
  · intro digit small
    rw [value, List.map_singleton, digitValue_digitChar small]
    simp [Positional.number]
  · intro front digits digit small same
    rw [value, List.map_append, List.map_singleton, Positional.number_concat,
      digitValue_digitChar small, ← value, same]

theorem isHexDigit_of_mem_toDigits (number : Nat) :
    ∀ digit ∈ Nat.toDigits 16 number, isHexDigit digit = true := by
  refine toDigits_induction
    (motive := fun _ digits => ∀ digit ∈ digits, isHexDigit digit = true) ?_ ?_ number
  · intro digit small
    rw [List.forall_mem_singleton]
    exact isHexDigit_digitChar small
  · intro _ digits digit small all
    rw [List.forall_mem_append, List.forall_mem_singleton]
    exact ⟨all, isHexDigit_digitChar small⟩

theorem value_padded (width number : Nat) : value (padded width number) = number := by
  have zeros : Positional.number 16
      ((List.replicate (width - (Nat.toDigits 16 number).length) '0').map digitValue) = 0 := by
    refine Positional.number_of_zeros fun digit member => ?_
    rw [List.map_replicate] at member
    exact List.eq_of_mem_replicate member
  rw [padded, List.leftpad, value, List.map_append, Positional.number_append, zeros, Nat.zero_mul,
    Nat.zero_add, ← value, value_toDigits]

theorem padded_injective (width : Nat) : Function.Injective (padded width) := by
  intro left right same
  have values := congrArg value same
  rwa [value_padded, value_padded] at values

theorem length_padded {width number : Nat} (positive : 0 < width) (small : number < 16 ^ width) :
    (padded width number).length = width := by
  have short := (Nat.length_toDigits_le_iff (by decide) positive).mpr small
  rw [padded, List.length_leftpad, Nat.max_eq_left short]

theorem isHexDigit_of_mem_padded (width number : Nat) :
    ∀ digit ∈ padded width number, isHexDigit digit = true := by
  intro digit member
  rw [padded, List.leftpad] at member
  rcases List.mem_append.mp member with zero | printed
  · rw [List.eq_of_mem_replicate zero]
    rfl
  · exact isHexDigit_of_mem_toDigits number digit printed

end HexDigits
