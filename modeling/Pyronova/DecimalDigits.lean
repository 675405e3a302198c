import Mathlib.Data.List.DropRight
import Mathlib.Data.List.Infix
import Mathlib.Tactic
import Pyronova.Positional

/-!
# Decimal digit strings

The number a string of decimal digits denotes, and its printed forms: without leading zeros, and
padded to a width.  Printing the value of a digit string gives the string back, up to the zeros in
front.
-/

namespace DecimalDigits

/-- The digit a character stands for. -/
def digitValue (digit : Char) : Nat := digit.toNat - '0'.toNat

/-- The number a digit string denotes. -/
def value (digits : List Char) : Nat :=
  digits.foldl (fun number digit => number * 10 + digitValue digit) 0

/-- The digits from the first that is not zero on. -/
def stripped (digits : List Char) : List Char := digits.dropWhile (· == '0')

/-- A number in decimal, with zeros in front up to `width` digits. -/
def padded (width number : Nat) : List Char := (Nat.toDigits 10 number).leftpad width '0'

/-- All characters are ASCII digits. -/
def AllDigits (digits : List Char) : Prop := ∀ digit ∈ digits, digit.isDigit

variable {digits : List Char} {digit : Char}

@[simp] theorem value_nil : value [] = 0 := rfl

theorem value_concat (digits : List Char) (digit : Char) :
    value (digits ++ [digit]) = value digits * 10 + digitValue digit := by
  simp [value]

theorem digitChar_digitValue (isDigit : digit.isDigit) :
    Nat.digitChar (digitValue digit) = digit := by
  have bounds : 48 ≤ digit.toNat ∧ digit.toNat ≤ 57 := by
    simpa [Char.isDigit, UInt32.le_iff_toNat_le] using isDigit
  obtain ⟨lower, upper⟩ := bounds
  have small : digitValue digit < 10 := by
    change digit.toNat - 48 < 10
    omega
  apply Char.toNat_inj.mp
  rw [Nat.toNat_digitChar_of_lt_ten small]
  change 48 + (digit.toNat - 48) = digit.toNat
  omega

theorem digitValue_lt (isDigit : digit.isDigit) : digitValue digit < 10 := by
  have bounds : 48 ≤ digit.toNat ∧ digit.toNat ≤ 57 := by
    simpa [Char.isDigit, UInt32.le_iff_toNat_le] using isDigit
  change digit.toNat - 48 < 10
  omega

theorem digitValue_eq_zero (isDigit : digit.isDigit) : digitValue digit = 0 ↔ digit = '0' := by
  constructor
  · intro zero
    rw [← digitChar_digitValue isDigit, zero]
    rfl
  · rintro rfl
    rfl

theorem AllDigits.of_append {front back : List Char} (all : AllDigits (front ++ back)) :
    AllDigits front ∧ AllDigits back :=
  ⟨fun digit member => all digit (List.mem_append_left _ member),
    fun digit member => all digit (List.mem_append_right _ member)⟩

theorem AllDigits.append {front back : List Char} (allFront : AllDigits front)
    (allBack : AllDigits back) : AllDigits (front ++ back) := by
  intro digit member
  rcases List.mem_append.mp member with member | member
  · exact allFront digit member
  · exact allBack digit member

theorem allDigits_replicate (count : Nat) : AllDigits (List.replicate count '0') := by
  intro digit member
  rw [List.eq_of_mem_replicate member]
  rfl

theorem value_lt (all : AllDigits digits) : value digits < 10 ^ digits.length := by
  induction digits using List.reverseRecOn with
  | nil => simp
  | append_singleton digits digit induction =>
      have front := induction all.of_append.1
      have last := digitValue_lt (all digit (by simp))
      rw [value_concat, List.length_append, List.length_singleton, pow_succ]
      omega

theorem value_eq_zero (all : AllDigits digits) :
    value digits = 0 ↔ ∀ digit ∈ digits, digit = '0' := by
  induction digits using List.reverseRecOn with
  | nil => simp
  | append_singleton digits digit induction =>
      have last := digitValue_eq_zero (all digit (by simp))
      have front := induction all.of_append.1
      have sum : value digits * 10 + digitValue digit = 0 ↔
          value digits = 0 ∧ digitValue digit = 0 := by omega
      rw [value_concat, sum, front, last]
      simp [or_imp, forall_and]

theorem stripped_eq_nil : stripped digits = [] ↔ ∀ digit ∈ digits, digit = '0' := by
  simp [stripped]

theorem value_pos (all : AllDigits digits) : 0 < value digits ↔ stripped digits ≠ [] := by
  rw [Nat.pos_iff_ne_zero, ne_eq, ne_eq, value_eq_zero all, stripped_eq_nil]

theorem stripped_replicate_append (count : Nat) (digits : List Char) :
    stripped (List.replicate count '0' ++ digits) = stripped digits := by
  have zeros : (List.replicate count '0').dropWhile (· == '0') = [] := by
    rw [List.dropWhile_eq_nil_iff]
    intro digit member
    rw [List.eq_of_mem_replicate member]
    rfl
  rw [stripped, List.dropWhile_append, zeros]
  rfl

/-- The zeros in front make a digit string of its significant part. -/
theorem replicate_append_stripped (digits : List Char) :
    List.replicate (digits.length - (stripped digits).length) '0' ++ stripped digits = digits := by
  induction digits with
  | nil => rfl
  | cons digit digits induction =>
      by_cases zero : digit = '0'
      · subst zero
        have shorter : (stripped digits).length ≤ digits.length :=
          (List.dropWhile_suffix _).length_le
        have dropped : stripped ('0' :: digits) = stripped digits := by simp [stripped]
        rw [dropped, List.length_cons, Nat.succ_sub shorter, List.replicate_succ, List.cons_append,
          induction]
      · have kept : stripped (digit :: digits) = digit :: digits := by simp [stripped, zero]
        rw [kept, Nat.sub_self]
        rfl

/-- A number prints as the significant part of any digits that denote it. -/
theorem toDigits_value (all : AllDigits digits) (positive : 0 < value digits) :
    Nat.toDigits 10 (value digits) = stripped digits := by
  induction digits using List.reverseRecOn with
  | nil => simp at positive
  | append_singleton digits digit induction =>
      have isDigit : digit.isDigit := all digit (by simp)
      have front := all.of_append.1
      have small := digitValue_lt isDigit
      have printed : Nat.toDigits 10 (digitValue digit) = [digit] := by
        rw [Nat.toDigits_of_lt_base small, digitChar_digitValue isDigit]
      rw [value_concat] at positive ⊢
      by_cases zero : value digits = 0
      · have allZero := (value_eq_zero front).mp zero
        have notZero : digit ≠ '0' := by
          rintro rfl
          simp [zero, digitValue] at positive
        rw [zero, Nat.zero_mul, Nat.zero_add, printed, stripped, List.dropWhile_append,
          List.dropWhile_eq_nil_iff.mpr (by simpa using allZero)]
        simp [notZero]
      · have frontPositive : 0 < value digits := Nat.pos_of_ne_zero zero
        have nonempty := (value_pos front).mp frontPositive
        rw [Nat.mul_comm, ← Nat.toDigits_append_toDigits (by decide) frontPositive small, printed,
          induction front frontPositive]
        have kept : (digits.dropWhile (· == '0')).isEmpty = false := by
          simpa [stripped] using nonempty
        rw [stripped, stripped, List.dropWhile_append, kept]
        rfl

/-- A digit string is its value printed at its width. -/
theorem padded_value (all : AllDigits digits) (nonempty : digits ≠ []) :
    padded digits.length (value digits) = digits := by
  have split := replicate_append_stripped digits
  by_cases zero : value digits = 0
  · have allZero := (value_eq_zero all).mp zero
    have replicated := List.eq_replicate_of_mem allZero
    have width : digits.length - 1 + 1 = digits.length :=
      Nat.sub_add_cancel (List.length_pos_iff.mpr nonempty)
    rw [padded, zero, Nat.toDigits_zero, List.leftpad, List.length_singleton,
      ← List.replicate_succ', width]
    exact replicated.symm
  · rw [padded, toDigits_value all (Nat.pos_of_ne_zero zero)]
    exact split

/-! ## The value of what is printed -/

theorem value_eq_number (digits : List Char) :
    value digits = Positional.number 10 (digits.map digitValue) := by
  rw [value, Positional.number, List.foldl_map]

theorem value_append (front back : List Char) :
    value (front ++ back) = value front * 10 ^ back.length + value back := by
  rw [value_eq_number, List.map_append, Positional.number_append, List.length_map,
    ← value_eq_number, ← value_eq_number]

theorem value_take (all : AllDigits digits) (count : Nat) :
    value (digits.take count) = value digits / 10 ^ (digits.length - count) := by
  have below : ∀ digit ∈ digits.map digitValue, digit < 10 := by
    intro digit member
    obtain ⟨char, kept, rfl⟩ := List.mem_map.mp member
    exact digitValue_lt (all char kept)
  rw [value_eq_number, List.map_take, Positional.number_take below, List.length_map,
    ← value_eq_number]

theorem value_toDigits (number : Nat) : value (Nat.toDigits 10 number) = number := by
  have printed := @Nat.ofDigitChars_ten_toDigits number
  rw [Nat.ofDigitChars_eq_foldl] at printed
  simpa only [value, digitValue, Nat.mul_comm] using printed

theorem allDigits_toDigits (number : Nat) : AllDigits (Nat.toDigits 10 number) :=
  fun _ member => Nat.isDigit_of_mem_toDigits (by decide) (by decide) member

theorem value_replicate (count : Nat) : value (List.replicate count '0') = 0 :=
  (value_eq_zero (allDigits_replicate count)).mpr fun _ member => List.eq_of_mem_replicate member

theorem value_replicate_append (count : Nat) (digits : List Char) :
    value (List.replicate count '0' ++ digits) = value digits := by
  rw [value_append, value_replicate, Nat.zero_mul, Nat.zero_add]

theorem value_padded (width number : Nat) : value (padded width number) = number := by
  rw [padded, List.leftpad, value_replicate_append, value_toDigits]

theorem value_stripped (digits : List Char) : value (stripped digits) = value digits := by
  rw [← value_replicate_append (digits.length - (stripped digits).length) (stripped digits),
    replicate_append_stripped]

theorem allDigits_padded (width number : Nat) : AllDigits (padded width number) :=
  (allDigits_replicate _).append (allDigits_toDigits number)

theorem length_padded {width number : Nat} (nonempty : 0 < width) (small : number < 10 ^ width) :
    (padded width number).length = width := by
  have short := (Nat.length_toDigits_le_iff (by decide) nonempty).mpr small
  rw [padded, List.length_leftpad, Nat.max_eq_left short]

/-- Digits of one number differ only in the zeros in front. -/
theorem stripped_eq_of_value {left right : List Char} (allLeft : AllDigits left)
    (allRight : AllDigits right) (same : value left = value right) :
    stripped left = stripped right := by
  by_cases zero : value left = 0
  · have leftZero := stripped_eq_nil.mpr ((value_eq_zero allLeft).mp zero)
    have rightZero := stripped_eq_nil.mpr ((value_eq_zero allRight).mp (same ▸ zero))
    rw [leftZero, rightZero]
  · have positive : 0 < value left := Nat.pos_of_ne_zero zero
    rw [← toDigits_value allLeft positive, same, toDigits_value allRight (same ▸ positive)]

theorem eq_of_value {left right : List Char} (allLeft : AllDigits left)
    (allRight : AllDigits right) (length : left.length = right.length)
    (same : value left = value right) : left = right := by
  rw [← replicate_append_stripped left, ← replicate_append_stripped right, length,
    stripped_eq_of_value allLeft allRight same]

end DecimalDigits
