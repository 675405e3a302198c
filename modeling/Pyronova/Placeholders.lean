import Mathlib.Tactic
import Pyronova.DecimalDigits
import Pyronova.Json

/-!
# Numbered placeholders

The places of a query's arguments are written into its text as `$1`, `$2` and so on.  The numbers
are read back from the text: from each `$` on, as far as there are digits.
-/

namespace Placeholders

open Json (CodePoint Text codePoint)

/-- `$`. -/
def mark : CodePoint := codePoint '$'

def isDigit (given : CodePoint) : Bool := 0x30 ≤ given.val && given.val ≤ 0x39

def number (digits : Text) : Nat := Positional.number 10 (digits.map fun digit => digit.val - 0x30)

/-- The numbers of the placeholders in a text, from left to right. -/
def placeholders : Text → List Nat
  | [] => []
  | first :: rest =>
      if first = mark then number (rest.takeWhile isDigit) :: placeholders rest
      else placeholders rest

def decimal (number : Nat) : Text := (Nat.toDigits 10 number).map codePoint

/-- `$n`. -/
def placeholder (number : Nat) : Text := mark :: decimal number

/-- A number ends here. -/
def Ends (rest : Text) : Prop := ∀ first ∈ rest.head?, isDigit first = false

/-- The text holds these placeholders, whatever follows that does not go on with a digit. -/
def Holds (text : Text) (numbers : List Nat) : Prop :=
  ∀ rest, Ends rest → placeholders (text ++ rest) = numbers ++ placeholders rest

variable {text more separator : Text} {numbers others : List Nat}

theorem number_decimal (given : Nat) : number (decimal given) = given := by
  have digits : (decimal given).map (fun digit => digit.val - 0x30) =
      (Nat.toDigits 10 given).map DecimalDigits.digitValue := by
    rw [decimal, List.map_map]
    rfl
  rw [number, digits, ← DecimalDigits.value_eq_number, DecimalDigits.value_toDigits]

theorem isDigit_of_mem_decimal {given : Nat} {digit : CodePoint} (member : digit ∈ decimal given) :
    isDigit digit = true := by
  obtain ⟨c, inDigits, rfl⟩ := List.mem_map.mp member
  have isDigit : c.isDigit = true := DecimalDigits.allDigits_toDigits given c inDigits
  have bounds : 48 ≤ c.toNat ∧ c.toNat ≤ 57 := by
    simpa [Char.isDigit, UInt32.le_iff_toNat_le] using isDigit
  rw [Placeholders.isDigit, Bool.and_eq_true, decide_eq_true_eq, decide_eq_true_eq]
  exact bounds

theorem mark_notMem_decimal (given : Nat) : mark ∉ decimal given := by
  intro member
  have digit := isDigit_of_mem_decimal member
  revert digit
  decide

theorem ends_nil : Ends [] := by
  rintro first ⟨⟩

theorem Ends.append (ends : Ends text) (nonempty : text ≠ []) (rest : Text) :
    Ends (text ++ rest) := by
  rwa [Ends, List.head?_append_of_ne_nil _ nonempty]

theorem takeWhile_decimal (given : Nat) {rest : Text} (ends : Ends rest) :
    (decimal given ++ rest).takeWhile isDigit = decimal given := by
  rw [List.takeWhile_append_of_pos fun digit => isDigit_of_mem_decimal]
  cases rest with
  | nil => simp
  | cons first rest =>
      have stops : isDigit first = false := ends first rfl
      simp [stops]

/-! ## Texts put together -/

theorem placeholders_append (clear : mark ∉ text) (rest : Text) :
    placeholders (text ++ rest) = placeholders rest := by
  induction text with
  | nil => rfl
  | cons first text induction =>
      obtain ⟨other, later⟩ : mark ≠ first ∧ mark ∉ text := by simpa using clear
      rw [List.cons_append, placeholders, if_neg (Ne.symm other), induction later]

theorem Holds.of_clear (clear : mark ∉ text) : Holds text [] :=
  fun rest _ => placeholders_append clear rest

theorem holds_placeholder (given : Nat) : Holds (placeholder given) [given] := by
  intro rest ends
  rw [placeholder, List.cons_append, placeholders, if_pos rfl, takeWhile_decimal given ends,
    number_decimal, placeholders_append (mark_notMem_decimal given)]
  rfl

theorem Holds.append_clear (clear : mark ∉ text) (holds : Holds more numbers) :
    Holds (text ++ more) numbers := by
  intro rest ends
  rw [List.append_assoc, placeholders_append clear, holds rest ends]

theorem Holds.append (holds : Holds text numbers) (following : Holds more others)
    (ends : Ends more) (nonempty : more ≠ []) : Holds (text ++ more) (numbers ++ others) := by
  intro rest parted
  rw [List.append_assoc, holds _ (ends.append nonempty rest), following rest parted,
    List.append_assoc]

/-- Words between separators, each with its placeholders. -/
theorem holds_intercalate (clear : mark ∉ separator) (ends : Ends separator)
    (nonempty : separator ≠ []) {words : List Text} {numbers : List (List Nat)}
    (each : List.Forall₂ Holds words numbers) :
    Holds (separator.intercalate words) numbers.flatten := by
  induction each with
  | nil => exact Holds.of_clear (by simp)
  | @cons word first words numbers holds each induction =>
      cases each with
      | nil => simpa using holds
      | @cons next second words numbers _ _ =>
          have after : Holds (separator ++ separator.intercalate (next :: words)) _ :=
            induction.append_clear clear
          rw [List.intercalate_cons_cons, List.append_assoc, List.flatten_cons]
          exact holds.append after (ends.append nonempty _) (by simp [nonempty])

theorem Holds.eq (holds : Holds text numbers) : placeholders text = numbers := by
  have whole := holds [] ends_nil
  rwa [List.append_nil, placeholders, List.append_nil] at whole

end Placeholders
