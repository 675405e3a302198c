import Mathlib.Tactic
import Pyronova.Positional

/-!
# Big-endian bytes

A number below a power of 256 as so many bytes, the most significant first, and a signed number in
two's complement.
-/

namespace BigEndian

def bytes : Nat → Nat → List UInt8
  | 0, _ => []
  | width + 1, number => bytes width (number / 256) ++ [UInt8.ofNat number]

def value (bytes : List UInt8) : Nat := Positional.number 256 (bytes.map UInt8.toNat)

/-- In two's complement. -/
def signedBytes (width : Nat) (number : Int) : List UInt8 :=
  bytes width (number % (256 ^ width : Nat)).toNat

def signedValue (bytes : List UInt8) : Int := (value bytes : Int).bmod (256 ^ bytes.length)

variable {width number : Nat}

@[simp] theorem length_bytes (width number : Nat) : (bytes width number).length = width := by
  induction width generalizing number with
  | zero => rfl
  | succ width induction => rw [bytes, List.length_append, induction, List.length_singleton]

theorem value_bytes (small : number < 256 ^ width) : value (bytes width number) = number := by
  induction width generalizing number with
  | zero =>
      have zero : number = 0 := by simpa using small
      rw [zero]
      rfl
  | succ width induction =>
      have high : number / 256 < 256 ^ width := by
        rw [Nat.div_lt_iff_lt_mul (by decide)]
        rwa [pow_succ] at small
      have front := induction high
      have last : (UInt8.ofNat number).toNat = number % 256 := UInt8.toNat_ofNat'
      rw [value] at front ⊢
      rw [bytes, List.map_append, List.map_singleton, Positional.number_concat, front, last]
      omega

theorem value_concat (front : List UInt8) (last : UInt8) :
    value (front ++ [last]) = value front * 256 + last.toNat := by
  rw [value, List.map_append, List.map_singleton, Positional.number_concat, ← value]

theorem bytes_value (digits : List UInt8) : bytes digits.length (value digits) = digits := by
  induction digits using List.reverseRecOn with
  | nil => rfl
  | append_singleton front last induction =>
      have high : (value front * 256 + last.toNat) / 256 = value front := by
        have small := last.toNat_lt
        omega
      have low : UInt8.ofNat (value front * 256 + last.toNat) = last := by
        apply UInt8.toNat_inj.mp
        have small := last.toNat_lt
        rw [UInt8.toNat_ofNat']
        omega
      rw [List.length_append, List.length_singleton, bytes, value_concat, high, low, induction]

theorem value_lt (digits : List UInt8) : value digits < 256 ^ digits.length := by
  have below := @Positional.number_lt 256 (digits.map UInt8.toNat) fun digit member => by
    obtain ⟨byte, -, rfl⟩ := List.mem_map.mp member
    exact byte.toNat_lt
  rwa [List.length_map] at below

theorem bytes_injective {other : Nat} (small : number < 256 ^ width)
    (otherSmall : other < 256 ^ width) (same : bytes width number = bytes width other) :
    number = other := by
  rw [← value_bytes small, same, value_bytes otherSmall]

@[simp] theorem length_signedBytes (width : Nat) (number : Int) :
    (signedBytes width number).length = width := length_bytes _ _

theorem signedValue_signedBytes {number : Int} (lower : -(256 ^ width : Nat) ≤ number * 2)
    (upper : number * 2 < (256 ^ width : Nat)) :
    signedValue (signedBytes width number) = number := by
  have positive : 0 < 256 ^ width := by positivity
  have nonneg := Int.emod_nonneg number (by omega : ((256 ^ width : Nat) : Int) ≠ 0)
  have below := Int.emod_lt_of_pos number (by omega : (0 : Int) < (256 ^ width : Nat))
  have small : (number % (256 ^ width : Nat)).toNat < 256 ^ width := by omega
  rw [signedValue, length_signedBytes, signedBytes, value_bytes small, Int.toNat_of_nonneg nonneg,
    Int.emod_bmod]
  exact Int.bmod_eq_of_le_mul_two lower upper

end BigEndian
