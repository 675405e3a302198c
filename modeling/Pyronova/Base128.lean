import Mathlib.Tactic

/-!
# Numbers in groups of seven bits

A number as bytes of seven bits each, the least significant first, where every byte but the last
has its high bit set.  A byte string begins with at most one such number, which need not be the
shortest that denotes the same.
-/

namespace Base128

/-- The number that the low seven bits of the bytes denote. -/
def value : List UInt8 → Nat
  | [] => 0
  | byte :: rest => byte.toNat % 128 + 128 * value rest

/-- Exactly the last byte has its high bit clear. -/
def Terminated : List UInt8 → Prop
  | [] => False
  | byte :: rest => if byte.toNat < 128 then rest = [] else Terminated rest

/-- The shortest bytes of a number. -/
def encode (number : Nat) : List UInt8 :=
  if number < 128 then [UInt8.ofNat number]
  else UInt8.ofNat (number % 128 + 128) :: encode (number / 128)

theorem encode_of_lt {number : Nat} (small : number < 128) :
    encode number = [UInt8.ofNat number] := by
  rw [encode, if_pos small]

theorem encode_of_le {number : Nat} (large : 128 ≤ number) :
    encode number = UInt8.ofNat (number % 128 + 128) :: encode (number / 128) := by
  rw [encode, if_neg (Nat.not_lt.mpr large)]

theorem toNat_ofNat_of_lt {number : Nat} (small : number < 256) :
    (UInt8.ofNat number).toNat = number := by
  rw [UInt8.toNat_ofNat', Nat.mod_eq_of_lt small]

theorem terminated_singleton {byte : UInt8} (last : byte.toNat < 128) : Terminated [byte] :=
  (if_pos last).mpr rfl

theorem terminated_cons {byte : UInt8} (more : 128 ≤ byte.toNat) {rest : List UInt8} :
    Terminated (byte :: rest) ↔ Terminated rest := by
  rw [Terminated, if_neg (Nat.not_lt.mpr more)]

theorem terminated_encode (number : Nat) : Terminated (encode number) := by
  induction number using encode.induct with
  | case1 number small =>
      rw [encode_of_lt small]
      exact terminated_singleton (by rwa [toNat_ofNat_of_lt (by omega)])
  | case2 number large induction =>
      rw [encode_of_le (Nat.not_lt.mp large),
        terminated_cons (by rw [toNat_ofNat_of_lt (by omega)]; omega)]
      exact induction

theorem value_encode (number : Nat) : value (encode number) = number := by
  induction number using encode.induct with
  | case1 number small =>
      rw [encode_of_lt small, value, value, toNat_ofNat_of_lt (by omega)]
      omega
  | case2 number large induction =>
      rw [encode_of_le (Nat.not_lt.mp large), value, induction, toNat_ofNat_of_lt (by omega)]
      omega

theorem length_encode_le {number count : Nat} (small : number < 128 ^ (count + 1)) :
    (encode number).length ≤ count + 1 := by
  induction count generalizing number with
  | zero =>
      rw [encode_of_lt (by simpa using small)]
      exact le_rfl
  | succ count induction =>
      rcases Nat.lt_or_ge number 128 with short | large
      · rw [encode_of_lt short]
        exact Nat.succ_le_succ (Nat.zero_le _)
      · have high : number / 128 < 128 ^ (count + 1) := by
          rw [Nat.div_lt_iff_lt_mul (by decide)]
          rwa [pow_succ] at small
        rw [encode_of_le large, List.length_cons]
        exact Nat.succ_le_succ (induction high)

end Base128
