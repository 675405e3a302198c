import Mathlib.Tactic

/-!
# The machine word of a 64-bit target
-/

namespace Pyronova

/-- `usize::MAX`. -/
def usizeMax : Nat := 2 ^ 64 - 1

/-- `usize::saturating_add`. -/
def saturatingAdd (left right : Nat) : Nat :=
  min (left + right) usizeMax

theorem saturatingAdd_min (left right : Nat) :
    saturatingAdd (min left usizeMax) right = min (left + right) usizeMax := by
  unfold saturatingAdd
  omega

end Pyronova
