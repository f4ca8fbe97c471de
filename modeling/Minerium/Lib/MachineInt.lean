import Mathlib.Algebra.BigOperators.Group.List.Basic

/-! Signed 64-bit arithmetic read through its exact integer values.  The operations
of `Int64` wrap; each lemma states the range in which they do not. -/

namespace MachineInt

theorem toInt_add_of_range (a b : Int64) (lower : -2 ^ 63 ≤ a.toInt + b.toInt)
    (upper : a.toInt + b.toInt < 2 ^ 63) : (a + b).toInt = a.toInt + b.toInt := by
  rw [Int64.toInt_add]
  exact Int.bmod_eq_of_le (by omega) (by omega)

theorem toInt_sub_of_range (a b : Int64) (lower : -2 ^ 63 ≤ a.toInt - b.toInt)
    (upper : a.toInt - b.toInt < 2 ^ 63) : (a - b).toInt = a.toInt - b.toInt := by
  rw [Int64.toInt_sub]
  exact Int.bmod_eq_of_le (by omega) (by omega)

theorem lt_iff {a b : Int64} : a < b ↔ a.toInt < b.toInt := Int64.lt_iff_toInt_lt

theorem le_iff (a b : Int64) : a ≤ b ↔ a.toInt ≤ b.toInt := Int64.le_iff_toInt_le

end MachineInt
