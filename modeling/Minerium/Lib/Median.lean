import Mathlib.Data.List.Sort

/-! Order statistics by counting. -/

namespace Median

open List

variable {values : List Nat} {m : Nat}

def below (m : Nat) (values : List Nat) : Nat := values.countP fun value => decide (value < m)

theorem below_cons {value : Nat} {rest : List Nat} :
    below m (value :: rest) = below m rest + if value < m then 1 else 0 := by
  simp [below, countP_cons]

theorem below_eq_zero (atLeast : ∀ value ∈ values, m ≤ value) : below m values = 0 := by
  rw [below, countP_eq_zero]
  intro value member
  simpa using atLeast value member

theorem le_getD_iff (sorted : values.Pairwise (· ≤ ·)) {k : Nat}
    (bound : k < values.length) : m ≤ values.getD k 0 ↔ below m values ≤ k := by
  induction values generalizing k with
  | nil => cases bound
  | cons value rest ih =>
    obtain ⟨first, sortedRest⟩ := pairwise_cons.mp sorted
    rw [below_cons]
    by_cases small : value < m
    · rw [if_pos small]
      cases k with
      | zero =>
        rw [getD_cons_zero]
        omega
      | succ k =>
        rw [getD_cons_succ, ih sortedRest (by simpa using bound)]
        omega
    · rw [if_neg small, below_eq_zero fun other member => (not_lt.mp small).trans (first other
      member)]
      refine iff_of_true ?_ (by omega)
      cases k with
      | zero =>
        rw [getD_cons_zero]
        omega
      | succ k =>
        have inside : k < rest.length := by simpa using bound
        have larger := first _ (getElem_mem inside)
        rw [getD_cons_succ, getD_eq_getElem?_getD, List.getElem?_eq_getElem inside,
          Option.getD_some]
        omega

def median (values : List Nat) : Nat := (values.insertionSort (· ≤ ·)).getD (values.length / 2) 0

theorem le_median_iff (nonempty : values ≠ []) :
    m ≤ median values ↔ below m values ≤ values.length / 2 := by
  have positive : 0 < values.length := length_pos_iff.mpr nonempty
  have perm := perm_insertionSort (· ≤ ·) values
  have sorted : (values.insertionSort (· ≤ ·)).Pairwise (· ≤ ·) :=
    pairwise_insertionSort (· ≤ ·) values
  rw [median, le_getD_iff sorted (by rw [perm.length_eq]; omega), below, perm.countP_eq]
  rfl

theorem median_le_slide {width time : Nat} {times : List Nat} (wide : 0 < width)
    (nonempty : times ≠ []) (above : median (times.take width) < time) :
    median (times.take width) ≤ median ((time :: times).take width) := by
  obtain ⟨width, rfl⟩ : ∃ w, width = w + 1 := ⟨width - 1, by omega⟩
  have old : times.take (width + 1) ≠ [] := by
    rw [ne_eq, take_eq_nil_iff]
    simp [nonempty]
  have few := (le_median_iff old).mp (le_refl (median (times.take (width + 1))))
  generalize median (times.take (width + 1)) = m at above few ⊢
  rw [take_succ_cons, le_median_iff (cons_ne_nil _ _), below_cons, if_neg (by omega)]
  have fewer : below m (times.take width) ≤ below m (times.take (width + 1)) :=
    (take_sublist_take_left (Nat.le_succ width)).countP_le
  have length : (times.take (width + 1)).length ≤ (time :: times.take width).length := by
    simp only [length_take, length_cons]
    omega
  omega

end Median
