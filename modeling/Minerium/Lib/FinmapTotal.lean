import Mathlib.Algebra.Order.BigOperators.Group.Multiset
import Mathlib.Tactic.Linarith
import Mathlib.Data.Finmap

/-! Sums of a weight over the entries of a finite map. -/

namespace FinmapTotal

open Finmap Multiset

variable {α β : Type} [DecidableEq α]

section

variable (weight : α → β → Int) (map : Finmap fun _ : α => β) (key : α)

def total : Int :=
  (map.entries.map fun entry => weight entry.1 entry.2).sum

def weightAt : Int :=
  ((map.lookup key).map (weight key)).getD 0

theorem lookup_insert_eq (other : α) (value : β) :
    (map.insert key value).lookup other = if other = key then some value else map.lookup other := by
  by_cases same : other = key
  · subst same
    rw [lookup_insert, if_pos rfl]
  · rw [lookup_insert_of_ne _ same, if_neg same]

theorem lookup_erase_eq (other : α) :
    (map.erase key).lookup other = if other = key then none else map.lookup other := by
  by_cases same : other = key
  · subst same
    rw [lookup_erase, if_pos rfl]
  · rw [lookup_erase_ne same, if_neg same]

end

variable {key : α} {value : β}

section

variable {weight : α → β → Int} {map : Finmap fun _ : α => β}

theorem insert_erase_eq : (map.erase key).insert key value = map.insert key value := by
  apply ext_lookup
  intro other
  simp only [lookup_insert_eq, lookup_erase_eq]
  split <;> rfl

theorem erase_insert_eq : (map.insert key value).erase key = map.erase key := by
  apply ext_lookup
  intro other
  rw [lookup_erase_eq, lookup_insert_eq, lookup_erase_eq]
  by_cases same : other = key
  · rw [if_pos same, if_pos same]
  · rw [if_neg same, if_neg same, if_neg same]

theorem insert_lookup_eq (found : map.lookup key = some value) : map.insert key value = map := by
  apply ext_lookup
  intro other
  rw [lookup_insert_eq]
  split
  · rename_i same
    rw [same, found]
  · rfl

theorem erase_missing_eq (missing : map.lookup key = none) : map.erase key = map := by
  apply ext_lookup
  intro other
  rw [lookup_erase_eq]
  split
  · rename_i same
    rw [same, missing]
  · rfl

theorem erase_insert_comm {key other : α} (different : key ≠ other) :
    (map.insert other value).erase key = (map.erase key).insert other value := by
  apply ext_lookup
  intro found
  rw [lookup_erase_eq, lookup_insert_eq, lookup_insert_eq, lookup_erase_eq]
  by_cases first : found = key
  · rw [if_pos first, if_neg (first ▸ different), if_pos first]
  · rw [if_neg first, if_neg first]

section

variable (weight map)

theorem total_insert (key : α) (value : β) :
    total weight (map.insert key value) = total weight (map.erase key) + weight key value := by
  rw [← insert_erase_eq, total, entries_insert_of_notMem notMem_erase_self,
    map_cons, sum_cons, ← total]
  exact Int.add_comm _ _

end

theorem total_erase :
    total weight (map.erase key) = total weight map - weightAt weight map key := by
  cases found : map.lookup key with
  | none => simp [erase_missing_eq found, weightAt, found]
  | some value =>
    have summed := total_insert weight map key value
    rw [insert_lookup_eq found] at summed
    simp only [weightAt, found, Option.map_some, Option.getD_some]
    omega

section

variable (weight map)

theorem total_insert_eq (key : α) (value : β) : total weight (map.insert key value) =
      total weight map - weightAt weight map key + weight key value := by
  rw [total_insert, total_erase]

end

theorem total_nonneg (nonneg : ∀ key value, map.lookup key = some value → 0 ≤ weight key value) :
    0 ≤ total weight map := by
  apply sum_nonneg
  intro amount member
  obtain ⟨⟨key, value⟩, stored, rfl⟩ := mem_map.mp member
  exact nonneg key value (lookup_eq_some_iff.mpr stored)

end

section

variable {weight : α → β → Int} {map : Finmap fun _ : α => β}
  (nonneg : ∀ key value, map.lookup key = some value → 0 ≤ weight key value)
include nonneg

theorem nonneg_erase (key : α) :
    ∀ other value, (map.erase key).lookup other = some value → 0 ≤ weight other value := by
  intro other value found
  rw [lookup_erase_eq] at found
  split at found
  · cases found
  · exact nonneg other value found

theorem weightAt_le_total (key : α) : weightAt weight map key ≤ total weight map := by
  have rest := total_nonneg (nonneg_erase nonneg key)
  rw [total_erase] at rest
  omega

theorem weightAt_add_le_total {key other : α} (different : other ≠ key) :
    weightAt weight map key + weightAt weight map other ≤ total weight map := by
  have rest := weightAt_le_total (nonneg_erase nonneg key) other
  rw [total_erase] at rest
  have same : weightAt weight (map.erase key) other = weightAt weight map other := by
    rw [weightAt, weightAt, lookup_erase_eq, if_neg different]
  omega

end

theorem total_eq_zero {weight : α → β → Int} {map : Finmap fun _ : α => β}
    (zero : ∀ key value, map.lookup key = some value → weight key value = 0) :
    total weight map = 0 := by
  apply sum_eq_zero
  intro amount member
  obtain ⟨⟨key, value⟩, stored, rfl⟩ := mem_map.mp member
  exact zero key value (lookup_eq_some_iff.mpr stored)

end FinmapTotal
