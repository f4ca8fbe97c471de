import Mathlib.Data.List.Count
import Mathlib.Data.List.Perm.Basic
import Mathlib.Order.Lattice

/-! A multimap that is read in the order of its keys; an entry goes behind the entries with its
own key. -/

namespace Multimap

open List

section

variable {κ α β : Type} [LinearOrder κ] {map : List (κ × α)}

def insert (entry : κ × α) : List (κ × α) → List (κ × α)
  | [] => [entry]
  | head :: rest =>
    if entry.1 < head.1 then entry :: head :: rest else head :: insert entry rest

def Before (R : α → α → Prop) (a b : κ × α) : Prop := a.1 < b.1 ∨ a.1 = b.1 ∧ R a.2 b.2

theorem insert_perm (entry : κ × α) (map : List (κ × α)) :
    (insert entry map).Perm (entry :: map) := by
  induction map with
  | nil => exact .refl _
  | cons head rest ih =>
    simp only [insert]
    split
    · exact .refl _
    · exact (List.Perm.cons head ih).trans (.swap entry head rest)

theorem insert_map {f : α → β} {entry : κ × α} : (insert entry map).map (fun e => (e.1, f e.2)) =
      insert (entry.1, f entry.2) (map.map fun e => (e.1, f e.2)) := by
  induction map with
  | nil => rfl
  | cons head rest ih =>
    simp only [insert, map_cons]
    split
    · rfl
    · rw [map_cons, ih]

variable {R : α → α → Prop}

theorem Before.of_lt_of_before {a b c : κ × α} (less : a.1 < b.1)
    (before : Before R b c) : Before R a c := by
  rcases before with below | ⟨same, -⟩
  · exact .inl (lt_trans less below)
  · exact .inl (same ▸ less)

theorem insert_pairwise {entry : κ × α} (sorted : map.Pairwise (Before R))
    (last : ∀ other ∈ map, R other.2 entry.2) : (insert entry map).Pairwise (Before R) := by
  induction map with
  | nil => exact pairwise_singleton _ _
  | cons head rest ih =>
    obtain ⟨first, others⟩ := pairwise_cons.mp sorted
    simp only [insert]
    split
    · rename_i less
      refine pairwise_cons.mpr ⟨fun other member => ?_, sorted⟩
      rcases mem_cons.mp member with rfl | inside
      · exact .inl less
      · exact Before.of_lt_of_before less (first other inside)
    · rename_i notLess
      have later := ih others fun other member => last other (mem_cons_of_mem _ member)
      refine pairwise_cons.mpr ⟨fun other member => ?_, later⟩
      rcases mem_cons.mp ((insert_perm entry rest).mem_iff.mp member) with rfl | inside
      · rcases lt_or_eq_of_le (not_lt.mp notLess) with below | same
        · exact .inl below
        · exact .inr ⟨same, last head mem_cons_self⟩
      · exact first other inside

def insertAll (entries map : List (κ × α)) : List (κ × α) :=
  entries.foldl (fun map entry => insert entry map) map

theorem insertAll_perm {entries : List (κ × α)} (map : List (κ × α)) :
    (insertAll entries map).Perm (map ++ entries) := by
  induction entries generalizing map with
  | nil => simp [insertAll]
  | cons entry rest ih =>
    refine (ih (insert entry map)).trans ?_
    refine ((insert_perm entry map).append_right rest).trans ?_
    exact perm_middle.symm

theorem insertAll_map (f : α → β) (entries map : List (κ × α)) :
    (insertAll entries map).map (fun e => (e.1, f e.2)) =
      insertAll (entries.map fun e => (e.1, f e.2)) (map.map fun e => (e.1, f e.2)) := by
  induction entries generalizing map with
  | nil => rfl
  | cons entry rest ih =>
    refine (ih (insert entry map)).trans ?_
    rw [insert_map]
    rfl

theorem insertAll_pairwise {entries : List (κ × α)} (sorted : map.Pairwise (Before R))
    (order : entries.Pairwise fun a b => R a.2 b.2)
    (across : ∀ other ∈ map, ∀ entry ∈ entries, R other.2 entry.2) :
    (insertAll entries map).Pairwise (Before R) := by
  induction entries generalizing map with
  | nil => exact sorted
  | cons entry rest ih =>
    obtain ⟨first, others⟩ := pairwise_cons.mp order
    refine ih (insert_pairwise sorted fun other member =>
      across other member entry mem_cons_self) others ?_
    intro other member later inside
    rcases mem_cons.mp ((insert_perm entry map).mem_iff.mp member) with rfl | before
    · exact first later inside
    · exact across other before later (mem_cons_of_mem _ inside)

end

section

variable {α : Type} {before : α → α → Bool}

theorem countP_of_strict {sorted : List α} (order : sorted.Pairwise fun a b => before a b = true)
    (asymm : ∀ a b, before a b = true → before b a = false) {k : Nat} {a : α}
    (found : sorted[k]? = some a) : sorted.countP (before · a) = k := by
  have irrefl : before a a = false := by
    by_contra reflexive
    rw [Bool.not_eq_false] at reflexive
    rw [asymm a a reflexive] at reflexive
    cases reflexive
  induction sorted generalizing k with
  | nil => cases found
  | cons head rest ih =>
    obtain ⟨first, others⟩ := pairwise_cons.mp order
    cases k with
    | zero =>
      obtain rfl : head = a := by simpa using found
      rw [countP_eq_zero]
      intro other member
      rcases mem_cons.mp member with rfl | inside
      · rw [irrefl]
        exact Bool.false_ne_true
      · rw [asymm _ _ (first other inside)]
        exact Bool.false_ne_true
    | succ k =>
      rw [List.getElem?_cons_succ] at found
      have ahead := first a (mem_of_getElem? found)
      rw [countP_cons, ih others found, if_pos ahead]

theorem getElem_countP {sorted list : List α} (perm : sorted.Perm list)
    (order : sorted.Pairwise fun a b => before a b = true)
    (asymm : ∀ a b, before a b = true → before b a = false) {a : α} (member : a ∈ list) :
    sorted[list.countP (before · a)]? = some a := by
  obtain ⟨k, bound, found⟩ := getElem_of_mem (perm.mem_iff.mpr member)
  have there : sorted[k]? = some a := by rw [List.getElem?_eq_getElem bound, found]
  rw [← perm.countP_eq, countP_of_strict order asymm there, there]

end

end Multimap
