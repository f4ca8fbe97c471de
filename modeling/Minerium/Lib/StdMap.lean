import Mathlib.Data.List.Sort
import Mathlib.Data.List.AList

/-! Finite maps that are visited in the order of their keys: `insertNew` keeps an entry that is
there, `adjust` changes an entry in place. -/

namespace StdMap

open AList

abbrev Map (κ β : Type) := AList fun _ : κ => β

variable {κ β : Type} [DecidableEq κ]

section

variable (map : Map κ β) (key other : κ) (value : β)

def insertNew : Map κ β :=
  match map.lookup key with
  | some _ => map
  | none => map.insert key value

def adjust (change : β → β) : Map κ β :=
  match map.lookup key with
  | some value => map.insert key (change value)
  | none => map

def sortedKeys (less : κ → κ → Bool) (map : Map κ β) : List κ :=
  map.keys.insertionSort fun a b => less a b = true

def eraseIf (discarded : β → Bool) (map : Map κ β) : Map κ β :=
  map.keys.foldl (fun map key => if (map.lookup key).any discarded then map.erase key else map) map

theorem lookup_insert_eq :
    (map.insert key value).lookup other = if other = key then some value else map.lookup other := by
  by_cases same : other = key
  · rw [same, lookup_insert, if_pos rfl]
  · rw [lookup_insert_ne same, if_neg same]

theorem lookup_erase_eq :
    (map.erase key).lookup other = if other = key then none else map.lookup other := by
  by_cases same : other = key
  · rw [same, lookup_erase, if_pos rfl]
  · rw [lookup_erase_ne same, if_neg same]

end

variable {map : Map κ β}

theorem lookup_insertNew {key other : κ} {value : β} : (insertNew map key value).lookup other =
      if other = key then some ((map.lookup key).getD value) else map.lookup other := by
  unfold insertNew
  cases found : map.lookup key with
  | some stored =>
    by_cases same : other = key
    · rw [same, if_pos rfl, found]
      rfl
    · rw [if_neg same]
  | none => exact lookup_insert_eq map key other value

theorem lookup_adjust {key other : κ} {change : β → β} : (adjust map key change).lookup other =
      if other = key then (map.lookup key).map change else map.lookup other := by
  unfold adjust
  cases found : map.lookup key with
  | some stored => exact lookup_insert_eq map key other (change stored)
  | none =>
    by_cases same : other = key
    · rw [same, if_pos rfl, found]
      rfl
    · rw [if_neg same]

theorem lookup_foldl_erase {keys : List κ} {other : κ} :
    (keys.foldl (fun map key => map.erase key) map).lookup other =
      if other ∈ keys then none else map.lookup other := by
  induction keys generalizing map with
  | nil => simp
  | cons key rest ih =>
    rw [List.foldl_cons, ih, lookup_erase_eq]
    by_cases later : other ∈ rest
    · simp [later]
    · by_cases same : other = key <;> simp [later, same]

theorem lookup_foldl_insertNew {keys : List κ} {value : β} {other : κ} :
    (keys.foldl (fun map key => insertNew map key value) map).lookup other =
      if other ∈ keys then some ((map.lookup other).getD value) else map.lookup other := by
  induction keys generalizing map with
  | nil => simp
  | cons key rest ih =>
    rw [List.foldl_cons, ih, lookup_insertNew]
    by_cases same : other = key
    · subst same
      by_cases later : other ∈ rest <;> simp [later]
    · by_cases later : other ∈ rest <;> simp [later, same]

theorem countP_erase {key : κ} {value : β} (found : map.lookup key = some value)
    (p : (Σ _ : κ, β) → Bool) : map.entries.countP p =
      (map.erase key).entries.countP p + if p ⟨key, value⟩ then 1 else 0 := by
  have member : key ∈ map := lookup_isSome.mp (by rw [found]; rfl)
  obtain ⟨stored, before, after, -, parts, erased⟩ := List.exists_of_kerase (mem_keys.mp member)
  have listed : ⟨key, stored⟩ ∈ map.entries := parts ▸ List.mem_append_cons_self
  have same : stored = value := Option.some_inj.mp ((mem_lookup_iff.mpr listed).symm.trans found)
  have left : (map.erase key).entries = before ++ after := erased
  rw [parts, left, List.countP_append, List.countP_append, List.countP_cons, same, Nat.add_assoc]

theorem mem_sortedKeys {less : κ → κ → Bool} {key : κ} :
    key ∈ sortedKeys less map ↔ ∃ value, map.lookup key = some value := by
  rw [sortedKeys, (List.perm_insertionSort _ _).mem_iff, ← mem_keys, ← lookup_isSome,
    Option.isSome_iff_exists]

omit [DecidableEq κ] in
theorem nodup_sortedKeys {less : κ → κ → Bool} : (sortedKeys less map).Nodup :=
  (List.perm_insertionSort _ _).nodup_iff.mpr map.keys_nodup

end StdMap
