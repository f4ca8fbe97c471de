import Minerium.Lib.FinmapTotal

/-! Tables in which every record is stored under a key of its own. -/

/-- A record is only ever found under its own key. -/
structure Table {κ β : Type} [DecidableEq κ] (key : β → κ) where
  map : Finmap fun _ : κ => β
  keyed : ∀ k record, map.lookup k = some record → key record = k

namespace Table

variable {κ β : Type} [DecidableEq κ] {key : β → κ}

def empty : Table key := ⟨∅, fun _ _ found => by cases found⟩

def lookup (table : Table key) (k : κ) : Option β := table.map.lookup k

variable {table : Table key} {k : κ} {record : β}

theorem key_of_lookup
    (found : table.lookup k = some record) : key record = k := table.keyed k record found

def write (table : Table key) (record : β) : Table key where
  map := table.map.insert (key record) record
  keyed := by
    intro k other found
    rw [FinmapTotal.lookup_insert_eq] at found
    split at found
    · rename_i same
      cases found
      exact same.symm
    · exact table.keyed k other found

def erase (table : Table key) (k : κ) : Table key where
  map := table.map.erase k
  keyed := by
    intro other record found
    by_cases same : other = k
    · subst same
      rw [Finmap.lookup_erase] at found
      cases found
    · rw [Finmap.lookup_erase_ne same] at found
      exact table.keyed other record found

theorem lookup_write (table : Table key) (record : β) (k : κ) :
    (table.write record).lookup k = if k = key record then some record else table.lookup k :=
  FinmapTotal.lookup_insert_eq _ _ _ _

theorem lookup_write_self : (table.write record).lookup (key record) = some record := by
  rw [lookup_write, if_pos rfl]

theorem lookup_write_ne (different : k ≠ key record) :
    (table.write record).lookup k = table.lookup k := by
  rw [lookup_write, if_neg different]

theorem lookup_erase (table : Table key) (k other : κ) :
    (table.erase k).lookup other = if other = k then none else table.lookup other := by
  by_cases same : other = k
  · subst same
    rw [if_pos rfl]
    exact Finmap.lookup_erase _ _
  · rw [if_neg same]
    exact Finmap.lookup_erase_ne same

theorem lookup_write_stored (stored : table.lookup k = some record) {other : κ} :
    (table.write record).lookup other = table.lookup other := by
  rw [lookup_write, key_of_lookup stored]
  split
  · rename_i same
    rw [same, stored]
  · rfl

theorem lookup_erase_missing (missing : table.lookup k = none)
    {other : κ} : (table.erase k).lookup other = table.lookup other := by
  rw [lookup_erase]
  split
  · rename_i same
    rw [same, missing]
  · rfl

end Table
