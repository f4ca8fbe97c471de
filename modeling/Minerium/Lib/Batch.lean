import Minerium.Lib.FinmapTotal

/-! Batches of writes to a finite map. -/

abbrev Batch (κ ν : Type) := List (κ × Option ν)

namespace Batch

variable {κ ν : Type} [DecidableEq κ]

variable (batch : Batch κ ν) (table : Finmap fun _ : κ => ν)

def write (entry : κ × Option ν) : Finmap fun _ : κ => ν :=
  match entry.2 with
  | some value => table.insert entry.1 value
  | none => table.erase entry.1

def apply : Finmap fun _ : κ => ν :=
  batch.foldl write table

end Batch
