import Mathlib.Data.List.Sort
import Minerium.TransactionCore

/-! Lists of index ranges, from `ranges.h` and `ranges.cpp`. `std::sort` is insertion sort here and
keeps the order of equal starts, which the standard leaves open; `mergeRanges` depends on it where a
range ends at the last index. `subtractRanges` also returns what it leaves of its two reference
arguments. -/

namespace Minerium

structure CRange where
  start : UInt32
  «end» : UInt32
deriving DecidableEq

def compareRange (a b : CRange) : Prop := a.start ≤ b.start

instance : DecidableRel compareRange := fun a b => inferInstanceAs (Decidable (a.start ≤ b.start))

variable (arr deletions : List CRange)

def sortRanges : List CRange := arr.insertionSort compareRange

def mergeFrom (top : CRange) : List CRange → List CRange
  | [] => [top]
  | range :: rest =>
    if top.end + 1 < range.start then top :: mergeFrom range rest
    else if top.end < range.end then mergeFrom { top with «end» := range.end } rest
    else mergeFrom top rest

def mergeRanges : List CRange :=
  match sortRanges arr with
  | [] => []
  | first :: rest => mergeFrom first rest

structure Subtracted where
  output : List CRange
  left : CRange
  deletion : CRange
  deletions : List CRange
deriving DecidableEq

/-- The source's loop body with its `i--` repetitions. The last deletion is never popped, so a range
cut by it comes round once more and is kept. -/
def subtractFrom (range deletion : CRange) : List CRange → Subtracted
  | [] =>
    if range.end < deletion.start ∨ deletion.end < range.start then
      ⟨[range], range, deletion, []⟩
    else if deletion.start ≤ range.start ∧ range.end ≤ deletion.end then
      ⟨[], range, deletion, []⟩
    else if range.start < deletion.start ∧ range.end ≤ deletion.end then
      let left := { range with «end» := deletion.start - 1 }
      ⟨[left], left, deletion, []⟩
    else
      let left := { range with start := deletion.end + 1 }
      if deletion.start ≤ range.start then ⟨[left], left, deletion, []⟩
      else ⟨[⟨range.start, deletion.start - 1⟩, left], left, deletion, []⟩
  | next :: rest =>
    if deletion.end < range.start then subtractFrom range next rest
    else if range.end < deletion.start then ⟨[range], range, deletion, next :: rest⟩
    else if deletion.start ≤ range.start ∧ range.end ≤ deletion.end then
      ⟨[], range, deletion, next :: rest⟩
    else if range.start < deletion.start ∧ range.end ≤ deletion.end then
      let left := { range with «end» := deletion.start - 1 }
      ⟨[left], left, deletion, next :: rest⟩
    else
      let later := subtractFrom { range with start := deletion.end + 1 } next rest
      if deletion.start ≤ range.start then later
      else { later with output := ⟨range.start, deletion.start - 1⟩ :: later.output }

structure SubtractResult where
  output : List CRange
  arr : List CRange
  deletions : List CRange
deriving DecidableEq

def subtractAll : List CRange → CRange → List CRange → SubtractResult
  | [], deletion, deletions => ⟨[], [], (deletion :: deletions).reverse⟩
  | range :: rest, deletion, deletions =>
    let one := subtractFrom range deletion deletions
    let others := subtractAll rest one.deletion one.deletions
    ⟨one.output ++ others.output, one.left :: others.arr, others.deletions⟩

def subtractRanges : SubtractResult :=
  if arr.isEmpty then ⟨[], arr, deletions⟩
  else
    match sortRanges deletions with
    | [] => ⟨[], arr, deletions⟩
    | deletion :: rest => subtractAll (sortRanges arr) deletion rest

def validateFrom (total nLastEnd : UInt32) : List CRange → UInt32
  | [] => total
  | range :: rest =>
    if range.end < range.start then 0
    else if 0 < range.start ∧ range.start ≤ nLastEnd then 0
    else validateFrom (total + ((range.end - range.start) + 1)) range.end rest

def validateRangesAndGetCount : UInt32 := validateFrom 0 0 arr

def doesRangeContain (parent child : List CRange) : Bool :=
  !parent.isEmpty && !child.isEmpty &&
    child.all fun childRange => parent.any fun parentRange =>
      decide (parentRange.start ≤ childRange.start ∧ childRange.end ≤ parentRange.end)

end Minerium
