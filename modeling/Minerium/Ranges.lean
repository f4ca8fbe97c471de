import Mathlib.Algebra.GroupWithZero.Nat
import Mathlib.Order.Interval.Finset.Nat
import Minerium.RangesCore

/-! The set of indices that a list of ranges covers, and what the range algorithms do to it. -/

namespace Minerium

open List UInt32

variable {ranges deletions rest others : List CRange} {range deletion : CRange} {cut : Subtracted}
  {x y : UInt32} {n : Nat}

def indices : List CRange → Finset Nat
  | [] => ∅
  | range :: rest => Finset.Icc range.start.toNat range.end.toNat ∪ indices rest

@[simp] theorem mem_indices :
    n ∈ indices ranges ↔ ∃ range ∈ ranges, range.start.toNat ≤ n ∧ n ≤ range.end.toNat := by
  induction ranges with
  | nil => simp [indices]
  | cons range rest ih => simp [indices, ih]

theorem mem_indices_cons : n ∈ indices (range :: rest) ↔
      (range.start.toNat ≤ n ∧ n ≤ range.end.toNat) ∨ n ∈ indices rest := by
  rw [indices, Finset.mem_union, Finset.mem_Icc]

theorem mem_indices_nil : n ∈ indices [] ↔ False := by simp [indices]

theorem indices_append (first second : List CRange) :
    indices (first ++ second) = indices first ∪ indices second := by
  ext n
  simp only [mem_indices, Finset.mem_union, mem_append, or_and_right, exists_or]

def WellFormedRange (range : CRange) : Prop := range.start.toNat ≤ range.end.toNat

def ApartRanges (range other : CRange) : Prop :=
  range.end.toNat < other.start.toNat ∨ other.end.toNat < range.start.toNat

def Tidy (ranges : List CRange) : Prop :=
  (∀ range ∈ ranges, WellFormedRange range) ∧ ranges.Pairwise ApartRanges

instance (range : CRange) : Decidable (WellFormedRange range) := inferInstanceAs (Decidable (_ ≤ _))

instance : DecidableRel ApartRanges := fun _ _ => inferInstanceAs (Decidable (_ ∨ _))

instance : Decidable (Tidy ranges) := inferInstanceAs (Decidable (_ ∧ _))

def Arranged (R : CRange → CRange → Prop) (ranges : List CRange) : Prop :=
  (∀ range ∈ ranges, WellFormedRange range) ∧ ranges.Pairwise R

section

variable (ranges)

def Ordered : Prop :=
  (∀ range ∈ ranges, WellFormedRange range) ∧
    ranges.Pairwise fun range other => range.end.toNat < other.start.toNat

def StartSorted : Prop :=
  Arranged (fun range other => range.start.toNat ≤ other.start.toNat) ranges

/-- The normal form: in order, and neither overlapping nor adjacent. -/
def Merged : Prop :=
  Arranged (fun range other => range.end.toNat + 1 < other.start.toNat) ranges

end

theorem Ordered.tidy (ordered : Ordered ranges) : Tidy ranges := ⟨ordered.1, ordered.2.imp Or.inl⟩

theorem Merged.ordered (merged : Merged ranges) : Ordered ranges :=
  ⟨merged.1, merged.2.imp fun gap => by omega⟩

theorem Ordered.startSorted (ordered : Ordered ranges) : StartSorted ranges := by
  refine ⟨ordered.1, ordered.2.imp_of_mem fun member _ before => ?_⟩
  have wf : _ ≤ _ := ordered.1 _ member
  omega

theorem Arranged.cons_iff {R : CRange → CRange → Prop} : Arranged R (range :: rest) ↔
    WellFormedRange range ∧ (∀ other ∈ rest, R range other) ∧ Arranged R rest := by
  simp only [Arranged, forall_mem_cons, pairwise_cons]
  tauto

theorem Ordered.cons_iff : Ordered (range :: rest) ↔ WellFormedRange range ∧
    (∀ other ∈ rest, range.end.toNat < other.start.toNat) ∧ Ordered rest := Arranged.cons_iff

theorem Tidy.perm (same : ranges.Perm others) (tidy : Tidy ranges) : Tidy others := by
  refine ⟨fun range member => tidy.1 range (same.mem_iff.mpr member), ?_⟩
  refine (same.pairwise_iff ?_).mp tidy.2
  rintro range other (before | after)
  · exact .inr before
  · exact .inl after

theorem sortRanges_perm (ranges : List CRange) : (sortRanges ranges).Perm ranges :=
  perm_insertionSort compareRange ranges

theorem sortRanges_startSorted (wf : ∀ range ∈ ranges, WellFormedRange range) :
    StartSorted (sortRanges ranges) := by
  have : Std.Total compareRange := ⟨fun _ _ => UInt32.le_total _ _⟩
  have : IsTrans CRange compareRange := ⟨fun _ _ _ => UInt32.le_trans⟩
  exact ⟨fun range member => wf range ((sortRanges_perm ranges).mem_iff.mp member),
    pairwise_insertionSort compareRange ranges⟩

theorem sortRanges_ordered (tidy : Tidy ranges) : Ordered (sortRanges ranges) := by
  obtain ⟨wf, sorted⟩ := sortRanges_startSorted tidy.1
  obtain ⟨-, apart⟩ := tidy.perm (sortRanges_perm ranges).symm
  refine ⟨wf, (sorted.and apart).imp_of_mem ?_⟩
  rintro range other - member ⟨starts, before | after⟩
  · exact before
  · have wfOther : other.start.toNat ≤ other.end.toNat := wf other member
    omega

theorem indices_sortRanges (ranges : List CRange) :
    indices (sortRanges ranges) = indices ranges := by
  ext n
  simp only [mem_indices, (sortRanges_perm ranges).mem_iff]

theorem toNat_succ (below : x.toNat < y.toNat) : (x + 1).toNat = x.toNat + 1 := by
  have bound := y.toNat_lt
  rw [UInt32.toNat_add]
  exact Nat.mod_eq_of_lt (by simpa using (by omega : x.toNat + 1 < 2 ^ 32))

theorem toNat_pred (above : y.toNat < x.toNat) : (x - 1).toNat = x.toNat - 1 := by
  have one : (1 : UInt32) ≤ x := by
    change 1 ≤ x.toNat
    omega
  rw [UInt32.toNat_sub_of_le _ _ one]
  rfl

/-- A range that ends at the last index is not followed by one that starts above zero:
`top.end + 1` wraps to zero there. -/
def Mergeable (range other : CRange) : Prop := range.end = 0xffffffff → other.start = 0

def MergeSafe (ranges : List CRange) : Prop := (sortRanges ranges).Pairwise Mergeable

instance : DecidableRel Mergeable := fun _ _ => inferInstanceAs (Decidable (_ → _))

instance : Decidable (MergeSafe ranges) := inferInstanceAs (Decidable (List.Pairwise _ _))

theorem succ_cases (x : UInt32) : x = 0xffffffff ∨ (x + 1).toNat = x.toNat + 1 := by
  by_cases last : x.toNat = 4294967295
  · exact .inl (UInt32.toNat_inj.mp last)
  · have bound := x.toNat_lt
    refine .inr (toNat_succ (y := 0xffffffff) ?_)
    change _ < 4294967295
    omega

theorem mergeFrom_spec {top : CRange} (sorted : StartSorted (top :: rest))
    (safe : (top :: rest).Pairwise Mergeable) :
    Merged (mergeFrom top rest) ∧ indices (mergeFrom top rest) = indices (top :: rest) ∧
      ∀ range ∈ mergeFrom top rest, top.start.toNat ≤ range.start.toNat := by
  induction rest generalizing top with
  | nil => exact ⟨⟨sorted.1, pairwise_singleton _ _⟩, rfl, by simp [mergeFrom]⟩
  | cons range rest ih =>
    obtain ⟨wfTop, after, sortedRest⟩ := Arranged.cons_iff.mp sorted
    obtain ⟨wfRange, beyond, sortedTail⟩ := Arranged.cons_iff.mp sortedRest
    obtain ⟨safeTop, safeRest⟩ := pairwise_cons.mp safe
    have starts := after range mem_cons_self
    have afterTail : ∀ other ∈ rest, top.start.toNat ≤ other.start.toNat :=
      fun other member => after other (mem_cons_of_mem _ member)
    simp only [WellFormedRange] at wfTop wfRange
    rw [mergeFrom]
    split
    · rename_i separate
      rw [lt_iff_toNat_lt] at separate
      have gap : top.end.toNat + 1 < range.start.toNat := by
        rcases succ_cases top.end with last | succ
        · rw [safeTop range mem_cons_self last] at separate
          exact absurd separate (Nat.not_lt_zero _)
        · omega
      obtain ⟨merged, same, low⟩ := ih sortedRest safeRest
      refine ⟨Arranged.cons_iff.mpr ⟨wfTop, fun other member => ?_, merged⟩, ?_, ?_⟩
      · have start := low other member
        omega
      · rw [indices, same]
        rfl
      · intro other member
        rcases mem_cons.mp member with rfl | member
        · exact Nat.le_refl _
        · have start := low other member
          omega
    · rename_i adjacent
      have meets : range.start.toNat ≤ top.end.toNat + 1 := by
        rcases succ_cases top.end with last | succ
        · have bound := range.start.toNat_lt
          rw [last]
          change _ ≤ 4294967296
          omega
        · rw [lt_iff_toNat_lt, succ] at adjacent
          omega
      obtain ⟨safeRange, safeTail⟩ := pairwise_cons.mp safeRest
      split
      · rename_i grows
        rw [lt_iff_toNat_lt] at grows
        have joined : StartSorted ({ top with «end» := range.end } :: rest) :=
          Arranged.cons_iff.mpr ⟨by simp only [WellFormedRange]; omega, afterTail, sortedTail⟩
        obtain ⟨merged, same, low⟩ := ih joined (pairwise_cons.mpr ⟨safeRange, safeTail⟩)
        refine ⟨merged, same.trans (Finset.ext fun n => ?_), low⟩
        simp only [mem_indices_cons, ← or_assoc]
        exact or_congr_left (by omega)
      · rename_i covers
        rw [lt_iff_toNat_lt] at covers
        obtain ⟨merged, same, low⟩ := ih (Arranged.cons_iff.mpr ⟨wfTop, afterTail, sortedTail⟩)
          (pairwise_cons.mpr ⟨fun other member => safeTop other (mem_cons_of_mem _ member),
            safeTail⟩)
        refine ⟨merged, same.trans (Finset.ext fun n => ?_), low⟩
        simp only [mem_indices_cons, ← or_assoc]
        exact or_congr_left (by omega)

theorem mergeRanges_spec (wf : ∀ range ∈ ranges, WellFormedRange range) (safe : MergeSafe ranges) :
    Merged (mergeRanges ranges) ∧ indices (mergeRanges ranges) = indices ranges := by
  have sorted := sortRanges_startSorted wf
  have same := indices_sortRanges ranges
  rw [MergeSafe] at safe
  rw [mergeRanges]
  cases found : sortRanges ranges with
  | nil =>
    rw [found] at same
    exact ⟨⟨forall_mem_nil _, .nil⟩, same⟩
  | cons first rest =>
    rw [found] at sorted safe same
    obtain ⟨merged, kept, -⟩ := mergeFrom_spec sorted safe
    exact ⟨merged, kept.trans same⟩

theorem Tidy.mergeSafe (tidy : Tidy ranges) : MergeSafe ranges := by
  refine (sortRanges_ordered tidy).2.imp fun {_ other} before last => ?_
  have bound := other.start.toNat_lt
  rw [last] at before
  change 4294967295 < _ at before
  omega

structure RangeCut (range : CRange) (deletions : List CRange) (cut : Subtracted) : Prop where
  ordered : Ordered cut.output
  within : ∀ piece ∈ cut.output,
    range.start.toNat ≤ piece.start.toNat ∧ piece.end.toNat ≤ range.end.toNat
  indices : indices cut.output = indices [range] \ indices deletions
  remaining : StartSorted (cut.deletion :: cut.deletions)
  later : ∀ n, range.end.toNat < n →
    (n ∈ Minerium.indices (cut.deletion :: cut.deletions) ↔ n ∈ Minerium.indices deletions)

theorem RangeCut.later_cons {other : CRange} (done : RangeCut other rest cut)
    (reaches : deletion.end.toNat ≤ other.end.toNat) (n : Nat) (beyond : other.end.toNat < n) :
    n ∈ Minerium.indices (cut.deletion :: cut.deletions) ↔
      n ∈ Minerium.indices (deletion :: rest) := by
  rw [done.later n beyond, mem_indices_cons, or_iff_right (by omega)]

theorem notMem_indices (after : ∀ other ∈ rest, n < other.start.toNat) : n ∉ indices rest := by
  rw [mem_indices]
  rintro ⟨other, member, low, -⟩
  have start := after other member
  omega

theorem ordered_singleton (wf : WellFormedRange range) : Ordered [range] :=
  Ordered.cons_iff.mpr ⟨wf, forall_mem_nil _, forall_mem_nil _, .nil⟩

theorem rangeCut_none (wf : WellFormedRange range) (sorted : StartSorted (deletion :: rest))
    (apart : ∀ n, range.start.toNat ≤ n → n ≤ range.end.toNat → n ∉ indices (deletion :: rest)) :
    RangeCut range (deletion :: rest) ⟨[range], range, deletion, rest⟩ := by
  refine ⟨ordered_singleton wf, by simp, ?_, sorted, fun _ _ => .rfl⟩
  ext n
  rw [Finset.mem_sdiff]
  constructor
  · intro member
    refine ⟨member, ?_⟩
    obtain ⟨low, high⟩ := (mem_indices_cons.mp member).resolve_right (by simp [indices])
    exact apart n low high
  · exact fun inside => inside.1

theorem rangeCut_all (sorted : StartSorted (deletion :: rest))
    (low : deletion.start.toNat ≤ range.start.toNat) (high : range.end.toNat ≤ deletion.end.toNat) :
    RangeCut range (deletion :: rest) ⟨[], range, deletion, rest⟩ := by
  refine ⟨⟨forall_mem_nil _, .nil⟩, by simp, ?_, sorted, fun _ _ => .rfl⟩
  ext n
  rw [Finset.mem_sdiff, mem_indices_cons, mem_indices_cons, mem_indices_nil]
  constructor
  · exact False.elim
  · rintro ⟨inside | impossible, outside⟩
    · exact outside (.inl ⟨by omega, by omega⟩)
    · exact impossible

theorem rangeCut_tail (sorted : StartSorted (deletion :: rest))
    (low : range.start.toNat < deletion.start.toNat)
    (meets : deletion.start.toNat ≤ range.end.toNat) (high : range.end.toNat ≤ deletion.end.toNat) :
    RangeCut range (deletion :: rest)
      ⟨[{ range with «end» := deletion.start - 1 }], { range with «end» := deletion.start - 1 },
        deletion, rest⟩ := by
  obtain ⟨wfDeletion, after, sortedRest⟩ := Arranged.cons_iff.mp sorted
  have pred := toNat_pred low
  refine ⟨ordered_singleton (by simp only [WellFormedRange]; omega), ?_, ?_, sorted,
    fun _ _ => .rfl⟩
  · intro piece member
    rw [mem_singleton.mp member]
    simp only
    omega
  · ext n
    rw [Finset.mem_sdiff, mem_indices_cons, mem_indices_cons, mem_indices_cons, mem_indices_nil]
    simp only [or_false, pred]
    constructor
    · rintro ⟨start, stop⟩
      refine ⟨⟨start, by omega⟩, ?_⟩
      rintro (inside | later)
      · omega
      · refine notMem_indices (fun other member => ?_) later
        have beyond := after other member
        omega
    · rintro ⟨⟨start, stop⟩, outside⟩
      refine ⟨start, ?_⟩
      by_contra above
      exact outside (.inl ⟨by omega, by omega⟩)

section

variable (meets : range.start.toNat ≤ deletion.end.toNat)
  (reaches : deletion.end.toNat < range.end.toNat)
  (done : RangeCut { range with start := deletion.end + 1 } rest cut)
include meets reaches done

theorem rangeCut_front (low : deletion.start.toNat ≤ range.start.toNat) :
    RangeCut range (deletion :: rest) cut := by
  have succ := toNat_succ reaches
  refine ⟨done.ordered, ?_, ?_, done.remaining, ?_⟩
  · intro piece member
    have inside := done.within piece member
    simp only [succ] at inside
    omega
  · rw [done.indices]
    ext n
    simp only [Finset.mem_sdiff, mem_indices_cons, mem_indices_nil, or_false, succ, not_or]
    constructor
    · rintro ⟨⟨start, stop⟩, outside⟩
      exact ⟨⟨by omega, stop⟩, by omega, outside⟩
    · rintro ⟨⟨start, stop⟩, notFront, outside⟩
      exact ⟨⟨by omega, stop⟩, outside⟩
  · exact done.later_cons reaches.le

omit meets in
theorem rangeCut_middle (after : ∀ other ∈ rest, deletion.start.toNat ≤ other.start.toNat)
    (wf : WellFormedRange deletion) (low : range.start.toNat < deletion.start.toNat) :
    RangeCut range (deletion :: rest)
      { cut with output := ⟨range.start, deletion.start - 1⟩ :: cut.output } := by
  have succ := toNat_succ reaches
  have pred := toNat_pred low
  simp only [WellFormedRange] at wf
  refine ⟨Ordered.cons_iff.mpr ⟨?_, ?_, done.ordered⟩, ?_, ?_, done.remaining, ?_⟩
  · simp only [WellFormedRange]
    omega
  · intro piece member
    have inside := done.within piece member
    simp only [succ] at inside
    simp only [pred]
    omega
  · intro piece member
    rcases mem_cons.mp member with rfl | member
    · simp only [pred]
      omega
    · have inside := done.within piece member
      simp only [succ] at inside
      omega
  · ext n
    rw [mem_indices_cons, done.indices]
    simp only [Finset.mem_sdiff, mem_indices_cons, mem_indices_nil, or_false, succ, pred, not_or]
    constructor
    · rintro (⟨start, stop⟩ | ⟨⟨start, stop⟩, outside⟩)
      · refine ⟨⟨start, by omega⟩, by omega, notMem_indices fun other member => ?_⟩
        have beyond := after other member
        omega
      · exact ⟨⟨by omega, stop⟩, by omega, outside⟩
    · rintro ⟨⟨start, stop⟩, notMiddle, outside⟩
      by_cases before : n < deletion.start.toNat
      · exact .inl ⟨start, by omega⟩
      · exact .inr ⟨⟨by omega, stop⟩, outside⟩
  · exact done.later_cons reaches.le

end

theorem rangeCut_last (wf : WellFormedRange range)
    (wfDeletion : WellFormedRange deletion) (behind : deletion.end.toNat < range.start.toNat) :
    RangeCut range [] ⟨[range], range, deletion, []⟩ := by
  refine ⟨ordered_singleton wf, by simp, by simp [indices],
    (ordered_singleton wfDeletion).startSorted, ?_⟩
  intro n beyond
  simp only [WellFormedRange] at wf
  rw [mem_indices_cons]
  simp only [mem_indices_nil, or_false, iff_false]
  omega

theorem rangeCut_behind (wf : WellFormedRange range)
    (behind : deletion.end.toNat < range.start.toNat)
    (done : RangeCut range rest cut) : RangeCut range (deletion :: rest) cut := by
  simp only [WellFormedRange] at wf
  refine ⟨done.ordered, done.within, ?_, done.remaining, ?_⟩
  · rw [done.indices]
    ext n
    simp only [Finset.mem_sdiff, mem_indices_cons, mem_indices_nil, or_false, not_or]
    constructor
    · rintro ⟨⟨start, stop⟩, outside⟩
      exact ⟨⟨start, stop⟩, by omega, outside⟩
    · rintro ⟨inside, -, outside⟩
      exact ⟨inside, outside⟩
  · exact done.later_cons (by omega)

/-- What is left of a range that a deletion meets: `later` is the cut of the part behind it. -/
def cutBy (range deletion : CRange) (rest : List CRange) (later : Subtracted) : Subtracted :=
  if deletion.start ≤ range.start ∧ range.end ≤ deletion.end then ⟨[], range, deletion, rest⟩
  else if range.start < deletion.start ∧ range.end ≤ deletion.end then
    let left := { range with «end» := deletion.start - 1 }
    ⟨[left], left, deletion, rest⟩
  else if deletion.start ≤ range.start then later
  else { later with output := ⟨range.start, deletion.start - 1⟩ :: later.output }

theorem subtractFrom_nil : subtractFrom range deletion [] =
    if range.end < deletion.start ∨ deletion.end < range.start then ⟨[range], range, deletion, []⟩
    else
      let left := { range with start := deletion.end + 1 }
      cutBy range deletion [] ⟨[left], left, deletion, []⟩ := rfl

theorem subtractFrom_cons {next : CRange} : subtractFrom range deletion (next :: rest) =
    if deletion.end < range.start then subtractFrom range next rest
    else if range.end < deletion.start then ⟨[range], range, deletion, next :: rest⟩
    else cutBy range deletion (next :: rest)
      (subtractFrom { range with start := deletion.end + 1 } next rest) := rfl

theorem rangeCut_by (sorted : StartSorted (deletion :: rest))
    (meets : range.start.toNat ≤ deletion.end.toNat)
    (ahead : deletion.start.toNat ≤ range.end.toNat)
    (done : WellFormedRange { range with start := deletion.end + 1 } →
      deletion.end.toNat < (deletion.end + 1).toNat →
      RangeCut { range with start := deletion.end + 1 } rest cut) :
    RangeCut range (deletion :: rest) (cutBy range deletion rest cut) := by
  obtain ⟨wfDeletion, after, -⟩ := Arranged.cons_iff.mp sorted
  simp only [cutBy, lt_iff_toNat_lt, le_iff_toNat_le]
  split
  · rename_i covered
    exact rangeCut_all sorted covered.1 covered.2
  split
  · rename_i tail
    exact rangeCut_tail sorted tail.1 ahead tail.2
  have reaches : deletion.end.toNat < range.end.toNat := by omega
  have succ := toNat_succ reaches
  have behind := done (by simp only [WellFormedRange, succ]; omega) (by omega)
  split
  · rename_i low
    exact rangeCut_front meets reaches behind low
  · exact rangeCut_middle reaches behind after wfDeletion (by omega)

theorem subtractFrom_spec (wf : WellFormedRange range) (sorted : StartSorted (deletion :: rest)) :
    RangeCut range (deletion :: rest) (subtractFrom range deletion rest) := by
  induction rest generalizing range deletion with
  | nil =>
    simp only [subtractFrom_nil, lt_iff_toNat_lt]
    split
    · refine rangeCut_none wf sorted fun n low high => ?_
      simp only [mem_indices_cons, mem_indices_nil, or_false]
      omega
    · exact rangeCut_by sorted (by omega) (by omega) fun wfRight behind =>
        rangeCut_last wfRight (Arranged.cons_iff.mp sorted).1 behind
  | cons next rest ih =>
    obtain ⟨wfDeletion, after, sortedRest⟩ := Arranged.cons_iff.mp sorted
    simp only [subtractFrom_cons, lt_iff_toNat_lt]
    split
    · rename_i behind
      exact rangeCut_behind wf behind (ih wf sortedRest)
    split
    · refine rangeCut_none wf sorted fun n low high => ?_
      rw [mem_indices_cons, not_or]
      refine ⟨by omega, notMem_indices fun other member => ?_⟩
      have beyond := after other member
      omega
    · exact rangeCut_by sorted (by omega) (by omega) fun wfRight _ => ih wfRight sortedRest

theorem subtractAll_spec (ordered : Ordered ranges) (sorted : StartSorted (deletion :: deletions)) :
    Ordered (subtractAll ranges deletion deletions).output ∧
      indices (subtractAll ranges deletion deletions).output =
        indices ranges \ indices (deletion :: deletions) ∧
      ∀ piece ∈ (subtractAll ranges deletion deletions).output,
        ∃ range ∈ ranges, range.start.toNat ≤ piece.start.toNat := by
  induction ranges generalizing deletion deletions with
  | nil => exact ⟨ordered, by simp [subtractAll, indices], by simp [subtractAll]⟩
  | cons range rest ih =>
    obtain ⟨wf, before, orderedRest⟩ := Ordered.cons_iff.mp ordered
    have cut := subtractFrom_spec wf sorted
    obtain ⟨others, same, starts⟩ := ih orderedRest cut.remaining
    simp only [subtractAll]
    refine ⟨⟨?_, ?_⟩, ?_, ?_⟩
    · intro piece member
      rcases mem_append.mp member with here | there
      · exact cut.ordered.1 piece here
      · exact others.1 piece there
    · refine pairwise_append.mpr ⟨cut.ordered.2, others.2, fun piece here other there => ?_⟩
      obtain ⟨later, member, start⟩ := starts other there
      have inside := (cut.within piece here).2
      have gap := before later member
      omega
    · rw [indices_append, same, cut.indices]
      have beyond : ∀ n ∈ indices rest, range.end.toNat < n := by
        intro n member
        obtain ⟨later, inRest, start, -⟩ := mem_indices.mp member
        have gap := before later inRest
        omega
      have split : indices (range :: rest) = indices [range] ∪ indices rest :=
        indices_append [range] rest
      ext n
      rw [split]
      simp only [Finset.mem_union, Finset.mem_sdiff]
      constructor
      · rintro (⟨here, outside⟩ | ⟨there, outside⟩)
        · exact ⟨.inl here, outside⟩
        · exact ⟨.inr there,
            fun deleted => outside ((cut.later n (beyond n there)).mpr deleted)⟩
      · rintro ⟨here | there, outside⟩
        · exact .inl ⟨here, outside⟩
        · exact .inr ⟨there,
            fun deleted => outside ((cut.later n (beyond n there)).mp deleted)⟩
    · intro piece member
      rcases mem_append.mp member with here | there
      · exact ⟨range, mem_cons_self, (cut.within piece here).1⟩
      · obtain ⟨later, member, start⟩ := starts piece there
        exact ⟨later, mem_cons_of_mem _ member, start⟩

theorem subtractRanges_spec (tidy : Tidy ranges)
    (wf : ∀ deletion ∈ deletions, WellFormedRange deletion) (nonempty : deletions ≠ []) :
    Ordered (subtractRanges ranges deletions).output ∧
      indices (subtractRanges ranges deletions).output = indices ranges \ indices deletions := by
  rw [subtractRanges]
  split
  · rename_i empty
    rw [isEmpty_iff.mp empty]
    exact ⟨⟨forall_mem_nil _, List.Pairwise.nil⟩, by simp [indices]⟩
  · have sorted := sortRanges_startSorted wf
    have same := indices_sortRanges deletions
    split
    · rename_i none
      have perm := sortRanges_perm deletions
      rw [none] at perm
      exact absurd perm.nil_eq.symm nonempty
    · rename_i deletion rest found
      rw [found] at sorted same
      obtain ⟨ordered, removed, -⟩ := subtractAll_spec (sortRanges_ordered tidy) sorted
      exact ⟨ordered, by rw [removed, indices_sortRanges, same]⟩

def rangeLength (range : CRange) : Nat := range.end.toNat + 1 - range.start.toNat

theorem card_indices (tidy : Tidy ranges) :
    (indices ranges).card = (ranges.map rangeLength).sum := by
  induction ranges with
  | nil => rfl
  | cons range rest ih =>
    obtain ⟨wf, apart⟩ := tidy
    obtain ⟨first, others⟩ := pairwise_cons.mp apart
    have tail : Tidy rest := ⟨fun other member => wf other (mem_cons_of_mem _ member), others⟩
    have disjoint : Disjoint (Finset.Icc range.start.toNat range.end.toNat) (indices rest) := by
      rw [Finset.disjoint_left]
      intro n inside there
      obtain ⟨other, member, low, high⟩ := mem_indices.mp there
      have bounds := Finset.mem_Icc.mp inside
      rcases first other member with before | after
      · omega
      · omega
    rw [indices, Finset.card_union_of_disjoint disjoint, ih tail, Nat.card_Icc, map_cons, sum_cons]
    rfl

theorem card_indices_le (ranges : List CRange) : (indices ranges).card ≤ 2 ^ 32 := by
  have inside : indices ranges ⊆ Finset.range (2 ^ 32) := by
    intro n member
    obtain ⟨range, -, -, high⟩ := mem_indices.mp member
    have bound := range.end.toNat_lt
    exact Finset.mem_range.mpr (by omega)
  calc (indices ranges).card ≤ (Finset.range (2 ^ 32)).card := Finset.card_le_card inside
    _ = 2 ^ 32 := Finset.card_range _

/-- A range that starts at zero may come anywhere. -/
def LinkedFrom (nLastEnd : UInt32) : List CRange → Prop
  | [] => True
  | range :: rest => WellFormedRange range ∧
      (range.start.toNat = 0 ∨ nLastEnd.toNat < range.start.toNat) ∧ LinkedFrom range.end rest

instance decidableLinkedFrom : (nLastEnd : UInt32) → (ranges : List CRange) →
    Decidable (LinkedFrom nLastEnd ranges)
  | _, [] => .isTrue trivial
  | _, range :: rest =>
    have := decidableLinkedFrom range.end rest
    inferInstanceAs (Decidable (_ ∧ _ ∧ _))

theorem LinkedFrom.wellFormed {nLastEnd : UInt32} (linked : LinkedFrom nLastEnd ranges) :
    ∀ range ∈ ranges, WellFormedRange range := by
  induction ranges generalizing nLastEnd with
  | nil => exact forall_mem_nil _
  | cons range rest ih => exact forall_mem_cons.mpr ⟨linked.1, ih linked.2.2⟩

theorem validateFrom_spec {total nLastEnd : UInt32} :
    (validateFrom total nLastEnd ranges).toNat = if LinkedFrom nLastEnd ranges then
      (total.toNat + (ranges.map rangeLength).sum) % 2 ^ 32 else 0 := by
  induction ranges generalizing total nLastEnd with
  | nil =>
    have bound := total.toNat_lt
    simp only [validateFrom, LinkedFrom, if_true, map_nil, sum_nil]
    omega
  | cons range rest ih =>
    have zero : (0 : UInt32).toNat = 0 := rfl
    simp only [validateFrom, lt_iff_toNat_lt, le_iff_toNat_le]
    split
    · refine (if_neg fun linked => ?_).symm
      have wf : _ ≤ _ := linked.1
      omega
    · split
      · refine (if_neg fun linked => ?_).symm
        have order := linked.2.1
        omega
      · rename_i wf order
        have added : (total + ((range.end - range.start) + 1)).toNat =
            (total.toNat + rangeLength range) % 2 ^ 32 := by
          rw [UInt32.toNat_add, UInt32.toNat_add,
            UInt32.toNat_sub_of_le _ _ (by rw [UInt32.le_iff_toNat_le]; omega), rangeLength]
          change (total.toNat + (_ + 1) % 2 ^ 32) % 2 ^ 32 = _
          omega
        rw [ih, added, map_cons, sum_cons]
        by_cases others : LinkedFrom range.end rest
        · rw [if_pos others, if_pos ⟨Nat.not_lt.mp wf, by omega, others⟩]
          omega
        · rw [if_neg others, if_neg fun linked => others linked.2.2]

theorem validateRangesAndGetCount_spec (valid : validateRangesAndGetCount ranges ≠ 0)
    (apart : ranges.Pairwise ApartRanges) :
    Tidy ranges ∧ (validateRangesAndGetCount ranges).toNat = (indices ranges).card := by
  have nonzero : (validateRangesAndGetCount ranges).toNat ≠ 0 := by
    intro isZero
    exact valid (UInt32.toNat_inj.mp isZero)
  rw [validateRangesAndGetCount, validateFrom_spec] at nonzero ⊢
  have linked : LinkedFrom 0 ranges := by
    by_contra broken
    exact nonzero (if_neg broken)
  have tidy : Tidy ranges := ⟨linked.wellFormed, apart⟩
  have bound := card_indices_le ranges
  rw [if_pos linked, ← card_indices tidy] at nonzero ⊢
  change (0 + _) % 2 ^ 32 ≠ 0 at nonzero
  change _ ∧ (0 + _) % 2 ^ 32 = _
  exact ⟨tidy, by omega⟩

theorem doesRangeContain_spec {parent child : List CRange}
    (contains : doesRangeContain parent child = true) :
    child ≠ [] ∧ indices child ⊆ indices parent := by
  simp only [doesRangeContain, Bool.and_eq_true, Bool.not_eq_true', all_eq_true,
    any_eq_true, decide_eq_true_eq] at contains
  obtain ⟨⟨-, nonempty⟩, all⟩ := contains
  refine ⟨by simpa using nonempty, fun n member => ?_⟩
  obtain ⟨range, inChild, low, high⟩ := mem_indices.mp member
  obtain ⟨outer, inParent, start, stop⟩ := all range inChild
  rw [le_iff_toNat_le] at start stop
  exact mem_indices.mpr ⟨outer, inParent, by omega, by omega⟩

end Minerium
