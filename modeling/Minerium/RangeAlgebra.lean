import Minerium.Ranges

/-! The four range algorithms on any well-formed input. -/

namespace Minerium

open List Arranged

variable {ranges deletions rest : List CRange} {range deletion : CRange}

section

def bounds (range : CRange) : Int × Int := (range.start.toNat, range.end.toNat)

abbrev Exact := List (Int × Int) × (Int × Int) × List (Int × Int)

def Subtracted.exact (cut : Subtracted) : Exact :=
  (cut.output.map bounds, bounds cut.deletion, cut.deletions.map bounds)

def exactCut (range deletion : Int × Int) (rest : List (Int × Int)) (later : Exact) : Exact :=
  if deletion.1 ≤ range.1 ∧ range.2 ≤ deletion.2 then ([], deletion, rest)
  else if range.1 < deletion.1 ∧ range.2 ≤ deletion.2 then
    ([(range.1, deletion.1 - 1)], deletion, rest)
  else if deletion.1 ≤ range.1 then later
  else ((range.1, deletion.1 - 1) :: later.1, later.2)

def exactFrom (range deletion : Int × Int) : List (Int × Int) → Exact
  | [] =>
    if range.2 < deletion.1 ∨ deletion.2 < range.1 then ([range], deletion, [])
    else exactCut range deletion [] ([(deletion.2 + 1, range.2)], deletion, [])
  | next :: rest =>
    if deletion.2 < range.1 then exactFrom range next rest
    else if range.2 < deletion.1 then ([range], deletion, next :: rest)
    else exactCut range deletion (next :: rest) (exactFrom (deletion.2 + 1, range.2) next rest)

def exactAll : List (Int × Int) → Int × Int → List (Int × Int) → List (Int × Int)
  | [], _, _ => []
  | range :: rest, deletion, deletions =>
    let one := exactFrom range deletion deletions
    one.1 ++ exactAll rest one.2.1 one.2.2

def exactSubtract (arr deletions : List CRange) : List (Int × Int) :=
  match sortRanges deletions with
  | [] => []
  | deletion :: rest => exactAll ((sortRanges arr).map bounds) (bounds deletion) (rest.map bounds)

theorem exactCut_exact {cut : Subtracted} {later : Exact}
    (same : deletion.end.toNat < range.end.toNat → later = cut.exact) :
    exactCut (bounds range) (bounds deletion) (rest.map bounds) later =
      (cutBy range deletion rest cut).exact := by
  have pred (below : range.start.toNat < deletion.start.toNat) :
      ((deletion.start - 1).toNat : Int) = deletion.start.toNat - 1 := by
    rw [toNat_pred below]
    omega
  simp only [exactCut, cutBy, bounds, UInt32.lt_iff_toNat_lt, UInt32.le_iff_toNat_le,
    Int.ofNat_lt, Int.ofNat_le]
  split
  · rfl
  split
  · rename_i tail
    simp only [Subtracted.exact, bounds, map_cons, map_nil, pred tail.1]
  rw [same (by omega)]
  split
  · rfl
  · rename_i low
    simp only [Subtracted.exact, bounds, map_cons, pred (Nat.not_le.mp low)]

theorem bounds_behind (reaches : deletion.end.toNat < range.end.toNat) :
    bounds { range with start := deletion.end + 1 } =
      ((bounds deletion).2 + 1, (bounds range).2) := by
  rw [bounds, toNat_succ reaches]
  rfl

theorem exactFrom_exact : exactFrom (bounds range) (bounds deletion) (rest.map bounds) =
    (subtractFrom range deletion rest).exact := by
  have before (one other : CRange) : one.end < other.start ↔ (bounds one).2 < (bounds other).1 := by
    simp only [bounds, UInt32.lt_iff_toNat_lt, Int.ofNat_lt]
  induction rest generalizing range deletion with
  | nil =>
    rw [subtractFrom_nil, map_nil, exactFrom]
    simp only [before]
    split
    · rfl
    · refine @exactCut_exact [] range deletion _ _ fun reaches => ?_
      rw [← bounds_behind reaches]
      rfl
  | cons next rest ih =>
    rw [subtractFrom_cons, map_cons, exactFrom]
    simp only [before]
    split
    · exact ih
    split
    · rfl
    · exact @exactCut_exact (next :: rest) range deletion _ _ fun reaches => by
        rw [← bounds_behind reaches, ih]

theorem exactAll_bounds : exactAll (ranges.map bounds) (bounds deletion) (deletions.map bounds) =
    (subtractAll ranges deletion deletions).output.map bounds := by
  induction ranges generalizing deletion deletions with
  | nil => rfl
  | cons range rest ih =>
    simp only [map_cons, exactAll, subtractAll, map_append, exactFrom_exact, Subtracted.exact, ih]

theorem exactSubtract_bounds {arr : List CRange} :
    exactSubtract arr deletions = (subtractRanges arr deletions).output.map bounds := by
  unfold exactSubtract subtractRanges
  cases sortRanges deletions with
  | nil =>
    dsimp only
    rw [ite_self]
    rfl
  | cons deletion rest =>
    dsimp only
    rw [exactAll_bounds]
    split
    · rename_i empty
      rw [isEmpty_iff.mp empty]
      rfl
    · rfl

end

theorem subtractRanges_correct (tidy : Tidy ranges)
    (wf : ∀ deletion ∈ deletions, WellFormedRange deletion) (nonempty : deletions ≠ []) :
    Ordered (subtractRanges ranges deletions).output ∧
      indices (subtractRanges ranges deletions).output = indices ranges \ indices deletions ∧
      (subtractRanges ranges deletions).output.map bounds = exactSubtract ranges deletions := by
  obtain ⟨ordered, removed⟩ := subtractRanges_spec tidy wf nonempty
  exact ⟨ordered, removed, exactSubtract_bounds.symm⟩

theorem subtractRanges_correct_sample :
    Ordered (subtractRanges [⟨7, 20⟩, ⟨0, 5⟩] [⟨3, 9⟩, ⟨4, 4⟩, ⟨12, 13⟩]).output ∧
      indices (subtractRanges [⟨7, 20⟩, ⟨0, 5⟩] [⟨3, 9⟩, ⟨4, 4⟩, ⟨12, 13⟩]).output =
        indices [⟨7, 20⟩, ⟨0, 5⟩] \ indices [⟨3, 9⟩, ⟨4, 4⟩, ⟨12, 13⟩] ∧
      (subtractRanges [⟨7, 20⟩, ⟨0, 5⟩] [⟨3, 9⟩, ⟨4, 4⟩, ⟨12, 13⟩]).output.map bounds =
        exactSubtract [⟨7, 20⟩, ⟨0, 5⟩] [⟨3, 9⟩, ⟨4, 4⟩, ⟨12, 13⟩] :=
  subtractRanges_correct (by decide) (by decide) (by decide)

theorem mergeFrom_ne_nil (top : CRange) : mergeFrom top rest ≠ [] := by
  induction rest generalizing top with
  | nil => exact cons_ne_nil _ _
  | cons range rest ih =>
    rw [mergeFrom]
    split
    · exact cons_ne_nil _ _
    · split
      · exact ih _
      · exact ih _

theorem mergeable_of_merged {top : CRange} (merged : Merged (mergeFrom top rest)) :
    (top :: rest).Pairwise Mergeable := by
  induction rest generalizing top with
  | nil => exact pairwise_singleton _ _
  | cons range rest ih =>
    rw [mergeFrom] at merged
    split at merged
    · obtain ⟨-, after, mergedRest⟩ := cons_iff.mp merged
      obtain ⟨next, member⟩ := exists_mem_of_ne_nil _ (mergeFrom_ne_nil range)
      refine pairwise_cons.mpr ⟨fun other _ last => ?_, ih mergedRest⟩
      have gap := after next member
      have bound := next.start.toNat_lt
      rw [last] at gap
      change 4294967296 < _ at gap
      omega
    · rename_i adjacent
      split at merged
      · rename_i grows
        obtain ⟨safeRange, safeTail⟩ := pairwise_cons.mp (ih merged)
        refine pairwise_cons.mpr ⟨fun other _ last => ?_, pairwise_cons.mpr ⟨safeRange, safeTail⟩⟩
        rw [last, UInt32.lt_iff_toNat_lt] at grows
        have bound := range.end.toNat_lt
        change 4294967295 < _ at grows
        omega
      · rename_i covers
        obtain ⟨safeTop, safeTail⟩ := pairwise_cons.mp (ih merged)
        refine pairwise_cons.mpr ⟨forall_mem_cons.mpr ⟨fun last => ?_, safeTop⟩,
          pairwise_cons.mpr ⟨fun other member last => safeTop other member ?_, safeTail⟩⟩
        · rw [last] at adjacent
          exact UInt32.toNat_inj.mp (Nat.eq_zero_of_not_pos adjacent)
        · rw [last] at covers
          have bound := top.end.toNat_lt
          refine UInt32.toNat_inj.mp (Nat.le_antisymm ?_ (Nat.not_lt.mp covers))
          change _ ≤ 4294967295
          omega

theorem mergeSafe_of_merged (merged : Merged (mergeRanges ranges)) : MergeSafe ranges := by
  rw [mergeRanges] at merged
  rw [MergeSafe]
  cases found : sortRanges ranges with
  | nil => exact .nil
  | cons first rest =>
    rw [found] at merged
    exact mergeable_of_merged merged

theorem mergeRanges_correct_iff (wf : ∀ range ∈ ranges, WellFormedRange range) :
    Merged (mergeRanges ranges) ∧ indices (mergeRanges ranges) = indices ranges ↔
      MergeSafe ranges :=
  ⟨fun correct => mergeSafe_of_merged correct.1, mergeRanges_spec wf⟩

theorem mergeRanges_correct_iff_sample : Merged (mergeRanges [⟨5, 6⟩, ⟨0, 4⟩, ⟨9, 0xffffffff⟩]) ∧
      indices (mergeRanges [⟨5, 6⟩, ⟨0, 4⟩, ⟨9, 0xffffffff⟩]) =
        indices [⟨5, 6⟩, ⟨0, 4⟩, ⟨9, 0xffffffff⟩] :=
  (mergeRanges_correct_iff (by decide)).mpr (by decide)

theorem lastIndex_splits_merge : mergeRanges [⟨0, 0xffffffff⟩, ⟨5, 6⟩] = [⟨0, 0xffffffff⟩, ⟨5, 6⟩] ∧
      ¬Merged [⟨0, 0xffffffff⟩, ⟨5, 6⟩] :=
  ⟨by decide, fun merged => absurd merged.2 (by decide)⟩

theorem ordered_iff_linkedFrom {nLastEnd : UInt32} :
    Ordered ranges ∧ (∀ range ∈ ranges, nLastEnd.toNat < range.start.toNat) ↔
      LinkedFrom nLastEnd ranges ∧ ∀ range ∈ ranges, range.start.toNat ≠ 0 := by
  induction ranges generalizing nLastEnd with
  | nil => simp [Ordered, LinkedFrom]
  | cons range rest ih =>
    rw [Ordered.cons_iff, forall_mem_cons, forall_mem_cons, LinkedFrom]
    constructor
    · rintro ⟨⟨wf, before, ordered⟩, starts, -⟩
      obtain ⟨linked, nonzero⟩ := ih.mp ⟨ordered, before⟩
      exact ⟨⟨wf, .inr starts, linked⟩, by omega, nonzero⟩
    · rintro ⟨⟨wf, starts, linked⟩, nonzero, others⟩
      obtain ⟨ordered, before⟩ := ih.mpr ⟨linked, others⟩
      refine ⟨⟨wf, before, ordered⟩, by omega, fun other member => ?_⟩
      have later := before other member
      simp only [WellFormedRange] at wf
      omega

theorem ordered_iff_linked : Ordered ranges ↔
    LinkedFrom 0 ranges ∧ ∀ range ∈ ranges.tail, range.start.toNat ≠ 0 := by
  cases ranges with
  | nil => simp [Ordered, LinkedFrom]
  | cons range rest =>
    have zero : (0 : UInt32).toNat = 0 := rfl
    have tail := @ordered_iff_linkedFrom rest range.end
    have first : range.start.toNat = 0 ∨ (0 : UInt32).toNat < range.start.toNat := by omega
    rw [Ordered.cons_iff, LinkedFrom, tail_cons]
    tauto

theorem validateRanges_exact_iff (ranges : List CRange) :
    ((validateRangesAndGetCount ranges ≠ 0 ↔ ranges ≠ [] ∧ Ordered ranges) ∧
        (validateRangesAndGetCount ranges ≠ 0 →
          (validateRangesAndGetCount ranges).toNat = (indices ranges).card)) ↔
      (LinkedFrom 0 ranges → if ∀ range ∈ ranges.tail, range.start.toNat ≠ 0 then
        (indices ranges).card ≠ 2 ^ 32 else 2 ^ 32 ∣ (ranges.map rangeLength).sum) := by
  have value : (validateRangesAndGetCount ranges).toNat = if LinkedFrom 0 ranges then
      (0 + (ranges.map rangeLength).sum) % 2 ^ 32 else 0 := validateFrom_spec
  have nonzero : validateRangesAndGetCount ranges ≠ 0 ↔
      (validateRangesAndGetCount ranges).toNat ≠ 0 := UInt32.toNat_inj.not.symm
  rw [nonzero, value, ordered_iff_linked]
  by_cases linked : LinkedFrom 0 ranges
  · by_cases first : ∀ range ∈ ranges.tail, range.start.toNat ≠ 0
    · have tidy : Tidy ranges := (ordered_iff_linked.mpr ⟨linked, first⟩).tidy
      have bound := card_indices_le ranges
      rw [card_indices tidy] at bound ⊢
      have valid : (ranges ≠ [] ∧ LinkedFrom 0 ranges ∧ ∀ range ∈ ranges.tail,
          range.start.toNat ≠ 0) ↔ ranges ≠ [] := and_iff_left ⟨linked, first⟩
      rw [valid, if_pos linked, if_pos first, imp_iff_right linked]
      clear valid
      cases ranges with
      | nil => simp
      | cons range rest =>
        have wf : _ ≤ _ := linked.1
        have positive : 0 < rangeLength range := by
          rw [rangeLength]
          omega
        rw [map_cons, sum_cons] at bound ⊢
        simp only [ne_eq, reduceCtorEq, not_false_eq_true, iff_true]
        omega
    · rw [if_pos linked, if_neg first]
      simp only [linked, first, and_false, iff_false, true_implies, not_not]
      omega
  · simp only [linked, if_false, false_and, and_false, ne_eq, not_true_eq_false, false_implies,
      and_self]

theorem zeroStart_counted_twice :
    validateRangesAndGetCount [⟨0, 0⟩, ⟨0, 0⟩] = 2 ∧ ¬Ordered [⟨0, 0⟩, ⟨0, 0⟩] ∧
      validateRangesAndGetCount [⟨0, 0xffffffff⟩] = 0 ∧ Ordered [⟨0, 0xffffffff⟩] :=
  ⟨by decide, fun ordered => absurd ordered.2 (by decide), by decide, ordered_singleton (by decide)⟩

section

variable {other : CRange} {tail parent child : List CRange}

theorem head_covers (merged : Merged (range :: rest)) (wf : WellFormedRange other)
    (inside : indices (other :: tail) ⊆ indices (range :: rest)) :
    range.start.toNat ≤ other.start.toNat ∧
      (other.start.toNat ≤ range.end.toNat → other.end.toNat ≤ range.end.toNat) := by
  simp only [WellFormedRange] at wf
  obtain ⟨wfRange, after, -⟩ := cons_iff.mp merged
  have beyond : ∀ n ∈ indices rest, range.end.toNat + 1 < n := by
    intro n member
    obtain ⟨later, there, low, -⟩ := mem_indices.mp member
    have gap := after later there
    omega
  have member (n : Nat) (low : other.start.toNat ≤ n) (high : n ≤ other.end.toNat) :
      (range.start.toNat ≤ n ∧ n ≤ range.end.toNat) ∨ range.end.toNat + 1 < n :=
    (mem_indices_cons.mp (inside (mem_indices_cons.mpr (.inl ⟨low, high⟩)))).imp_right (beyond n)
  simp only [WellFormedRange] at wfRange
  constructor
  · have start := member other.start.toNat le_rfl wf
    omega
  · intro meets
    by_contra longer
    have next := member (range.end.toNat + 1) (by omega) (by omega)
    omega

theorem indices_tail_subset (merged : Merged (range :: rest))
    (inside : indices (range :: rest) ⊆ indices (range :: tail)) : indices rest ⊆ indices tail := by
  obtain ⟨-, after, -⟩ := cons_iff.mp merged
  intro n member
  obtain ⟨later, there, low, -⟩ := mem_indices.mp member
  have gap := after later there
  refine (mem_indices_cons.mp (inside (mem_indices_cons.mpr (.inr member)))).resolve_left ?_
  omega

theorem merged_unique (first : Merged ranges) (second : Merged rest)
    (same : indices ranges = indices rest) : ranges = rest := by
  induction ranges generalizing rest with
  | nil =>
    cases rest with
    | nil => rfl
    | cons other tail =>
      have member : other.start.toNat ∈ indices (other :: tail) :=
        mem_indices_cons.mpr (.inl ⟨le_rfl, (cons_iff.mp second).1⟩)
      rw [← same] at member
      cases mem_indices_nil.mp member
  | cons range others ih =>
    have wf := (cons_iff.mp first).1
    cases rest with
    | nil =>
      have member : range.start.toNat ∈ indices (range :: others) :=
        mem_indices_cons.mpr (.inl ⟨le_rfl, wf⟩)
      rw [same] at member
      cases mem_indices_nil.mp member
    | cons other tail =>
      have wfOther := (cons_iff.mp second).1
      have one := head_covers first wfOther same.ge
      have two := head_covers second wf same.le
      simp only [WellFormedRange] at wf wfOther
      obtain rfl : range = other := by
        rw [CRange.mk.injEq, ← UInt32.toNat_inj, ← UInt32.toNat_inj]
        omega
      rw [ih (cons_iff.mp first).2.2 (cons_iff.mp second).2.2
        (Finset.Subset.antisymm (indices_tail_subset first same.le)
          (indices_tail_subset second same.ge))]

theorem covered_by_one (merged : Merged parent) (wf : WellFormedRange other)
    (inside : indices [other] ⊆ indices parent) :
    ∃ range ∈ parent, range.start.toNat ≤ other.start.toNat ∧
      other.end.toNat ≤ range.end.toNat := by
  induction parent with
  | nil =>
    have member : other.start.toNat ∈ indices [other] := mem_indices_cons.mpr (.inl ⟨le_rfl, wf⟩)
    cases mem_indices_nil.mp (inside member)
  | cons range rest ih =>
    obtain ⟨low, high⟩ := head_covers merged wf inside
    by_cases meets : other.start.toNat ≤ range.end.toNat
    · exact ⟨range, mem_cons_self, low, high meets⟩
    · have later : indices [other] ⊆ indices rest := by
        intro n member
        refine (mem_indices_cons.mp (inside member)).resolve_left ?_
        rw [mem_indices_cons, mem_indices_nil, or_false] at member
        omega
      obtain ⟨found, there, covers⟩ := ih (cons_iff.mp merged).2.2 later
      exact ⟨found, mem_cons_of_mem _ there, covers⟩

theorem doesRangeContain_iff (merged : Merged parent)
    (wf : ∀ range ∈ child, WellFormedRange range) (nonempty : child ≠ []) :
    doesRangeContain parent child = true ↔ indices child ⊆ indices parent := by
  refine ⟨fun contains => (doesRangeContain_spec contains).2, fun inside => ?_⟩
  have each : ∀ other ∈ child, ∃ range ∈ parent, range.start.toNat ≤ other.start.toNat ∧
      other.end.toNat ≤ range.end.toNat := by
    intro other member
    refine covered_by_one merged (wf other member) fun n covered => inside ?_
    rw [mem_indices_cons, mem_indices_nil, or_false] at covered
    exact mem_indices.mpr ⟨other, member, covered⟩
  obtain ⟨first, member⟩ := exists_mem_of_ne_nil child nonempty
  obtain ⟨range, there, -⟩ := each first member
  simp only [doesRangeContain, Bool.and_eq_true, Bool.not_eq_true', isEmpty_eq_false_iff,
    all_eq_true, any_eq_true, decide_eq_true_eq, UInt32.le_iff_toNat_le]
  exact ⟨⟨ne_nil_of_mem there, nonempty⟩, each⟩

theorem mergeSafe_iff : MergeSafe ranges ↔ ranges.Pairwise fun range other =>
    (range.start ≤ other.start → Mergeable range other) ∧
      (¬range.start ≤ other.start → Mergeable other range) := by
  induction ranges with
  | nil => exact iff_of_true .nil .nil
  | cons range rest ih =>
    have sorted : (rest.insertionSort compareRange).Pairwise compareRange := by
      have : Std.Total compareRange := ⟨fun _ _ => UInt32.le_total _ _⟩
      have : IsTrans CRange compareRange := ⟨fun _ _ _ => UInt32.le_trans⟩
      exact pairwise_insertionSort compareRange rest
    rw [pairwise_cons, ← ih, MergeSafe, MergeSafe, sortRanges, sortRanges, insertionSort_cons]
    have members (other : CRange) : other ∈ rest ↔ other ∈ rest.insertionSort compareRange :=
      (perm_insertionSort compareRange rest).mem_iff.symm
    simp only [members]
    generalize rest.insertionSort compareRange = done at sorted
    -- the sort puts a range before the first one that starts no earlier
    induction done with
    | nil => simp
    | cons first later ih =>
      obtain ⟨least, sorted⟩ := pairwise_cons.mp sorted
      rw [orderedInsert_cons]
      split
      · rename_i before
        have all : ∀ other ∈ first :: later, range.start ≤ other.start :=
          forall_mem_cons.mpr ⟨before, fun other member =>
            UInt32.le_trans before (least other member)⟩
        rw [pairwise_cons]
        refine and_congr_left fun _ => forall₂_congr fun other member => ?_
        simp [all other member]
      · rename_i after
        have lower : ¬ range.start ≤ first.start := after
        have next := ih sorted
        simp only [pairwise_cons, mem_cons, mem_orderedInsert, forall_eq_or_imp, next, lower,
          false_imp_iff, true_and, not_false_eq_true, true_imp_iff]
        tauto

theorem transfer_roundTrip_iff (merged : Merged parent)
    (wf : ∀ range ∈ child, WellFormedRange range) (nonempty : child ≠ []) :
    (doesRangeContain parent child = true ↔ indices child ⊆ indices parent) ∧
      (doesRangeContain parent child = true →
        (mergeRanges ((subtractRanges parent child).output ++ child) = parent ↔
          MergeSafe child)) := by
  obtain ⟨ordered, removed⟩ := subtractRanges_spec merged.ordered.tidy wf nonempty
  have wfAll : ∀ range ∈ (subtractRanges parent child).output ++ child, WellFormedRange range :=
    forall_mem_append.mpr ⟨ordered.1, wf⟩
  refine ⟨doesRangeContain_iff merged wf nonempty, fun contained => ?_⟩
  have whole : indices ((subtractRanges parent child).output ++ child) = indices parent := by
    rw [indices_append, removed]
    exact Finset.sdiff_union_of_subset (doesRangeContain_spec contained).2
  have safe_iff : MergeSafe ((subtractRanges parent child).output ++ child) ↔ MergeSafe child := by
    rw [mergeSafe_iff, mergeSafe_iff, pairwise_append, ← mergeSafe_iff]
    refine ⟨fun safe => safe.2.1, fun safe => ⟨ordered.tidy.mergeSafe, safe, ?_⟩⟩
    intro piece left other taken
    -- a piece is left of what the child does not cover, so neither reaches the other
    have apart : ∀ n, piece.start.toNat ≤ n ∧ n ≤ piece.end.toNat →
        ¬(other.start.toNat ≤ n ∧ n ≤ other.end.toNat) := by
      intro n inPiece inOther
      have kept := mem_indices.mpr ⟨piece, left, inPiece⟩
      rw [removed, Finset.mem_sdiff] at kept
      exact kept.2 (mem_indices.mpr ⟨other, taken, inOther⟩)
    have wfPiece : piece.start.toNat ≤ piece.end.toNat := ordered.1 piece left
    have wfOther : other.start.toNat ≤ other.end.toNat := wf other taken
    have fits := other.start.toNat_lt
    have fitsPiece := piece.start.toNat_lt
    simp only [UInt32.le_iff_toNat_le]
    refine ⟨fun first last => absurd ⟨le_rfl, wfOther⟩ (apart other.start.toNat ⟨first, ?_⟩),
      fun second last => absurd ⟨?_, ?_⟩ (apart piece.start.toNat ⟨le_rfl, wfPiece⟩)⟩
    · rw [last]
      change _ ≤ 4294967295
      omega
    · omega
    · rw [last]
      change _ ≤ 4294967295
      omega
  constructor
  · intro back
    rw [← back] at merged
    exact safe_iff.mp (mergeSafe_of_merged merged)
  · intro safe
    obtain ⟨normal, same⟩ := mergeRanges_spec wfAll (safe_iff.mpr safe)
    exact merged_unique normal merged (same.trans whole)

theorem transfer_roundTrip_iff_sample :
    doesRangeContain [⟨0, 9⟩, ⟨20, 29⟩] [⟨22, 29⟩, ⟨3, 4⟩] = true ∧
      mergeRanges ((subtractRanges [⟨0, 9⟩, ⟨20, 29⟩] [⟨22, 29⟩, ⟨3, 4⟩]).output ++
        [⟨22, 29⟩, ⟨3, 4⟩]) = [⟨0, 9⟩, ⟨20, 29⟩] := by
  obtain ⟨-, back⟩ := @transfer_roundTrip_iff [⟨0, 9⟩, ⟨20, 29⟩] [⟨22, 29⟩, ⟨3, 4⟩]
    ⟨by decide, by decide⟩ (by decide) (by decide)
  exact ⟨by decide, (back (by decide)).mpr (by decide)⟩

theorem overlappingChild_splits_parent :
    doesRangeContain [⟨0, 0xffffffff⟩] [⟨5, 0xffffffff⟩, ⟨6, 7⟩] = true ∧
      mergeRanges ((subtractRanges [⟨0, 0xffffffff⟩] [⟨5, 0xffffffff⟩, ⟨6, 7⟩]).output ++
        [⟨5, 0xffffffff⟩, ⟨6, 7⟩]) = [⟨0, 0xffffffff⟩, ⟨6, 7⟩] := by
  decide

end

end Minerium
