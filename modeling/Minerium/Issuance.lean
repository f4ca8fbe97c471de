import Mathlib.Algebra.BigOperators.Intervals
import Mathlib.Algebra.Order.BigOperators.Group.Finset
import Mathlib.Tactic.Ring
import Minerium.Payments

/-! The coins issued up to a height: the final `else` at every height, corrected band by band.
-/

namespace Minerium

open List

variable {bands : List (HeightBand Int)} {fallback : Int}

namespace HeightBand

variable {α : Type}

def overlap (band : HeightBand α) (count : Nat) : Nat := min (band.last + 1) count - band.first

theorem overlap_succ {band : HeightBand α} {count : Nat} :
    band.overlap (count + 1) = band.overlap count + if band.contains count then 1 else 0 := by
  unfold overlap
  by_cases inside : band.contains count = true
  · rw [if_pos inside]
    simp only [contains, Bool.and_eq_true, decide_eq_true_eq] at inside
    omega
  · rw [if_neg inside]
    simp only [contains, Bool.and_eq_true, decide_eq_true_eq, not_and] at inside
    by_cases started : band.first ≤ count
    · have ended := inside started
      omega
    · omega

end HeightBand

theorem bandValue_map {α β : Type} (f : α → β) (bands : List (HeightBand α)) (fallback : α)
    (nHeight : Nat) :
    bandValue (bands.map fun band => ⟨band.first, band.last, f band.value⟩) (f fallback) nHeight =
      f (bandValue bands fallback nHeight) := by
  unfold bandValue
  rw [List.find?_map]
  have same : ((fun band : HeightBand β => band.contains nHeight) ∘
      fun band : HeightBand α => ⟨band.first, band.last, f band.value⟩) =
      fun band => band.contains nHeight := rfl
  rw [same]
  cases bands.find? fun band => band.contains nHeight <;> rfl

def Ascending {α : Type} (bands : List (HeightBand α)) : Prop :=
  bands.Pairwise fun band later => band.last < later.first

instance {α : Type} (bands : List (HeightBand α)) : Decidable (Ascending bands) :=
  inferInstanceAs (Decidable (List.Pairwise _ bands))

variable {nHeight : Nat}

theorem bandValue_eq_sum (ascending : Ascending bands) :
    bandValue bands fallback nHeight = fallback +
      (bands.map fun band => (band.value - fallback) * if band.contains nHeight then 1 else 0).sum
      := by
  induction bands with
  | nil => simp [bandValue]
  | cons band rest ih =>
    obtain ⟨behind, ascendingRest⟩ := pairwise_cons.mp ascending
    rw [map_cons, sum_cons]
    by_cases inside : band.contains nHeight = true
    · have none : ∀ later ∈ rest, later.contains nHeight = false := by
        intro later member
        have ends := behind later member
        simp only [HeightBand.contains, Bool.and_eq_true, decide_eq_true_eq] at inside
        simp only [HeightBand.contains, Bool.and_eq_false_iff, decide_eq_false_iff_not]
        omega
      have zero : (rest.map fun later => (later.value - fallback) *
          if later.contains nHeight then (1 : Int) else 0).sum = 0 := by
        apply sum_eq_zero
        intro term member
        obtain ⟨later, inRest, rfl⟩ := mem_map.mp member
        simp [none later inRest]
      rw [bandValue, List.find?_cons, inside, zero]
      simp
    · rw [Bool.not_eq_true] at inside
      have skipped : bandValue (band :: rest) fallback nHeight =
          bandValue rest fallback nHeight := by
        simp only [bandValue, List.find?_cons, inside]
      rw [skipped, ih ascendingRest]
      simp [inside]

def scheduleSum (bands : List (HeightBand Int)) (fallback : Int) (count : Nat) : Int :=
  fallback * count + (bands.map fun band => (band.value - fallback) * band.overlap count).sum

theorem sum_bandValue (ascending : Ascending bands) {count : Nat} :
    ∑ nHeight ∈ Finset.range count, bandValue bands fallback nHeight =
      scheduleSum bands fallback count := by
  induction count with
  | zero => simp [scheduleSum, HeightBand.overlap]
  | succ count ih =>
    have split : (bands.map fun band => (band.value - fallback) * (band.overlap (count + 1) :
      Int)) = bands.map fun band => (band.value - fallback) * (band.overlap count : Int) +
          (band.value - fallback) * if band.contains count then 1 else 0 := by
      apply map_congr_left
      intro band member
      rw [HeightBand.overlap_succ]
      push_cast
      rw [mul_add]
    rw [Finset.sum_range_succ, ih, bandValue_eq_sum ascending, scheduleSum, scheduleSum, split,
      sum_map_add]
    push_cast
    ring

def exactBands : List (HeightBand Int) :=
  subsidyBands.map fun band => ⟨band.first, band.last, (band.value * COIN).toInt⟩

theorem nSubsidyAt_exact : (nSubsidyAt nHeight).toInt = bandValue exactBands 1600000000 nHeight :=
  (bandValue_map (fun coins : CAmount => (coins * COIN).toInt) subsidyBands 16 nHeight).symm

def totalIssued (nHeight : Nat) : Int :=
  ∑ height ∈ Finset.range (nHeight + 1), (getBlockSubsidy height 0 false false).nSubsidy.toInt

theorem totalIssued_eq : totalIssued nHeight = scheduleSum exactBands 1600000000 (nHeight + 1) := by
  have ascending : Ascending exactBands := by decide
  rw [← sum_bandValue ascending]
  unfold totalIssued
  simp only [getBlockSubsidy_subsidy, nSubsidyAt_exact]

theorem totalIssued_mono {lower upper : Nat} (ordered : lower ≤ upper) :
    totalIssued lower ≤ totalIssued upper := by
  unfold totalIssued
  refine Finset.sum_le_sum_of_subset_of_nonneg ?_ ?_
  · exact Finset.range_mono (by omega)
  · intro height _ _
    rw [getBlockSubsidy_subsidy]
    exact (nSubsidyAt_range height).1

def documentedSupply : Int := 36000660 * COIN.toInt

theorem issuance_bounded_iff (nHeight : Nat) :
    totalIssued nHeight ≤ documentedSupply ∧ totalIssued nHeight ≤ MAX_MONEY.toInt ↔
      nHeight ≤ 1051147 := by
  have below : documentedSupply ≤ MAX_MONEY.toInt := by decide
  constructor
  · rintro ⟨bounded, _⟩
    by_contra later
    have exceeded : documentedSupply < totalIssued 1051148 := by
      rw [totalIssued_eq]
      decide
    have more : totalIssued 1051148 ≤ totalIssued nHeight := totalIssued_mono (by omega)
    omega
  · intro early
    have last : totalIssued 1051147 ≤ documentedSupply := by
      rw [totalIssued_eq]
      decide
    have less : totalIssued nHeight ≤ totalIssued 1051147 := totalIssued_mono early
    omega

theorem issuance_exceeds : totalIssued 1051148 = documentedSupply + 889 * COIN.toInt ∧
      MAX_MONEY.toInt < totalIssued 41000000 := by
  rw [totalIssued_eq, totalIssued_eq]
  constructor <;> decide

end Minerium
