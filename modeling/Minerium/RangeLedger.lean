import Minerium.AmountSend
import Minerium.Lib.Holdings
import Minerium.Ranges
import Minerium.TokenRun

/-! Who holds which indices of an asset that uses input ranges: the asset itself and the holders of
its allocations. -/

namespace Minerium

open Option

variable {owner : Owner}

/-- The owners of an asset: `none` is the asset record itself. -/
abbrev Owner := Option Bytes

section

variable (vchAsset : Bytes) (state : AssetState)

def heldBy : Owner → List CRange
  | none => ((state.assets.lookup vchAsset).map (·.listAllocationInputs)).getD []
  | some holder => rangesAt state.lastAllocations ⟨vchAsset, holder⟩

def unitsOf : Owner → Int
  | none => ((state.assets.lookup vchAsset).map (·.nBalance.toInt)).getD 0
  | some holder => balanceAt state.lastAllocations ⟨vchAsset, holder⟩

/-- Every list is well-formed and without overlaps, every balance counts its list, and no
index has two owners. -/
structure RangeLedger : Prop where
  tidy : ∀ owner, Tidy (heldBy vchAsset state owner)
  counted : ∀ owner, unitsOf vchAsset state owner =
    ((indices (heldBy vchAsset state owner)).card : Int)
  apart : Holdings.Apart fun owner => indices (heldBy vchAsset state owner)

end

section

variable {vchAsset : Bytes} {before after : AssetState} {asset : CAsset}

theorem RangeLedger.same (ledger : RangeLedger vchAsset before)
    (held : ∀ owner, heldBy vchAsset after owner = heldBy vchAsset before owner ∧
      unitsOf vchAsset after owner = unitsOf vchAsset before owner) :
    RangeLedger vchAsset after := by
  refine ⟨fun owner => ?_, fun owner => ?_, ?_⟩
  · rw [(held owner).1]
    exact ledger.tidy owner
  · rw [(held owner).1, (held owner).2]
    exact ledger.counted owner
  · intro owner other different
    simp only [held]
    exact ledger.apart owner other different

theorem heldBy_kept (kept : HoldingsKept before after) :
    heldBy vchAsset after owner = heldBy vchAsset before owner ∧
      unitsOf vchAsset after owner = unitsOf vchAsset before owner := by
  cases owner with
  | none =>
    simp only [heldBy, unitsOf, kept.assets]
    exact ⟨trivial, trivial⟩
  | some holder => exact ⟨kept.ranges _, kept.balance _⟩

theorem RangeLedger.kept (ledger : RangeLedger vchAsset before)
    (kept : HoldingsKept before after) : RangeLedger vchAsset after :=
  ledger.same fun _ => heldBy_kept kept

theorem heldBy_untouched (same : AssetUntouched vchAsset before after) :
    heldBy vchAsset after owner = heldBy vchAsset before owner ∧
      unitsOf vchAsset after owner = unitsOf vchAsset before owner := by
  cases owner with
  | none =>
    simp only [heldBy, unitsOf, same.asset]
    exact ⟨trivial, trivial⟩
  | some holder =>
    simp only [heldBy, unitsOf, rangesAt, balanceAt, same.records]
    exact ⟨trivial, trivial⟩

theorem tidy_append {first second : List CRange} (tidy : Tidy first) (tidySecond : Tidy second)
    (disjoint : Disjoint (indices first) (indices second)) : Tidy (first ++ second) := by
  refine ⟨?_, List.pairwise_append.mpr ⟨tidy.2, tidySecond.2, fun range here other there => ?_⟩⟩
  · intro range member
    rcases List.mem_append.mp member with here | there
    · exact tidy.1 range here
    · exact tidySecond.1 range there
  · have wf : range.start.toNat ≤ range.end.toNat := tidy.1 range here
    have wfOther : other.start.toNat ≤ other.end.toNat := tidySecond.1 other there
    -- the larger of the two starts would be a common index
    by_contra overlap
    have meet : ∃ n, (range.start.toNat ≤ n ∧ n ≤ range.end.toNat) ∧
        other.start.toNat ≤ n ∧ n ≤ other.end.toNat := by
      simp only [ApartRanges] at overlap
      exact ⟨max range.start.toNat other.start.toNat, by omega, by omega⟩
    obtain ⟨n, inside, insideOther⟩ := meet
    exact Finset.disjoint_left.mp disjoint (mem_indices.mpr ⟨range, here, inside⟩)
      (mem_indices.mpr ⟨other, there, insideOther⟩)

theorem mergeRanges_append {held ranges : List CRange} (tidy : Tidy held) (tidyRanges : Tidy ranges)
    (disjoint : Disjoint (indices held) (indices ranges)) : Tidy (mergeRanges (held ++ ranges)) ∧
      indices (mergeRanges (held ++ ranges)) = indices held ∪ indices ranges := by
  have both := tidy_append tidy tidyRanges disjoint
  obtain ⟨merged, same⟩ := mergeRanges_spec both.1 both.mergeSafe
  exact ⟨merged.ordered.tidy, same.trans (indices_append held ranges)⟩

theorem RangeLedger.move (ledger : RangeLedger vchAsset before) {source target : Owner}
    {ranges : List CRange} (different : source ≠ target) (tidyRanges : Tidy ranges)
    (contained : indices ranges ⊆ indices (heldBy vchAsset before source)) (nonempty : ranges ≠ [])
    (held : ∀ owner, heldBy vchAsset after owner =
      if owner = source then (subtractRanges (heldBy vchAsset before source) ranges).output
      else if owner = target then mergeRanges (heldBy vchAsset before target ++ ranges)
      else heldBy vchAsset before owner) (units : ∀ owner, unitsOf vchAsset after owner =
      if owner = source then unitsOf vchAsset before source - ((indices ranges).card : Int)
      else if owner = target then unitsOf vchAsset before target + ((indices ranges).card : Int)
      else unitsOf vchAsset before owner) : RangeLedger vchAsset after := by
  have disjoint : Disjoint (indices (heldBy vchAsset before target)) (indices ranges) :=
    Finset.disjoint_of_subset_right contained (ledger.apart target source (Ne.symm different))
  obtain ⟨tidySource, sourceIndices⟩ := subtractRanges_spec (ledger.tidy source) tidyRanges.1
    nonempty
  obtain ⟨tidyTarget, targetIndices⟩ := mergeRanges_append (ledger.tidy target) tidyRanges disjoint
  refine ⟨fun owner => ?_, fun owner => ?_, ?_⟩
  · rw [held]
    split
    · exact tidySource.tidy
    · split
      · exact tidyTarget
      · exact ledger.tidy owner
  · rw [held, units]
    split
    · rw [sourceIndices, ledger.counted, Finset.card_sdiff_of_subset contained]
      have fewer := Finset.card_le_card contained
      omega
    · split
      · rw [targetIndices, ledger.counted, Finset.card_union_of_disjoint disjoint]
        omega
      · exact ledger.counted owner
  · refine ledger.apart.move different contained ?_ ?_ fun owner notSource notTarget => ?_
    · rw [held, if_pos rfl, sourceIndices]
    · rw [held, if_neg different.symm, if_pos rfl, targetIndices]
    · rw [held, if_neg notSource, if_neg notTarget]

theorem heldBy_write (before : AssetState) {record : CAssetAllocation} {holder : Bytes}
    (named : record.tuple = ⟨vchAsset, holder⟩) (owner : Owner) :
    heldBy vchAsset (afterWrite record before) owner =
        (if owner = some holder then record.listAllocationInputs
        else heldBy vchAsset before owner) ∧
      unitsOf vchAsset (afterWrite record before) owner =
        (if owner = some holder then record.nBalance.toInt else unitsOf vchAsset before owner) := by
  cases owner with
  | none => exact ⟨rfl, rfl⟩
  | some other =>
    simp only [heldBy, unitsOf, afterWrite, rangesAt_insert, balanceAt_insert, named,
      CAssetAllocationTuple.mk.injEq, true_and, some.injEq, and_self]

theorem heldBy_writeAsset (before : AssetState) (named : asset.vchAsset =
  vchAsset) (owner : Owner) : heldBy vchAsset (afterWriteAsset asset before) owner =
        (if owner = none then asset.listAllocationInputs else heldBy vchAsset before owner) ∧
      unitsOf vchAsset (afterWriteAsset asset before) owner =
        (if owner = none then asset.nBalance.toInt else unitsOf vchAsset before owner) := by
  cases owner with
  | none =>
    simp only [heldBy, unitsOf, afterWriteAsset, FinmapTotal.lookup_insert_eq, named, if_true,
      map_some, getD_some]
    exact ⟨trivial, trivial⟩
  | some holder =>
    rw [if_neg (some_ne_none holder), if_neg (some_ne_none holder)]
    exact ⟨rfl, rfl⟩

theorem RangeLedger.rewrite (ledger : RangeLedger vchAsset before) {dbAsset : CAsset}
    (found : before.assets.lookup vchAsset = some dbAsset) (named : asset.vchAsset = vchAsset)
    (list : asset.listAllocationInputs = dbAsset.listAllocationInputs)
    (balance : asset.nBalance = dbAsset.nBalance) :
    RangeLedger vchAsset (afterWriteAsset asset before) := by
  refine ledger.same fun owner => ?_
  obtain ⟨held, units⟩ := heldBy_writeAsset before named owner
  rw [held, units, list, balance]
  cases owner with
  | none =>
    rw [if_pos rfl, if_pos rfl, heldBy, unitsOf, found]
    exact ⟨rfl, rfl⟩
  | some holder =>
    rw [if_neg (some_ne_none holder), if_neg (some_ne_none holder)]
    exact ⟨rfl, rfl⟩

theorem RangeLedger.grant (ledger : RangeLedger vchAsset before)
    (named : asset.vchAsset = vchAsset) (items : Finset Nat)
    (tidy : Tidy asset.listAllocationInputs)
    (granted : indices asset.listAllocationInputs = indices (heldBy vchAsset before none) ∪ items)
    (fresh : ∀ owner, owner ≠ none → Disjoint (indices (heldBy vchAsset before owner)) items)
    (counted : asset.nBalance.toInt = ((indices asset.listAllocationInputs).card : Int)) :
    RangeLedger vchAsset (afterWriteAsset asset before) := by
  have held := fun owner => (heldBy_writeAsset before named owner).1
  have units := fun owner => (heldBy_writeAsset before named owner).2
  refine ⟨fun owner => ?_, fun owner => ?_, ?_⟩
  · rw [held]
    split
    · exact tidy
    · exact ledger.tidy owner
  · rw [held, units]
    split
    · exact counted
    · exact ledger.counted owner
  · refine ledger.apart.grant none items fresh ?_ fun owner notAsset => ?_
    · rw [held, if_pos rfl, granted]
    · rw [held, if_neg notAsset]

end

end Minerium
