import Minerium.Confinement

/-! What an activation, an update, a transfer and a collection of interest store. -/

namespace Minerium

open Procedure (wp wp_bind wp_liftExcept wp_mono wp_orStop wp_pure wp_require)

variable {post : Unit → AssetState → Prop} {stopped : ServiceStop → AssetState → Prop}
  {state : AssetState} {env : AssetEnv} {inputs : UtxoMap} {tx : CTransaction} {vchAlias : Bytes}
  {theAsset : CAsset} (nHeight : Nat)

theorem afterWriteAsset_lookup (asset : CAsset) (state : AssetState) :
    (afterWriteAsset asset state).assets.lookup asset.vchAsset = some asset := by
  rw [afterWriteAsset, FinmapTotal.lookup_insert_eq, if_pos rfl]

theorem assetActivate_spec : wp (assetActivate env inputs tx vchAlias nHeight theAsset)
      (fun _ after => state.assets.lookup theAsset.vchAsset = none ∧
        after = afterWriteAsset (activatedAsset env tx nHeight theAsset) state)
      (fun _ after => after = state) state := by
  simp only [assetActivate, wp_bind, wp_readAsset, wp_require, wp_writeAsset]
  refine wp_requireAssetOwner.mpr ⟨fun _ => ⟨fun missing => ⟨?_, rfl⟩, fun _ => rfl⟩, fun _ => rfl⟩
  exact Option.isNone_iff_eq_none.mp missing

structure UpdateAccepted (state : AssetState) (dbAsset theAsset : CAsset) : Prop where
  found : state.assets.lookup theAsset.vchAsset = some dbAsset
  newRanges : theAsset.listAllocationInputs ≠ [] → dbAsset.bUseInputRanges = true ∧
    (∀ input ∈ theAsset.listAllocationInputs,
      dbAsset.nTotalSupply.toInt ≤ (input.start.toNat : Int)) ∧
    validateRangesAndGetCount theAsset.listAllocationInputs ≠ 0
  capped : (increased dbAsset theAsset).nTotalSupply ≤ dbAsset.nMaxSupply
  rate : dbAsset.bCanAdjustInterestRate = true ∨
    floatEq theAsset.fInterestRate dbAsset.fInterestRate = true

theorem startsBefore_eq_none {ranges : List CRange} {nTotalSupply : CAmount}
    (none : startsBefore ranges nTotalSupply = none) :
    ∀ input ∈ ranges, nTotalSupply.toInt ≤ (input.start.toNat : Int) := by
  intro input member
  rw [startsBefore, List.find?_eq_none] at none
  have notBefore := none input member
  simp only [decide_eq_true_eq] at notBefore
  omega

theorem wp_newRanges {dbAsset : CAsset}
    (stops : ∀ code text, stopped (assetError code text) state) :
    wp (requireIf (!theAsset.listAllocationInputs.isEmpty)
        (requireNewRanges dbAsset theAsset)) post stopped state ↔
      ((theAsset.listAllocationInputs ≠ [] → dbAsset.bUseInputRanges = true ∧
        startsBefore theAsset.listAllocationInputs dbAsset.nTotalSupply = none ∧
        validateRangesAndGetCount theAsset.listAllocationInputs ≠ 0) → post () state) := by
  rw [requireIf]
  cases named : theAsset.listAllocationInputs with
  | nil => simp
  | cons range ranges =>
    simp only [List.isEmpty_cons, Bool.not_false, if_true, requireNewRanges, wp_bind,
      wp_require, named, ne_eq, reduceCtorEq, not_false_eq_true, true_implies,
      Option.isNone_iff_eq_none, decide_eq_true_eq]
    constructor
    · rintro ⟨uses, -⟩ ⟨useRanges, noneBefore, counted⟩
      exact ((uses useRanges).1 noneBefore).1 counted
    · intro holds
      exact ⟨fun useRanges => ⟨fun noneBefore => ⟨fun counted =>
        holds ⟨useRanges, noneBefore, counted⟩, fun _ => stops _ _⟩, fun _ => stops _ _⟩,
        fun _ => stops _ _⟩

theorem assetUpdate_spec : wp (assetUpdate env inputs tx vchAlias nHeight theAsset)
      (fun _ after => ∃ dbAsset, UpdateAccepted state dbAsset theAsset ∧
        after = afterWriteAsset (updatedAsset env tx nHeight dbAsset theAsset) state)
      (fun _ after => after = state) state := by
  simp only [assetUpdate, requireFoundAsset, wp_bind, wp_readAsset,
    wp_orStop, wp_require, wp_writeAsset]
  refine ⟨fun dbAsset found => ?_, fun _ => trivial⟩
  refine wp_requireAssetOwner.mpr ⟨fun _ => ?_, fun _ => rfl⟩
  refine (wp_newRanges fun _ _ => rfl).mpr fun newRanges => ⟨fun inRange _ => ⟨fun _ =>
    ⟨fun capped => ⟨fun rate => ?_, fun _ => rfl⟩, fun _ => rfl⟩, fun _ => rfl⟩, fun _ => rfl⟩
  refine ⟨dbAsset, ⟨found, fun nonempty => ?_, of_decide_eq_true capped,
    (Bool.or_eq_true _ _).mp rate⟩, rfl⟩
  obtain ⟨useRanges, noneBefore, counted⟩ := newRanges nonempty
  exact ⟨useRanges, startsBefore_eq_none noneBefore, counted⟩

theorem assetTransfer_spec : wp (assetTransfer env tx nHeight theAsset)
      (fun _ after => ∃ dbAsset, state.assets.lookup theAsset.vchAsset = some dbAsset ∧
        after = afterWriteAsset (transferredAsset env tx nHeight dbAsset theAsset) state)
      (fun _ after => after = state) state := by
  simp only [assetTransfer, requireFoundAsset, wp_bind, wp_readAsset, wp_orStop, wp_writeAsset]
  exact ⟨fun dbAsset found => ⟨dbAsset, found, rfl⟩, fun _ => trivial⟩

structure InterestCollected (env : AssetEnv) (txHash : Uint256) (nHeight : Nat)
    (tuple : CAssetAllocationTuple) (before after : AssetState) : Prop where
  collected : ∃ dbAsset record asset' allocation' nMaxSupply nInterest middle,
    before.assets.lookup tuple.vchAsset = some dbAsset ∧
    before.lastAllocations.lookup tuple = some record ∧
    InterestPaid env dbAsset record nHeight asset' allocation' nMaxSupply nInterest ∧
    Reverted tuple before middle ∧
    after = afterWrite (stamped txHash nHeight false allocation') (afterWriteAsset asset' middle)

theorem collectInterest_spec {txHash : Uint256} {nHeight : Nat} {tuple : CAssetAllocationTuple}
    (keyed : Keyed state) (synced : Synced state tuple) :
    wp (collectInterest env txHash nHeight tuple)
      (fun _ => InterestCollected env txHash nHeight tuple state)
      (fun _ => HoldingsKept state) state := by
  have unchanged := HoldingsKept.refl state
  simp only [collectInterest, checkInterest, wp_bind, wp_pure, wp_readAssetAllocation, wp_orStop,
    wp_readAsset, wp_require]
  refine ⟨fun db found => ⟨fun dbAsset foundAsset => ⟨fun _ => ?_, fun _ => unchanged⟩,
    fun _ => unchanged⟩, fun _ => unchanged⟩
  have named := keyed.allocations tuple db found
  refine wp_mono (revert_spec keyed tuple txHash nHeight) ?_ (fun _ _ impossible => impossible.elim)
  rintro - middle done
  refine ⟨fun record foundAgain => ?_, fun _ => done.kept⟩
  rw [synced] at found
  rw [done.synced fun _ => synced, done.stays db found] at foundAgain
  cases foundAgain
  simp only [wp_liftExcept, wp_writeAsset, wp_writeSender]
  refine ⟨fun result applied => ?_, fun _ _ => done.kept⟩
  obtain ⟨nMaxSupply, nInterest, paid⟩ := applyInterest_spec (liftInterest_eq_ok applied)
  have sameAsset : db.vchAsset = tuple.vchAsset := congrArg CAssetAllocationTuple.vchAsset named
  rw [sameAsset] at foundAsset
  exact ⟨dbAsset, db, result.1, result.2, nMaxSupply, nInterest, middle, foundAsset, found, paid,
    done, rfl⟩

end Minerium
