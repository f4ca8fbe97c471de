import Minerium.RangeLedger

/-! Sends of ranges with one receiver. -/

namespace Minerium

open FinmapTotal MachineInt Option

open Procedure (wp wp_bind wp_mono wp_pure wp_require)

variable {ranges : List CRange} {payload : CAssetAllocation} {receiver vchAlias : Bytes}
  {env : AssetEnv} {inputs : UtxoMap} {tx : CTransaction}

theorem rangeCount_toInt (valid : validateRangesAndGetCount ranges ≠ 0)
    (apart : ranges.Pairwise ApartRanges) :
    (rangeCount ranges).toInt = ((indices ranges).card : Int) := by
  obtain ⟨-, count⟩ := validateRangesAndGetCount_spec valid apart
  have bound := (validateRangesAndGetCount ranges).toNat_lt
  rw [rangeCount, Int64.toInt_ofNat_of_lt (by omega), count]

theorem withRanges_credited (txHash : Uint256) (nHeight : Nat) (fInterestRate : Float32Bits)
    (vchMemo : Bytes) (ranges : List CRange) {record : CAssetAllocation} {state : AssetState}
    {tuple : CAssetAllocationTuple} (current : RecordOf state tuple record) :
    let credited := creditedBy txHash nHeight fInterestRate vchMemo (rangeCount ranges)
      (withRanges ranges record)
    credited.tuple = tuple ∧ credited.nBalance = record.nBalance + rangeCount ranges ∧
      credited.listAllocationInputs =
        mergeRanges (rangesAt state.lastAllocations tuple ++ ranges) := by
  obtain ⟨named, -, list⟩ := current
  exact ⟨named, rfl, by rw [← list]; rfl⟩

section

variable {vchAsset : Bytes} {state : AssetState}

theorem unitsOf_bounds (ledger : RangeLedger vchAsset state) (owner : Owner) :
    0 ≤ unitsOf vchAsset state owner ∧ unitsOf vchAsset state owner ≤ 2 ^ 32 := by
  rw [ledger.counted]
  have bound := card_indices_le (heldBy vchAsset state owner)
  omega

theorem ledger_afterMove {after : AssetState} (ledger : RangeLedger vchAsset state)
    {source : Owner} {credited : CAssetAllocation} (different : source ≠ some receiver)
    (valid : validateRangesAndGetCount ranges ≠ 0) (apart : ranges.Pairwise ApartRanges)
    (contained : doesRangeContain (heldBy vchAsset state source) ranges = true)
    (creditedNamed : credited.tuple = ⟨vchAsset, receiver⟩)
    (creditedUnits : credited.nBalance.toInt = balanceAt state.lastAllocations ⟨vchAsset, receiver⟩
      + (rangeCount ranges).toInt)
    (creditedRanges : credited.listAllocationInputs = mergeRanges (rangesAt state.lastAllocations
      ⟨vchAsset, receiver⟩ ++ ranges)) {left : List CRange} {balance : Int}
    (debited : ∀ owner, heldBy vchAsset after owner =
        (if owner = source then left else heldBy vchAsset (afterWrite credited state) owner) ∧
      unitsOf vchAsset after owner =
        if owner = source then balance else unitsOf vchAsset (afterWrite credited state) owner)
    (debitedUnits : balance = unitsOf vchAsset state source - (rangeCount ranges).toInt)
    (debitedRanges : left = (subtractRanges (heldBy vchAsset state source) ranges).output) :
    RangeLedger vchAsset after := by
  obtain ⟨tidyRanges, -⟩ := validateRangesAndGetCount_spec valid apart
  obtain ⟨nonempty, inside⟩ := doesRangeContain_spec contained
  have count := rangeCount_toInt valid apart
  refine ledger.move different tidyRanges inside nonempty (fun owner => ?_) fun owner => ?_
  · rw [(debited owner).1, (heldBy_write state creditedNamed owner).1, creditedRanges,
      debitedRanges]
    rfl
  · rw [(debited owner).2, (heldBy_write state creditedNamed owner).2, creditedUnits,
      debitedUnits, count]
    rfl

theorem sendRanges_single (dbAsset : CAsset) (txHash : Uint256) (nHeight : Nat)
    {db sender : CAssetAllocation} (keyed : Keyed state) (synced : ∀ tuple, Synced state tuple)
    (ledger : RangeLedger vchAsset state) (owned : sender.vchAsset = vchAsset)
    (stored : state.lastAllocations.lookup sender.tuple = some db)
    (sameBalance : sender.nBalance = db.nBalance)
    (single : sender.listSendingAllocationInputs = [(receiver, ranges)])
    (apart : ranges.Pairwise ApartRanges) :
    wp (sendRanges .block dbAsset db txHash nHeight sender)
      (fun _ => RangeLedger vchAsset) (fun _ => HoldingsKept state) state := by
  subst owned
  simp only [sendRanges, single, revertRangeReceivers, revertReceivers, revertIn, creditRanges,
    addConflictIf_false, senderConflicts_block, writeReceiverIn, writeSenderIn, wp_bind, wp_require,
    wp_pure]
  refine ⟨fun _ => ?_, fun _ => HoldingsKept.refl state⟩
  refine wp_mono (revert_spec keyed ⟨sender.vchAsset, receiver⟩ txHash nHeight) ?_
    (fun _ _ impossible => impossible.elim)
  rintro - middle done
  refine ⟨fun counted => ⟨fun notSelf => ⟨fun contained => ?_, fun _ => done.kept⟩,
    fun _ => done.kept⟩, fun _ => done.kept⟩
  have valid := of_decide_eq_true counted
  have different := of_decide_eq_true notSelf
  have ledgerMiddle := ledger.kept done.kept
  have list : db.listAllocationInputs = rangesAt middle.lastAllocations sender.tuple := by
    rw [done.kept.ranges, rangesAt, stored]
    rfl
  have balance : db.nBalance.toInt = balanceAt middle.lastAllocations sender.tuple := by
    rw [done.kept.balance, balanceAt, stored]
    rfl
  rw [list] at contained
  have count := rangeCount_toInt valid apart
  have fewer := Finset.card_le_card (doesRangeContain_spec contained).2
  have units := ledgerMiddle.counted (some sender.vchAliasOrAddress)
  change balanceAt middle.lastAllocations sender.tuple = _ at units
  change _ ≤ (indices (heldBy sender.vchAsset middle (some sender.vchAliasOrAddress))).card at fewer
  have zeroAdd : (0 : CAmount) + rangeCount ranges = rangeCount ranges := Int64.zero_add _
  have overrun : decide (db.nBalance - (0 + rangeCount ranges) < 0) = false := by
    rw [zeroAdd, ← Bool.not_eq_true, overrun_iff (by omega) (by omega)]
    omega
  have current := currentOrNew_spec (done.kept.keyed keyed) (done.synced fun _ => synced _) dbAsset
    nHeight
  have receiverBounds := unitsOf_bounds ledgerMiddle (some receiver)
  have senderBound := db.nBalance.toInt_lt
  have rangesBound := card_indices_le ranges
  simp only [overrun, Bool.false_eq_true, if_false, wp_readAssetAllocation, wp_writeAssetAllocation,
    wp_writeSender]
  obtain ⟨creditedNamed, creditedUnits, creditedRanges⟩ := withRanges_credited txHash nHeight
    dbAsset.fInterestRate sender.vchMemo ranges current
  have owners : (some sender.vchAliasOrAddress : Owner) ≠ some receiver :=
    fun same => different (some.inj same).symm
  refine ledger_afterMove ledgerMiddle owners valid apart contained creditedNamed ?_ creditedRanges
    (heldBy_write _ ?_) ?_ ?_
  · have receiverUnits := current.balance
    change _ = unitsOf sender.vchAsset middle (some receiver) at receiverUnits
    rw [creditedUnits, ← current.balance]
    exact toInt_add_of_range _ _ (by omega) (by omega)
  · rw [stamped_tuple]
    rfl
  · rw [stamped_nBalance]
    change (sender.nBalance - rangeCount ranges).toInt =
      balanceAt middle.lastAllocations sender.tuple - _
    rw [sameBalance, ← balance]
    exact toInt_sub_of_range _ _ (by omega) (by omega)
  · rw [stamped_listAllocationInputs, list]
    rfl

theorem allocationSend_ranges {nHeight : Nat} {vchThisAlias : Bytes} (keyed : Keyed state)
    (synced : ∀ tuple, Synced state tuple) (ledger : RangeLedger payload.vchAsset state)
    (rangeBased : ∀ dbAsset, state.assets.lookup payload.vchAsset = some dbAsset →
      dbAsset.bUseInputRanges = true)
    (allowed : payload.listSendingAllocationAmounts = [] → (∃ receiver ranges,
      payload.listSendingAllocationInputs = [(receiver, ranges)] ∧ ranges.Pairwise ApartRanges) ∨
      (payload.listSendingAllocationInputs = [] ∧ payload.listAllocationInputs = rangesAt
      state.lastAllocations ⟨payload.vchAsset, vchThisAlias⟩)) :
    wp (allocationSend .block env inputs tx vchAlias nHeight payload vchThisAlias)
      (fun _ => RangeLedger payload.vchAsset)
      (fun _ => HoldingsKept state) state := by
  refine allocationSend_wp keyed (fun _ => synced _) (fun _ _ kept => kept) ?_
  intro dbAsset db middle found done lookup
  have syncedMiddle : ∀ tuple, Synced middle tuple :=
    fun tuple => done.kept.synced tuple (synced tuple)
  have ledgerMiddle := ledger.kept done.kept
  have keyedMiddle := done.kept.keyed keyed
  rw [sendAllocations]
  split
  · simp only [sendAmounts, wp_bind, wp_require, rangeBased dbAsset found]
    exact ⟨fun impossible => absurd impossible (by decide), fun _ => done.kept⟩
  · rename_i noAmounts
    have empty : payload.listSendingAllocationAmounts = [] := by
      simpa [senderRecord] using noAmounts
    rcases allowed empty with ⟨receiver, ranges, single, apart⟩ | ⟨none, repeated⟩
    · rw [if_pos (by simp [senderRecord, single])]
      refine wp_mono (sendRanges_single dbAsset (env.txHash tx) nHeight keyedMiddle
        syncedMiddle ledgerMiddle rfl lookup rfl single apart) (fun _ _ => id)
        (fun _ _ kept => done.kept.trans kept)
    · rw [if_neg (by simp [senderRecord, none]), writeSenderIn, wp_writeSender]
      refine ledgerMiddle.kept (holdingsKept_write ?_ ?_)
      · rw [stamped_nBalance, stamped_tuple, balanceAt]
        change db.nBalance.toInt =
          ((middle.lastAllocations.lookup ⟨payload.vchAsset, vchThisAlias⟩).map
          fun allocation => allocation.nBalance.toInt).getD 0
        rw [lookup]
        rfl
      · rw [stamped_listAllocationInputs, stamped_tuple, done.kept.ranges]
        exact repeated

theorem assetSend_ranges {nHeight : Nat} (keyed : Keyed state)
    (synced : ∀ tuple, Synced state tuple) (ledger : RangeLedger payload.vchAsset state)
    (rangeBased : ∀ dbAsset, state.assets.lookup payload.vchAsset = some dbAsset →
      dbAsset.bUseInputRanges = true)
    (allowed : payload.listSendingAllocationAmounts = [] → payload.listSendingAllocationInputs =
      [] ∨ ∃ receiver ranges, payload.listSendingAllocationInputs = [(receiver, ranges)] ∧
      ranges.Pairwise ApartRanges) : wp (assetSend env inputs tx vchAlias nHeight payload)
      (fun _ => RangeLedger payload.vchAsset) (fun _ after => after = state) state := by
  refine assetSend_wp (fun _ => rfl) ?_
  intro dbAsset found
  have named : dbAsset.vchAsset = payload.vchAsset := keyed.assets _ _ found
  rw [assetSendTo]
  split
  · simp only [assetSendAmounts, wp_bind, wp_require, rangeBased dbAsset found]
    exact ⟨fun impossible => absurd impossible (by decide), fun _ => trivial⟩
  · rename_i noAmounts
    have empty : payload.listSendingAllocationAmounts = [] := by simpa using noAmounts
    rcases allowed empty with none | ⟨receiver, ranges, single, apart⟩
    · rw [if_neg (by simp [none]), wp_pure]
      exact ledger.rewrite found named rfl rfl
    · rw [if_pos (by simp [single])]
      simp only [assetSendRanges, single, sumRanges, sumItems, assetCreditRanges, wp_bind,
        wp_require, wp_pure, wp_readAssetAllocation, wp_writeAssetAllocation]
      refine ⟨fun _ => ⟨fun counted => ⟨fun _ => ⟨fun contained => ?_, fun _ => trivial⟩,
        fun _ => trivial⟩, fun _ => trivial⟩, fun _ => trivial⟩
      have valid := of_decide_eq_true counted
      have count := rangeCount_toInt valid apart
      have fewer := Finset.card_le_card (doesRangeContain_spec contained).2
      have units := ledger.counted none
      rw [unitsOf, heldBy, found] at units
      simp only [map_some, getD_some] at units
      have current := currentOrNew_spec keyed (synced ⟨payload.vchAsset, receiver⟩) dbAsset nHeight
      have receiverBounds := unitsOf_bounds ledger (some receiver)
      have assetBound := dbAsset.nBalance.toInt_lt
      have rangesBound := card_indices_le ranges
      obtain ⟨creditedNamed, creditedUnits, creditedRanges⟩ := withRanges_credited (env.txHash tx)
        nHeight dbAsset.fInterestRate payload.vchMemo ranges current
      have heldAsset : heldBy payload.vchAsset state none = dbAsset.listAllocationInputs := by
        rw [heldBy, found]
        rfl
      rw [← heldAsset] at contained
      refine ledger_afterMove ledger (some_ne_none receiver).symm valid apart contained
        creditedNamed
        ?_ creditedRanges (heldBy_writeAsset _ named) ?_ (by rw [heldAsset])
      · have receiverUnits := current.balance
        change _ = unitsOf payload.vchAsset state (some receiver) at receiverUnits
        rw [creditedUnits, ← current.balance]
        exact toInt_add_of_range _ _ (by omega) (by omega)
      · rw [unitsOf, found]
        exact toInt_sub_of_range _ _ (by omega) (by omega)

end

end Minerium
