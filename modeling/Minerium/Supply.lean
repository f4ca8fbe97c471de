import Minerium.AmountText
import Minerium.AssetFields
import Minerium.SupplyCore

/-! Supply accounting over sequences of transactions, operation by operation. -/

namespace Minerium

open MachineInt Option

open Procedure (orStop_some_bind wp_bind wp_final wp_mono wp_pure wp_require)

variable {theAsset dbAsset : CAsset} {payload : CAssetAllocation} {history : TokenHistory}
  {action : TokenAction} {env : AssetEnv} {first : Option CAsset} {state : AssetState}
  {tx : CTransaction}

/-- An asset that is not there has no units, and one divided into amounts is accounted for, with the
maximum of its first record. -/
structure Supplied (vchAsset : Bytes) (state : AssetState) (first : Option CAsset) : Prop where
  absent : state.assets.lookup vchAsset = none → first = none ∧
    allocationSum vchAsset state.lastAllocations = 0 ∧
    ∀ holder, balanceAt state.lastAllocations ⟨vchAsset, holder⟩ = 0
  present : ∀ asset, state.assets.lookup vchAsset = some asset → ∃ record, first = some record ∧
    (asset.bUseInputRanges = false → asset.nMaxSupply ≤ record.nMaxSupply ∧
      Accounted vchAsset asset state.lastAllocations record.nMaxSupply)

abbrev SuppliedNext (vchAsset : Bytes) (first : Option CAsset) (after : AssetState) : Prop :=
  Supplied vchAsset after (first.or (after.assets.lookup vchAsset))

section

variable {vchAsset : Bytes} {before after : AssetState} {first : Option CAsset}
  (supplied : Supplied vchAsset before first)
include supplied

theorem Supplied.transfer (asset : after.assets.lookup vchAsset = before.assets.lookup vchAsset)
    (sum : allocationSum vchAsset after.lastAllocations =
      allocationSum vchAsset before.lastAllocations)
    (balance : ∀ holder, balanceAt after.lastAllocations ⟨vchAsset, holder⟩ =
      balanceAt before.lastAllocations ⟨vchAsset, holder⟩) : SuppliedNext vchAsset first after := by
  constructor
  · intro missing
    rw [asset] at missing
    obtain ⟨rfl, zero, empty⟩ := supplied.absent missing
    rw [asset, missing, sum]
    exact ⟨rfl, zero, fun holder => (balance holder).trans (empty holder)⟩
  · intro found lookup
    rw [asset] at lookup
    obtain ⟨record, rfl, accounted⟩ := supplied.present found lookup
    refine ⟨record, rfl, fun amountBased => ?_⟩
    obtain ⟨max, accounts⟩ := accounted amountBased
    refine ⟨max, by rw [sum]; exact accounts.supply, accounts.balance, fun holder => ?_,
      accounts.capped⟩
    rw [balance]
    exact accounts.holders holder

theorem Supplied.untouched (same : AssetUntouched vchAsset before after) :
    SuppliedNext vchAsset first after := by
  refine supplied.transfer same.asset same.sum fun holder => ?_
  rw [balanceAt, balanceAt, same.records]

theorem Supplied.kept (kept : HoldingsKept before after) : SuppliedNext vchAsset first after :=
  supplied.transfer (by rw [kept.assets]) (kept.sum vchAsset) fun holder => kept.balance _

theorem Supplied.rewrite (asset : CAsset) (found : before.assets.lookup vchAsset = some dbAsset)
    (stored : after.assets.lookup vchAsset = some asset)
    (sameKind : asset.bUseInputRanges = dbAsset.bUseInputRanges)
    (accounts : ∀ nMaxSupply, dbAsset.bUseInputRanges = false → dbAsset.nMaxSupply ≤ nMaxSupply →
      Accounted vchAsset dbAsset before.lastAllocations nMaxSupply → asset.nMaxSupply ≤ nMaxSupply ∧
      Accounted vchAsset asset after.lastAllocations nMaxSupply) :
    SuppliedNext vchAsset first after := by
  obtain ⟨record, rfl, accounted⟩ := supplied.present dbAsset found
  constructor
  · intro missing
    rw [stored] at missing
    cases missing
  · intro asset' lookup
    rw [stored] at lookup
    cases lookup
    refine ⟨record, rfl, fun amountBased => ?_⟩
    rw [sameKind] at amountBased
    obtain ⟨max, accounts'⟩ := accounted amountBased
    exact accounts record.nMaxSupply amountBased max accounts'

theorem Supplied.holders (amountBased : ∀ dbAsset, before.assets.lookup vchAsset = some dbAsset →
      dbAsset.bUseInputRanges = false) :
    (∀ holder, 0 ≤ balanceAt before.lastAllocations ⟨vchAsset, holder⟩) ∧
      allocationSum vchAsset before.lastAllocations < 2 ^ 63 := by
  cases found : before.assets.lookup vchAsset with
  | none =>
    obtain ⟨-, zero, empty⟩ := supplied.absent found
    exact ⟨fun holder => le_of_eq (empty holder).symm, by omega⟩
  | some dbAsset =>
    obtain ⟨record, -, accounted⟩ := supplied.present dbAsset found
    obtain ⟨-, accounts⟩ := accounted (amountBased dbAsset found)
    have bound := dbAsset.nTotalSupply.toInt_lt
    have supply := accounts.supply
    have balance := accounts.balance
    exact ⟨accounts.holders, by omega⟩

theorem Supplied.moved (moved : BalancesKept vchAsset before after) :
    SuppliedNext vchAsset first after := by
  constructor
  · intro missing
    rw [moved.assets] at missing
    obtain ⟨rfl, zero, empty⟩ := supplied.absent missing
    have nonneg := fun holder => moved.nonneg holder (empty holder).ge
    rw [moved.assets, missing, moved.sum]
    refine ⟨rfl, zero, fun holder => ?_⟩
    have upper := balanceAt_le_sum nonneg holder
    have lower := nonneg holder
    rw [moved.sum, zero] at upper
    omega
  · intro asset lookup
    rw [moved.assets] at lookup
    obtain ⟨record, rfl, accounted⟩ := supplied.present asset lookup
    refine ⟨record, rfl, fun amountBased => ?_⟩
    obtain ⟨max, accounts⟩ := accounted amountBased
    exact ⟨max, by rw [moved.sum]; exact accounts.supply, accounts.balance,
      fun holder => moved.nonneg holder (accounts.holders holder), accounts.capped⟩

end

section

variable {inputs : UtxoMap} {vchAlias : Bytes} {nHeight : Nat}

section

variable (supplied : Supplied theAsset.vchAsset state first)
include supplied

theorem supplied_activate (missing : state.assets.lookup theAsset.vchAsset = none)
    (allowed : 0 ≤ theAsset.nBalance.toInt ∧ theAsset.nBalance.toInt ≤ theAsset.nMaxSupply.toInt) :
    SuppliedNext theAsset.vchAsset first
      (afterWriteAsset (activatedAsset env tx nHeight theAsset) state) := by
  obtain ⟨rfl, zero, empty⟩ := supplied.absent missing
  have stored := afterWriteAsset_lookup (activatedAsset env tx nHeight theAsset) state
  change (afterWriteAsset _ state).assets.lookup theAsset.vchAsset = _ at stored
  rw [SuppliedNext, stored]
  constructor
  · intro absent
    rw [stored] at absent
    cases absent
  · intro asset lookup
    rw [stored] at lookup
    cases lookup
    refine ⟨_, rfl, fun _ => ⟨Int64.le_refl _, ?_, allowed.1, fun holder => ?_, ?_⟩⟩
    · change theAsset.nBalance.toInt =
      theAsset.nBalance.toInt + allocationSum _ state.lastAllocations
      omega
    · exact le_of_eq (empty holder).symm
    · exact (le_iff _ _).mpr allowed.2

theorem supplied_update (accepted : UpdateAccepted state dbAsset theAsset)
    (allowed : theAsset.nTotalSupply = dbAsset.nTotalSupply ∧
      theAsset.nMaxSupply.toInt ≤ dbAsset.nMaxSupply.toInt ∧ 0 ≤ theAsset.nBalance.toInt ∧
      dbAsset.nTotalSupply.toInt + theAsset.nBalance.toInt < 2 ^ 63) :
    SuppliedNext theAsset.vchAsset first
      (afterWriteAsset (updatedAsset env tx nHeight dbAsset theAsset) state) := by
  obtain ⟨sameSupply, maxKept, amountNonneg, fits⟩ := allowed
  refine supplied.rewrite _ accepted.found
    (afterWriteAsset_lookup (updatedAsset env tx nHeight dbAsset theAsset) state) rfl ?_
  intro nMaxSupply amountBased max accounts
  have noRanges : theAsset.listAllocationInputs = [] := by
    by_contra ranges
    rw [(accepted.newRanges ranges).1] at amountBased
    cases amountBased
  have sumNonneg := allocationSum_nonneg accounts.holders
  have balanceNonneg := accounts.balance
  have supply := accounts.supply
  have newSupply : (updatedAsset env tx nHeight dbAsset theAsset).nTotalSupply =
      theAsset.nTotalSupply + theAsset.nBalance := by
    simp [updatedAsset, keepActivated, increased, noRanges]
  have newBalance : (updatedAsset env tx nHeight dbAsset theAsset).nBalance =
      dbAsset.nBalance + theAsset.nBalance := by
    simp [updatedAsset, keepActivated, increased, noRanges]
  have exactSupply : (theAsset.nTotalSupply + theAsset.nBalance).toInt =
      dbAsset.nTotalSupply.toInt + theAsset.nBalance.toInt := by
    rw [toInt_add_of_range _ _ (by rw [sameSupply]; omega) (by rw [sameSupply]; omega), sameSupply]
  have exactBalance : (dbAsset.nBalance + theAsset.nBalance).toInt =
      dbAsset.nBalance.toInt + theAsset.nBalance.toInt :=
    toInt_add_of_range _ _ (by omega) (by omega)
  have capped : (theAsset.nTotalSupply + theAsset.nBalance) ≤ dbAsset.nMaxSupply := by
    have checked := accepted.capped
    simpa [increased, noRanges] using checked
  refine ⟨?_, ?_, ?_, accounts.holders, ?_⟩
  · exact Int64.le_trans ((le_iff _ _).mpr maxKept) max
  · rw [newSupply, newBalance, exactSupply, exactBalance]
    change _ = _ + allocationSum _ state.lastAllocations
    omega
  · rw [newBalance, exactBalance]
    omega
  · rw [newSupply]
    exact Int64.le_trans capped max

theorem supplied_transfer (found : state.assets.lookup theAsset.vchAsset = some dbAsset)
    (allowed : dbAsset.nTotalSupply = dbAsset.nBalance) : SuppliedNext theAsset.vchAsset first
      (afterWriteAsset (transferredAsset env tx nHeight dbAsset theAsset) state) := by
  refine supplied.rewrite _ found
    (afterWriteAsset_lookup (transferredAsset env tx nHeight dbAsset theAsset) state) rfl ?_
  intro nMaxSupply _ max accounts
  refine ⟨max, ?_, accounts.balance, accounts.holders, ?_⟩
  · change dbAsset.nBalance.toInt = dbAsset.nBalance.toInt + _
    have supply := accounts.supply
    rw [allowed] at supply
    exact supply
  · change dbAsset.nBalance ≤ nMaxSupply
    rw [← allowed]
    exact accounts.capped

end

theorem supplied_allocationSend {holder : Bytes} (consistent : Consistent state)
    (supplied : Supplied payload.vchAsset state first)
    (amountBased : ∀ dbAsset, state.assets.lookup payload.vchAsset = some dbAsset →
      dbAsset.bUseInputRanges = false)
    (bounded : exactTotal payload.listSendingAllocationAmounts < 2 ^ 63)
    (notSelf : ∀ entry ∈ payload.listSendingAllocationAmounts, entry.1 ≠ holder) :
    SuppliedNext payload.vchAsset first
      (allocationSend .block env inputs tx vchAlias nHeight payload holder state).2 := by
  obtain ⟨nonneg, sumBound⟩ := supplied.holders amountBased
  have sendable : Sendable state.lastAllocations payload.vchAsset
      (balanceAt state.lastAllocations ⟨payload.vchAsset, holder⟩)
      payload.listSendingAllocationAmounts := by
    refine ⟨fun _ => bounded, fun positive covered entry member => ?_⟩
    have credit := creditTo_le_total positive entry.1
    have together := balanceAt_add_le_sum nonneg (notSelf entry member)
    omega
  have payer : Payer (balanceAt state.lastAllocations ⟨payload.vchAsset, holder⟩)
      payload.listSendingAllocationAmounts := by
    intro _
    have held := nonneg holder
    omega
  have sent := allocationSend_amountBased env inputs tx vchAlias nHeight consistent.keyed
    payer sendable amountBased fun _ => consistent.synced _
  refine wp_final (wp_mono sent (fun _ _ moved => supplied.moved moved) ?_)
  rintro _ after (kept | ⟨entry, member, self⟩)
  · exact supplied.kept kept
  · exact absurd self (notSelf entry member)

theorem InterestPaid.exact {asset asset' : CAsset}
    {allocation allocation' : CAssetAllocation} {nHeight : Nat} {nMaxSupply nInterest : CAmount}
    (paid : InterestPaid env asset allocation nHeight asset' allocation' nMaxSupply nInterest)
    (nonneg : 0 ≤ asset.nTotalSupply.toInt)
    (fits : (getAssetAllocationInterest env allocation nHeight).2.toInt +
      asset.nTotalSupply.toInt < 2 ^ 63) : 0 < nInterest.toInt ∧
      asset'.nTotalSupply.toInt = asset.nTotalSupply.toInt + nInterest.toInt ∧
      asset'.nTotalSupply.toInt ≤ asset.nMaxSupply.toInt := by
  have kept := paid.maxSupply
  rw [amount_roundTrip, ite_none_right_eq_some] at kept
  obtain ⟨⟨-, inRange⟩, sameMax⟩ := kept
  cases sameMax
  have maxPositive := (amountInRange_iff.mp inRange).1
  have computed := lt_iff.mp paid.computed
  have positive := lt_iff.mp paid.positive
  have capped := paid.capped
  change (0 : Int) < _ at computed positive
  generalize (getAssetAllocationInterest env allocation nHeight).2 = raw at capped fits computed
  have maxBound := asset.nMaxSupply.toInt_lt
  have supplyBound := asset.nTotalSupply.toInt_lt
  have sumExact : (raw + asset.nTotalSupply).toInt = raw.toInt + asset.nTotalSupply.toInt :=
    toInt_add_of_range _ _ (by omega) (by omega)
  have within : asset.nTotalSupply.toInt + nInterest.toInt ≤ asset.nMaxSupply.toInt := by
    split at capped
    · have exactSub : nInterest.toInt = asset.nMaxSupply.toInt - asset.nTotalSupply.toInt := by
        rw [capped]
        exact toInt_sub_of_range _ _ (by omega) (by omega)
      omega
    · rename_i notAbove
      rw [lt_iff, sumExact] at notAbove
      rw [capped]
      omega
  have added : (asset.nTotalSupply + nInterest).toInt =
      asset.nTotalSupply.toInt + nInterest.toInt :=
    toInt_add_of_range _ _ (by omega) (by omega)
  have supply : asset'.nTotalSupply = asset.nTotalSupply + nInterest := by rw [paid.supply]
  rw [supply, added]
  exact ⟨positive, rfl, within⟩

theorem supplied_collect {txHash : Uint256} {nHeight : Nat}
    {tuple : CAssetAllocationTuple} {after : AssetState}
    (keyed : Keyed state) (supplied : Supplied tuple.vchAsset state first)
    (fits : ∀ dbAsset record, state.assets.lookup tuple.vchAsset = some dbAsset →
      state.lastAllocations.lookup tuple = some record → (getAssetAllocationInterest env record
      nHeight).2.toInt + dbAsset.nTotalSupply.toInt < 2 ^ 63)
    (collected : InterestCollected env txHash nHeight tuple state after) :
    SuppliedNext tuple.vchAsset first after := by
  obtain ⟨dbAsset, record, asset', allocation', nMaxSupply, nInterest, middle, found, stored, paid,
    done, rfl⟩ := collected
  have named : asset'.vchAsset = tuple.vchAsset := paid.assetNamed.trans (keyed.assets _ _ found)
  have written : (afterWrite (stamped txHash nHeight false allocation')
      (afterWriteAsset asset' middle)).assets.lookup tuple.vchAsset = some asset' := by
    rw [← named]
    exact afterWriteAsset_lookup asset' middle
  have sameKind : asset'.bUseInputRanges = dbAsset.bUseInputRanges := by rw [paid.supply]
  refine supplied.rewrite asset' found written sameKind ?_
  intro maxSupply amountBased max accounts
  have sumNonneg := allocationSum_nonneg accounts.holders
  have supply := accounts.supply
  have balanceNonneg := accounts.balance
  obtain ⟨positive, newSupply, within⟩ := paid.exact (by omega) (fits dbAsset record found stored)
  have recordBalance : record.nBalance.toInt = balanceAt state.lastAllocations tuple := by
    rw [balanceAt, stored]
    rfl
  have recordNonneg := accounts.holders tuple.vchAliasOrAddress
  have recordBound := balanceAt_le_sum accounts.holders tuple.vchAliasOrAddress
  change 0 ≤ balanceAt state.lastAllocations tuple at recordNonneg
  change balanceAt state.lastAllocations tuple ≤ _ at recordBound
  have maxBound := dbAsset.nMaxSupply.toInt_lt
  have newBalance : (stamped txHash nHeight false allocation').nBalance.toInt =
      balanceAt state.lastAllocations tuple + nInterest.toInt := by
    rw [stamped_nBalance, paid.balance, ← recordBalance]
    exact toInt_add_of_range _ _ (by omega) (by omega)
  have recordNamed : (stamped txHash nHeight false allocation').tuple = tuple := by
    rw [stamped_tuple, paid.named]
    exact keyed.lastAllocations tuple record stored
  have sameBalance : asset'.nBalance = dbAsset.nBalance := by rw [paid.supply]
  have sameMax : asset'.nMaxSupply = dbAsset.nMaxSupply := by rw [paid.supply]
  refine ⟨by rw [sameMax]; exact max, ?_, by rw [sameBalance]; exact accounts.balance, ?_, ?_⟩
  · rw [afterWrite, allocationSum_insert, recordNamed, if_pos rfl, newBalance, newSupply,
      sameBalance]
    change _ = _ + (allocationSum _ middle.lastAllocations + (_ - balanceAt middle.lastAllocations
      _))
    rw [done.kept.sum, done.kept.balance]
    omega
  · intro holder
    rw [afterWrite, balanceAt_insert]
    split
    · rw [newBalance]
      omega
    · change 0 ≤ balanceAt middle.lastAllocations _
      rw [done.kept.balance]
      exact accounts.holders holder
  · rw [le_iff] at max ⊢
    omega

theorem supplied_assetSend (consistent : Consistent state)
    (supplied : Supplied payload.vchAsset state first)
    (amountBased : ∀ dbAsset, state.assets.lookup payload.vchAsset = some dbAsset →
      dbAsset.bUseInputRanges = false)
    (bounded : exactTotal payload.listSendingAllocationAmounts < 2 ^ 63) :
    SuppliedNext payload.vchAsset first
      (assetSend env inputs tx vchAlias nHeight payload state).2 := by
  have unchanged : SuppliedNext payload.vchAsset first state :=
    supplied.transfer rfl rfl fun _ => rfl
  by_cases byAmounts : payload.listSendingAllocationAmounts = []
  · refine wp_final (assetSend_wp (fun _ => unchanged) fun dbAsset found => ?_)
    have named : dbAsset.vchAsset = payload.vchAsset := consistent.keyed.assets _ _ found
    rw [assetSendTo, byAmounts]
    simp only [List.isEmpty_nil, Bool.not_true, Bool.false_eq_true, if_false]
    split
    · simp only [assetSendRanges, wp_bind, wp_require, amountBased dbAsset found]
      exact ⟨fun impossible => absurd impossible Bool.false_ne_true, fun _ => unchanged⟩
    · rw [wp_pure]
      refine supplied.rewrite
        { dbAsset with nHeight := UInt32.ofNat nHeight, txHash := env.txHash tx } found ?_ rfl
        fun nMaxSupply _ max accounts => ⟨max, { accounts with }⟩
      rw [← named]
      exact afterWriteAsset_lookup _ state
  · have sendable : ∀ dbAsset, state.assets.lookup payload.vchAsset = some dbAsset →
        Sendable state.lastAllocations payload.vchAsset dbAsset.nBalance.toInt
          payload.listSendingAllocationAmounts := by
      intro dbAsset found
      obtain ⟨record, -, accounted⟩ := supplied.present dbAsset found
      obtain ⟨-, accounts⟩ := accounted (amountBased dbAsset found)
      refine ⟨fun _ => bounded, fun positive covered entry member => ?_⟩
      have credit := creditTo_le_total positive entry.1
      have within := balanceAt_le_sum accounts.holders entry.1
      have supply := accounts.supply
      have supplyBound := dbAsset.nTotalSupply.toInt_lt
      omega
    refine wp_final (wp_mono (assetSend_amounts
      consistent.keyed byAmounts (fun _ _ => (consistent.synced _).balanceSynced) sendable) ?_
      (fun _ _ same => same ▸ unchanged))
    rintro - after ⟨dbAsset, theAsset, sent⟩
    obtain ⟨middle, credited, rfl⟩ := sent.credited
    refine supplied.rewrite theAsset sent.found ?_ (by rw [sent.fields]) ?_
    · rw [← sent.named consistent.keyed]
      exact afterWriteAsset_lookup theAsset middle
    · intro nMaxSupply _ max accounts
      have sameMax : theAsset.nMaxSupply = dbAsset.nMaxSupply := by rw [sent.fields]
      have sameSupply : theAsset.nTotalSupply = dbAsset.nTotalSupply := by rw [sent.fields]
      refine ⟨by rw [sameMax]; exact max, ?_, sent.nonneg, fun holder => ?_,
        by rw [sameSupply]; exact accounts.capped⟩
      · change _ = _ + allocationSum _ middle.lastAllocations
        rw [sameSupply, sent.balance, credited.sum, if_pos rfl, accounts.supply]
        omega
      · change 0 ≤ balanceAt middle.lastAllocations _
        rw [credited.balance, if_pos rfl]
        exact Int.add_nonneg (accounts.holders holder) (creditTo_nonneg sent.positive holder)

end

structure SupplyInvariant (vchAsset : Bytes) (history : TokenHistory) : Prop where
  consistent : Consistent history.state
  supplied : Supplied vchAsset history.state (history.activated vchAsset)

section

variable {env : AssetEnv} {inputs : UtxoMap} {tx : CTransaction} {op nHeight : Nat}
  {vchAlias vchAsset : Bytes} {state : AssetState} {first : Option CAsset}
  (consistent : Consistent state) (supplied : Supplied vchAsset state first)
  (amountBased : ∀ dbAsset, state.assets.lookup vchAsset = some dbAsset → dbAsset.bUseInputRanges =
    false)
include consistent supplied amountBased

theorem supplied_runAllocationOp (named : payload.vchAsset = vchAsset)
    (allowed : SupplyAllocationOp env state op vchAlias nHeight payload) :
    SuppliedNext vchAsset first
      (runAllocationOp .block env inputs tx op vchAlias nHeight payload state).2 := by
  subst named
  rw [SupplyAllocationOp] at allowed
  rw [runAllocationOp]
  split at allowed
  · rename_i send
    subst send
    rw [if_neg (by decide), if_pos rfl]
    exact supplied_allocationSend consistent supplied amountBased allowed.1 allowed.2
  · obtain ⟨rfl, fits⟩ := allowed
    rw [if_pos rfl]
    refine wp_final (wp_mono (collectInterest_spec consistent.keyed (consistent.synced _)) ?_
      (fun _ _ kept => supplied.kept kept))
    exact fun _ after collected => supplied_collect consistent.keyed supplied
      (fun dbAsset record found => fits dbAsset found record) collected

omit consistent amountBased in
theorem supplied_runAssetOp (named : theAsset.vchAsset = vchAsset)
    (allowed : SupplyAssetOp state op theAsset) :
    SuppliedNext vchAsset first (runAssetOp env inputs tx op vchAlias nHeight theAsset state).2 :=
      by
  subst named
  have unchanged : ∀ (e : ServiceStop) (after : AssetState), after = state →
      SuppliedNext theAsset.vchAsset first after := by
    rintro _ _ rfl
    exact supplied.transfer rfl rfl fun _ => rfl
  rw [SupplyAssetOp] at allowed
  rw [runAssetOp]
  split at allowed
  · rename_i activate
    rw [if_pos activate]
    refine wp_final (wp_mono (assetActivate_spec nHeight) ?_ unchanged)
    rintro - _ ⟨missing, rfl⟩
    exact supplied_activate supplied missing allowed
  · rename_i notActivate
    rw [if_neg notActivate]
    split
    · rename_i update
      refine wp_final (wp_mono (assetUpdate_spec nHeight) ?_ unchanged)
      rintro - _ ⟨dbAsset, accepted, rfl⟩
      have condition := allowed dbAsset accepted.found
      rw [if_pos update] at condition
      exact supplied_update supplied accepted condition
    · rename_i notUpdate
      refine wp_final (wp_mono (assetTransfer_spec nHeight) ?_ unchanged)
      rintro - _ ⟨dbAsset, found, rfl⟩
      have condition := allowed dbAsset found
      rw [if_neg notUpdate] at condition
      exact supplied_transfer supplied found condition

end

theorem supplied_named {vchAsset : Bytes} (invariant : SupplyInvariant vchAsset history)
    (amountBased : ∀ dbAsset, history.state.assets.lookup vchAsset = some dbAsset →
      dbAsset.bUseInputRanges = false)
    (named : action.names env = some vchAsset) (allowed : SupplyStep env vchAsset history action) :
    SuppliedNext vchAsset (history.activated vchAsset) (action.apply env history.state) := by
  have unchanged : SuppliedNext vchAsset (history.activated vchAsset) history.state :=
    invariant.supplied.transfer rfl rfl fun _ => rfl
  cases action with
  | newBlock => cases named
  | asset inputs tx op vchAlias nHeight =>
    simp only [SupplyStep] at allowed
    refine checkAssetInputs_cases unchanged (fun payload send decoded names => ?_)
      fun theAsset notSend decoded names => ?_
    · cases named.symm.trans names
      rw [if_pos send] at allowed
      exact supplied_assetSend invariant.consistent invariant.supplied amountBased
        (allowed payload decoded rfl)
    · cases named.symm.trans names
      rw [if_neg notSend] at allowed
      exact supplied_runAssetOp invariant.supplied rfl (allowed theAsset decoded rfl)
  | allocation inputs tx op vchAlias nHeight =>
    obtain ⟨payload, decoded, rfl⟩ := map_eq_some_iff.mp named
    refine checkAssetAllocationInputs_cases unchanged fun other same => ?_
    cases decoded.symm.trans same
    exact supplied_runAllocationOp invariant.consistent invariant.supplied amountBased rfl
      (allowed payload decoded rfl)

theorem supplyInvariant_step {vchAsset : Bytes} (invariant : SupplyInvariant vchAsset history)
    (allowed : SupplyStep env vchAsset history action) :
    SupplyInvariant vchAsset (history.step env action) := by
  obtain ⟨consistent, others⟩ := apply_spec env action invariant.consistent
  refine ⟨consistent, ?_⟩
  by_cases named : action.names env = some vchAsset
  · by_cases ranges : ∃ dbAsset, history.state.assets.lookup vchAsset = some dbAsset ∧
      dbAsset.bUseInputRanges = true
    · obtain ⟨dbAsset, found, useRanges⟩ := ranges
      obtain ⟨asset, stored, fields, -⟩ :=
        apply_kept env vchAsset history action invariant.consistent dbAsset found
      refine invariant.supplied.rewrite asset found stored fields.kind fun _ amountBased => ?_
      rw [useRanges] at amountBased
      cases amountBased
    · refine supplied_named invariant (fun dbAsset found => ?_) named allowed
      by_contra useRanges
      exact ranges ⟨dbAsset, found, by simpa using useRanges⟩
  · exact invariant.supplied.untouched (others vchAsset named)

theorem supply_accounted (env : AssetEnv) (vchAsset : Bytes) (actions : List TokenAction)
    (allowed : Run.Permitted (.step env) (SupplyStep env vchAsset) TokenHistory.start
      actions) (asset : CAsset)
    (stored : (tokenRun env actions).state.assets.lookup vchAsset = some asset)
    (amountBased : asset.bUseInputRanges = false) :
    ∃ first, (tokenRun env actions).activated vchAsset = some first ∧
      asset.nTotalSupply.toInt = asset.nBalance.toInt +
        allocationSum vchAsset (tokenRun env actions).state.lastAllocations ∧
      0 ≤ asset.nTotalSupply.toInt ∧ 0 ≤ asset.nBalance.toInt ∧
      (∀ holder, 0 ≤ balanceAt (tokenRun env actions).state.lastAllocations ⟨vchAsset, holder⟩) ∧
      asset.nTotalSupply ≤ first.nMaxSupply := by
  have empty : Supplied vchAsset AssetState.empty none :=
    ⟨fun _ => ⟨rfl, rfl, fun _ => rfl⟩, fun asset found => by cases found⟩
  have start : SupplyInvariant vchAsset TokenHistory.start := ⟨.empty, empty⟩
  have invariant := Run.invariant (fun history action => supplyInvariant_step) start allowed
  obtain ⟨first, activated, accounted⟩ := invariant.supplied.present asset stored
  obtain ⟨-, accounts⟩ := accounted amountBased
  have sumNonneg := allocationSum_nonneg accounts.holders
  have supply := accounts.supply
  have balance := accounts.balance
  exact ⟨first, activated, accounts.supply, by omega, accounts.balance, accounts.holders,
    accounts.capped⟩

def sampleSupplyEnv : AssetEnv :=
  sampleAssetEnv (fun _ => some sampleAsset) fun _ => some (samplePayment [([2], 2)])

def sampleSend : TokenAction := .asset ∅ (sampleAssetTx 2) OP_ASSET_SEND [] 8

def sampleTransfer : TokenAction := .asset ∅ (sampleAssetTx 3) OP_ASSET_TRANSFER [] 9

theorem supply_accounted_sample : 5 = 3 + allocationSum sampleAssetName
      (tokenRun sampleSupplyEnv [sampleActivation, sampleSend]).state.lastAllocations := by
  obtain ⟨first, -, supply, -⟩ := supply_accounted sampleSupplyEnv sampleAssetName
    [sampleActivation, sampleSend] (by decide)
    { sampleAsset with nBalance := 3, nTotalSupply := 5, nHeight := 8, txHash := 2 } (by decide) rfl
  exact supply

theorem transfer_loses_supply :
    (checkAssetInputs sampleSupplyEnv ∅ (sampleAssetTx 3) OP_ASSET_TRANSFER [] 9
        (tokenRun sampleSupplyEnv [sampleActivation, sampleSend]).state).1 = .ok () ∧
      ((tokenRun sampleSupplyEnv [sampleActivation, sampleSend, sampleTransfer]).state.assets.lookup
        sampleAssetName).map (fun asset => (asset.nBalance, asset.nTotalSupply)) = some (3, 3) ∧
      allocationSum sampleAssetName (tokenRun sampleSupplyEnv
        [sampleActivation, sampleSend, sampleTransfer]).state.lastAllocations = 2 := by
  decide

end Minerium
