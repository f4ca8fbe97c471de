import Minerium.AmountSend

/-! Value conservation of amount-based tokens. -/

namespace Minerium

open Procedure Finmap

/-- No 64-bit number wraps and no unconfirmed amount is read, of the holders that a processed
allocation send touches. -/
structure AllocationSendExact (state : AssetState) (payload : CAssetAllocation) (sender : Bytes) :
    Prop where
  reverted : ∀ holder ∈ sender :: payload.listSendingAllocationAmounts.map Prod.fst,
    isReverted state ⟨payload.vchAsset, holder⟩ → Synced state ⟨payload.vchAsset, holder⟩
  payer : Payer (balanceAt state.lastAllocations ⟨payload.vchAsset, sender⟩)
    payload.listSendingAllocationAmounts
  sendable : Sendable state.lastAllocations payload.vchAsset
    (balanceAt state.lastAllocations ⟨payload.vchAsset, sender⟩)
    payload.listSendingAllocationAmounts

structure AssetSendExact (state : AssetState) (payload : CAssetAllocation) (asset : CAsset) :
    Prop where
  confirmed : ∀ entry ∈ payload.listSendingAllocationAmounts,
    BalanceSynced state ⟨payload.vchAsset, entry.1⟩
  sendable : Sendable state.lastAllocations payload.vchAsset asset.nBalance.toInt
    payload.listSendingAllocationAmounts

theorem amountSends_conserve (env : AssetEnv) (inputs : UtxoMap) (tx : CTransaction)
    (vchAlias : Bytes) (nHeight : Nat) (payload : CAssetAllocation) (state after : AssetState)
    (keyed : Keyed state) (decoded : env.unserializeAllocation tx = some payload)
    (byAmounts : payload.listSendingAllocationAmounts ≠ []) :
    ((tx.isCoinBase = false → AllocationSendExact state payload
        (if vchAlias.isEmpty then payload.vchAliasOrAddress else vchAlias)) →
      checkAssetAllocationInputs env inputs tx OP_ASSET_ALLOCATION_SEND vchAlias nHeight state =
        (.ok (), after) →
      allocationSum payload.vchAsset after.lastAllocations =
          allocationSum payload.vchAsset state.lastAllocations ∧
        ∀ holder, 0 ≤ balanceAt state.lastAllocations ⟨payload.vchAsset, holder⟩ →
          0 ≤ balanceAt after.lastAllocations ⟨payload.vchAsset, holder⟩) ∧
    (∀ asset, state.assets.lookup payload.vchAsset = some asset →
      (tx.isCoinBase = false → AssetSendExact state payload asset) →
      checkAssetInputs env inputs tx OP_ASSET_SEND vchAlias nHeight state = (.ok (), after) →
      ∃ asset', after.assets.lookup payload.vchAsset = some asset' ∧
        asset'.nBalance.toInt + allocationSum payload.vchAsset after.lastAllocations =
          asset.nBalance.toInt + allocationSum payload.vchAsset state.lastAllocations ∧
        (0 ≤ asset.nBalance.toInt → 0 ≤ asset'.nBalance.toInt) ∧
        ∀ holder, 0 ≤ balanceAt state.lastAllocations ⟨payload.vchAsset, holder⟩ →
          0 ≤ balanceAt after.lastAllocations ⟨payload.vchAsset, holder⟩) := by
  constructor
  · intro touched ran
    rw [checkAssetAllocationInputs] at ran
    split at ran
    · cases ran
      exact ⟨rfl, fun _ => id⟩
    · rename_i processed
      obtain ⟨trusted, payer, sendable⟩ := touched (Bool.eq_false_iff.mpr processed)
      obtain ⟨trustedSender, trustedReceivers⟩ := List.forall_mem_cons.mp trusted
      simp only [decoded, orStop_some_bind, runAllocationOp, OP_ASSET_ALLOCATION_SEND,
        OP_ASSET_COLLECT_INTEREST, Nat.reduceEqDiff, if_false, if_true] at ran
      have moved := wp_ok (allocationSend_amounts env inputs tx vchAlias nHeight keyed
        payer sendable byAmounts trustedSender
        fun entry member => trustedReceivers _ (List.mem_map_of_mem member)) ran
      exact ⟨moved.sum _, moved.nonneg⟩
  · intro asset found touched ran
    rw [checkAssetInputs] at ran
    split at ran
    · cases ran
      exact ⟨asset, found, rfl, id, fun _ => id⟩
    · rename_i processed
      obtain ⟨confirmed, sendable⟩ := touched (Bool.eq_false_iff.mpr processed)
      rw [if_pos rfl, decoded, orStop_some_bind] at ran
      have only : ∀ dbAsset, state.assets.lookup payload.vchAsset = some dbAsset →
          Sendable state.lastAllocations payload.vchAsset dbAsset.nBalance.toInt
            payload.listSendingAllocationAmounts := by
        intro dbAsset same
        rw [found] at same
        cases same
        exact sendable
      obtain ⟨dbAsset, theAsset, sent⟩ :=
        wp_ok (assetSend_amounts keyed byAmounts confirmed only) ran
      have sameAsset : dbAsset = asset := Option.some.inj (sent.found.symm.trans found)
      subst sameAsset
      obtain ⟨middle, credited, rfl⟩ := sent.credited
      have balance := sent.balance
      refine ⟨theAsset, ?_, ?_, fun _ => sent.nonneg, fun holder nonneg => ?_⟩
      · rw [afterWriteAsset, credited.assets, FinmapTotal.lookup_insert_eq, if_pos]
        exact (sent.named keyed).symm
      · rw [afterWriteAsset, credited.sum, if_pos rfl]
        omega
      · rw [afterWriteAsset, credited.balance, if_pos rfl]
        exact Int.add_nonneg nonneg (creditTo_nonneg sent.positive holder)

def sampleAssetTx (nLockTime : UInt32) : CTransaction :=
  { nVersion := 0x7400, vin := [], vout := [], nLockTime := nLockTime }

def sampleAssetEnv (assetOf : UInt32 → Option CAsset)
    (payloadOf : UInt32 → Option CAssetAllocation) : AssetEnv :=
  { txHash := fun tx => BitVec.ofNat 256 tx.nLockTime.toNat
    unserializeAsset := fun tx => assetOf tx.nLockTime
    unserializeAllocation := fun tx => payloadOf tx.nLockTime
    isValidAddress := fun _ => false
    findAssetOwnerInTx := fun _ _ _ => true
    fUnitTest := false
    accumulateBalance := fun balance _ _ => balance
    accumulateRate := fun rate _ _ => rate
    compoundInterest := fun _ _ _ => 0 }

def sampleAssetName : Bytes := [0x61]

def sampleAsset : CAsset :=
  { CAsset.null with
    vchAsset := sampleAssetName
    vchAliasOrAddress := [1]
    nBalance := 5
    nTotalSupply := 10
    nMaxSupply := 100
    nPrecision := 0 }

def sampleAllocation : CAssetAllocation :=
  { CAssetAllocation.null with
    vchAsset := sampleAssetName
    vchAliasOrAddress := [1]
    nBalance := 5 }

def sampleTokens : AssetState :=
  { assets := singleton sampleAssetName sampleAsset
    allocations := singleton sampleAllocation.tuple sampleAllocation
    lastAllocations := singleton sampleAllocation.tuple sampleAllocation
    arrivalTimes := ∅
    assetAllocationConflicts := []
    revertedAssetAllocations := [] }

variable (amounts : List (Bytes × CAmount))

def samplePayment : CAssetAllocation :=
  { sampleAllocation with listSendingAllocationAmounts := amounts }

theorem singleton_lookup {α β : Type} [DecidableEq α] {key other : α} {value found : β}
    (lookup : (singleton key value : Finmap fun _ : α => β).lookup other = some found) :
    other = key ∧ found = value := by
  have member := mem_of_lookup_eq_some lookup
  rw [mem_singleton] at member
  subst member
  rw [lookup_singleton_eq] at lookup
  exact ⟨rfl, (Option.some.inj lookup).symm⟩

theorem sampleTokens_keyed : Keyed sampleTokens := by
  refine ⟨?_, ?_, ?_, by simp [sampleTokens, SortedVector.Sorted]⟩
  · rintro _ _ lookup
    obtain ⟨rfl, rfl⟩ := singleton_lookup lookup
    rfl
  · rintro _ _ lookup
    obtain ⟨rfl, rfl⟩ := singleton_lookup lookup
    rfl
  · rintro _ _ lookup
    obtain ⟨rfl, rfl⟩ := singleton_lookup lookup
    rfl

theorem sampleTokens_balance (tuple : CAssetAllocationTuple) :
    balanceAt sampleTokens.lastAllocations tuple = 0 ∨
      balanceAt sampleTokens.lastAllocations tuple = 5 := by
  rw [balanceAt]
  cases lookup : sampleTokens.lastAllocations.lookup tuple with
  | none => exact Or.inl rfl
  | some found =>
    obtain ⟨rfl, rfl⟩ := singleton_lookup lookup
    exact Or.inr rfl

theorem sampleTokens_sendable {balance : Int} :
    Sendable sampleTokens.lastAllocations sampleAssetName balance [([2], 2), ([3], 1)] := by
  refine ⟨fun _ => by decide, fun _ _ entry member => ?_⟩
  have credits : ∀ entry ∈ [(([2] : Bytes), (2 : CAmount)), ([3], 1)],
      creditTo entry.1 [([2], (2 : CAmount)), ([3], 1)] ≤ 3 := by decide
  have credit := credits entry member
  rcases sampleTokens_balance ⟨sampleAssetName, entry.1⟩ with zero | five
  · omega
  · omega

def samplePaying : AssetEnv :=
  sampleAssetEnv (fun _ => none) fun _ => some (samplePayment amounts)

def sampleAllocationSend : Except ServiceStop Unit × AssetState :=
  checkAssetAllocationInputs (samplePaying amounts) ∅ (sampleAssetTx 1) OP_ASSET_ALLOCATION_SEND []
    7 sampleTokens

def sampleAssetSend : Except ServiceStop Unit × AssetState :=
  checkAssetInputs (samplePaying amounts) ∅ (sampleAssetTx 1) OP_ASSET_SEND [] 7 sampleTokens

theorem eq_ok_snd {σ ε α : Type} {outcome : Except ε α × σ} {value : α}
    (ok : outcome.1 = .ok value) : outcome = (.ok value, outcome.2) := by
  rw [← ok]

theorem amountSends_conserve_sample :
    allocationSum sampleAssetName (sampleAllocationSend [([2], 2), ([3], 1)]).2.lastAllocations =
        5 ∧
      ∃ asset, (sampleAssetSend [([2], 2), ([3], 1)]).2.assets.lookup sampleAssetName = some asset ∧
        asset.nBalance.toInt + allocationSum sampleAssetName
          (sampleAssetSend [([2], 2), ([3], 1)]).2.lastAllocations = 10 := by
  have five : allocationSum sampleAssetName sampleTokens.lastAllocations = 5 := by decide +kernel
  have conserve := fun after => amountSends_conserve (samplePaying [([2], 2), ([3], 1)]) ∅
    (sampleAssetTx 1) [] 7 (samplePayment [([2], 2), ([3], 1)]) sampleTokens after
    sampleTokens_keyed rfl (by decide)
  constructor
  · obtain ⟨sum, -⟩ := (conserve (sampleAllocationSend [([2], 2), ([3], 1)]).2).1
      (fun _ => ⟨fun holder _ _ => rfl, fun _ => by decide +kernel, sampleTokens_sendable⟩)
      (eq_ok_snd (by decide +kernel))
    exact sum.trans five
  · obtain ⟨asset, found, sum, -, -⟩ := (conserve (sampleAssetSend [([2], 2), ([3], 1)]).2).2
      sampleAsset (by decide) (fun _ => ⟨fun entry _ => rfl, sampleTokens_sendable⟩)
      (eq_ok_snd (by decide))
    exact ⟨asset, found, sum.trans (congrArg (sampleAsset.nBalance.toInt + ·) five)⟩

theorem wrappedTotal_creates_value :
    (sampleAllocationSend [([2], 2 ^ 62), ([3], 2 ^ 62), ([4], 2 ^ 62), ([5], 2 ^ 62)]).1 = .ok () ∧
      allocationSum sampleAssetName sampleTokens.lastAllocations = 5 ∧
      allocationSum sampleAssetName (sampleAllocationSend
        [([2], 2 ^ 62), ([3], 2 ^ 62), ([4], 2 ^ 62), ([5], 2 ^ 62)]).2.lastAllocations =
        2 ^ 64 + 5 := by
  decide +kernel

end Minerium
