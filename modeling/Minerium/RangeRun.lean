import Minerium.AssetFields
import Minerium.RangeSend
import Minerium.SupplyCore

/-! The ledger of ranges over sequences of transactions. -/

namespace Minerium

open Option

open Procedure (orStop_some_bind wp_final wp_mono)

variable {theAsset : CAsset} {payload : CAssetAllocation} {history : TokenHistory}
  {action : TokenAction} {env : AssetEnv} {state : AssetState} {tx : CTransaction}
  {vchAsset : Bytes}

def SingleReceiver : List (Bytes × List CRange) → Prop
  | [(_, ranges)] => ranges.Pairwise ApartRanges
  | _ => False

theorem SingleReceiver.exists {inputs : List (Bytes × List CRange)} (single :
  SingleReceiver inputs) :
    ∃ receiver ranges, inputs = [(receiver, ranges)] ∧ ranges.Pairwise ApartRanges := by
  match inputs, single with
  | [(receiver, ranges)], apart => exact ⟨receiver, ranges, rfl, apart⟩

instance : ∀ inputs, Decidable (SingleReceiver inputs)
  | [] => .isFalse id
  | [(_, ranges)] => inferInstanceAs (Decidable (ranges.Pairwise ApartRanges))
  | _ :: _ :: _ => .isFalse id

section

variable (state) (op : Nat)

/-- An activation counts its ranges, which do not overlap; an update brings ranges that nobody
holds, or none to an asset that has none left. -/
def RangeAssetOp (theAsset : CAsset) : Prop :=
  (op = OP_ASSET_ACTIVATE → Tidy theAsset.listAllocationInputs ∧
    theAsset.nBalance.toInt = ((indices theAsset.listAllocationInputs).card : Int)) ∧
  (op = OP_ASSET_UPDATE →
    if theAsset.listAllocationInputs = [] then
      heldBy theAsset.vchAsset state none = [] ∧ theAsset.nBalance = 0
    else theAsset.listAllocationInputs.Pairwise ApartRanges ∧
      ∀ owner, Disjoint (indices (heldBy theAsset.vchAsset state owner))
        (indices theAsset.listAllocationInputs))

/-- A send has one receiver of ranges, or repeats the list that is stored for the sender. -/
def RangeAllocationOp (vchAlias : Bytes) (payload : CAssetAllocation) : Prop :=
  op = OP_ASSET_ALLOCATION_SEND ∧ (payload.listSendingAllocationAmounts = [] →
    SingleReceiver payload.listSendingAllocationInputs ∨
    (payload.listSendingAllocationInputs = [] ∧ payload.listAllocationInputs =
      rangesAt state.lastAllocations ⟨payload.vchAsset, actingHolder vchAlias payload⟩))

end

def RangeStep (env : AssetEnv) (vchAsset : Bytes) (history : TokenHistory) : TokenAction → Prop
  | .newBlock => True
  | .asset _ tx op _ _ =>
    if op = OP_ASSET_SEND then
      ∀ payload ∈ env.unserializeAllocation tx, payload.vchAsset = vchAsset →
        payload.listSendingAllocationAmounts = [] →
        payload.listSendingAllocationInputs = [] ∨
          SingleReceiver payload.listSendingAllocationInputs
    else
      ∀ theAsset ∈ env.unserializeAsset tx, theAsset.vchAsset = vchAsset →
        RangeAssetOp history.state op theAsset
  | .allocation _ tx op vchAlias _ =>
    ∀ payload ∈ env.unserializeAllocation tx, payload.vchAsset = vchAsset →
      RangeAllocationOp history.state op vchAlias payload

/-- An asset that is not there has no units, and one that uses ranges has its ledger in order. -/
structure Ranged (vchAsset : Bytes) (state : AssetState) : Prop where
  absent : state.assets.lookup vchAsset = none →
    ∀ owner, heldBy vchAsset state owner = [] ∧ unitsOf vchAsset state owner = 0
  present : ∀ asset, state.assets.lookup vchAsset = some asset → asset.bUseInputRanges = true →
    RangeLedger vchAsset state

theorem ledger_of_empty
    (empty : ∀ owner, heldBy vchAsset state owner = [] ∧ unitsOf vchAsset state owner = 0) :
    RangeLedger vchAsset state := by
  refine ⟨fun owner => ?_, fun owner => ?_, fun owner other _ => ?_⟩
  · rw [(empty owner).1]
    exact ⟨List.forall_mem_nil _, .nil⟩
  · rw [(empty owner).1, (empty owner).2]
    rfl
  · simp only [(empty owner).1]
    exact Finset.disjoint_empty_left _

section

variable {vchAsset : Bytes} {before after : AssetState}

theorem Ranged.ledger (ranged : Ranged vchAsset before)
    (rangeBased : ∀ asset, before.assets.lookup vchAsset = some asset →
      asset.bUseInputRanges = true) : RangeLedger vchAsset before := by
  cases found : before.assets.lookup vchAsset with
  | none => exact ledger_of_empty (ranged.absent found)
  | some asset => exact ranged.present asset found (rangeBased asset found)

theorem Ranged.same (ranged : Ranged vchAsset before)
    (asset : after.assets.lookup vchAsset = before.assets.lookup vchAsset)
    (held : ∀ owner, heldBy vchAsset after owner = heldBy vchAsset before owner ∧
      unitsOf vchAsset after owner = unitsOf vchAsset before owner) : Ranged vchAsset after := by
  constructor
  · intro missing owner
    rw [(held owner).1, (held owner).2]
    exact ranged.absent (asset.symm.trans missing) owner
  · intro found lookup useRanges
    exact (ranged.present found (asset.symm.trans lookup) useRanges).same held

theorem Ranged.kept (ranged : Ranged vchAsset before) (kept : HoldingsKept before after) :
    Ranged vchAsset after :=
  ranged.same (by rw [kept.assets]) fun owner => heldBy_kept kept

theorem Ranged.of_ledger {asset : CAsset} (stored : after.assets.lookup vchAsset = some asset)
    (ledger : asset.bUseInputRanges = true → RangeLedger vchAsset after) :
    Ranged vchAsset after := by
  constructor
  · intro missing
    rw [stored] at missing
    cases missing
  · intro other lookup useRanges
    rw [stored] at lookup
    cases lookup
    exact ledger useRanges

end

theorem ledger_update {nHeight : Nat} {dbAsset : CAsset}
    (ledger : RangeLedger theAsset.vchAsset state)
    (accepted : UpdateAccepted state dbAsset theAsset)
    (allowed : if theAsset.listAllocationInputs = [] then heldBy theAsset.vchAsset state none =
      [] ∧ theAsset.nBalance = 0 else theAsset.listAllocationInputs.Pairwise ApartRanges ∧
      ∀ owner, Disjoint (indices (heldBy theAsset.vchAsset state owner)) (indices
      theAsset.listAllocationInputs)) : RangeLedger theAsset.vchAsset
      (afterWriteAsset (updatedAsset env tx nHeight dbAsset theAsset) state) := by
  have heldAsset : heldBy theAsset.vchAsset state none = dbAsset.listAllocationInputs := by
    rw [heldBy, accepted.found]
    rfl
  have units := ledger.counted none
  rw [heldAsset, unitsOf, accepted.found] at units
  simp only [map_some, getD_some] at units
  rw [heldAsset] at allowed
  split at allowed
  · rename_i noRanges
    refine ledger.rewrite accepted.found rfl ?_ ?_
    · simp [updatedAsset, keepActivated, increased, noRanges, allowed.1]
    · simp [updatedAsset, keepActivated, increased, noRanges, allowed.2]
  · rename_i ranges
    obtain ⟨apart, fresh⟩ := allowed
    have valid := (accepted.newRanges ranges).2.2
    obtain ⟨tidyRanges, -⟩ := validateRangesAndGetCount_spec valid apart
    have count := rangeCount_toInt valid apart
    have disjoint := fresh none
    rw [heldAsset] at disjoint
    have tidyAsset := ledger.tidy none
    rw [heldAsset] at tidyAsset
    obtain ⟨merged, same⟩ := mergeRanges_append tidyAsset tidyRanges disjoint
    have list : (updatedAsset env tx nHeight dbAsset theAsset).listAllocationInputs =
        mergeRanges (dbAsset.listAllocationInputs ++ theAsset.listAllocationInputs) := by
      simp [updatedAsset, keepActivated, increased, ranges]
    have balance : (updatedAsset env tx nHeight dbAsset theAsset).nBalance =
        dbAsset.nBalance + rangeCount theAsset.listAllocationInputs := by
      simp [updatedAsset, keepActivated, increased, ranges]
    have heldBound := card_indices_le dbAsset.listAllocationInputs
    have rangesBound := card_indices_le theAsset.listAllocationInputs
    refine ledger.grant rfl (indices theAsset.listAllocationInputs) (list ▸ merged) ?_
      (fun owner _ => fresh owner) ?_
    · rw [list, same, heldAsset]
    · rw [list, same, balance, Finset.card_union_of_disjoint disjoint,
        MachineInt.toInt_add_of_range _ _ (by omega) (by omega), units, count]
      omega

section

variable {env : AssetEnv} {inputs : UtxoMap} {tx : CTransaction} {vchAlias : Bytes} {nHeight : Nat}
  {state : AssetState} (consistent : Consistent state)

include consistent

theorem ranged_allocationSend {holder : Bytes} (ranged : Ranged payload.vchAsset state)
    (rangeBased : ∀ dbAsset, state.assets.lookup payload.vchAsset = some dbAsset →
      dbAsset.bUseInputRanges = true)
    (allowed : payload.listSendingAllocationAmounts = [] → SingleReceiver
      payload.listSendingAllocationInputs ∨ (payload.listSendingAllocationInputs = [] ∧
      payload.listAllocationInputs = rangesAt state.lastAllocations ⟨payload.vchAsset, holder⟩)) :
    Ranged payload.vchAsset
      (allocationSend .block env inputs tx vchAlias nHeight payload holder state).2 := by
  cases found : state.assets.lookup payload.vchAsset with
  | none =>
    refine wp_final (allocationSend_wp
      consistent.keyed (fun _ => consistent.synced _) (fun _ _ kept => ranged.kept kept) ?_)
    intro dbAsset db middle present
    rw [found] at present
    cases present
  | some dbAsset =>
    have same := ((@keeps_allocationSend (fun _ => True) _ (sameAssets_kept _) env inputs tx
      vchAlias
      nHeight payload holder fun _ _ => trivial).final consistent.keyed).2
    have stored := (congrArg (Finmap.lookup payload.vchAsset) same).trans found
    refine .of_ledger stored fun _ => ?_
    have ledger := ranged.ledger rangeBased
    refine wp_final (wp_mono (allocationSend_ranges consistent.keyed consistent.synced ledger
      rangeBased fun noAmounts => ?_) (fun _ _ after => after) fun _ _ kept => ledger.kept kept)
    exact (allowed noAmounts).imp SingleReceiver.exists id

theorem ranged_assetSend (ranged : Ranged payload.vchAsset state)
    (rangeBased : ∀ dbAsset, state.assets.lookup payload.vchAsset = some dbAsset →
      dbAsset.bUseInputRanges = true)
    (allowed : payload.listSendingAllocationAmounts = [] → payload.listSendingAllocationInputs =
      [] ∨ SingleReceiver payload.listSendingAllocationInputs) :
    Ranged payload.vchAsset (assetSend env inputs tx vchAlias nHeight payload state).2 := by
  cases found : state.assets.lookup payload.vchAsset with
  | none =>
    refine wp_final (assetSend_wp (fun _ => ranged) fun dbAsset present => ?_)
    rw [found] at present
    cases present
  | some dbAsset =>
    obtain ⟨asset, stored, -⟩ := wp_final
      (assetSend_kept env inputs tx vchAlias nHeight payload consistent.keyed True) dbAsset found
    refine .of_ledger stored fun _ => ?_
    have ledger := ranged.ledger rangeBased
    refine wp_final (wp_mono (assetSend_ranges
      consistent.keyed consistent.synced ledger rangeBased fun noAmounts => ?_)
      (fun _ _ after => after) fun _ _ same => same ▸ ledger)
    exact (allowed noAmounts).imp id SingleReceiver.exists

omit consistent in
theorem ranged_runAssetOp {op : Nat} (ranged : Ranged theAsset.vchAsset state)
    (rangeBased : ∀ dbAsset, state.assets.lookup theAsset.vchAsset = some dbAsset →
      dbAsset.bUseInputRanges = true) (allowed : RangeAssetOp state op theAsset) :
    Ranged theAsset.vchAsset (runAssetOp env inputs tx op vchAlias nHeight theAsset state).2 := by
  have unchanged : ∀ (e : ServiceStop) (after : AssetState), after = state →
      Ranged theAsset.vchAsset after := by
    rintro _ _ rfl
    exact ranged
  have ledger := ranged.ledger rangeBased
  rw [runAssetOp]
  split
  · rename_i activate
    refine wp_final (wp_mono (assetActivate_spec nHeight) ?_ unchanged)
    rintro - _ ⟨missing, rfl⟩
    obtain ⟨tidy, counted⟩ := allowed.1 activate
    have empty := ranged.absent missing
    refine .of_ledger (afterWriteAsset_lookup (activatedAsset env tx nHeight theAsset) state)
      fun _ => (ledger_of_empty empty).grant rfl (indices theAsset.listAllocationInputs) tidy ?_ ?_
        counted
    · rw [(empty none).1]
      exact (Finset.empty_union _).symm
    · intro owner _
      rw [(empty owner).1]
      exact Finset.disjoint_empty_left _
  · split
    · rename_i update
      refine wp_final (wp_mono (assetUpdate_spec nHeight) ?_ unchanged)
      rintro - _ ⟨dbAsset, accepted, rfl⟩
      exact .of_ledger (afterWriteAsset_lookup (updatedAsset env tx nHeight dbAsset theAsset) state)
        fun _ => ledger_update ledger accepted (allowed.2 update)
    · refine wp_final (wp_mono (assetTransfer_spec nHeight) ?_ unchanged)
      rintro - _ ⟨dbAsset, found, rfl⟩
      exact .of_ledger
        (afterWriteAsset_lookup (transferredAsset env tx nHeight dbAsset theAsset) state)
        fun _ => ledger.rewrite found rfl rfl rfl

end

structure RangeInvariant (vchAsset : Bytes) (history : TokenHistory) : Prop where
  consistent : Consistent history.state
  ranged : Ranged vchAsset history.state

theorem ranged_named (invariant : RangeInvariant vchAsset history)
    (rangeBased : ∀ dbAsset, history.state.assets.lookup vchAsset = some dbAsset →
      dbAsset.bUseInputRanges = true)
    (named : action.names env = some vchAsset) (allowed : RangeStep env vchAsset history action) :
    Ranged vchAsset (action.apply env history.state) := by
  cases action with
  | newBlock => cases named
  | asset inputs tx op vchAlias nHeight =>
    simp only [RangeStep] at allowed
    refine checkAssetInputs_cases invariant.ranged (fun payload send decoded names => ?_)
      fun theAsset notSend decoded names => ?_
    · cases named.symm.trans names
      rw [if_pos send] at allowed
      exact ranged_assetSend invariant.consistent invariant.ranged rangeBased
        (allowed payload decoded rfl)
    · cases named.symm.trans names
      rw [if_neg notSend] at allowed
      exact ranged_runAssetOp invariant.ranged rangeBased (allowed theAsset decoded rfl)
  | allocation inputs tx op vchAlias nHeight =>
    obtain ⟨payload, decoded, rfl⟩ := map_eq_some_iff.mp named
    obtain ⟨send, sends⟩ := allowed payload decoded rfl
    refine checkAssetAllocationInputs_cases invariant.ranged fun other same => ?_
    cases decoded.symm.trans same
    rw [runAllocationOp, send, if_neg (by decide), if_pos rfl]
    exact ranged_allocationSend invariant.consistent invariant.ranged rangeBased sends

theorem rangeInvariant_step (invariant : RangeInvariant vchAsset history)
    (allowed : RangeStep env vchAsset history action) :
    RangeInvariant vchAsset (history.step env action) := by
  obtain ⟨consistent, others⟩ := apply_spec env action invariant.consistent
  refine ⟨consistent, ?_⟩
  by_cases named : action.names env = some vchAsset
  · by_cases amounts : ∃ dbAsset, history.state.assets.lookup vchAsset = some dbAsset ∧
      dbAsset.bUseInputRanges = false
    · obtain ⟨dbAsset, found, noRanges⟩ := amounts
      obtain ⟨asset, stored, fields, -⟩ :=
        apply_kept env vchAsset history action invariant.consistent dbAsset found
      refine .of_ledger stored fun useRanges => ?_
      rw [fields.kind, noRanges] at useRanges
      cases useRanges
    · refine ranged_named invariant (fun dbAsset found => ?_) named allowed
      by_contra noRanges
      exact amounts ⟨dbAsset, found, by simpa using noRanges⟩
  · have same := others vchAsset named
    exact invariant.ranged.same same.asset fun owner => heldBy_untouched same

theorem ranges_accounted (env : AssetEnv) (vchAsset : Bytes) (actions : List TokenAction)
    (allowed : Run.Permitted (.step env) (RangeStep env vchAsset) TokenHistory.start
      actions) (asset : CAsset)
    (stored : (tokenRun env actions).state.assets.lookup vchAsset = some asset)
    (useRanges : asset.bUseInputRanges = true) :
    (∀ owner, Tidy (heldBy vchAsset (tokenRun env actions).state owner)) ∧
      (∀ owner other, owner ≠ other →
        Disjoint (indices (heldBy vchAsset (tokenRun env actions).state owner))
          (indices (heldBy vchAsset (tokenRun env actions).state other))) ∧
      ∀ owner, unitsOf vchAsset (tokenRun env actions).state owner =
        ((indices (heldBy vchAsset (tokenRun env actions).state owner)).card : Int) := by
  have empty : Ranged vchAsset AssetState.empty := by
    refine ⟨fun _ owner => ?_, fun asset found => by cases found⟩
    cases owner with
    | none => exact ⟨rfl, rfl⟩
    | some holder => exact ⟨rfl, rfl⟩
  have start : RangeInvariant vchAsset TokenHistory.start := ⟨.empty, empty⟩
  have invariant := Run.invariant (fun history action => rangeInvariant_step) start allowed
  have ledger := invariant.ranged.present asset stored useRanges
  exact ⟨ledger.tidy, ledger.apart, ledger.counted⟩

def sampleRangeEnv (ranges : List CRange) (nBalance : CAmount)
    (sent passedOn : List (Bytes × List CRange)) : AssetEnv :=
  sampleAssetEnv
    (fun _ => some { sampleAsset with
      listAllocationInputs := ranges, bUseInputRanges := true, nBalance := nBalance })
    fun nLockTime => some
      (if nLockTime = 2 then { sampleAllocation with listSendingAllocationInputs := sent }
       else { sampleAllocation with
        vchAliasOrAddress := [2], listSendingAllocationInputs := passedOn })

def sampleRangeSend : TokenAction := .asset ∅ (sampleAssetTx 2) OP_ASSET_SEND [] 8

def sampleRangePass : TokenAction := .allocation ∅ (sampleAssetTx 3) OP_ASSET_ALLOCATION_SEND [] 9

def sampleTenIndices : AssetEnv := sampleRangeEnv [⟨0, 9⟩] 10 [([2], [⟨0, 4⟩])] [([3], [⟨0, 1⟩])]

theorem sampleTenIndices_permitted :
    Run.Permitted (.step sampleTenIndices) (RangeStep sampleTenIndices sampleAssetName)
      TokenHistory.start [sampleActivation, sampleRangeSend, sampleRangePass] := by
  refine ⟨?_, ?_, ?_, trivial⟩
  · rintro theAsset decoded -
    cases decoded
    exact ⟨fun _ => by decide, fun impossible => absurd impossible (by decide)⟩
  · rintro payload decoded - -
    cases decoded
    exact .inr (by decide)
  · rintro payload decoded -
    cases decoded
    exact ⟨rfl, fun _ => .inl (by decide)⟩

theorem ranges_accounted_sample : heldBy sampleAssetName (tokenRun sampleTenIndices
        [sampleActivation, sampleRangeSend, sampleRangePass]).state (some [3]) = [⟨0, 1⟩] ∧
      unitsOf sampleAssetName (tokenRun sampleTenIndices
        [sampleActivation, sampleRangeSend, sampleRangePass]).state (some [3]) =
        ((indices [⟨0, 1⟩]).card : Int) := by
  have held : heldBy sampleAssetName (tokenRun sampleTenIndices
      [sampleActivation, sampleRangeSend, sampleRangePass]).state (some [3]) = [⟨0, 1⟩] := by
    decide +kernel
  obtain ⟨-, -, counted⟩ := ranges_accounted sampleTenIndices sampleAssetName
    [sampleActivation, sampleRangeSend, sampleRangePass] sampleTenIndices_permitted
    { sampleAsset with
      listAllocationInputs := [⟨5, 9⟩], bUseInputRanges := true, nBalance := 5
      nTotalSupply := 10, nHeight := 8, txHash := 2 }
    (by decide +kernel) rfl
  have units := counted (some [3])
  rw [held] at units
  exact ⟨held, units⟩

def sampleTwoRanges : AssetEnv :=
  sampleRangeEnv [⟨0, 1⟩, ⟨5, 6⟩] 4 [([2], [⟨0, 1⟩]), ([3], [⟨5, 6⟩])] []

theorem assetSend_duplicates_range :
    (checkAssetInputs sampleTwoRanges ∅ (sampleAssetTx 2) OP_ASSET_SEND [] 8
        (tokenRun sampleTwoRanges [sampleActivation]).state).1 = .ok () ∧
      heldBy sampleAssetName (tokenRun sampleTwoRanges [sampleActivation]).state none =
        [⟨0, 1⟩, ⟨5, 6⟩] ∧
      heldBy sampleAssetName
        (tokenRun sampleTwoRanges [sampleActivation, sampleRangeSend]).state none = [⟨0, 1⟩] ∧
      unitsOf sampleAssetName
        (tokenRun sampleTwoRanges [sampleActivation, sampleRangeSend]).state none = 0 ∧
      heldBy sampleAssetName
        (tokenRun sampleTwoRanges [sampleActivation, sampleRangeSend]).state (some [2]) =
          [⟨0, 1⟩] := by
  decide

end Minerium
