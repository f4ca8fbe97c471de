import Minerium.AmountConservation
import Minerium.AssetOps
import Minerium.TokenRun

/-! The fields of an asset that its activation fixes. -/

namespace Minerium

open TokenHistory

open Procedure (Frame Keeps orStop_some_bind wp wp_final wp_mono)

variable {state : AssetState} {tx : CTransaction} (env : AssetEnv) (inputs : UtxoMap)
  {history : TokenHistory}

def sameRate (rate other : Float32Bits) : Prop := rate = other ∨ floatEq rate other = true

theorem floatEq_iff {rate other : Float32Bits} : floatEq rate other = true ↔
    floatIsNaN rate = false ∧ floatIsNaN other = false ∧
      (rate = other ∨ floatIsZero rate = true ∧ floatIsZero other = true) := by
  simp [floatEq, and_assoc]

theorem sameRate.trans {rate other third : Float32Bits} (one : sameRate rate other)
    (two : sameRate other third) : sameRate rate third := by
  rcases one with rfl | one
  · exact two
  · rcases two with rfl | two
    · exact .inr one
    · obtain ⟨notNaN, -, first⟩ := floatEq_iff.mp one
      obtain ⟨-, notNaN', second⟩ := floatEq_iff.mp two
      refine .inr (floatEq_iff.mpr ⟨notNaN, notNaN', ?_⟩)
      rcases first with rfl | ⟨zero, zeroOther⟩
      · exact second
      · rcases second with rfl | ⟨-, zeroThird⟩
        · exact .inr ⟨zero, zeroOther⟩
        · exact .inr ⟨zero, zeroThird⟩

structure FieldsKept (before after : CAsset) : Prop where
  precision : after.nPrecision = before.nPrecision
  symbol : after.vchSymbol = before.vchSymbol
  kind : after.bUseInputRanges = before.bUseInputRanges
  adjustable : after.bCanAdjustInterestRate = before.bCanAdjustInterestRate
  rate : before.bCanAdjustInterestRate = false → sameRate after.fInterestRate before.fInterestRate

theorem FieldsKept.refl (asset : CAsset) : FieldsKept asset asset :=
  ⟨rfl, rfl, rfl, rfl, fun _ => .inl rfl⟩

theorem FieldsKept.trans {first second third : CAsset} (one : FieldsKept first second)
    (two : FieldsKept second third) : FieldsKept first third :=
  ⟨two.precision.trans one.precision, two.symbol.trans one.symbol, two.kind.trans one.kind,
    two.adjustable.trans one.adjustable,
    fun fixed => (two.rate (one.adjustable.trans fixed)).trans (one.rate fixed)⟩

def AssetKept (max : Prop) (vchAsset : Bytes) (before after : AssetState) : Prop :=
  ∀ asset, before.assets.lookup vchAsset = some asset →
    ∃ asset', after.assets.lookup vchAsset = some asset' ∧ FieldsKept asset asset' ∧
      (max → asset'.nMaxSupply = asset.nMaxSupply)

section

variable {max : Prop} {vchAsset : Bytes} {before middle after : AssetState}

theorem AssetKept.of_same (same : after.assets.lookup vchAsset = before.assets.lookup vchAsset) :
    AssetKept max vchAsset before after :=
  fun asset found => ⟨asset, same.trans found, .refl asset, fun _ => rfl⟩

theorem AssetKept.of_write {dbAsset asset : CAsset} (same : middle.assets = before.assets)
    (found : before.assets.lookup vchAsset = some dbAsset) (named : asset.vchAsset = vchAsset)
    (fields : FieldsKept dbAsset asset) (maxKept : max → asset.nMaxSupply = dbAsset.nMaxSupply) :
    AssetKept max vchAsset before (afterWriteAsset asset middle) := by
  intro asset' found'
  rw [found] at found'
  cases found'
  refine ⟨asset, ?_, fields, maxKept⟩
  rw [afterWriteAsset, same, named, FinmapTotal.lookup_insert_eq, if_pos rfl]

end

theorem assetSend_kept (tx : CTransaction) (vchAlias : Bytes) (nHeight : Nat)
    (payload : CAssetAllocation) (keyed : Keyed state) (max : Prop) :
    wp (assetSend env inputs tx vchAlias nHeight payload)
      (fun _ => AssetKept max payload.vchAsset state)
      (fun _ => AssetKept max payload.vchAsset state) state := by
  refine assetSend_wp (fun _ => .of_same rfl) ?_
  intro dbAsset found
  refine wp_mono (keeps_assetSendTo (sameAssets_kept fun _ => True) (fun _ _ => trivial) state
    keyed) ?_ ?_
  · rintro theAsset after ⟨-, same, fields⟩
    refine .of_write same found ?_ ?_ fun _ => ?_
    · have named : dbAsset.vchAsset = payload.vchAsset := keyed.assets _ _ found
      exact (congrArg CAsset.vchAsset fields).trans named
    · rw [fields]
      exact ⟨rfl, rfl, rfl, rfl, fun _ => .inl rfl⟩
    · rw [fields]
  · rintro _ after ⟨-, same⟩
    exact .of_same (congrArg (Finmap.lookup payload.vchAsset) same)

def RepeatsMaxSupply (state : AssetState) (op : Nat) (theAsset : CAsset) : Prop :=
  op = OP_ASSET_UPDATE → ∀ dbAsset ∈ state.assets.lookup theAsset.vchAsset,
    theAsset.nMaxSupply = dbAsset.nMaxSupply

theorem runAssetOp_kept (tx : CTransaction) (op : Nat)
    (vchAlias : Bytes) (nHeight : Nat) (theAsset : CAsset) (state : AssetState) :
    wp (runAssetOp env inputs tx op vchAlias nHeight theAsset)
      (fun _ after => AssetKept (RepeatsMaxSupply state op theAsset) theAsset.vchAsset state after)
      (fun _ after => AssetKept (RepeatsMaxSupply state op theAsset) theAsset.vchAsset state after)
      state := by
  have unchanged : ∀ (e : ServiceStop) (after : AssetState), after = state →
      AssetKept (RepeatsMaxSupply state op theAsset) theAsset.vchAsset state after := by
    rintro _ _ rfl
    exact .of_same rfl
  rw [runAssetOp]
  split
  · refine wp_mono (assetActivate_spec nHeight) ?_ unchanged
    rintro - _ ⟨missing, rfl⟩ asset found
    rw [missing] at found
    cases found
  · split
    · rename_i update
      refine wp_mono (assetUpdate_spec nHeight) ?_ unchanged
      rintro - _ ⟨dbAsset, accepted, rfl⟩
      refine .of_write rfl accepted.found rfl ⟨rfl, rfl, rfl, rfl, fun fixed => ?_⟩
        fun repeats => repeats update dbAsset accepted.found
      rcases accepted.rate with adjustable | same
      · rw [fixed] at adjustable
        cases adjustable
      · exact .inr same
    · refine wp_mono (assetTransfer_spec nHeight) ?_ unchanged
      rintro - _ ⟨dbAsset, found, rfl⟩
      exact .of_write rfl found rfl ⟨rfl, rfl, rfl, rfl, fun _ => .inl rfl⟩ fun _ => rfl

theorem checkAssetAllocationInputs_kept {payload : CAssetAllocation}
    (decoded : env.unserializeAllocation tx = some payload) {op : Nat} {vchAlias : Bytes}
    {nHeight : Nat} (consistent : Consistent state) {max : Prop} :
    AssetKept max payload.vchAsset state
      (checkAssetAllocationInputs env inputs tx op vchAlias nHeight state).2 := by
  have kept := sameAssets_kept fun _ => True
  have sameLookup : ∀ {after : AssetState}, after.assets = state.assets →
      AssetKept max payload.vchAsset state after := fun same =>
    AssetKept.of_same (congrArg (Finmap.lookup payload.vchAsset) same)
  refine checkAssetAllocationInputs_cases (.of_same rfl) fun other same => ?_
  cases decoded.symm.trans same
  rw [runAllocationOp]
  split
  · refine wp_final (wp_mono (collectInterest_spec consistent.keyed (consistent.synced _)) ?_
      fun _ _ held => sameLookup held.assets)
    rintro - after ⟨dbAsset, record, asset', allocation', nMaxSupply, nInterest, middle, found, -,
      paid, done, rfl⟩
    refine .of_write done.kept.assets found ?_ ?_ fun _ => ?_
    · exact paid.assetNamed.trans (consistent.keyed.assets _ _ found)
    · rw [paid.supply]
      exact ⟨rfl, rfl, rfl, rfl, fun _ => .inl rfl⟩
    · rw [paid.supply]
  · split
    · exact sameLookup ((keeps_allocationSend kept env inputs tx vchAlias nHeight
        fun _ _ => trivial).final consistent.keyed).2
    · exact sameLookup ((keeps_writeSender kept (env.txHash tx) nHeight false trivial).final
        consistent.keyed).2

def MaxSupplyStep (env : AssetEnv) (vchAsset : Bytes) (history : TokenHistory) : TokenAction → Prop
  | .newBlock => True
  | .asset _ tx op _ _ => op ≠ OP_ASSET_SEND → ∀ theAsset ∈ env.unserializeAsset tx,
      theAsset.vchAsset = vchAsset → RepeatsMaxSupply history.state op theAsset
  | .allocation _ _ _ _ _ => True

theorem checkAssetInputs_kept {op : Nat} {vchAlias : Bytes} {nHeight : Nat} {vchAsset : Bytes}
    (names : (TokenAction.asset inputs tx op vchAlias nHeight).names env = some vchAsset)
    (keyed : Keyed history.state) :
    AssetKept (MaxSupplyStep env vchAsset history (.asset inputs tx op vchAlias nHeight)) vchAsset
      history.state (checkAssetInputs env inputs tx op vchAlias nHeight history.state).2 := by
  refine checkAssetInputs_cases (.of_same rfl) (fun payload _ _ same => ?_)
    fun theAsset notSend decoded same => ?_
  · cases names.symm.trans same
    exact wp_final (assetSend_kept env inputs tx vchAlias nHeight payload keyed _)
  · cases names.symm.trans same
    have done := wp_final (runAssetOp_kept env inputs tx op vchAlias nHeight theAsset history.state)
    intro asset found
    obtain ⟨asset', stored, fields, maxKept⟩ := done asset found
    exact ⟨asset', stored, fields, fun step => maxKept (step notSend theAsset decoded rfl)⟩

theorem apply_kept (vchAsset : Bytes) (history : TokenHistory)
    (action : TokenAction) (consistent : Consistent history.state) :
    AssetKept (MaxSupplyStep env vchAsset history action) vchAsset history.state
      (action.apply env history.state) := by
  by_cases named : action.names env = some vchAsset
  · cases action with
    | newBlock => cases named
    | asset inputs tx op vchAlias nHeight =>
      exact checkAssetInputs_kept env inputs named consistent.keyed
    | allocation inputs tx op vchAlias nHeight =>
      obtain ⟨payload, decoded, rfl⟩ := Option.map_eq_some_iff.mp named
      exact checkAssetAllocationInputs_kept env inputs decoded consistent
  · exact .of_same ((apply_spec env action consistent).2 vchAsset named).asset

/-- The record has the fields, with `max` also the maximum supply, of the first one stored. -/
structure FixedSince (vchAsset : Bytes) (history : TokenHistory) : Prop where
  consistent : Consistent history.state
  absent : history.state.assets.lookup vchAsset = none → history.activated vchAsset = none
  fixed : ∀ asset, history.state.assets.lookup vchAsset = some asset →
    ∃ first, history.activated vchAsset = some first ∧ FieldsKept first asset ∧
      asset.nMaxSupply = first.nMaxSupply

theorem fixedSince_step {env : AssetEnv} {vchAsset : Bytes}
    {action : TokenAction} (fixed : FixedSince vchAsset history)
    (allowed : MaxSupplyStep env vchAsset history action) :
    FixedSince vchAsset (history.step env action) := by
  have kept := apply_kept env vchAsset history action fixed.consistent
  refine ⟨(apply_spec env action fixed.consistent).1, ?_, ?_⟩
  · intro missing
    cases found : history.state.assets.lookup vchAsset with
    | none =>
      simp only [step] at missing ⊢
      rw [fixed.absent found, missing]
      rfl
    | some asset =>
      obtain ⟨asset', stored, -, -⟩ := kept asset found
      simp only [step] at missing
      rw [stored] at missing
      cases missing
  · intro asset' stored
    simp only [step] at stored ⊢
    cases found : history.state.assets.lookup vchAsset with
    | none =>
      rw [fixed.absent found, stored]
      exact ⟨asset', rfl, .refl asset', rfl⟩
    | some asset =>
      obtain ⟨first, activated, fields, maxSupply⟩ := fixed.fixed asset found
      obtain ⟨asset'', stored', fields', maxKept⟩ := kept asset found
      rw [stored] at stored'
      cases stored'
      rw [activated]
      exact ⟨first, rfl, fields.trans fields', (maxKept allowed).trans maxSupply⟩

theorem activation_fixes_fields (env : AssetEnv) (vchAsset : Bytes) (actions : List TokenAction)
    (allowed : Run.Permitted (.step env) (MaxSupplyStep env vchAsset) start
      actions) (asset : CAsset)
    (stored : (tokenRun env actions).state.assets.lookup vchAsset = some asset) :
    ∃ first, (tokenRun env actions).activated vchAsset = some first ∧
      asset.nMaxSupply = first.nMaxSupply ∧
      asset.nPrecision = first.nPrecision ∧
      asset.vchSymbol = first.vchSymbol ∧
      asset.bUseInputRanges = first.bUseInputRanges ∧
      asset.bCanAdjustInterestRate = first.bCanAdjustInterestRate ∧
      (first.bCanAdjustInterestRate = false →
        sameRate asset.fInterestRate first.fInterestRate) := by
  have start : FixedSince vchAsset start :=
    ⟨.empty, fun _ => rfl, fun asset found => by cases found⟩
  have invariant := Run.invariant (fun history action => fixedSince_step) start allowed
  obtain ⟨first, activated, fields, maxSupply⟩ := invariant.fixed asset stored
  exact ⟨first, activated, maxSupply, fields.precision, fields.symbol, fields.kind,
    fields.adjustable, fields.rate⟩

instance (env : AssetEnv) (history : TokenHistory) :
    (action : TokenAction) → Decidable (MaxSupplyStep env vchAsset history action)
  | .newBlock | .allocation .. => .isTrue trivial
  | .asset .. => inferInstanceAs (Decidable (_ → ∀ theAsset ∈ env.unserializeAsset _, _ → _ →
      ∀ dbAsset ∈ history.state.assets.lookup theAsset.vchAsset, _ = _))

def sampleUpdateEnv (nMaxSupply : CAmount) : AssetEnv :=
  sampleAssetEnv (fun nLockTime => some (if nLockTime = 1 then sampleAsset
      else { sampleAsset with nBalance := 3, nTotalSupply := 5, nMaxSupply := nMaxSupply }))
    fun _ => none

def sampleActivation : TokenAction := .asset ∅ (sampleAssetTx 1) OP_ASSET_ACTIVATE [] 7

def sampleUpdate : TokenAction := .asset ∅ (sampleAssetTx 2) OP_ASSET_UPDATE [] 8

theorem activation_fixes_fields_sample :
    ∃ first, (tokenRun (sampleUpdateEnv 100) [sampleActivation, sampleUpdate]).activated
        sampleAssetName = some first ∧ first.nMaxSupply = 100 := by
  obtain ⟨first, activated, maxSupply, -⟩ := activation_fixes_fields (sampleUpdateEnv 100)
    sampleAssetName [sampleActivation, sampleUpdate] (by decide)
    { sampleAsset with nBalance := 8, nTotalSupply := 8, nHeight := 8, txHash := 2 } (by decide)
  exact ⟨first, activated, maxSupply.symm⟩

theorem update_changes_maxSupply :
    (checkAssetInputs (sampleUpdateEnv 200) ∅ (sampleAssetTx 2) OP_ASSET_UPDATE [] 8
        (tokenRun (sampleUpdateEnv 200) [sampleActivation]).state).1 = .ok () ∧
      ((tokenRun (sampleUpdateEnv 200) [sampleActivation, sampleUpdate]).activated
        sampleAssetName).map (·.nMaxSupply) = some 100 ∧
      ((tokenRun (sampleUpdateEnv 200) [sampleActivation, sampleUpdate]).state.assets.lookup
        sampleAssetName).map (·.nMaxSupply) = some 200 := by
  decide

end Minerium
