import Minerium.AssetOps
import Minerium.ServiceRun
import Minerium.TokenRun

/-! Who may change an asset. Every operation but the transfer tests the owner. -/

namespace Minerium

open Option CAsset

open Procedure (orStop_some_bind wp wp_always wp_bind wp_final wp_liftExcept wp_mono wp_orStop
  wp_pure wp_require)

variable {stopped : ServiceStop → AssetState → Prop} {state : AssetState} {owner : Bytes}

def authorised (addressOf : CScript → Option Bytes) (inputs : UtxoMap) (tx : CTransaction)
    (owner : Bytes) : Bool :=
  spendsAlias inputs tx owner || findAssetOwnerInTx addressOf inputs tx owner

def CAsset.guarded (asset : CAsset) : Bytes × Bytes × Bytes × CAmount × Float32Bits :=
  (asset.vchAliasOrAddress, asset.vchPubData, asset.sCategory, asset.nBalance, asset.fInterestRate)

def OwnerSigned (env : AssetEnv) (inputs : UtxoMap) (tx : CTransaction) (vchAlias owner : Bytes) :
    Prop :=
  if vchAlias.isEmpty then env.findAssetOwnerInTx inputs tx owner = true else owner = vchAlias

section

variable (env : AssetEnv) (inputs : UtxoMap) (tx : CTransaction) (vchAlias : Bytes) (nHeight : Nat)

theorem ownerSigned_of_ownerSigns (signs : ownerSigns env inputs tx vchAlias owner owner = true) :
    OwnerSigned env inputs tx vchAlias owner := by
  rw [ownerSigns] at signs
  rw [OwnerSigned]
  split
  · rename_i empty
    rwa [if_pos empty] at signs
  · rename_i nonempty
    rw [if_neg nonempty] at signs
    exact of_decide_eq_true signs

variable {theAsset dbAsset : CAsset}

theorem assetUser_of_named (named : dbAsset.vchAsset ≠ []) {other : Bytes} :
    assetUser dbAsset other = dbAsset.vchAliasOrAddress := by
  rw [assetUser, isNull, if_neg]
  simpa using named

theorem wp_requireFoundAsset {post : CAsset → AssetState → Prop} {vchAsset : Bytes}
    (value : ∀ dbAsset, state.assets.lookup vchAsset = some dbAsset → post dbAsset state)
    (stops : ∀ e, stopped e state) : wp (requireFoundAsset vchAsset) post stopped state := by
  simp only [requireFoundAsset, wp_bind, wp_readAsset, wp_orStop]
  exact ⟨value, fun _ => stops _⟩

def SignedChange (vchAsset : Bytes) (before after : AssetState) : Prop :=
  after.assets.lookup vchAsset = before.assets.lookup vchAsset ∨
    ∃ dbAsset, before.assets.lookup vchAsset = some dbAsset ∧
      OwnerSigned env inputs tx vchAlias dbAsset.vchAliasOrAddress

theorem assetUpdate_signed (keyed : Keyed state) (named : theAsset.vchAsset ≠ []) :
    wp (assetUpdate env inputs tx vchAlias nHeight theAsset)
      (fun _ => SignedChange env inputs tx vchAlias theAsset.vchAsset state)
      (fun _ => SignedChange env inputs tx vchAlias theAsset.vchAsset state) state := by
  rw [assetUpdate, wp_bind]
  refine wp_requireFoundAsset (fun dbAsset found => ?_) fun _ => .inl rfl
  dsimp only
  rw [wp_bind, assetUser_of_named (by rw [keyed.assets _ _ found]; exact named)]
  refine wp_requireAssetOwner.mpr ⟨fun signs => ?_, fun _ => .inl rfl⟩
  have signed := ownerSigned_of_ownerSigns env inputs tx vchAlias signs
  exact wp_always (fun _ _ => .inr ⟨dbAsset, found, signed⟩)
    fun _ _ => .inr ⟨dbAsset, found, signed⟩

theorem assetSend_signed {payload : CAssetAllocation} (keyed : Keyed state)
    (named : payload.vchAsset ≠ []) : wp (assetSend env inputs tx vchAlias nHeight payload)
      (fun _ => SignedChange env inputs tx vchAlias payload.vchAsset state)
      (fun _ => SignedChange env inputs tx vchAlias payload.vchAsset state) state := by
  rw [assetSend, wp_bind]
  refine wp_requireFoundAsset (fun dbAsset found => ?_) fun _ => .inl rfl
  dsimp only
  rw [wp_bind, wp_require]
  refine ⟨fun _ => ?_, fun _ => .inl rfl⟩
  rw [wp_bind, assetUser_of_named (by rw [keyed.assets _ _ found]; exact named)]
  refine wp_requireAssetSender (fun signs => ?_) fun _ => .inl rfl
  have signed := ownerSigned_of_ownerSigns env inputs tx vchAlias signs
  exact wp_always (fun _ _ => .inr ⟨dbAsset, found, signed⟩)
    fun _ _ => .inr ⟨dbAsset, found, signed⟩

theorem assetActivate_kept (found : state.assets.lookup theAsset.vchAsset = some dbAsset) :
    wp (assetActivate env inputs tx vchAlias nHeight theAsset)
      (fun _ after => after.assets = state.assets) (fun _ after => after.assets = state.assets)
      state := by
  refine wp_mono (assetActivate_spec nHeight) ?_ ?_
  · rintro - after ⟨missing, -⟩
    rw [found] at missing
    cases missing
  · rintro - after rfl
    rfl

end

open Procedure (Frame Keeps)

def SupplyOnly (vchAsset : Bytes) (before after : AssetState) : Prop :=
  after.assets.lookup vchAsset = before.assets.lookup vchAsset ∨
    ∃ dbAsset nTotalSupply, before.assets.lookup vchAsset = some dbAsset ∧
      after.assets.lookup vchAsset = some { dbAsset with nTotalSupply }

theorem collectInterest_supply {env : AssetEnv} {txHash : Uint256} {nHeight : Nat}
    {tuple : CAssetAllocationTuple} (keyed : Keyed state) :
    wp (collectInterest env txHash nHeight tuple)
      (fun _ => SupplyOnly tuple.vchAsset state) (fun _ => SupplyOnly tuple.vchAsset state)
      state := by
  simp only [collectInterest, checkInterest, wp_bind, wp_pure, wp_readAssetAllocation, wp_orStop,
    wp_readAsset, wp_require]
  refine ⟨fun db found => ⟨fun dbAsset foundAsset => ⟨fun _ => ?_, fun _ => .inl rfl⟩,
    fun _ => .inl rfl⟩, fun _ => .inl rfl⟩
  have named : db.vchAsset = tuple.vchAsset :=
    congrArg CAssetAllocationTuple.vchAsset (keyed.allocations tuple db found)
  rw [named] at foundAsset
  refine wp_mono (keeps_revertAssetAllocation (sameAssets_kept fun _ => True) trivial
    dbAsset txHash nHeight state keyed) ?_ fun _ after done => .inl (congrArg _ done.2)
  rintro - middle ⟨keyedMiddle, same, -⟩
  have unchanged : middle.assets.lookup tuple.vchAsset = state.assets.lookup tuple.vchAsset := by
    rw [show middle.assets = state.assets from same]
  refine ⟨fun record _ => ?_, fun _ => .inl unchanged⟩
  simp only [wp_liftExcept, wp_writeAsset, wp_writeSender]
  refine ⟨fun result applied => ?_, fun _ _ => .inl unchanged⟩
  obtain ⟨nMaxSupply, nInterest, paid⟩ := applyInterest_spec (liftInterest_eq_ok applied)
  refine .inr ⟨dbAsset, dbAsset.nTotalSupply + nInterest, foundAsset, ?_⟩
  have key : result.1.vchAsset = tuple.vchAsset :=
    paid.assetNamed.trans (keyed.assets _ _ foundAsset)
  rw [← paid.supply, ← key]
  exact afterWriteAsset_lookup result.1 middle

section

variable (env : AssetEnv) (inputs : UtxoMap) (tx : CTransaction) (op : Nat) (vchAlias : Bytes)
  (nHeight : Nat) {state : AssetState} {vchAsset : Bytes} {dbAsset : CAsset}

theorem allocation_assetsKept (notCollect : op ≠ OP_ASSET_COLLECT_INTEREST) :
    Keeps sameAssets (checkAssetAllocationInputs env inputs tx op vchAlias nHeight)
      fun _ => True := by
  refine .ite (fun _ => .pure trivial) fun _ => ?_
  refine .bind (.orStop _ _) fun payload _ => ?_
  have kept := sameAssets_kept fun _ => True
  refine .ite (fun isCollect => absurd isCollect notCollect) fun _ =>
    Keeps.ite (fun _ => ?_) fun _ => ?_
  · exact keeps_allocationSend kept env inputs tx vchAlias nHeight fun _ _ => trivial
  · exact keeps_writeSender kept _ nHeight false trivial

theorem allocation_supplyOnly (keyed : Keyed state) :
    SupplyOnly vchAsset state (checkAssetAllocationInputs env inputs tx
      OP_ASSET_COLLECT_INTEREST vchAlias nHeight state).2 := by
  have keeps := apply_keeps env (.allocation inputs tx OP_ASSET_COLLECT_INTEREST vchAlias nHeight)
    keyed
  by_cases named : (TokenAction.allocation inputs tx OP_ASSET_COLLECT_INTEREST vchAlias
      nHeight).names env = some vchAsset
  · obtain ⟨payload, decoded, rfl⟩ := map_eq_some_iff.mp named
    refine checkAssetAllocationInputs_cases (.inl rfl) fun other same => ?_
    cases decoded.symm.trans same
    exact wp_final (collectInterest_supply keyed)
  · exact .inl (keeps.untouched vchAsset named).asset

theorem checkAssetInputs_signed (keyed : Keyed state) (named : vchAsset ≠ [])
    (found : state.assets.lookup vchAsset = some dbAsset) :
    (checkAssetInputs env inputs tx op vchAlias nHeight state).2.assets.lookup vchAsset =
        some dbAsset ∨
      OwnerSigned env inputs tx vchAlias dbAsset.vchAliasOrAddress ∨
      (op ≠ OP_ASSET_ACTIVATE ∧ op ≠ OP_ASSET_UPDATE ∧ op ≠ OP_ASSET_SEND) ∧
        ∃ theAsset, env.unserializeAsset tx = some theAsset ∧ theAsset.vchAsset = vchAsset := by
  have keeps := apply_keeps env (.asset inputs tx op vchAlias nHeight) keyed
  by_cases isNamed : (TokenAction.asset inputs tx op vchAlias nHeight).names env = some vchAsset
  · have signedBy : ∀ after, SignedChange env inputs tx vchAlias vchAsset state after →
        after.assets.lookup vchAsset = some dbAsset ∨
          OwnerSigned env inputs tx vchAlias dbAsset.vchAliasOrAddress := by
      rintro after (same | ⟨record, there, signed⟩)
      · exact .inl (same.trans found)
      · cases found.symm.trans there
        exact .inr signed
    refine @checkAssetInputs_cases _ _ _ _ _ _ (fun after =>
      after.assets.lookup vchAsset = some dbAsset ∨ _) _ (.inl found) (fun payload _ _ names => ?_)
      fun theAsset notSend decoded names => ?_
    · cases isNamed.symm.trans names
      exact (signedBy _ (wp_final
        (assetSend_signed env inputs tx vchAlias nHeight keyed named))).imp_right .inl
    · cases isNamed.symm.trans names
      rw [runAssetOp]
      split
      · refine .inl ?_
        rw [wp_final (assetActivate_kept env inputs tx vchAlias nHeight found)]
        exact found
      · rename_i notActivate
        split
        · exact (signedBy _ (wp_final
            (assetUpdate_signed env inputs tx vchAlias nHeight keyed named))).imp_right .inl
        · rename_i notUpdate
          exact .inr (.inr ⟨⟨notActivate, notUpdate, notSend⟩, theAsset, decoded, rfl⟩)
  · exact .inl (((keeps.untouched vchAsset isNamed).asset).trans found)

end

section

variable {ctx : BlockContext} {state : ServiceState} {tx : CTransaction} {vchAsset : Bytes}

theorem serviceTx_keyed (keyed : Keyed state.tokens) : Keyed (serviceTx ctx tx state).2.tokens := by
  rcases (serviceTx_step ctx tx state).tokens with same | ⟨op, -, ran⟩ | ⟨op, -, ran⟩
  · rw [same]
    exact keyed
  · rw [ran]
    exact (apply_keeps ctx.env.assetEnv (.allocation ctx.inputs tx op _ ctx.nHeight) keyed).keyed
  · rw [ran]
    exact (apply_keeps ctx.env.assetEnv (.asset ctx.inputs tx op _ ctx.nHeight) keyed).keyed

/-- A transfer is signed by the owner, and the alias that signs for an asset is spent. -/
@[mk_iff]
structure AssetSigned (vchAsset : Bytes) (ctx : BlockContext) (state : ServiceState)
    (tx : CTransaction) : Prop where
  transfer : serviceCall tx = .asset OP_ASSET_TRANSFER →
    ∀ payload ∈ ctx.env.assetEnv.unserializeAsset tx, payload.vchAsset = vchAsset →
      ∀ stored ∈ state.tokens.assets.lookup vchAsset,
        authorised ctx.env.addressOf ctx.inputs tx stored.vchAliasOrAddress = true
  spent : (serviceCall tx).entry.map Prod.fst = some .asset → AliasSpent ctx.inputs tx

instance : Decidable (AssetSigned vchAsset ctx state tx) :=
  decidable_of_iff _ (assetSigned_iff ..).symm

theorem authorised_of_ownerSigned
    (signed : OwnerSigned ctx.env.assetEnv ctx.inputs tx (signingAlias ctx.inputs tx) owner)
    (spent : AliasSpent ctx.inputs tx) :
    authorised ctx.env.addressOf ctx.inputs tx owner = true := by
  rw [authorised, Bool.or_eq_true]
  rw [OwnerSigned] at signed
  split at signed
  · exact .inr signed
  · rename_i nonempty
    refine .inl ?_
    rw [signed]
    refine spends_signingAlias ?_ spent
    rw [signingAlias] at nonempty
    cases input : aliasInput ctx.inputs tx with
    | none =>
      rw [input] at nonempty
      exact absurd rfl nonempty
    | some _ => rfl

theorem serviceTx_asset {dbAsset : CAsset} (keyed : Keyed state.tokens) (named : vchAsset ≠ [])
    (signed : AssetSigned vchAsset ctx state tx)
    (found : state.tokens.assets.lookup vchAsset = some dbAsset) :
    authorised ctx.env.addressOf ctx.inputs tx dbAsset.vchAliasOrAddress = true ∨
      (serviceTx ctx tx state).2.tokens.assets.lookup vchAsset = some dbAsset ∨
      serviceCall tx = .allocation OP_ASSET_COLLECT_INTEREST ∧ ∃ nTotalSupply,
        (serviceTx ctx tx state).2.tokens.assets.lookup vchAsset =
          some { dbAsset with nTotalSupply } := by
  rcases (serviceTx_step ctx tx state).tokens with same | ⟨op, called, ran⟩ | ⟨op, called, ran⟩
  · rw [same]
    exact .inr (.inl found)
  · rw [ran]
    by_cases isCollect : op = OP_ASSET_COLLECT_INTEREST
    · subst isCollect
      rcases allocation_supplyOnly ctx.env.assetEnv ctx.inputs tx (signingAlias ctx.inputs tx)
        ctx.nHeight keyed with same | ⟨record, nTotalSupply, there, changed⟩
      · exact .inr (.inl (same.trans found))
      · cases found.symm.trans there
        exact .inr (.inr ⟨called, nTotalSupply, changed⟩)
    · have same := ((allocation_assetsKept ctx.env.assetEnv ctx.inputs tx op
        (signingAlias ctx.inputs tx) ctx.nHeight isCollect).final keyed).2
      exact .inr (.inl ((congrArg _ same).trans found))
  · rw [ran]
    rcases checkAssetInputs_signed ctx.env.assetEnv ctx.inputs tx op (signingAlias ctx.inputs tx)
      ctx.nHeight keyed named found with same | owner | ⟨others, theAsset, decoded, isNamed⟩
    · exact .inr (.inl same)
    · exact .inl (authorised_of_ownerSigned owner (signed.spent (by rw [called]; rfl)))
    · have bounds : 1 ≤ op ∧ op ≤ 4 := serviceCall_isOp (congrArg ServiceCall.entry called)
      have isTransfer : op = OP_ASSET_TRANSFER := by
        simp only [OP_ASSET_ACTIVATE, OP_ASSET_UPDATE, OP_ASSET_SEND] at others
        simp only [OP_ASSET_TRANSFER]
        omega
      exact .inl (signed.transfer (isTransfer ▸ called) theAsset decoded isNamed dbAsset found)

end

theorem reached_keyed {env : ServiceEnv} {node : ServiceNode} (reached : Reached env node) :
    Keyed node.services.tokens := by
  obtain ⟨nTime, actions, rfl⟩ := reached
  refine @services_invariant_always env (fun state => Keyed state.tokens)
    (fun _ _ _ => serviceTx_keyed) ?_ ?_ _ Consistent.empty.keyed actions
  · intro state keyed
    exact (apply_keeps env.assetEnv .newBlock keyed).keyed
  · intro state unconfirmed keyed
    exact ⟨keyed.assets, unconfirmed.keyed, keyed.lastAllocations, keyed.reverted⟩

def sampleOwnedName : Bytes := [0x74]

def sampleOwned (vchAliasOrAddress : Bytes) : CAsset :=
  { null with
    vchAsset := sampleOwnedName, vchAliasOrAddress := vchAliasOrAddress, nBalance := 5
    nMaxSupply := 100 }

def sampleOwnedEnv : ServiceEnv :=
  sampleServiceEnv fun
    | 0 => some (.alias (sampleAliasRecord [0x61]))
    | 1 => some (.alias (sampleAliasRecord [0x62]))
    | 2 => some (.asset (sampleOwned [0x61]))
    | 3 => some (.asset (sampleOwned [0x62]))
    | _ => none

def sampleOwnedNode : ServiceNode :=
  sampleNode sampleOwnedEnv [sampleAliases 100 [[0x61], [0x62]], sampleSigned 200 [0x61] .asset 1 2]

def sampleOwnedStored : CAsset :=
  (sampleOwnedNode.services.tokens.assets.lookup sampleOwnedName).getD null

end Minerium
