import Minerium.AmountSend
import Minerium.TokenRunCore

/-! The supply of an asset that is divided into amounts. The conditions are those that the checks of
the source leave out. -/

namespace Minerium

/-- The supply is what the asset and its holders have, and nothing is negative. -/
structure Accounted (vchAsset : Bytes) (asset : CAsset) (map : AllocationMap)
    (nMaxSupply : CAmount) : Prop where
  supply : asset.nTotalSupply.toInt = asset.nBalance.toInt + allocationSum vchAsset map
  balance : 0 ≤ asset.nBalance.toInt
  holders : ∀ holder, 0 ≤ balanceAt map ⟨vchAsset, holder⟩
  capped : asset.nTotalSupply ≤ nMaxSupply

section

variable (env : AssetEnv) (state : AssetState) (op : Nat) (vchAlias : Bytes) (nHeight : Nat)
  (payload : CAssetAllocation)

def actingHolder : Bytes :=
  if vchAlias.isEmpty then payload.vchAliasOrAddress else vchAlias

/-- An activation starts with a balance within the maximum supply; an update repeats the
stored supply, does not raise the maximum and adds an amount that fits; a transfer comes
before any unit is allocated. -/
def SupplyAssetOp (theAsset : CAsset) : Prop :=
  if op = OP_ASSET_ACTIVATE then
    0 ≤ theAsset.nBalance.toInt ∧ theAsset.nBalance.toInt ≤ theAsset.nMaxSupply.toInt
  else ∀ dbAsset ∈ state.assets.lookup theAsset.vchAsset,
    if op = OP_ASSET_UPDATE then
      theAsset.nTotalSupply = dbAsset.nTotalSupply ∧
        theAsset.nMaxSupply.toInt ≤ dbAsset.nMaxSupply.toInt ∧ 0 ≤ theAsset.nBalance.toInt ∧
        dbAsset.nTotalSupply.toInt + theAsset.nBalance.toInt < 2 ^ 63
    else dbAsset.nTotalSupply = dbAsset.nBalance

/-- Sent amounts add up below `2 ^ 63` and do not go to the sender; interest fits on top of
the supply; there are no other operations. -/
def SupplyAllocationOp : Prop :=
  if op = OP_ASSET_ALLOCATION_SEND then
    exactTotal payload.listSendingAllocationAmounts < 2 ^ 63 ∧
      ∀ entry ∈ payload.listSendingAllocationAmounts, entry.1 ≠ actingHolder vchAlias payload
  else op = OP_ASSET_COLLECT_INTEREST ∧ ∀ dbAsset ∈ state.assets.lookup payload.vchAsset,
      ∀ record ∈ state.lastAllocations.lookup ⟨payload.vchAsset, actingHolder vchAlias payload⟩,
        (getAssetAllocationInterest env record nHeight).2.toInt + dbAsset.nTotalSupply.toInt <
          2 ^ 63

def SupplyStep (vchAsset : Bytes) (history : TokenHistory) : TokenAction → Prop
  | .newBlock => True
  | .asset _ tx op _ _ =>
    if op = OP_ASSET_SEND then
      ∀ payload ∈ env.unserializeAllocation tx, payload.vchAsset = vchAsset →
        exactTotal payload.listSendingAllocationAmounts < 2 ^ 63
    else
      ∀ theAsset ∈ env.unserializeAsset tx, theAsset.vchAsset = vchAsset →
        SupplyAssetOp history.state op theAsset
  | .allocation _ tx op vchAlias nHeight =>
    ∀ payload ∈ env.unserializeAllocation tx, payload.vchAsset = vchAsset →
      SupplyAllocationOp env history.state op vchAlias nHeight payload

end

instance (state : AssetState) (op : Nat) (theAsset : CAsset) :
    Decidable (SupplyAssetOp state op theAsset) := by
  unfold SupplyAssetOp
  infer_instance

instance (env : AssetEnv) (state : AssetState) (op : Nat) (vchAlias : Bytes) (nHeight : Nat)
    (payload : CAssetAllocation) :
    Decidable (SupplyAllocationOp env state op vchAlias nHeight payload) := by
  unfold SupplyAllocationOp
  infer_instance

instance (env : AssetEnv) (vchAsset : Bytes) (history : TokenHistory) (action : TokenAction) :
    Decidable (SupplyStep env vchAsset history action) := by
  unfold SupplyStep
  cases action <;> infer_instance

end Minerium
