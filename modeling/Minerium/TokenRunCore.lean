import Minerium.AssetCore
import Minerium.Lib.Run

/-! Sequences of block-mode asset and allocation transactions. A history also remembers the record
with which each asset was first stored. -/

namespace Minerium

inductive TokenAction where
  | newBlock
  | asset (inputs : UtxoMap) (tx : CTransaction) (op : Nat) (vchAlias : Bytes) (nHeight : Nat)
  | allocation (inputs : UtxoMap) (tx : CTransaction) (op : Nat) (vchAlias : Bytes) (nHeight : Nat)

variable (env : AssetEnv)

def TokenAction.apply (state : AssetState) : TokenAction → AssetState
  | .newBlock => { state with revertedAssetAllocations := [] }
  | .asset inputs tx op vchAlias nHeight =>
    (checkAssetInputs env inputs tx op vchAlias nHeight state).2
  | .allocation inputs tx op vchAlias nHeight =>
    (checkAssetAllocationInputs env inputs tx op vchAlias nHeight state).2

def TokenAction.names : TokenAction → Option Bytes
  | .newBlock => none
  | .asset _ tx op _ _ =>
    if op = OP_ASSET_SEND then (env.unserializeAllocation tx).map (·.vchAsset)
    else (env.unserializeAsset tx).map (·.vchAsset)
  | .allocation _ tx _ _ _ => (env.unserializeAllocation tx).map (·.vchAsset)

def AssetState.empty : AssetState :=
  { assets := ∅, allocations := ∅, lastAllocations := ∅, arrivalTimes := ∅
    assetAllocationConflicts := [], revertedAssetAllocations := [] }

structure TokenHistory where
  state : AssetState
  activated : Bytes → Option CAsset

def TokenHistory.start : TokenHistory := ⟨.empty, fun _ => none⟩

def TokenHistory.step (history : TokenHistory) (action : TokenAction) : TokenHistory :=
  let state := action.apply env history.state
  ⟨state, fun vchAsset => (history.activated vchAsset).or (state.assets.lookup vchAsset)⟩

def tokenRun (actions : List TokenAction) : TokenHistory :=
  Run.run (.step env) TokenHistory.start actions

end Minerium
