import Minerium.Confinement
import Minerium.TokenRunCore

/-! What holds in every sequence of block-mode asset and allocation transactions. -/

namespace Minerium

open Procedure SortedVector Option TokenAction

variable {vchAsset vchAlias : Bytes} {state : AssetState} {env : AssetEnv} {tx : CTransaction}
  {inputs : UtxoMap} {op : Nat} {good : AssetState → Prop}

section

variable (vchAsset state)

structure AssetUntouched (before after : AssetState) : Prop where
  asset : after.assets.lookup vchAsset = before.assets.lookup vchAsset
  records : ∀ holder, after.lastAllocations.lookup ⟨vchAsset, holder⟩ =
    before.lastAllocations.lookup ⟨vchAsset, holder⟩
  sum : allocationSum vchAsset after.lastAllocations = allocationSum vchAsset before.lastAllocations

theorem AssetUntouched.refl : AssetUntouched vchAsset state state := ⟨rfl, fun _ => rfl, rfl⟩

structure Consistent : Prop where
  keyed : Keyed state
  synced : ∀ tuple, Synced state tuple

end

theorem Consistent.empty : Consistent AssetState.empty := by
  refine ⟨⟨?_, ?_, ?_, by simp [AssetState.empty, Sorted]⟩, fun _ => rfl⟩
  · intro vchAsset asset found
    cases found
  · intro tuple allocation found
    cases found
  · intro tuple allocation found
    cases found

theorem Confined.untouched {other : Bytes} {before after : AssetState}
    (done : Confined vchAsset before after) (different : other ≠ vchAsset) :
    AssetUntouched other before after :=
  ⟨done.assets other different, fun holder => done.records ⟨other, holder⟩ different,
    done.sum other different⟩

structure ActionKeeps (named : Option Bytes) (before after : AssetState) : Prop where
  keyed : Keyed after
  synced : ∀ tuple, Synced before tuple → Synced after tuple
  untouched : ∀ vchAsset, named ≠ some vchAsset → AssetUntouched vchAsset before after

theorem ActionKeeps.refl (keyed : Keyed state) (named : Option Bytes) :
    ActionKeeps named state state :=
  ⟨keyed, fun _ => id, fun vchAsset _ => .refl vchAsset state⟩

theorem confined_apply {m : AssetProcedure Unit}
    (keeps : Keeps (confined vchAsset) m fun _ => True) (keyed : Keyed state) :
    ActionKeeps (some vchAsset) state (m state).2 := by
  obtain ⟨stillKeyed, done⟩ := keeps.final keyed
  refine ⟨stillKeyed, done.synced, fun other different => Confined.untouched done ?_⟩
  rintro rfl
  exact different rfl

theorem checkAssetInputs_cases {nHeight : Nat} (same : good state)
    (send : ∀ payload, op = OP_ASSET_SEND → env.unserializeAllocation tx = some payload →
      (asset inputs tx op vchAlias nHeight).names env = some payload.vchAsset → good
      (assetSend env inputs tx vchAlias nHeight payload state).2)
    (change : ∀ theAsset, op ≠ OP_ASSET_SEND → env.unserializeAsset tx = some theAsset →
      (asset inputs tx op vchAlias nHeight).names env = some theAsset.vchAsset → good
      (runAssetOp env inputs tx op vchAlias nHeight theAsset state).2) :
    good (checkAssetInputs env inputs tx op vchAlias nHeight state).2 := by
  simp only [names] at send change
  rw [checkAssetInputs]
  split
  · exact same
  · split
    · rename_i isSend
      cases decoded : env.unserializeAllocation tx with
      | none => exact same
      | some payload => exact send payload isSend decoded (by rw [if_pos isSend, decoded]; rfl)
    · rename_i notSend
      cases decoded : env.unserializeAsset tx with
      | none => exact same
      | some theAsset =>
        exact change theAsset notSend decoded (by rw [if_neg notSend, decoded]; rfl)

theorem checkAssetAllocationInputs_cases {nHeight : Nat} (same : good state)
    (run : ∀ payload, env.unserializeAllocation tx = some payload →
      good (runAllocationOp .block env inputs tx op vchAlias nHeight payload state).2) :
    good (checkAssetAllocationInputs env inputs tx op vchAlias nHeight state).2 := by
  rw [checkAssetAllocationInputs]
  split
  · exact same
  · cases decoded : env.unserializeAllocation tx with
    | none => exact same
    | some payload => exact run payload decoded

variable (env) (action : TokenAction)

theorem apply_keeps (keyed : Keyed state) :
    ActionKeeps (action.names env) state (action.apply env state) := by
  cases action with
  | newBlock =>
    exact ⟨{ keyed with reverted := by simp [apply, Sorted] }, fun _ => id,
      fun vchAsset _ => ⟨rfl, fun _ => rfl, rfl⟩⟩
  | asset inputs tx op vchAlias nHeight =>
    refine checkAssetInputs_cases (.refl keyed _) (fun payload _ _ names => ?_)
      fun theAsset _ _ names => ?_
    · rw [names]
      exact confined_apply (keeps_assetSend confined_keptAsset fun _ _ => rfl) keyed
    · rw [names]
      exact confined_apply (keeps_runAssetOp confined_keptAsset) keyed
  | allocation inputs tx op vchAlias nHeight =>
    refine checkAssetAllocationInputs_cases (.refl keyed _) fun payload decoded => ?_
    rw [names, decoded]
    exact confined_apply
      (keeps_runAllocationOp confined_keptAsset (fun _ sends => sends.asset) rfl) keyed

theorem apply_spec (consistent : Consistent state) :
    Consistent (action.apply env state) ∧ ∀ vchAsset, action.names env ≠ some vchAsset →
      AssetUntouched vchAsset state (action.apply env state) := by
  have keeps := apply_keeps env action consistent.keyed
  exact ⟨⟨keeps.keyed, fun tuple => keeps.synced tuple (consistent.synced tuple)⟩, keeps.untouched⟩

end Minerium
