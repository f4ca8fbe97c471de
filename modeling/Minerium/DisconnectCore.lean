import Minerium.UndoCore

/-! `DisconnectBlock` and `ApplyTxInUndo` of `validation.cpp`.  The address and spent
indexes are left out.  A failed run has no view: the source leaves it indeterminate. -/

namespace Minerium

variable (env : BlockEnv) (txid : Uint256) (undo : Coin) (nHeight : Nat) (tx : CTransaction)

inductive DisconnectFailure where
  | DISCONNECT_FAILED
  | exception
deriving DecidableEq

structure DisconnectState where
  view : CCoinsViewCache
  fClean : Bool

inductive DisconnectResult where
  | DISCONNECT_OK
  | DISCONNECT_UNCLEAN
deriving DecidableEq

def MAX_OUTPUTS_PER_BLOCK : Nat := maxBlockSize true / 9

def accessByTxid (view : CCoinsViewCache) (txid : Uint256) : Nat → Nat → Coin × CCoinsViewCache
  | 0, _ => (Coin.empty, view)
  | fuel + 1, n =>
    let (alternate, view) := view.accessCoin ⟨txid, UInt32.ofNat n⟩
    if alternate.isSpent then accessByTxid view txid fuel (n + 1) else (alternate, view)

variable (view : CCoinsViewCache) (out : COutPoint)

def undoMetadata : Except DisconnectFailure (Coin × CCoinsViewCache) :=
  if undo.nHeight = 0 then
    match accessByTxid view out.hash MAX_OUTPUTS_PER_BLOCK 0 with
    | (alternate, view) =>
      if alternate.isSpent then .error .DISCONNECT_FAILED
      else
        .ok ({ undo with nHeight := alternate.nHeight, fCoinBase := alternate.fCoinBase }, view)
  else .ok (undo, view)

def addUndoCoin (undo : Coin) : Except DisconnectFailure CCoinsViewCache :=
  match view.addCoin out undo undo.fCoinBase with
  | some view => .ok view
  | none => .error .exception

variable (txundo : CTxUndo) (state : DisconnectState)

def applyTxInUndo : Except DisconnectFailure DisconnectState := do
  let (overwrites, view) := state.view.haveCoin out
  let (undo, view) ← undoMetadata undo view out
  let view ← addUndoCoin view out undo
  return { view := view, fClean := state.fClean && !overwrites }

def spendOutput (is_coinbase : Bool) (o : Nat) (out : CTxOut) (state : DisconnectState)
    : DisconnectState :=
  if isUnspendable out.scriptPubKey then state
  else
    match state.view.spendCoin ⟨txid, UInt32.ofNat o⟩ with
    | (none, view) => { view := view, fClean := false }
    | (some coin, view) =>
      { view := view
        fClean := state.fClean &&
          decide (out = coin.out ∧ nHeight = coin.nHeight ∧ is_coinbase = coin.fCoinBase) }

def spendOutputsFrom (is_coinbase : Bool) : Nat → List CTxOut → DisconnectState → DisconnectState
  | _, [], state => state
  | o, out :: rest, state =>
    spendOutputsFrom is_coinbase (o + 1) rest (spendOutput txid nHeight is_coinbase o out state)

def spendOutputs : DisconnectState :=
  spendOutputsFrom (txHash env tx) nHeight tx.isCoinBase 0 tx.vout state

def restoreInputs : Except DisconnectFailure DisconnectState :=
  if txundo.length ≠ tx.vin.length then .error .DISCONNECT_FAILED
  else
    (tx.vin.zip txundo).foldrM (fun (txin, undo) state => applyTxInUndo undo txin.prevout state)
      state

def disconnectTx : Except DisconnectFailure DisconnectState :=
  restoreInputs tx txundo (spendOutputs env nHeight tx state)

def disconnectTxs (vtx : List CTransaction) (vtxundo : List CTxUndo) (state : DisconnectState) :
    Except DisconnectFailure DisconnectState :=
  if vtxundo.length + 1 ≠ vtx.length then .error .DISCONNECT_FAILED
  else do
    let state ← (vtx.tail.zip vtxundo).foldrM
      (fun (tx, txundo) state => disconnectTx env nHeight tx txundo state) state
    return (vtx.take 1).foldr (spendOutputs env nHeight) state

def disconnectBlock (keys : PubKeyEnv) (env : BlockEnv) (block : CBlock) (nHeight : Nat)
    (file : Bytes) (hashPrev : Uint256) (view : CCoinsViewCache) :
    Except DisconnectFailure (DisconnectResult × CCoinsViewCache) :=
  match undoReadFromDisk keys env.hash file hashPrev with
  | none => .error .DISCONNECT_FAILED
  | some vtxundo => do
      let state ← disconnectTxs env nHeight block.vtx vtxundo { view := view, fClean := true }
      return (if state.fClean then .DISCONNECT_OK else .DISCONNECT_UNCLEAN, state.view)

end Minerium
