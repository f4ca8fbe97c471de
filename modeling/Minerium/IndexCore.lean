import Minerium.DisconnectCore
import Minerium.Lib.Batch

/-! The optional indexes of a node. The entries of a block are gathered whether or not the index is
kept. -/

namespace Minerium

open Batch

structure CDiskBlockPos where
  nFile : Nat
  nPos : Nat
deriving DecidableEq

structure CDiskTxPos extends CDiskBlockPos where
  nTxOffset : Nat
deriving DecidableEq

structure CAddressIndexKey where
  type : Nat
  hashBytes : Bytes
  blockHeight : Nat
  txindex : Nat
  txhash : Uint256
  index : Nat
  spending : Bool
deriving DecidableEq

structure CAddressUnspentKey where
  type : Nat
  hashBytes : Bytes
  txhash : Uint256
  index : Nat
deriving DecidableEq

structure CAddressUnspentValue where
  satoshis : CAmount
  script : CScript
  blockHeight : Nat
deriving DecidableEq

def CAddressUnspentValue.null : CAddressUnspentValue := ⟨-1, [], 0⟩

def CAddressUnspentValue.isNull (value : CAddressUnspentValue) : Bool :=
  decide (value.satoshis = -1)

structure CSpentIndexKey where
  txid : Uint256
  outputIndex : UInt32
deriving DecidableEq

structure CSpentIndexValue where
  txid : Uint256
  inputIndex : Nat
  blockHeight : Nat
  satoshis : CAmount
  addressType : Nat
  addressHash : Bytes
deriving DecidableEq

def CSpentIndexValue.isNull (value : CSpentIndexValue) : Bool := decide (value.txid = 0)

structure CTimestampIndexKey where
  timestamp : UInt32
  blockHash : Uint256
deriving DecidableEq

structure IndexFlags where
  fTxIndex : Bool
  fAddressIndex : Bool
  fSpentIndex : Bool
  fTimestampIndex : Bool
deriving DecidableEq

structure Indexes where
  txIndex : Finmap fun _ : Uint256 => CDiskTxPos
  addressIndex : Finmap fun _ : CAddressIndexKey => CAmount
  addressUnspentIndex : Finmap fun _ : CAddressUnspentKey => CAddressUnspentValue
  spentIndex : Finmap fun _ : CSpentIndexKey => CSpentIndexValue
  timestampIndex : Finmap fun _ : CTimestampIndexKey => Unit

def Indexes.empty : Indexes := ⟨∅, ∅, ∅, ∅, ∅⟩

def unspentWrites (entries : List (CAddressUnspentKey × CAddressUnspentValue)) :
    Batch CAddressUnspentKey CAddressUnspentValue :=
  entries.map fun entry => (entry.1, if entry.2.isNull then none else some entry.2)

def spentWrites (entries : List (CSpentIndexKey × CSpentIndexValue)) :
    Batch CSpentIndexKey CSpentIndexValue :=
  entries.map fun entry => (entry.1, if entry.2.isNull then none else some entry.2)

def Indexes.writeTxIndex (vPos : List (Uint256 × CDiskTxPos)) (indexes : Indexes) : Indexes :=
  { indexes with
    txIndex := apply (vPos.map fun entry => (entry.1, some entry.2)) indexes.txIndex }

section

variable (entries : List (CAddressIndexKey × CAmount)) (indexes : Indexes)

def Indexes.writeAddressIndex : Indexes :=
  { indexes with
    addressIndex := apply (entries.map fun entry => (entry.1, some entry.2)) indexes.addressIndex }

def Indexes.eraseAddressIndex : Indexes :=
  { indexes with
    addressIndex := apply (entries.map fun entry => (entry.1, none)) indexes.addressIndex }

end

def Indexes.updateAddressUnspentIndex
    (entries : List (CAddressUnspentKey × CAddressUnspentValue)) (indexes : Indexes) : Indexes :=
  { indexes with
    addressUnspentIndex := apply (unspentWrites entries) indexes.addressUnspentIndex }

def Indexes.updateSpentIndex (entries : List (CSpentIndexKey × CSpentIndexValue))
    (indexes : Indexes) : Indexes :=
  { indexes with spentIndex := apply (spentWrites entries) indexes.spentIndex }

def Indexes.writeTimestampIndex (key : CTimestampIndexKey) (indexes : Indexes) : Indexes :=
  { indexes with timestampIndex := apply [(key, some ())] indexes.timestampIndex }

inductive AddressKind where
  | scriptHash
  | publicKeyHash
  | publicKey
deriving DecidableEq

structure IndexedAddress where
  kind : AddressKind
  hashBytes : Bytes
deriving DecidableEq

def IndexedAddress.type (address : IndexedAddress) : Nat :=
  match address.kind with
  | .scriptHash => 2
  | .publicKeyHash => 1
  | .publicKey => 1

def plainScript (script : CScript) : CScript := (removeMineriumScript script).getD script

def isPayToPublicKeyHash (script : CScript) : Bool :=
  let scriptOut := plainScript script
  decide (scriptOut.length = 25 ∧ byteAt scriptOut 0 = OP_DUP ∧ byteAt scriptOut 1 = OP_HASH160 ∧
    byteAt scriptOut 2 = 0x14 ∧ byteAt scriptOut 23 = OP_EQUALVERIFY ∧
    byteAt scriptOut 24 = OP_CHECKSIG)

def isPayToPublicKey (script : CScript) : Bool :=
  let scriptOut := plainScript script
  if scriptOut.length = 35 then
    decide ((byteAt scriptOut 1 = 2 ∨ byteAt scriptOut 1 = 3) ∧ byteAt scriptOut 34 = OP_CHECKSIG)
  else
    decide (scriptOut.length = 67 ∧ byteAt scriptOut 1 = 4 ∧ byteAt scriptOut 66 = OP_CHECKSIG)

variable (hash160 : Bytes → Bytes)

def indexedAddress (script : CScript) : Option IndexedAddress :=
  let scriptOut := plainScript script
  if isPayToScriptHash script then some ⟨.scriptHash, (scriptOut.drop 2).take 20⟩
  else if isPayToPublicKeyHash script then some ⟨.publicKeyHash, (scriptOut.drop 3).take 20⟩
  else if isPayToPublicKey script then some ⟨.publicKey, hash160 (scriptOut.drop 1).dropLast⟩
  else none

structure TxPosition where
  nHeight : Nat
  txindex : Nat
  txhash : Uint256

variable (position : TxPosition)

def TxPosition.addressKey (address : IndexedAddress) (index : Nat)
    (spending : Bool) : CAddressIndexKey :=
  ⟨address.type, address.hashBytes, position.nHeight, position.txindex, position.txhash, index,
    spending⟩

structure IndexEntries where
  vPos : List (Uint256 × CDiskTxPos)
  addressIndex : List (CAddressIndexKey × CAmount)
  addressUnspentIndex : List (CAddressUnspentKey × CAddressUnspentValue)
  spentIndex : List (CSpentIndexKey × CSpentIndexValue)
  nTxOffset : Nat

def IndexEntries.start (vtx : List CTransaction) : IndexEntries :=
  ⟨[], [], [], [], (ByteCodec.writeCompactSize vtx.length).length⟩

def spentEntry (j : Nat) (txin : CTxIn) (prevout : CTxOut) (addressType : Nat) (addressHash : Bytes)
    : CSpentIndexKey × CSpentIndexValue :=
  (⟨txin.prevout.hash, txin.prevout.n⟩,
    ⟨position.txhash, j, position.nHeight, prevout.nValue, addressType, addressHash⟩)

def addInput (entries : IndexEntries) (spent : (CTxIn × Coin) × Nat) : IndexEntries :=
  let ((txin, coin), j) := spent
  if coin.isSpent then entries
  else
    match indexedAddress hash160 coin.out.scriptPubKey with
    | some address =>
      { entries with
        addressIndex := entries.addressIndex ++
          [(position.addressKey address j true, coin.out.nValue * -1)]
        addressUnspentIndex := entries.addressUnspentIndex ++
          [(⟨address.type, address.hashBytes, txin.prevout.hash, txin.prevout.n.toNat⟩,
            CAddressUnspentValue.null)]
        spentIndex := entries.spentIndex ++
          [spentEntry position j txin coin.out address.type address.hashBytes] }
    | none =>
      { entries with
        spentIndex := entries.spentIndex ++
          [spentEntry position j txin coin.out 0 (List.replicate 20 0)] }

def addOutput (entries : IndexEntries) (created : CTxOut × Nat) : IndexEntries :=
  match indexedAddress hash160 created.1.scriptPubKey with
  | some address =>
    { entries with
      addressIndex := entries.addressIndex ++
        [(position.addressKey address created.2 false, created.1.nValue)]
      addressUnspentIndex := entries.addressUnspentIndex ++
        [(⟨address.type, address.hashBytes, position.txhash, created.2⟩,
          ⟨created.1.nValue, created.1.scriptPubKey, position.nHeight⟩)] }
  | none => entries

variable (env : BlockEnv)

def IndexEntries.addTx (hash160 : Bytes → Bytes) (pos : CDiskBlockPos)
    (nHeight i : Nat) (tx : CTransaction) (view : CCoinsViewCache) (entries : IndexEntries) :
    IndexEntries :=
  let position : TxPosition := ⟨nHeight, i, txHash env tx⟩
  let spent := if tx.isCoinBase then [] else (tx.vin.zip (view.accessCoins tx.vin).1).zipIdx
  let entries := spent.foldl (addInput hash160 position) entries
  let entries := tx.vout.zipIdx.foldl (addOutput hash160 position) entries
  { entries with
    vPos := entries.vPos ++ [(txHash env tx, ⟨pos, entries.nTxOffset⟩)]
    nTxOffset := entries.nTxOffset + (serializeTx env.prune .SER_DISK tx).length }

/-- The entries of the spent index are gathered too, but never written. -/
structure UndoEntries where
  addressIndex : List (CAddressIndexKey × CAmount)
  addressUnspentIndex : List (CAddressUnspentKey × CAddressUnspentValue)

def UndoEntries.start : UndoEntries := ⟨[], []⟩

def undoOutput (created : CTxOut × Nat) (entries : UndoEntries) : UndoEntries :=
  match indexedAddress hash160 created.1.scriptPubKey with
  | some address =>
    { addressIndex := entries.addressIndex ++
        [(position.addressKey address created.2 false, created.1.nValue)]
      addressUnspentIndex := entries.addressUnspentIndex ++
        [(⟨address.type, address.hashBytes, position.txhash, created.2⟩,
          CAddressUnspentValue.null)] }
  | none => entries

/-- The spending of a public key is not undone, and its output is not put back. -/
def undoInput (j : Nat) (outpoint : COutPoint)
    (undoHeight : Nat) (prevout : CTxOut) (entries : UndoEntries) : UndoEntries :=
  match indexedAddress hash160 prevout.scriptPubKey with
  | some ⟨.publicKey, hashBytes⟩ =>
    { addressIndex := entries.addressIndex ++
        [(position.addressKey ⟨.publicKey, hashBytes⟩ j false, prevout.nValue)]
      addressUnspentIndex := entries.addressUnspentIndex ++
        [(⟨1, hashBytes, position.txhash, j⟩, CAddressUnspentValue.null)] }
  | some address =>
    { addressIndex := entries.addressIndex ++
        [(position.addressKey address j true, prevout.nValue * -1)]
      addressUnspentIndex := entries.addressUnspentIndex ++
        [(⟨address.type, address.hashBytes, outpoint.hash, outpoint.n.toNat⟩,
          ⟨prevout.nValue, prevout.scriptPubKey, undoHeight⟩)] }
  | none => entries

structure UndoRun where
  state : DisconnectState
  entries : UndoEntries

def undoOutputs (hash160 : Bytes → Bytes) (nHeight i : Nat) (tx : CTransaction)
    (run : UndoRun) : UndoRun :=
  { state := spendOutputs env nHeight tx run.state
    entries := tx.vout.zipIdx.foldr (undoOutput hash160 ⟨nHeight, i, txHash env tx⟩) run.entries }

def undoTxIn (spent : (CTxIn × Coin) × Nat) (run : UndoRun) : Except DisconnectFailure UndoRun := do
  let ((txin, undo), j) := spent
  let state ← applyTxInUndo undo txin.prevout run.state
  return { state := state
           entries := undoInput hash160 position j txin.prevout undo.nHeight
             (state.view.accessCoin txin.prevout).1.out run.entries }

def undoTx (hash160 : Bytes → Bytes) (nHeight i : Nat) (tx : CTransaction)
    (txundo : CTxUndo) (run : UndoRun) : Except DisconnectFailure UndoRun :=
  let run := undoOutputs env hash160 nHeight i tx run
  if txundo.length ≠ tx.vin.length then .error .DISCONNECT_FAILED
  else
    (tx.vin.zip txundo).zipIdx.foldrM (undoTxIn hash160 ⟨nHeight, i, txHash env tx⟩) run

def undoTxs (hash160 : Bytes → Bytes) (nHeight : Nat) (vtx : List CTransaction)
    (vtxundo : List CTxUndo) (run : UndoRun) : Except DisconnectFailure UndoRun :=
  if vtxundo.length + 1 ≠ vtx.length then .error .DISCONNECT_FAILED
  else do
    let run ← (vtx.tail.zip vtxundo).zipIdx.foldrM
      (fun ((tx, txundo), i) run => undoTx env hash160 nHeight (i + 1) tx txundo run) run
    return (vtx.take 1).foldr (undoOutputs env hash160 nHeight 0) run

end Minerium
