import Minerium.ScriptCore

/-! Serialization of transactions (`serialize.h`, `primitives/transaction.h`). An unspendable output
with a prunable payload is written as a bare `OP_RETURN`: always when hashing, else when the service
has expired. -/

namespace Minerium

open ByteCodec

structure PruneEnv where
  getTimeToPrune : CScript → Option UInt64
  isSysServiceExpired : UInt64 → Bool

inductive SerType where
  | SER_NETWORK
  | SER_DISK
  | SER_GETHASH
deriving DecidableEq

variable (env : PruneEnv)

variable (nType : SerType) (scriptPubKey : CScript)

def dropsScript : Bool :=
  isUnspendable scriptPubKey &&
    match env.getTimeToPrune scriptPubKey with
    | some nTime => decide (nType = .SER_GETHASH) || env.isSysServiceExpired nTime
    | none => false

def writtenScript : CScript :=
  if dropsScript env nType scriptPubKey then [UInt8.ofNat OP_RETURN] else scriptPubKey

def serializeUint256 (hash : Uint256) : Bytes := leBytes 32 hash.toNat

def serializeOutPoint (outpoint : COutPoint) : Bytes :=
  serializeUint256 outpoint.hash ++ leBytes 4 outpoint.n.toNat

def serializeTxIn (txin : CTxIn) : Bytes :=
  serializeOutPoint txin.prevout ++ writeBytes txin.scriptSig ++ leBytes 4 txin.nSequence.toNat

def serializeTxOut (txout : CTxOut) : Bytes :=
  leBytes 8 txout.nValue.toUInt64.toNat ++ writeBytes (writtenScript env nType txout.scriptPubKey)

def serializeTx (tx : CTransaction) : Bytes :=
  leBytes 4 tx.nVersion.toUInt32.toNat ++ writeVector serializeTxIn tx.vin ++
    writeVector (serializeTxOut env nType) tx.vout ++
    leBytes 4 tx.nLockTime.toNat

def txSize (tx : CTransaction) : Nat := (serializeTx env .SER_NETWORK tx).length

end Minerium
