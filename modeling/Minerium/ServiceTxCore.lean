import Mathlib.Data.List.Sort
import Minerium.CoinsCore
import Minerium.Lib.Procedure
import Minerium.ServiceScriptCore

/-! What the services read: the active chain, the outputs of a transaction and the scripts of
the coins it spends.  From `chain.h`, `alias.cpp` and the `Decode…Tx` functions. -/

namespace Minerium

def MINERIUM_TX_VERSION : Int32 := 0x7400

structure ActiveChain where
  tip : UInt32
  earlier : List UInt32
deriving DecidableEq

section

variable (chain : ActiveChain) (nTime : UInt32)

def ActiveChain.height : Nat := chain.earlier.length

def ActiveChain.times : List UInt32 := chain.tip :: chain.earlier

def nMedianTimeSpan : Nat := 11

def getMedianTimePast (times : List UInt32) : Int64 :=
  let pmedian := ((times.take nMedianTimeSpan).map UInt32.toNat).insertionSort (· ≤ ·)
  Int64.ofNat (pmedian.getD (pmedian.length / 2) 0)

def ActiveChain.medianTimePast : Int64 := getMedianTimePast chain.times

def ActiveChain.medianTimePastAt (nHeight : Nat) : Int64 :=
  getMedianTimePast (chain.times.drop (chain.height - nHeight))

def ActiveChain.connect : ActiveChain := ⟨nTime, chain.times⟩

/-- The timestamp check of `ContextualCheckBlockHeader`, which is made except on regtest. -/
def timeTooOld : Bool :=
  decide (Int64.ofNat nTime.toNat ≤ chain.medianTimePast)

end

/-- An error message that is only logged, one with `false` as the result, or an exception. -/
inductive CheckStop where
  | refused (text : String)
  | failed (text : String)
  | exception (text : String)
deriving DecidableEq

def decodeServiceTx (service : Service) (tx : CTransaction) : Option ServiceScript :=
  tx.vout.findSome? fun out => decodeServiceScript service out.scriptPubKey

def decodeAliasTx : CTransaction → Option ServiceScript := decodeServiceTx .alias
def decodeOfferTx : CTransaction → Option ServiceScript := decodeServiceTx .offer
def decodeCertTx : CTransaction → Option ServiceScript := decodeServiceTx .cert
def decodeEscrowTx : CTransaction → Option ServiceScript := decodeServiceTx .escrow
def decodeAssetTx : CTransaction → Option ServiceScript := decodeServiceTx .asset

def decodeAssetAllocationTx (tx : CTransaction) : Option ServiceScript :=
  if tx.nVersion ≠ MINERIUM_TX_VERSION then none else decodeServiceTx .assetAllocation tx

def findMineriumScriptOp (script : CScript) : Option Nat := do
  let (op, _) ← getSmallOp script
  if 1 ≤ op ∧ op ≤ 6 then some op else none

variable (inputs : UtxoMap) (tx : CTransaction)

def accessCoin (outpoint : COutPoint) : Coin := (inputs.lookup outpoint).getD Coin.empty

def spentScripts : List CScript :=
  tx.vin.filterMap fun txin =>
    let prevCoins := accessCoin inputs txin.prevout
    if prevCoins.isSpent then none else some prevCoins.out.scriptPubKey

def findAliasInTx : Option (List Bytes) :=
  (spentScripts inputs tx).findSome? fun script => (decodeAliasScript script).map (·.vvchArgs)

/-- `addressOf` stands for `ExtractDestination` and the text of the address. -/
def findAssetOwnerInTx (addressOf : CScript → Option Bytes) (inputs : UtxoMap)
    (tx : CTransaction) (ownerAddressToMatch : Bytes) : Bool :=
  (spentScripts inputs tx).any fun script => decide (addressOf script = some ownerAddressToMatch)

def getScriptData (scriptPubKey : CScript) : Option (Bytes × Bytes) := do
  let first ← getOp scriptPubKey
  if first.opcode ≠ OP_RETURN then none
  else
    let vchData ← getOp first.rest
    let vchHash ← getOp vchData.rest
    return (vchData.pushed, vchHash.pushed)

structure MineriumData where
  vchData : Bytes
  vchHash : Bytes
  output : CTxOut
deriving DecidableEq

/-- `isNullData` stands for `IsStandard` with the type `TX_NULL_DATA`. -/
def getMineriumData (isNullData : CScript → Bool) (tx : CTransaction) : Option MineriumData := do
  let output ← tx.vout.find? fun out => isNullData out.scriptPubKey
  let (vchData, vchHash) ← getScriptData output.scriptPubKey
  return ⟨vchData, vchHash, output⟩

end Minerium
