import Mathlib.Data.Finmap
import Minerium.Lib.MachineInt

/-! Amounts, scripts as byte strings, outpoints and transactions, following
`amount.h`, `primitives/transaction.h` and `primitives/transaction.cpp`. -/

namespace Minerium

abbrev CAmount := Int64

def COIN : CAmount := 100000000

def MAX_MONEY : CAmount := 666000000 * COIN

def moneyRange (nValue : CAmount) : Bool := decide (0 ≤ nValue) && decide (nValue ≤ MAX_MONEY)

abbrev Bytes := List UInt8

abbrev CScript := Bytes

abbrev Uint256 := BitVec 256

instance bytesLawfulBEq : LawfulBEq Bytes := inferInstance

instance uint256LawfulBEq : LawfulBEq Uint256 := inferInstance

structure COutPoint where
  hash : Uint256
  n : UInt32
deriving DecidableEq

def COutPoint.isNull (outpoint : COutPoint) : Bool :=
  decide (outpoint.hash = 0) && decide (outpoint.n = 0xffffffff)

structure CTxIn where
  prevout : COutPoint
  scriptSig : CScript
  nSequence : UInt32
deriving DecidableEq

def SEQUENCE_FINAL : UInt32 := 0xffffffff

structure CTxOut where
  nValue : CAmount
  scriptPubKey : CScript
deriving DecidableEq

def CTxOut.null : CTxOut := { nValue := -1, scriptPubKey := [] }

def CTxOut.isNull (out : CTxOut) : Bool := decide (out.nValue = -1)

structure CTransaction where
  nVersion : Int32
  vin : List CTxIn
  vout : List CTxOut
  nLockTime : UInt32
deriving DecidableEq

def CTransaction.isCoinBase (tx : CTransaction) : Bool :=
  match tx.vin with
  | [txin] => txin.prevout.isNull
  | _ => false

def getValueOutFrom : CAmount → List CTxOut → Option CAmount
  | nValueOut, [] => some nValueOut
  | nValueOut, out :: rest =>
    let nValueOut := nValueOut + out.nValue
    if !moneyRange out.nValue || !moneyRange nValueOut then none
    else getValueOutFrom nValueOut rest

/-- `none` is the `value out of range` exception. -/
def CTransaction.getValueOut (tx : CTransaction) : Option CAmount := getValueOutFrom 0 tx.vout

end Minerium
