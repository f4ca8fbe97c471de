import Minerium.AmountTextCore
import Minerium.ConnectCore
import Minerium.Lib.Procedure
import Minerium.Lib.SortedVector
import Minerium.RangesCore

/-! Asset allocations, from `assetallocation.h` and `assetallocation.cpp`. What was written before a
stop stays written. The interest arithmetic and the decoding of payloads are arbitrary functions. -/

namespace Minerium

open SortedVector

abbrev Float32Bits := UInt32
abbrev Float64Bits := UInt64

section

variable (x y : Float32Bits)

def floatIsNaN : Bool := decide (0x7f800000 < x &&& 0x7fffffff)

def floatIsZero : Bool := decide (x &&& 0x7fffffff = 0)

def floatIsNegative : Bool := decide (0x80000000 ≤ x)

def floatPositive : Bool := !floatIsNaN x && !floatIsZero x && !floatIsNegative x

def floatNotPositive : Bool :=
  !floatIsNaN x && (floatIsZero x || floatIsNegative x)

def floatEq : Bool :=
  !floatIsNaN x && !floatIsNaN y && (decide (x = y) || (floatIsZero x && floatIsZero y))

end

structure CAsset where
  vchAsset : Bytes
  vchSymbol : Bytes
  vchAliasOrAddress : Bytes
  listAllocationInputs : List CRange
  txHash : Uint256
  nHeight : UInt32
  vchPubData : Bytes
  sCategory : Bytes
  nBalance : CAmount
  nTotalSupply : CAmount
  nMaxSupply : CAmount
  bUseInputRanges : Bool
  nPrecision : UInt8
  fInterestRate : Float32Bits
  bCanAdjustInterestRate : Bool
deriving DecidableEq

def CAsset.null : CAsset :=
  { vchAsset := [], vchSymbol := [], vchAliasOrAddress := [], listAllocationInputs := []
    txHash := 0, nHeight := 0, vchPubData := [], sCategory := [], nBalance := 0
    nTotalSupply := 0, nMaxSupply := 0, bUseInputRanges := false, nPrecision := 8
    fInterestRate := 0, bCanAdjustInterestRate := false }

def CAsset.isNull (asset : CAsset) : Bool := asset.vchAsset.isEmpty

structure CAssetAllocationTuple where
  vchAsset : Bytes
  vchAliasOrAddress : Bytes
deriving DecidableEq

def CAssetAllocationTuple.toString (tuple : CAssetAllocationTuple) : Bytes :=
  tuple.vchAsset ++ 0x2d :: tuple.vchAliasOrAddress

structure CAssetAllocation where
  vchAsset : Bytes
  vchAliasOrAddress : Bytes
  txHash : Uint256
  nHeight : UInt32
  nLastInterestClaimHeight : UInt32
  listAllocationInputs : List CRange
  listSendingAllocationInputs : List (Bytes × List CRange)
  listSendingAllocationAmounts : List (Bytes × CAmount)
  nBalance : CAmount
  nAccumulatedBalanceSinceLastInterestClaim : Float64Bits
  fAccumulatedInterestSinceLastInterestClaim : Float32Bits
  fInterestRate : Float32Bits
  vchMemo : Bytes
deriving DecidableEq

def CAssetAllocation.null : CAssetAllocation :=
  { vchAsset := [], vchAliasOrAddress := [], txHash := 0, nHeight := 0
    nLastInterestClaimHeight := 0, listAllocationInputs := [], listSendingAllocationInputs := []
    listSendingAllocationAmounts := [], nBalance := 0
    nAccumulatedBalanceSinceLastInterestClaim := 0
    fAccumulatedInterestSinceLastInterestClaim := 0, fInterestRate := 0, vchMemo := [] }

section

variable (allocation : CAssetAllocation)

def CAssetAllocation.tuple : CAssetAllocationTuple :=
  ⟨allocation.vchAsset, allocation.vchAliasOrAddress⟩

abbrev ArrivalTimesMap := Finmap fun _ : Uint256 => Int64

/-- `sorted_vector` compares tuples by their texts. -/
abbrev TupleVector := List CAssetAllocationTuple

variable (V : TupleVector)

def tupleFind (tuple : CAssetAllocationTuple) : Option CAssetAllocationTuple :=
  find CAssetAllocationTuple.toString V tuple

def tupleInsert (tuple : CAssetAllocationTuple) : TupleVector :=
  insert CAssetAllocationTuple.toString V tuple

def tupleErase (tuple : CAssetAllocationTuple) : TupleVector :=
  erase CAssetAllocationTuple.toString V tuple

structure AssetState where
  assets : Finmap fun _ : Bytes => CAsset
  allocations : Finmap fun _ : CAssetAllocationTuple => CAssetAllocation
  lastAllocations : Finmap fun _ : CAssetAllocationTuple => CAssetAllocation
  arrivalTimes : Finmap fun _ : CAssetAllocationTuple => ArrivalTimesMap
  assetAllocationConflicts : TupleVector
  revertedAssetAllocations : TupleVector

inductive ServiceStop where
  | errorMessage (text : String)
  | exception (text : String)
deriving DecidableEq

abbrev AssetProcedure := Procedure AssetState ServiceStop

structure AssetEnv where
  txHash : CTransaction → Uint256
  unserializeAsset : CTransaction → Option CAsset
  unserializeAllocation : CTransaction → Option CAssetAllocation
  isValidAddress : Bytes → Bool
  findAssetOwnerInTx : UtxoMap → CTransaction → Bytes → Bool
  fUnitTest : Bool
  accumulateBalance : Float64Bits → CAmount → Int32 → Float64Bits
  accumulateRate : Float32Bits → Float32Bits → Int32 → Float32Bits
  compoundInterest : Float64Bits → Float32Bits → UInt32 → CAmount

def allocationError (code : Nat) (text : String) : ServiceStop :=
  .errorMessage ("MINERIUM_ASSET_ALLOCATION_CONSENSUS_ERROR: ERRCODE: " ++ toString code ++
    " - " ++ text)

def readAssetAllocation (tuple : CAssetAllocationTuple) :
    AssetProcedure (Option CAssetAllocation) :=
  .read fun state => state.allocations.lookup tuple

def readLastAssetAllocation (tuple : CAssetAllocationTuple) :
    AssetProcedure (Option CAssetAllocation) :=
  .read fun state => state.lastAllocations.lookup tuple

def readAsset (vchAsset : Bytes) : AssetProcedure (Option CAsset) :=
  .read fun state => state.assets.lookup vchAsset

def writeAsset (asset : CAsset) : AssetProcedure Unit :=
  .modify fun state => { state with assets := state.assets.insert asset.vchAsset asset }

/-- Written as the current record and as the last one that proof of work has confirmed. -/
def writeAssetAllocation : AssetProcedure Unit :=
  .modify fun state => { state with
    allocations := state.allocations.insert allocation.tuple allocation
    lastAllocations := state.lastAllocations.insert allocation.tuple allocation }

def eraseISArrivalTime (tuple : CAssetAllocationTuple) (txid : Uint256) : AssetProcedure Unit :=
  .modify fun state =>
    let arrivalTimes := ((state.arrivalTimes.lookup tuple).getD ∅).erase txid
    { state with
      arrivalTimes :=
        if arrivalTimes = ∅ then state.arrivalTimes.erase tuple
        else state.arrivalTimes.insert tuple arrivalTimes }

def newAllocation (tuple : CAssetAllocationTuple) (asset : CAsset) (nHeight : Nat) :
    CAssetAllocation :=
  { CAssetAllocation.null with
    vchAliasOrAddress := tuple.vchAliasOrAddress
    vchAsset := tuple.vchAsset
    nLastInterestClaimHeight := .ofNat nHeight
    nHeight := .ofNat nHeight
    fInterestRate := asset.fInterestRate }

def markReverted (tuple : CAssetAllocationTuple) : AssetProcedure Unit :=
  .modify fun state => { state with
    revertedAssetAllocations := tupleInsert state.revertedAssetAllocations tuple
    assetAllocationConflicts := tupleErase state.assetAllocationConflicts tuple }

def revertOnce (tuple : CAssetAllocationTuple) (asset : CAsset) (nHeight : Nat) :
    AssetProcedure Unit := do
  let last ← readLastAssetAllocation tuple
  writeAssetAllocation (last.getD (newAllocation tuple asset nHeight))
  markReverted tuple

def revertUnless (reverted : Bool) (tuple : CAssetAllocationTuple) (asset : CAsset)
    (nHeight : Nat) : AssetProcedure Unit :=
  if reverted then pure () else revertOnce tuple asset nHeight

def revertAssetAllocation (tuple : CAssetAllocationTuple) (asset : CAsset) (txHash : Uint256)
    (nHeight : Nat) : AssetProcedure Unit := do
  eraseISArrivalTime tuple txHash
  let reverted ← .read fun state => (tupleFind state.revertedAssetAllocations tuple).isSome
  revertUnless reverted tuple asset nHeight

/-- Unsigned subtraction, read as a signed number. -/
def blocksSinceLastUpdate (nHeight : Nat) : Int32 :=
  (UInt32.ofNat nHeight - allocation.nHeight).toInt32

end

variable (env : AssetEnv) (allocation : CAssetAllocation)

section

variable (dbAsset : CAsset) (dbAssetAllocation : CAssetAllocation) (txHash : Uint256)
  (nHeight : Nat) (theAssetAllocation : CAssetAllocation)

def accumulateInterestSinceLastClaim : CAssetAllocation × Bool :=
  let nBlocksSinceLastUpdate := blocksSinceLastUpdate allocation nHeight
  if nBlocksSinceLastUpdate ≤ 0 then (allocation, false)
  else
    ({ allocation with
      nAccumulatedBalanceSinceLastInterestClaim :=
        env.accumulateBalance allocation.nAccumulatedBalanceSinceLastInterestClaim
          allocation.nBalance nBlocksSinceLastUpdate
      fAccumulatedInterestSinceLastInterestClaim :=
        env.accumulateRate allocation.fAccumulatedInterestSinceLastInterestClaim
          allocation.fInterestRate nBlocksSinceLastUpdate }, true)

def ONE_MONTH_IN_BLOCKS : UInt32 := 43800

def getAssetAllocationInterest : CAssetAllocation × CAmount :=
  match accumulateInterestSinceLastClaim env allocation nHeight with
  | (allocation, false) => (allocation, 0)
  | (allocation, true) =>
    let nBlockDifference := .ofNat nHeight - allocation.nLastInterestClaimHeight
    let threshold := if env.fUnitTest then 1 else ONE_MONTH_IN_BLOCKS
    if nBlockDifference < threshold ∨ allocation.nLastInterestClaimHeight = 0 then
      (allocation, 0)
    else
      (allocation, env.compoundInterest allocation.nAccumulatedBalanceSinceLastInterestClaim
        allocation.fAccumulatedInterestSinceLastInterestClaim nBlockDifference)

def amountException : ServiceStop := .exception "Amount out of range"

/-- The error texts of the source's two failures; `none` where the amount conversions
throw. -/
def applyAssetAllocationInterest (asset : CAsset) (allocation : CAssetAllocation)
    (nHeight : Nat) : Option (Except String (CAsset × CAssetAllocation)) :=
  match getAssetAllocationInterest env allocation nHeight with
  | (allocation, nInterest) =>
    if nInterest ≤ 0 then
      some (.error "Total interest exceeds maximum possible range of a 64 bit integer")
    else do
      let value ← valueFromAssetAmount asset.nMaxSupply asset.nPrecision.toNat asset.bUseInputRanges
      let nMaxSupply ← assetAmountFromValue value asset.nPrecision.toNat asset.bUseInputRanges
      let nInterest :=
        if nMaxSupply < nInterest + asset.nTotalSupply then nMaxSupply - asset.nTotalSupply
        else nInterest
      if nInterest ≤ 0 then some (.error "Total Supply exceeds max supply")
      else
        some (.ok ({ asset with nTotalSupply := asset.nTotalSupply + nInterest },
          { allocation with
            nBalance := allocation.nBalance + nInterest
            nLastInterestClaimHeight := .ofNat nHeight
            nAccumulatedBalanceSinceLastInterestClaim := 0
            fAccumulatedInterestSinceLastInterestClaim := 0 }))

variable (bBalanceOverrun : Bool)

def stamped (theAssetAllocation : CAssetAllocation) : CAssetAllocation :=
  if bBalanceOverrun then theAssetAllocation
  else { theAssetAllocation with nHeight := .ofNat nHeight, txHash := txHash }

def writeSender (theAssetAllocation : CAssetAllocation) : AssetProcedure Unit :=
  writeAssetAllocation (stamped txHash nHeight bBalanceOverrun theAssetAllocation)

def liftInterest (outcome : Option (Except String (CAsset × CAssetAllocation))) :
    Except ServiceStop (CAsset × CAssetAllocation) :=
  match outcome with
  | none => .error amountException
  | some (.error text) =>
    .error (allocationError 1013 ("You cannot collect interest on this asset: " ++ text))
  | some (.ok result) => .ok result

def checkInterest (assetAllocationTuple : CAssetAllocationTuple) : AssetProcedure CAsset := do
  let found ← readAssetAllocation assetAllocationTuple
  let dbAssetAllocation ← .orStop
    (allocationError 1010 "Cannot find asset allocation to collect interest on") found
  let asset ← readAsset dbAssetAllocation.vchAsset
  let dbAsset ← .orStop (allocationError 1011 "Failed to read from asset DB") asset
  .require
    (!(floatNotPositive dbAsset.fInterestRate || floatNotPositive dbAssetAllocation.fInterestRate))
    (allocationError 1012
      "Cannot collect interest on this asset, no interest rate has been defined")
  return dbAsset

def collectInterest (assetAllocationTuple : CAssetAllocationTuple) : AssetProcedure Unit := do
  let dbAsset ← checkInterest assetAllocationTuple
  revertAssetAllocation assetAllocationTuple dbAsset txHash nHeight
  let found ← readAssetAllocation assetAllocationTuple
  let dbAssetAllocation ← .orStop
    (allocationError 1015 "Cannot find sender asset allocation.") found
  let (dbAsset, theAssetAllocation) ← .liftExcept
    (liftInterest (applyAssetAllocationInterest env dbAsset dbAssetAllocation nHeight))
  writeAsset dbAsset
  writeSender txHash nHeight false theAssetAllocation

def accumulateIf (condition : Bool) (nHeight : Nat)
    (allocation : CAssetAllocation) : CAssetAllocation :=
  if condition then (accumulateInterestSinceLastClaim env allocation nHeight).1 else allocation

def creditedBy (fInterestRate : Float32Bits) (vchMemo : Bytes) (amount : CAmount)
    (receiver : CAssetAllocation) : CAssetAllocation :=
  { receiver with
    txHash := txHash
    fInterestRate := fInterestRate
    nHeight := .ofNat nHeight
    vchMemo := vchMemo
    nBalance := receiver.nBalance + amount }

def rangeCount (ranges : List CRange) : CAmount :=
  Int64.ofNat (validateRangesAndGetCount ranges).toNat

def withRanges (ranges : List CRange) (receiver : CAssetAllocation) : CAssetAllocation :=
  { receiver with
    listAllocationInputs := mergeRanges (receiver.listAllocationInputs ++ ranges) }

/-- The sender's record, what `subtractRanges` has left of the list it was read with, and the sent
lists as it left them. -/
structure RangeSend where
  theAssetAllocation : CAssetAllocation
  dbInputs : List CRange
  sent : List (Bytes × List CRange)

end

/-- The fields a send may not change are the stored ones; the list of ranges is not among them. -/
def senderRecord (vchThisAlias : Bytes) (db payload : CAssetAllocation) : CAssetAllocation :=
  { payload with
    vchAliasOrAddress := vchThisAlias
    nBalance := db.nBalance
    nLastInterestClaimHeight := db.nLastInterestClaimHeight
    nHeight := db.nHeight
    fInterestRate := db.fInterestRate
    fAccumulatedInterestSinceLastInterestClaim := db.fAccumulatedInterestSinceLastInterestClaim
    nAccumulatedBalanceSinceLastInterestClaim := db.nAccumulatedBalanceSinceLastInterestClaim }

variable (inputs : UtxoMap) (tx : CTransaction) (vchAlias : Bytes)

def requireHolder (holder claimed : Bytes) : AssetProcedure Unit :=
  if vchAlias.isEmpty then
    .require (decide (holder = claimed) && env.findAssetOwnerInTx inputs tx claimed)
      (allocationError 1015
        "Cannot send this asset. Asset allocation owner must sign off on this change")
  else
    .require (decide (holder = vchAlias)) (allocationError 1017
      "Cannot send this asset. Asset allocation owner must sign off on this change")

def OP_ASSET_ALLOCATION_SEND : Nat := 1
def OP_ASSET_COLLECT_INTEREST : Nat := 2

end Minerium
