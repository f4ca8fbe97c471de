import Minerium.AllocationCore

/-! `CheckAssetAllocationInputs` in both modes: in a block, and in the mempool (`fJustCheck`), where
only current records, arrival times and conflicts are written. -/

namespace Minerium

inductive CheckMode where
  | block
  | mempool (now : Int64)
deriving DecidableEq

def CheckMode.fJustCheck : CheckMode → Bool
  | .block => false
  | .mempool _ => true

def INT64_MAX : Int64 := 9223372036854775807

/-- `emplace` does not replace a time that is there. -/
def emplaceArrival (times : ArrivalTimesMap) (txHash : Uint256) (arrivalTime : Int64) :
    ArrivalTimesMap :=
  if (times.lookup txHash).isSome then times else times.insert txHash arrivalTime

def writeUnconfirmed (allocation : CAssetAllocation) (arrivalTime : Int64) : AssetProcedure Unit :=
  .modify fun state => { state with
    allocations := state.allocations.insert allocation.tuple allocation
    arrivalTimes :=
      if arrivalTime < INT64_MAX then
        state.arrivalTimes.insert allocation.tuple
          (emplaceArrival ((state.arrivalTimes.lookup allocation.tuple).getD ∅) allocation.txHash
            arrivalTime)
      else state.arrivalTimes }

variable (mode : CheckMode)

def writeReceiverIn (allocation : CAssetAllocation) : AssetProcedure Unit :=
  match mode with
  | .block => writeAssetAllocation allocation
  | .mempool _ => writeUnconfirmed allocation INT64_MAX

def writeSenderIn (txHash : Uint256) (nHeight : Nat) (bBalanceOverrun : Bool)
    (theAssetAllocation : CAssetAllocation) : AssetProcedure Unit :=
  match mode with
  | .block => writeSender txHash nHeight bBalanceOverrun theAssetAllocation
  | .mempool now => writeUnconfirmed (stamped txHash nHeight bBalanceOverrun theAssetAllocation) now

def revertIn (tuple : CAssetAllocationTuple) (asset : CAsset)
    (txHash : Uint256) (nHeight : Nat) : AssetProcedure Unit :=
  match mode with
  | .block => revertAssetAllocation tuple asset txHash nHeight
  | .mempool _ => pure ()

def addConflictIf (condition : Bool) (tuple : CAssetAllocationTuple) : AssetProcedure Unit :=
  .modify fun state =>
    if condition then
      { state with assetAllocationConflicts := tupleInsert state.assetAllocationConflicts tuple }
    else state

/-- A sender that overruns its balance is a conflict; the receivers are if the sender is one. -/
def senderConflicts (bBalanceOverrun : Bool)
    (assetAllocationTuple : CAssetAllocationTuple) : AssetProcedure Bool := do
  addConflictIf (mode.fJustCheck && bBalanceOverrun) assetAllocationTuple
  .read fun state => mode.fJustCheck &&
    (bBalanceOverrun || (tupleFind state.assetAllocationConflicts assetAllocationTuple).isSome)

def revertReceivers {δ : Type} (mode : CheckMode) (accepted : δ → Bool) (stop : ServiceStop)
    (units : δ → CAmount) (dbAsset : CAsset) (txHash : Uint256) (nHeight : Nat) (vchAsset : Bytes)
    (nTotal : CAmount) : List (Bytes × δ) → AssetProcedure CAmount
  | [] => pure nTotal
  | (receiver, item) :: rest => do
      revertIn mode ⟨vchAsset, receiver⟩ dbAsset txHash nHeight
      .require (accepted item) stop
      revertReceivers mode accepted stop units dbAsset txHash nHeight vchAsset
        (nTotal + units item) rest

def isPositive (amount : CAmount) : Bool := decide (0 < amount)

def revertAmountReceivers : CAsset → Uint256 → Nat → Bytes → CAmount →
    List (Bytes × CAmount) → AssetProcedure CAmount :=
  revertReceivers mode isPositive (allocationError 1020 "Receiving amount must be positive") id

def isValidRanges (ranges : List CRange) : Bool := decide (validateRangesAndGetCount ranges ≠ 0)

def revertRangeReceivers : CAsset → Uint256 → Nat → Bytes → CAmount →
    List (Bytes × List CRange) → AssetProcedure CAmount :=
  revertReceivers mode isValidRanges (allocationError 1026 "Invalid input ranges") rangeCount

def creditAmounts (mode : CheckMode) (env : AssetEnv) (dbAsset : CAsset) (txHash : Uint256)
    (nHeight : Nat) (bBalanceOverrun bConflict : Bool) (theAssetAllocation : CAssetAllocation) :
    List (Bytes × CAmount) → AssetProcedure CAssetAllocation
  | [] => pure theAssetAllocation
  | (receiver, amount) :: rest => do
      .require (decide (receiver ≠ theAssetAllocation.vchAliasOrAddress))
        (allocationError 1022 "Cannot send an asset allocation to yourself")
      let tuple : CAssetAllocationTuple := ⟨theAssetAllocation.vchAsset, receiver⟩
      addConflictIf bConflict tuple
      let found ← readAssetAllocation tuple
      let receiverAllocation := found.getD (newAllocation tuple dbAsset nHeight)
      let interest := floatPositive dbAsset.fInterestRate
      let credited := creditedBy txHash nHeight dbAsset.fInterestRate theAssetAllocation.vchMemo
        amount (accumulateIf env interest nHeight receiverAllocation)
      writeReceiverIn mode (if bBalanceOverrun then receiverAllocation else credited)
      let sender := accumulateIf env interest nHeight theAssetAllocation
      let debited := { sender with nBalance := sender.nBalance - amount }
      creditAmounts mode env dbAsset txHash nHeight bBalanceOverrun bConflict
        (if bBalanceOverrun then theAssetAllocation else debited) rest

variable (env : AssetEnv)

section

variable (dbAsset : CAsset) (dbAssetAllocation : CAssetAllocation) (txHash : Uint256)
  (nHeight : Nat) (theAssetAllocation : CAssetAllocation)

def sendAmounts (dbBalance : CAmount) (txHash : Uint256) (nHeight : Nat)
    (theAssetAllocation : CAssetAllocation) :
    AssetProcedure Unit := do
  .require (!dbAsset.bUseInputRanges) (allocationError 1018
    "Invalid asset send, request to send amounts but asset uses input ranges")
  let amounts := theAssetAllocation.listSendingAllocationAmounts
  let nTotal ← revertAmountReceivers mode dbAsset txHash nHeight theAssetAllocation.vchAsset 0
    amounts
  let bBalanceOverrun := decide (dbBalance - nTotal < 0)
  let bConflict ← senderConflicts mode bBalanceOverrun theAssetAllocation.tuple
  let sender ← creditAmounts mode env dbAsset txHash nHeight bBalanceOverrun bConflict
    theAssetAllocation amounts
  writeSenderIn mode txHash nHeight bBalanceOverrun sender

/-- The receiver counts as a conflict before its ranges are looked for. -/
def creditRanges (mode : CheckMode) (dbAsset : CAsset) (txHash : Uint256) (nHeight : Nat)
    (bBalanceOverrun bConflict : Bool) (send : RangeSend) :
    List (Bytes × List CRange) → AssetProcedure RangeSend
  | [] => pure send
  | (receiver, ranges) :: rest => do
      let sender := send.theAssetAllocation
      .require (decide (receiver ≠ sender.vchAliasOrAddress))
        (allocationError 1028 "Cannot send an asset allocation to yourself")
      let tuple : CAssetAllocationTuple := ⟨sender.vchAsset, receiver⟩
      addConflictIf bConflict tuple
      .require (doesRangeContain send.dbInputs ranges) (allocationError 1029 "Input not found")
      let found ← readAssetAllocation tuple
      let receiverAllocation := found.getD (newAllocation tuple dbAsset nHeight)
      let credited := creditedBy txHash nHeight dbAsset.fInterestRate sender.vchMemo
        (rangeCount ranges) (withRanges ranges receiverAllocation)
      writeReceiverIn mode (if bBalanceOverrun then receiverAllocation else credited)
      let subtracted := subtractRanges send.dbInputs ranges
      let debited := { sender with
        listAllocationInputs := subtracted.output
        nBalance := sender.nBalance - rangeCount ranges }
      creditRanges mode dbAsset txHash nHeight bBalanceOverrun bConflict
        (if bBalanceOverrun then { send with sent := send.sent ++ [(receiver, ranges)] }
         else ⟨debited, subtracted.arr, send.sent ++ [(receiver, subtracted.deletions)]⟩) rest

def sendRanges : AssetProcedure Unit := do
  .require dbAsset.bUseInputRanges (allocationError 1024
    "Invalid asset send, request to send input ranges but asset uses amounts")
  let inputs := theAssetAllocation.listSendingAllocationInputs
  let nTotal ← revertRangeReceivers mode dbAsset txHash nHeight theAssetAllocation.vchAsset 0 inputs
  let bBalanceOverrun := decide (dbAssetAllocation.nBalance - nTotal < 0)
  let bConflict ← senderConflicts mode bBalanceOverrun theAssetAllocation.tuple
  let send ← creditRanges mode dbAsset txHash nHeight bBalanceOverrun bConflict
    ⟨theAssetAllocation, dbAssetAllocation.listAllocationInputs, []⟩ inputs
  writeSenderIn mode txHash nHeight bBalanceOverrun
    { send.theAssetAllocation with listSendingAllocationInputs := send.sent }

def sendAllocations : AssetProcedure Unit :=
  if !theAssetAllocation.listSendingAllocationAmounts.isEmpty then
    sendAmounts mode env dbAsset dbAssetAllocation.nBalance txHash nHeight theAssetAllocation
  else if !theAssetAllocation.listSendingAllocationInputs.isEmpty then
    sendRanges mode dbAsset dbAssetAllocation txHash nHeight theAssetAllocation
  else writeSenderIn mode txHash nHeight false theAssetAllocation

end

def rereadIn (tuple : CAssetAllocationTuple) (found : CAssetAllocation) :
    AssetProcedure CAssetAllocation :=
  match mode with
  | .block => do
      let found ← readAssetAllocation tuple
      .orStop (allocationError 1015 "Cannot find sender asset allocation.") found
  | .mempool _ => pure found

variable (inputs : UtxoMap) (tx : CTransaction)

variable (op : Nat) (vvchArgs : List Bytes) (vchHash vchAlias : Bytes) (nHeight : Nat)
  (payload : CAssetAllocation)

def allocationSend (vchThisAlias : Bytes) : AssetProcedure Unit := do
  let assetAllocationTuple : CAssetAllocationTuple := ⟨payload.vchAsset, vchThisAlias⟩
  .require (vchAlias.isEmpty || !env.isValidAddress vchThisAlias) (allocationError 1016
    ("This asset allocation cannot be spent because owner is an alias but the alias is also " ++
      "a valid minerium address"))
  let found ← readAssetAllocation assetAllocationTuple
  let dbAssetAllocation ← .orStop
    (allocationError 1015 "Cannot find sender asset allocation.") found
  requireHolder env inputs tx vchAlias dbAssetAllocation.vchAliasOrAddress payload.vchAliasOrAddress
  let asset ← readAsset payload.vchAsset
  let dbAsset ← .orStop (allocationError 1016 "Failed to read from asset DB") asset
  revertIn mode assetAllocationTuple dbAsset (env.txHash tx) nHeight
  let dbAssetAllocation ← rereadIn mode assetAllocationTuple dbAssetAllocation
  sendAllocations mode env dbAsset dbAssetAllocation (env.txHash tx) nHeight
    (senderRecord vchThisAlias dbAssetAllocation payload)

def collectInterestIn (txHash : Uint256) (nHeight : Nat)
    (assetAllocationTuple : CAssetAllocationTuple) : AssetProcedure Unit :=
  match mode with
  | .block => collectInterest env txHash nHeight assetAllocationTuple
  | .mempool _ => checkInterest assetAllocationTuple >>= fun _ => pure ()

/-- For operations 3 and 4 the transaction's own record is written as it is. -/
def runAllocationOp : AssetProcedure Unit :=
  let vchThisAlias := if vchAlias.isEmpty then payload.vchAliasOrAddress else vchAlias
  if op = OP_ASSET_COLLECT_INTEREST then
    collectInterestIn mode env (env.txHash tx) nHeight ⟨payload.vchAsset, vchThisAlias⟩
  else if op = OP_ASSET_ALLOCATION_SEND then
    allocationSend mode env inputs tx vchAlias nHeight payload vchThisAlias
  else writeSenderIn mode (env.txHash tx) nHeight false payload

def checkAssetAllocationInputs : AssetProcedure Unit :=
  if tx.isCoinBase then pure ()
  else do
    let payload ← .orStop
      (.errorMessage ("MINERIUM_ASSET_ALLOCATION_CONSENSUS_ERROR ERRCODE: 1001 - " ++
        "Cannot unserialize data inside of this transaction relating to an assetallocation"))
      (env.unserializeAllocation tx)
    runAllocationOp .block env inputs tx op vchAlias nHeight payload

def MAX_MEMO_LENGTH : Nat := 128

def payloadErrors : List (Bool × Nat × String) :=
  let isSend := decide (op = OP_ASSET_ALLOCATION_SEND)
  let isCollect := decide (op = OP_ASSET_COLLECT_INTEREST)
  let inputs := payload.listSendingAllocationInputs
  let amounts := payload.listSendingAllocationAmounts
  [(decide (vvchArgs.length ≠ 1), 1002, "Asset arguments incorrect size"),
    (decide (vchHash ≠ vvchArgs.headD []), 1003,
      "Hash provided doesn't match the calculated hash of the data"),
    (isSend && inputs.isEmpty && amounts.isEmpty, 1004,
      "Asset send must send an input or transfer balance"),
    (isSend && (decide (250 < inputs.length) || decide (250 < amounts.length)), 1005,
      "Too many receivers in one allocation send, maximum of 250 is allowed at once"),
    (isSend && decide (MAX_MEMO_LENGTH < payload.vchMemo.length), 1006,
      "memo too long, must be 128 character or less"),
    (isCollect && (!inputs.isEmpty || !amounts.isEmpty), 1007,
      "Cannot send tokens in an interest collection transaction"),
    (isCollect && decide (0 < payload.vchMemo.length), 1008,
      "Cannot send memo when collecting interest"),
    (!isSend && !isCollect, 1009, "Asset transaction has unknown op")]

def payloadErrorIn : Option (Nat × String) :=
  if mode.fJustCheck then
    ((payloadErrors op vvchArgs vchHash payload).find? (·.1)).map (·.2)
  else none

def requirePayloadIn : AssetProcedure Unit :=
  match payloadErrorIn mode op vvchArgs vchHash payload with
  | some (code, text) => .stop (allocationError code text)
  | none => pure ()

def checkAssetAllocationInputsIn : AssetProcedure Unit :=
  if tx.isCoinBase && !mode.fJustCheck then pure ()
  else do
    let payload ← .orStop
      (.errorMessage ("MINERIUM_ASSET_ALLOCATION_CONSENSUS_ERROR ERRCODE: 1001 - " ++
        "Cannot unserialize data inside of this transaction relating to an assetallocation"))
      (env.unserializeAllocation tx)
    requirePayloadIn mode op vvchArgs vchHash payload
    runAllocationOp mode env inputs tx op vchAlias nHeight payload

end Minerium
