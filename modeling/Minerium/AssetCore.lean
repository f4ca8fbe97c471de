import Minerium.AllocationModeCore

/-! Assets in block mode: `CheckAssetInputs` of `asset.cpp`, taken apart by operation.  Each
operation makes the source's checks in the source's order. -/

namespace Minerium

def assetError (code : Nat) (text : String) : ServiceStop :=
  .errorMessage ("MINERIUM_ASSET_CONSENSUS_ERROR: ERRCODE: " ++ toString code ++ " - " ++ text)

def OP_ASSET_ACTIVATE : Nat := 1
def OP_ASSET_UPDATE : Nat := 2
def OP_ASSET_TRANSFER : Nat := 3
def OP_ASSET_SEND : Nat := 4

def assetUser (dbAsset : CAsset) (vchThisAlias : Bytes) : Bytes :=
  if dbAsset.isNull then vchThisAlias else dbAsset.vchAliasOrAddress

variable (env : AssetEnv) (inputs : UtxoMap) (tx : CTransaction)

variable (txHash : Uint256) (vchAlias : Bytes) (nHeight : Nat) (payload : CAssetAllocation)
  (dbAsset theAsset : CAsset)

def requireAssetOwner (vchAlias owner user1 : Bytes) (text : String) : AssetProcedure Unit :=
  if vchAlias.isEmpty then
    .require (env.findAssetOwnerInTx inputs tx user1) (assetError 1015 text)
  else .require (decide (owner = vchAlias)) (assetError 1015 text)

def toUpperByte (byte : UInt8) : UInt8 :=
  if 0x61 ≤ byte ∧ byte ≤ 0x7a then byte - 0x20 else byte

def activatedAsset : CAsset :=
  { theAsset with
    vchSymbol := theAsset.vchSymbol.map toUpperByte
    nTotalSupply := theAsset.nBalance
    nPrecision := if theAsset.bUseInputRanges then 0 else theAsset.nPrecision
    nHeight := .ofNat nHeight
    txHash := env.txHash tx }

/-- Neither the balance nor the ranges nor the supply are checked in block mode. -/
def assetActivate : AssetProcedure Unit := do
  let found ← readAsset theAsset.vchAsset
  let vchThisAlias := if vchAlias.isEmpty then theAsset.vchAliasOrAddress else vchAlias
  requireAssetOwner env inputs tx vchAlias theAsset.vchAliasOrAddress
    (assetUser (found.getD CAsset.null) vchThisAlias)
    "Cannot create this asset. Asset owner must sign off on this change"
  .require found.isNone (assetError 2041 "Asset already exists")
  writeAsset (activatedAsset env tx nHeight theAsset)

def keepActivated : CAsset :=
  { theAsset with
    bUseInputRanges := dbAsset.bUseInputRanges
    bCanAdjustInterestRate := dbAsset.bCanAdjustInterestRate
    nPrecision := dbAsset.nPrecision
    vchSymbol := dbAsset.vchSymbol
    vchAliasOrAddress :=
      if theAsset.vchAliasOrAddress.isEmpty then dbAsset.vchAliasOrAddress
      else theAsset.vchAliasOrAddress
    vchPubData := if theAsset.vchPubData.isEmpty then dbAsset.vchPubData else theAsset.vchPubData
    sCategory := if theAsset.sCategory.isEmpty then dbAsset.sCategory else theAsset.sCategory }

def startsBefore (ranges : List CRange) (nTotalSupply : CAmount) : Option CRange :=
  ranges.find? fun input => decide ((input.start.toNat : Int) < nTotalSupply.toInt)

def requireNewRanges : AssetProcedure Unit := do
  .require dbAsset.bUseInputRanges (assetError 2026 "This asset does not use input ranges")
  .require (startsBefore theAsset.listAllocationInputs dbAsset.nTotalSupply).isNone (assetError 2027
      ("Cannot edit this asset. New asset inputs must be added to the end of the supply: " ++
        toString (((startsBefore theAsset.listAllocationInputs dbAsset.nTotalSupply).map
          (·.start)).getD 0) ++ " vs " ++ toString dbAsset.nTotalSupply))
  .require (decide (validateRangesAndGetCount theAsset.listAllocationInputs ≠ 0))
    (assetError 2028 "Invalid input ranges")

def requireIf (condition : Bool) (check : AssetProcedure Unit) : AssetProcedure Unit :=
  if condition then check else pure ()

/-- The increase is added to the stored balance, but to the supply that the transaction gives. -/
def increased : CAsset :=
  let amount :=
    if theAsset.listAllocationInputs.isEmpty then theAsset.nBalance
    else rangeCount theAsset.listAllocationInputs
  { theAsset with
    listAllocationInputs :=
      if theAsset.listAllocationInputs.isEmpty then []
      else mergeRanges (dbAsset.listAllocationInputs ++ theAsset.listAllocationInputs)
    nBalance := dbAsset.nBalance + amount
    nTotalSupply := theAsset.nTotalSupply + amount }

def precisionException : ServiceStop := .exception "Precision must be between 0 and 8"

variable (vchAsset vchMemo : Bytes)

def requireFoundAsset : AssetProcedure CAsset := do
  let found ← readAsset vchAsset
  .orStop (assetError 2024 "Failed to read from asset DB") found

def updatedAsset : CAsset :=
  { keepActivated dbAsset (increased dbAsset theAsset) with
    nHeight := .ofNat nHeight
    txHash := env.txHash tx }

def assetUpdate : AssetProcedure Unit := do
  let dbAsset ← requireFoundAsset theAsset.vchAsset
  let vchThisAlias := if vchAlias.isEmpty then theAsset.vchAliasOrAddress else vchAlias
  requireAssetOwner env inputs tx vchAlias dbAsset.vchAliasOrAddress
    (assetUser dbAsset vchThisAlias)
    "Cannot update this asset. Asset owner must sign off on this change"
  requireIf (!theAsset.listAllocationInputs.isEmpty) (requireNewRanges dbAsset theAsset)
  let updated := increased dbAsset theAsset
  let inRange ← .orStop precisionException
    (assetRange updated.nTotalSupply dbAsset.nPrecision.toNat dbAsset.bUseInputRanges)
  .require inRange (assetError 2029 "Total supply out of money range")
  .require (decide (updated.nTotalSupply ≤ dbAsset.nMaxSupply))
    (assetError 2030 "Total supply cannot exceed maximum supply")
  .require (dbAsset.bCanAdjustInterestRate || floatEq updated.fInterestRate dbAsset.fInterestRate)
    (assetError 2040 "Cannot adjust interest rate for this asset")
  writeAsset (updatedAsset env tx nHeight dbAsset theAsset)

/-- The supply becomes the stored balance, as in the source. -/
def transferredAsset : CAsset :=
  { keepActivated dbAsset theAsset with
    nBalance := dbAsset.nBalance
    nTotalSupply := dbAsset.nBalance
    nMaxSupply := dbAsset.nMaxSupply
    listAllocationInputs := dbAsset.listAllocationInputs
    fInterestRate := dbAsset.fInterestRate
    nHeight := .ofNat nHeight
    txHash := env.txHash tx }

def assetTransfer : AssetProcedure Unit := do
  let dbAsset ← requireFoundAsset theAsset.vchAsset
  writeAsset (transferredAsset env tx nHeight dbAsset theAsset)

def sumItems {δ : Type} (accepted : δ → Bool) (stop : ServiceStop) (units : δ → CAmount)
    (nTotal : CAmount) : List (Bytes × δ) → AssetProcedure CAmount
  | [] => pure nTotal
  | (_, item) :: rest => do
      .require (accepted item) stop
      sumItems accepted stop units (nTotal + units item) rest

def sumAmounts : CAmount → List (Bytes × CAmount) → AssetProcedure CAmount :=
  sumItems isPositive (assetError 2032 "Receiving amount must be positive") id

/-- A null record counts as missing; it keeps what else it holds. -/
def receiverOrNew (tuple : CAssetAllocationTuple) (dbAsset : CAsset) (nHeight : Nat)
    (found : Option CAssetAllocation) : CAssetAllocation :=
  let receiver := found.getD CAssetAllocation.null
  if receiver.vchAsset.isEmpty then
    { receiver with
      vchAliasOrAddress := tuple.vchAliasOrAddress
      vchAsset := tuple.vchAsset
      nLastInterestClaimHeight := .ofNat nHeight
      nHeight := .ofNat nHeight
      fInterestRate := dbAsset.fInterestRate }
  else receiver

/-- The receivers' current records are read, not reverted ones; returns the asset. -/
def assetCreditAmounts (env : AssetEnv) (txHash : Uint256) (nHeight : Nat)
    (vchAsset vchMemo : Bytes) (theAsset : CAsset) :
    List (Bytes × CAmount) → AssetProcedure CAsset
  | [] => pure theAsset
  | (receiver, amount) :: rest => do
      let tuple : CAssetAllocationTuple := ⟨vchAsset, receiver⟩
      let found ← readAssetAllocation tuple
      let receiverAllocation := receiverOrNew tuple theAsset nHeight found
      writeAssetAllocation (creditedBy txHash nHeight theAsset.fInterestRate vchMemo amount
        (accumulateIf env (floatPositive theAsset.fInterestRate) nHeight receiverAllocation))
      assetCreditAmounts env txHash nHeight vchAsset vchMemo
        { theAsset with nBalance := theAsset.nBalance - amount } rest

def assetSendAmounts : AssetProcedure CAsset := do
  .require (!dbAsset.bUseInputRanges) (assetError 2031
    "Invalid asset send, request to send amounts but asset uses input ranges")
  let nTotal ← sumAmounts 0 payload.listSendingAllocationAmounts
  .require (decide (nTotal ≤ dbAsset.nBalance)) (assetError 2033 "Sender balance is insufficient")
  assetCreditAmounts env txHash nHeight payload.vchAsset payload.vchMemo dbAsset
    payload.listSendingAllocationAmounts

def sumRanges : CAmount → List (Bytes × List CRange) → AssetProcedure CAmount :=
  sumItems isValidRanges (assetError 2036 "Invalid input range") rangeCount

def assetCreditRanges (dbInputs : List CRange) (theAsset : CAsset) :
    List (Bytes × List CRange) → AssetProcedure CAsset
  | [] => pure theAsset
  | (receiver, ranges) :: rest => do
      let tuple : CAssetAllocationTuple := ⟨vchAsset, receiver⟩
      .require (doesRangeContain dbInputs ranges) (assetError 2038 "Input not found")
      let found ← readAssetAllocation tuple
      let receiverAllocation := found.getD (newAllocation tuple theAsset nHeight)
      writeAssetAllocation (creditedBy txHash nHeight theAsset.fInterestRate vchMemo
        (rangeCount ranges) (withRanges ranges receiverAllocation))
      let subtracted := subtractRanges dbInputs ranges
      assetCreditRanges subtracted.arr
        { theAsset with
          listAllocationInputs := subtracted.output
          nBalance := theAsset.nBalance - rangeCount ranges } rest

def assetSendRanges : AssetProcedure CAsset := do
  .require dbAsset.bUseInputRanges (assetError 2035
    "Invalid asset send, request to send input ranges but asset uses amounts")
  let nTotal ← sumRanges 0 payload.listSendingAllocationInputs
  .require (decide (nTotal ≤ dbAsset.nBalance)) (assetError 2037 "Sender balance is insufficient")
  assetCreditRanges txHash nHeight payload.vchAsset payload.vchMemo dbAsset.listAllocationInputs
    dbAsset payload.listSendingAllocationInputs

def assetSendTo : AssetProcedure CAsset :=
  if !payload.listSendingAllocationAmounts.isEmpty then
    assetSendAmounts env txHash nHeight payload dbAsset
  else if !payload.listSendingAllocationInputs.isEmpty then
    assetSendRanges txHash nHeight payload dbAsset
  else pure dbAsset

def requireAssetSender (vchAlias owner claimed user1 : Bytes) : AssetProcedure Unit :=
  let text := "Cannot send this asset. Asset owner must sign off on this change"
  if vchAlias.isEmpty then
    .require (decide (owner = claimed) && env.findAssetOwnerInTx inputs tx user1)
      (assetError 1015 text)
  else .require (decide (owner = vchAlias)) (assetError 1015 text)

def assetSend : AssetProcedure Unit := do
  let dbAsset ← requireFoundAsset payload.vchAsset
  let vchThisAlias := if vchAlias.isEmpty then payload.vchAliasOrAddress else vchAlias
  let user1 := assetUser dbAsset vchThisAlias
  .require (vchAlias.isEmpty || !env.isValidAddress user1) (assetError 1016
    ("This asset cannot be sent because owner is an alias but the alias is also a valid " ++
      "minerium address"))
  requireAssetSender env inputs tx vchAlias dbAsset.vchAliasOrAddress payload.vchAliasOrAddress
    user1
  let theAsset ← assetSendTo env (env.txHash tx) nHeight payload dbAsset
  writeAsset { theAsset with nHeight := .ofNat nHeight, txHash := env.txHash tx }

def assetPayloadError : ServiceStop :=
  .errorMessage ("MINERIUM_ASSET_CONSENSUS_ERROR ERRCODE: 2000 - " ++
    "Cannot unserialize data inside of this transaction relating to an asset")

def runAssetOp (op : Nat)
    (vchAlias : Bytes) (nHeight : Nat) (theAsset : CAsset) : AssetProcedure Unit :=
  if op = OP_ASSET_ACTIVATE then assetActivate env inputs tx vchAlias nHeight theAsset
  else if op = OP_ASSET_UPDATE then assetUpdate env inputs tx vchAlias nHeight theAsset
  else assetTransfer env tx nHeight theAsset

def checkAssetInputs (op : Nat) (vchAlias : Bytes) (nHeight : Nat) : AssetProcedure Unit :=
  if tx.isCoinBase then pure ()
  else if op = OP_ASSET_SEND then do
    let payload ← .orStop assetPayloadError (env.unserializeAllocation tx)
    assetSend env inputs tx vchAlias nHeight payload
  else do
    let theAsset ← .orStop assetPayloadError (env.unserializeAsset tx)
    runAssetOp env inputs tx op vchAlias nHeight theAsset

end Minerium
