import Minerium.SubsidyCore

/-! Coinbase checks of `masternode-payments.cpp`, with the spork table of `spork.cpp` and the
superblock triggers of `governance-classes.cpp`. `none` is an exception of `GetValueOut`. -/

namespace Minerium

structure ConsensusParams where
  nSuperblockStartBlock : Nat
  nSuperblockCycle : Nat
  nShareFeeBlock : Nat
  nGovernanceMinQuorum : Int

structure CMasternodePayee where
  scriptPubKey : CScript
  vecVoteHashes : List Uint256
  nStartHeight : UInt32

def CMasternodePayee.getVoteCount (payee : CMasternodePayee) : Nat := payee.vecVoteHashes.length

abbrev CMasternodeBlockPayees := List CMasternodePayee

def MNPAYMENTS_SIGNATURES_REQUIRED : Nat := 6

structure CGovernanceObject where
  fCachedFunding : Bool
  absoluteYesCount : Int

structure CGovernancePayment where
  script : CScript
  nAmount : CAmount

structure CSuperblock where
  governanceObject : Option CGovernanceObject
  nBlockHeight : Int
  vecPayments : List CGovernancePayment

inductive SporkId where
  | SPORK_2_INSTANTSEND_ENABLED
  | SPORK_3_INSTANTSEND_BLOCK_FILTERING
  | SPORK_5_INSTANTSEND_MAX_VALUE
  | SPORK_6_NEW_SIGS
  | SPORK_8_MASTERNODE_PAYMENT_ENFORCEMENT
  | SPORK_9_SUPERBLOCKS_ENABLED
  | SPORK_10_MASTERNODE_PAY_UPDATED_NODES
  | SPORK_12_RECONSIDER_BLOCKS
  | SPORK_14_REQUIRE_SENTINEL_FLAG
deriving DecidableEq

def mapSporkDefaults : SporkId → Int64
  | .SPORK_5_INSTANTSEND_MAX_VALUE => 15000
  | _ => 0

/-- Every id has a default, so the branch for unknown ids has no case here. -/
def isSporkActive (mapSporksActive : SporkId → Option Int64) (adjustedTime : Int64)
    (nSporkID : SporkId) : Bool :=
  decide ((mapSporksActive nSporkID).getD (mapSporkDefaults nSporkID) < adjustedTime)

structure PaymentEnv where
  consensus : ConsensusParams
  mapSporksActive : SporkId → Option Int64
  adjustedTime : Int64
  masternodeSynced : Bool
  fLiteMode : Bool
  enabledMasternodes : Int
  mapMasternodeBlocks : Nat → Option CMasternodeBlockPayees
  mapTrigger : List CSuperblock

section

variable (consensus : ConsensusParams) (nBlockHeight : Nat)

def isValidBlockHeight : Bool :=
  decide (consensus.nSuperblockStartBlock ≤ nBlockHeight) &&
    decide (nBlockHeight % consensus.nSuperblockCycle = 0)

def superblockPart (nHeight : Nat) : CAmount := (getBlockSubsidy nHeight 0 true false).nSubsidy

def getPaymentsLimit : CAmount :=
  if !isValidBlockHeight consensus nBlockHeight then 0
  else
    let nSuperblockStart := max 1 (nBlockHeight + 1 - consensus.nSuperblockCycle)
    (List.range' nSuperblockStart (nBlockHeight + 1 - nSuperblockStart)).foldl
      (fun nPaymentsLimit i => nPaymentsLimit + superblockPart i) 0

end

variable (env : PaymentEnv)

def updateSentinelVariables (object : CGovernanceObject) : CGovernanceObject :=
  if env.enabledMasternodes = 0 then object
  else
    let nAbsVoteReq := max env.consensus.nGovernanceMinQuorum (env.enabledMasternodes.tdiv 10)
    { object with fCachedFunding := decide (nAbsVoteReq ≤ object.absoluteYesCount) }

def getActiveTriggers : List (CSuperblock × CGovernanceObject) :=
  env.mapTrigger.filterMap fun pSuperblock => pSuperblock.governanceObject.map (pSuperblock, ·)

variable (nBlockHeight : Nat)

def isSuperblockTriggered : Bool :=
  isValidBlockHeight env.consensus nBlockHeight &&
    (getActiveTriggers env).any fun (pSuperblock, pObj) =>
      decide ((nBlockHeight : Int) = pSuperblock.nBlockHeight) &&
        (updateSentinelVariables env pObj).fCachedFunding

def bestSuperblockFrom (nBlockHeight : Nat) :
    Int → Option CSuperblock → List (CSuperblock × CGovernanceObject) → Option CSuperblock
  | _, best, [] => best
  | nYesCount, best, (pSuperblock, pObj) :: rest =>
    if (nBlockHeight : Int) = pSuperblock.nBlockHeight ∧ nYesCount < pObj.absoluteYesCount then
      bestSuperblockFrom nBlockHeight pObj.absoluteYesCount (some pSuperblock) rest
    else bestSuperblockFrom nBlockHeight nYesCount best rest

def getBestSuperblock : Option CSuperblock :=
  if !isValidBlockHeight env.consensus nBlockHeight then none
  else bestSuperblockFrom nBlockHeight 0 none (getActiveTriggers env)

def getPaymentsTotalAmount (pSuperblock : CSuperblock) : CAmount :=
  pSuperblock.vecPayments.foldl (fun total payment => total + payment.nAmount) 0

def dropToPayment (payment : CGovernancePayment) : List CTxOut → Option (List CTxOut)
  | [] => none
  | out :: rest =>
    if payment.script = out.scriptPubKey ∧ payment.nAmount = out.nValue then some (out :: rest)
    else dropToPayment payment rest

/-- The search goes on at the output that matched last: one output may serve two equal payments. -/
def paymentsMatch : List CGovernancePayment → List CTxOut → Bool
  | [], _ => true
  | payment :: payments, vout =>
    match dropToPayment payment vout with
    | some rest => paymentsMatch payments rest
    | none => false

def CSuperblock.isValid (pSuperblock : CSuperblock) (env : PaymentEnv) (txNew : CTransaction)
    (nBlockHeight : Nat) (blockReward : CAmount) : Option Bool :=
  if !isValidBlockHeight env.consensus nBlockHeight then some false
  else if txNew.vout.length < pSuperblock.vecPayments.length then some false
  else
    let nPaymentsTotalAmount := getPaymentsTotalAmount pSuperblock
    if getPaymentsLimit env.consensus nBlockHeight < nPaymentsTotalAmount then some false
    else do
      let nBlockValue ← txNew.getValueOut
      if blockReward + nPaymentsTotalAmount < nBlockValue then return false
      return paymentsMatch pSuperblock.vecPayments txNew.vout

variable (payeeScript : CScript) (nMasternodePayment : CAmount) (txNew : CTransaction)

def superblockManagerIsValid (nBlockHeight : Nat) (blockReward : CAmount) : Option Bool :=
  match getBestSuperblock env nBlockHeight with
  | some pSuperblock => pSuperblock.isValid env txNew nBlockHeight blockReward
  | none => some false

structure PayeeResult where
  accepted : Bool
  nTotalRewardWithMasternodes : CAmount

def getMaxSignatures (vecPayees : CMasternodeBlockPayees) : Nat :=
  vecPayees.foldl (fun nMaxSignatures payee =>
    if nMaxSignatures ≤ payee.getVoteCount then payee.getVoteCount else nMaxSignatures) 0

def foundPayment :
    Bool :=
  txNew.vout.any fun txout =>
    decide (payeeScript = txout.scriptPubKey) && decide (nMasternodePayment = txout.nValue)

variable (coinbase : CTransaction) (nHeight : Nat)

def masternodePayment (nSubsidy nHalfFee : CAmount) : CAmount :=
  if env.consensus.nShareFeeBlock ≤ nHeight then nSubsidy + nHalfFee else nSubsidy

def payeeLoop (env : PaymentEnv) (txNew : CTransaction) (nHeight : Nat) (nHalfFee : CAmount) :
    CMasternodeBlockPayees → CAmount → PayeeResult
  | [], nTotalRewardWithMasternodes => ⟨false, nTotalRewardWithMasternodes⟩
  | payee :: rest, nTotalRewardWithMasternodes =>
    let subsidy := getBlockSubsidy nHeight nTotalRewardWithMasternodes false true
    let nMasternodePayment := masternodePayment env nHeight subsidy.nSubsidy nHalfFee
    if MNPAYMENTS_SIGNATURES_REQUIRED ≤ payee.getVoteCount ∧
        foundPayment payee.scriptPubKey nMasternodePayment txNew then
      ⟨true, subsidy.nTotalRewardWithMasternodes⟩
    else payeeLoop env txNew nHeight nHalfFee rest subsidy.nTotalRewardWithMasternodes

def CMasternodeBlockPayees.isTransactionValid (vecPayees : CMasternodeBlockPayees)
    (env : PaymentEnv) (txNew : CTransaction) (nHeight : Nat)
    (fee nTotalRewardWithMasternodes : CAmount) : Option PayeeResult :=
  let result := payeeLoop env txNew nHeight (fee / 2) vecPayees nTotalRewardWithMasternodes
  if result.accepted then some result
  else if getMaxSignatures vecPayees < MNPAYMENTS_SIGNATURES_REQUIRED then do
    let nValueOut ← txNew.getValueOut
    return ⟨true, if env.consensus.nShareFeeBlock ≤ nHeight then nValueOut - fee else nValueOut⟩
  else some result

def CMasternodePayments.isTransactionValid (env : PaymentEnv) (txNew : CTransaction)
    (nBlockHeight : Nat) (fee nTotalRewardWithMasternodes : CAmount) :
    Option PayeeResult :=
  match env.mapMasternodeBlocks nBlockHeight with
  | none => do
      let nValueOut ← txNew.getValueOut
      return ⟨true, nValueOut⟩
  | some vecPayees =>
    vecPayees.isTransactionValid env txNew nBlockHeight fee nTotalRewardWithMasternodes

def PaymentEnv.isSporkActive (env : PaymentEnv) (nSporkID : SporkId) : Bool :=
  Minerium.isSporkActive env.mapSporksActive env.adjustedTime nSporkID

def PaymentEnv.notEnoughData : Bool := !env.masternodeSynced || env.fLiteMode

def isBlockPayeeValid (nBlockHeight : Nat) (blockReward fee nTotalRewardWithMasternodes : CAmount) :
    Option PayeeResult :=
  if env.notEnoughData then do
    let nValueOut ← txNew.getValueOut
    return ⟨true, nValueOut⟩
  else if env.isSporkActive .SPORK_9_SUPERBLOCKS_ENABLED &&
      isSuperblockTriggered env nBlockHeight then do
    let valid ← superblockManagerIsValid env txNew nBlockHeight blockReward
    return ⟨valid, nTotalRewardWithMasternodes⟩
  else do
    let result ← CMasternodePayments.isTransactionValid env txNew nBlockHeight fee
      nTotalRewardWithMasternodes
    if result.accepted then return result
    else return ⟨!env.isSporkActive .SPORK_8_MASTERNODE_PAYMENT_ENFORCEMENT,
      result.nTotalRewardWithMasternodes⟩

def exceedsSchedule (nFee nValueOut : CAmount) : Bool :=
  decide ((getBlockSubsidy nBlockHeight 0 false true).nTotalRewardWithMasternodes + nFee <
    nValueOut)

inductive BlockValueError where
  | exceededSuperblockMax (nBlockHeight : Nat) (nActual nLimit : CAmount)
  | exceededSchedule
  | onlyRegularBlocks (nBlockHeight : Nat) (nActual nLimit : CAmount)
  | invalidSuperblock (nBlockHeight : Nat)
  | noTriggeredSuperblock (nBlockHeight : Nat) (nActual nLimit : CAmount)
  | superblocksDisabled (nBlockHeight : Nat) (nActual nLimit : CAmount)
deriving DecidableEq

def paysTooMuch (nActual nLimit : CAmount) (why : String) : String :=
  s!"coinbase pays too much at height {nBlockHeight} (actual={nActual} vs limit={nLimit}), {why}"

def BlockValueError.strErrorRet : BlockValueError → String
  | exceededSuperblockMax nBlockHeight nActual nLimit =>
    paysTooMuch nBlockHeight nActual nLimit "exceeded superblock max value"
  | exceededSchedule => "IsBlockValueValid: coinbase amount exceeds block subsidy schedule"
  | onlyRegularBlocks nBlockHeight nActual nLimit =>
    paysTooMuch nBlockHeight nActual nLimit
      "exceeded block reward, only regular blocks are allowed at this height"
  | invalidSuperblock nBlockHeight => s!"invalid superblock detected at height {nBlockHeight}"
  | noTriggeredSuperblock nBlockHeight nActual nLimit =>
    paysTooMuch nBlockHeight nActual nLimit
      "exceeded block reward, no triggered superblock detected"
  | superblocksDisabled nBlockHeight nActual nLimit =>
    paysTooMuch nBlockHeight nActual nLimit "exceeded block reward, superblocks are disabled"

def valueWithin (nValueOut nLimit : CAmount) (failure : BlockValueError) :
    Except BlockValueError Unit :=
  if nValueOut ≤ nLimit then .ok () else .error failure

def isBlockValueValid (nBlockHeight : Nat) (blockReward nFee : CAmount) :
    Option (Except BlockValueError Unit) := do
  let blockRewardWithFee := blockReward + nFee
  let nValueOut ← coinbase.getValueOut
  let nSuperblockMaxValue := blockRewardWithFee + getPaymentsLimit env.consensus nBlockHeight
  if env.notEnoughData then
    if isValidBlockHeight env.consensus nBlockHeight then
      return valueWithin nValueOut nSuperblockMaxValue
        (.exceededSuperblockMax nBlockHeight nValueOut nSuperblockMaxValue)
    else if exceedsSchedule nBlockHeight nFee nValueOut then return .error .exceededSchedule
    else
      return valueWithin nValueOut blockRewardWithFee
        (.onlyRegularBlocks nBlockHeight nValueOut blockRewardWithFee)
  else if env.isSporkActive .SPORK_9_SUPERBLOCKS_ENABLED then
    if isSuperblockTriggered env nBlockHeight then do
      let valid ← superblockManagerIsValid env coinbase nBlockHeight blockRewardWithFee
      return if valid then .ok () else .error (.invalidSuperblock nBlockHeight)
    else if exceedsSchedule nBlockHeight nFee nValueOut then return .error .exceededSchedule
    else
      return valueWithin nValueOut blockRewardWithFee
        (.noTriggeredSuperblock nBlockHeight nValueOut blockRewardWithFee)
  else
    return valueWithin nValueOut blockRewardWithFee
      (.superblocksDisabled nBlockHeight nValueOut blockRewardWithFee)

inductive RewardOutcome where
  | accepted
  | badPayee
  | badAmount (failure : BlockValueError)
deriving DecidableEq

/-- The payee check may rewrite the total reward that the value check then compares with. -/
def checkBlockReward (nFees : CAmount) : Option RewardOutcome := do
  let subsidy := getBlockSubsidy nHeight 0 false false
  let payee ← isBlockPayeeValid env coinbase nHeight (nFees + subsidy.nSubsidy) nFees
    subsidy.nTotalRewardWithMasternodes
  if !payee.accepted then return .badPayee
  match ← isBlockValueValid env coinbase nHeight payee.nTotalRewardWithMasternodes nFees with
  | .ok _ => return .accepted
  | .error failure => return .badAmount failure

end Minerium
