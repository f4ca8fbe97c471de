import Minerium.ContextCheckCore
import Minerium.Lib.StdMap

/-! InstantSend from `instantx.h` and `instantx.cpp`. A lock request without a transaction stands
for `CTxLockRequest()`. `LockContext` is what an event reads outside the tables. -/

namespace Minerium

open StdMap

open StdMap (Map)

def Uint256.less (a b : Uint256) : Bool := decide (serializeUint256 a < serializeUint256 b)

def COutPoint.less (a b : COutPoint) : Bool :=
  Uint256.less a.hash b.hash || decide (a.hash = b.hash) && decide (a.n < b.n)

def MIN_INSTANTSEND_PROTO_VERSION : Int := 70221
def MIN_MASTERNODE_PAYMENT_PROTO_VERSION_2 : Int := 70221
def INSTANTSEND_LOCK_TIMEOUT_SECONDS : Int := 15
def INSTANTSEND_FAILED_TIMEOUT_SECONDS : Int := 60
def SIGNATURES_REQUIRED : Nat := 6
def SIGNATURES_TOTAL : Int := 10
def MIN_LOCK_FEE : CAmount := 100000

structure LockParams where
  hashTx : CTransaction → Uint256
  hash : Bytes → Uint256
  verifyHash : Uint256 → Bytes → Bytes → Bool
  nInstantSendConfirmationsRequired : Int
  nInstantSendKeepLock : Int

structure LockContext where
  fLiteMode : Bool
  fMasternodeMode : Bool
  fEnableInstantSend : Bool
  /-- `GetfLargeWorkForkFound() || GetfLargeWorkInvalidChainFound()` -/
  fLargeWorkFound : Bool
  masternodeListSynced : Bool
  peerVersion : Int
  isSporkActive : SporkId → Bool
  maxValue : Int64
  time : Int
  adjustedTime : Int64
  chainHeight : Nat
  getUTXOCoin : COutPoint → Option Coin
  /-- The transaction of the mempool that spends an outpoint. -/
  mapNextTx : COutPoint → Option Uint256
  includedInBlock : Uint256 → Bool
  getMasternodeInfo : COutPoint → Option Bytes
  getMasternodeRank : COutPoint → Int → Int → Option Int
  activeMasternode : COutPoint
  pubKeyMasternode : Bytes
  signHash : Uint256 → Option Bytes

abbrev CTxLockRequest := Option CTransaction

variable (params : LockParams)

namespace CTxLockRequest

def getHash : CTxLockRequest → Uint256
  | none => 0
  | some tx => params.hashTx tx

def isSet (request : CTxLockRequest) : Bool := decide (request.getHash params ≠ 0)

def vin (request : CTxLockRequest) : List CTxIn := (request.map (·.vin)).getD []

end CTxLockRequest

def lockValueIn (params : LockParams) (ctx : LockContext) : CAmount → List CTxIn → Option CAmount
  | nValueIn, [] => some nValueIn
  | nValueIn, txin :: rest =>
    match ctx.getUTXOCoin txin.prevout with
    | none => none
    | some coin =>
      let nTxAge : Int := ctx.chainHeight - coin.nHeight + 1
      if nTxAge < params.nInstantSendConfirmationsRequired - 1 then none
      else lockValueIn params ctx (nValueIn + coin.out.nValue) rest

def lockMinFee (tx : CTransaction) : CAmount :=
  max MIN_LOCK_FEE (Int64.ofNat tx.vin.length * MIN_LOCK_FEE)

variable (ctx : LockContext)

/-- An amount out of range throws; the caller then has changed nothing, as for `false`. -/
def lockRequestIsValid (tx : CTransaction) : Bool :=
  if tx.vout.length < 1 then false
  else if !isFinalTx tx (ctx.chainHeight + 1) ctx.adjustedTime then false
  else
    match lockValueIn params ctx 0 tx.vin with
    | none => false
    | some nValueIn =>
      if ctx.maxValue * COIN < nValueIn then false
      else
        match tx.getValueOut with
        | none => false
        | some nValueOut => !decide (nValueIn - nValueOut < lockMinFee tx)

structure CTxLockVote where
  txHash : Uint256
  outpoint : COutPoint
  outpointMasternode : COutPoint
  vchMasternodeSignature : Bytes
  nConfirmedHeight : Int
  nTimeCreated : Int
deriving DecidableEq

def heightExpired (nConfirmedHeight nHeight : Int) : Bool :=
  decide (nConfirmedHeight ≠ -1) &&
    decide (params.nInstantSendKeepLock < nHeight - nConfirmedHeight)

variable (vote : CTxLockVote)

namespace CTxLockVote

def getHash : Uint256 :=
  params.hash (serializeUint256 vote.txHash ++ serializeOutPoint vote.outpoint ++
    serializeOutPoint vote.outpointMasternode)

def checkSignature : Bool :=
  match ctx.getMasternodeInfo vote.outpointMasternode with
  | none => false
  | some pubKeyMasternode =>
    !ctx.isSporkActive .SPORK_6_NEW_SIGS ||
      params.verifyHash (vote.getHash params) pubKeyMasternode vote.vchMasternodeSignature

def sign : Option CTxLockVote :=
  if ctx.isSporkActive .SPORK_6_NEW_SIGS then
    match ctx.signHash (vote.getHash params) with
    | none => none
    | some vchSig =>
      if params.verifyHash (vote.getHash params) ctx.pubKeyMasternode vchSig then
        some { vote with vchMasternodeSignature := vchSig }
      else none
  else some vote

def isTimedOut (time : Int) (vote : CTxLockVote) : Bool :=
  decide (INSTANTSEND_LOCK_TIMEOUT_SECONDS < time - vote.nTimeCreated)

end CTxLockVote

def lockRank (masternode : COutPoint) (coin : Coin) : Option Int :=
  ctx.getMasternodeRank masternode (coin.nHeight + params.nInstantSendConfirmationsRequired - 2)
    (max MIN_INSTANTSEND_PROTO_VERSION MIN_MASTERNODE_PAYMENT_PROTO_VERSION_2)

def CTxLockVote.isValid : Bool :=
  (ctx.getMasternodeInfo vote.outpointMasternode).isSome &&
    match ctx.getUTXOCoin vote.outpoint with
    | none => false
    | some coin =>
      match lockRank params ctx vote.outpointMasternode coin with
      | none => false
      | some nRank => !decide (SIGNATURES_TOTAL < nRank) && vote.checkSignature params ctx

structure COutPointLock where
  mapMasternodeVotes : Map COutPoint CTxLockVote
  fAttacked : Bool

namespace COutPointLock

def new : COutPointLock := ⟨∅, false⟩

variable (lock : COutPointLock)

def addVote (vote : CTxLockVote) : Option COutPointLock :=
  match lock.mapMasternodeVotes.lookup vote.outpointMasternode with
  | some _ => none
  | none => some { lock with
      mapMasternodeVotes := lock.mapMasternodeVotes.insert vote.outpointMasternode vote }

def hasMasternodeVoted (masternode : COutPoint) : Bool :=
  (lock.mapMasternodeVotes.lookup masternode).isSome

def countVotes : Nat :=
  if lock.fAttacked then 0 else lock.mapMasternodeVotes.keys.length

def isReady : Bool := !lock.fAttacked && decide (SIGNATURES_REQUIRED ≤ lock.countVotes)

def markAsAttacked : COutPointLock := { lock with fAttacked := true }

end COutPointLock

structure CTxLockCandidate where
  nConfirmedHeight : Int
  nTimeCreated : Int
  txLockRequest : CTxLockRequest
  mapOutPointLocks : Map COutPoint COutPointLock

variable (candidate : CTxLockCandidate)

namespace CTxLockCandidate

def new (time : Int) (request : CTxLockRequest) : CTxLockCandidate := ⟨-1, time, request, ∅⟩

def addOutPointLock (outpoint : COutPoint) : CTxLockCandidate :=
  { candidate with
    mapOutPointLocks := insertNew candidate.mapOutPointLocks outpoint .new }

def addOutPointLocks (vin : List CTxIn) : CTxLockCandidate :=
  vin.foldl (fun candidate txin => candidate.addOutPointLock txin.prevout) candidate

def markOutpointAsAttacked (outpoint : COutPoint) (candidate : CTxLockCandidate) :
    CTxLockCandidate :=
  { candidate with
    mapOutPointLocks := adjust candidate.mapOutPointLocks outpoint COutPointLock.markAsAttacked }

def addVote (candidate : CTxLockCandidate) (vote : CTxLockVote) : Option CTxLockCandidate :=
  match candidate.mapOutPointLocks.lookup vote.outpoint with
  | none => none
  | some lock => (lock.addVote vote).map fun lock =>
    { candidate with mapOutPointLocks := candidate.mapOutPointLocks.insert vote.outpoint lock }

def isAllOutPointsReady : Bool :=
  !candidate.mapOutPointLocks.keys.isEmpty &&
    candidate.mapOutPointLocks.keys.all fun outpoint =>
      (candidate.mapOutPointLocks.lookup outpoint).any (·.isReady)

def hasMasternodeVoted (candidate : CTxLockCandidate) (outpoint masternode : COutPoint) : Bool :=
  (candidate.mapOutPointLocks.lookup outpoint).any (·.hasMasternodeVoted masternode)

def isExpired (nHeight : Int) (candidate : CTxLockCandidate) : Bool :=
  heightExpired params candidate.nConfirmedHeight nHeight

def isTimedOut (time : Int) (candidate : CTxLockCandidate) : Bool :=
  decide (INSTANTSEND_LOCK_TIMEOUT_SECONDS < time - candidate.nTimeCreated)

end CTxLockCandidate

structure CInstantSend where
  nCachedBlockHeight : Int
  mapLockRequestAccepted : Map Uint256 CTxLockRequest
  mapLockRequestRejected : Map Uint256 CTxLockRequest
  mapTxLockVotes : Map Uint256 CTxLockVote
  mapTxLockVotesOrphan : Map Uint256 CTxLockVote
  mapTxLockCandidates : Map Uint256 CTxLockCandidate
  /-- A set of transaction hashes for each outpoint, in increasing order. -/
  mapVotedOutpoints : Map COutPoint (List Uint256)
  mapLockedOutpoints : Map COutPoint Uint256
  mapMasternodeOrphanVotes : Map COutPoint Int

def CInstantSend.empty : CInstantSend := ⟨0, ∅, ∅, ∅, ∅, ∅, ∅, ∅, ∅⟩

def insertHash (hashes : List Uint256) (txHash : Uint256) : List Uint256 :=
  if txHash ∈ hashes then hashes
  else hashes.orderedInsert (fun a b => Uint256.less a b = true) txHash

namespace CInstantSend

variable (params : LockParams) (ctx : LockContext) (state : CInstantSend)

variable (tx : CTransaction) (nHeightNew : Int) (voteHash : Uint256)

section

variable (txHash : Uint256)

def lockedInTables : Bool :=
  match state.mapTxLockCandidates.lookup txHash with
  | none => false
  | some candidate =>
    !candidate.mapOutPointLocks.keys.isEmpty &&
      candidate.mapOutPointLocks.keys.all fun outpoint =>
        decide (state.mapLockedOutpoints.lookup outpoint = some txHash)

def isLockedInstantSendTransaction : Bool :=
  ctx.fEnableInstantSend && !ctx.fLargeWorkFound &&
    ctx.isSporkActive .SPORK_3_INSTANTSEND_BLOCK_FILTERING && state.lockedInTables txHash

def alreadyHave (hash : Uint256) : Bool :=
  (state.mapLockRequestAccepted.lookup hash).isSome ||
    (state.mapLockRequestRejected.lookup hash).isSome || (state.mapTxLockVotes.lookup hash).isSome

def acceptLockRequest : CInstantSend :=
  { state with
    mapLockRequestAccepted := insertNew state.mapLockRequestAccepted (params.hashTx tx) (some tx) }

def rejectLockRequest : CInstantSend :=
  { state with
    mapLockRequestRejected := insertNew state.mapLockRequestRejected (params.hashTx tx) (some tx) }

/-- The entries for its outpoints go with it. The requests are looked up by the hash of its own
request. -/
def removeCandidate (candidate : CTxLockCandidate) : CInstantSend :=
  let outpoints := candidate.mapOutPointLocks.keys
  let requestHash := candidate.txLockRequest.getHash params
  { state with
    mapLockedOutpoints := outpoints.foldl (fun map outpoint => map.erase outpoint)
      state.mapLockedOutpoints
    mapVotedOutpoints := outpoints.foldl (fun map outpoint => map.erase outpoint)
      state.mapVotedOutpoints
    mapLockRequestAccepted := state.mapLockRequestAccepted.erase requestHash
    mapLockRequestRejected := state.mapLockRequestRejected.erase requestHash
    mapTxLockCandidates := state.mapTxLockCandidates.erase txHash }

def removeIfExpired : CInstantSend :=
  match state.mapTxLockCandidates.lookup txHash with
  | none => state
  | some candidate =>
    if candidate.isExpired params state.nCachedBlockHeight then
      state.removeCandidate params txHash candidate
    else state

end

def removeExpiredCandidates : CInstantSend :=
  (sortedKeys Uint256.less state.mapTxLockCandidates).foldl (removeIfExpired params) state

def removeOrphanIfTimedOut : CInstantSend :=
  match state.mapTxLockVotesOrphan.lookup voteHash with
  | none => state
  | some vote =>
    if vote.isTimedOut ctx.time then
      { state with
        mapTxLockVotes := state.mapTxLockVotes.erase voteHash
        mapTxLockVotesOrphan := state.mapTxLockVotesOrphan.erase voteHash }
    else state

def isFailed (vote : CTxLockVote) : Bool :=
  decide (INSTANTSEND_FAILED_TIMEOUT_SECONDS < ctx.time - vote.nTimeCreated) &&
    !state.isLockedInstantSendTransaction ctx vote.txHash

def removeVotes (discarded : CTxLockVote → Bool) (state : CInstantSend) : CInstantSend :=
  { state with mapTxLockVotes := eraseIf discarded state.mapTxLockVotes }

def removeOldVotes : CInstantSend :=
  let state := state.removeVotes fun vote =>
    heightExpired params vote.nConfirmedHeight state.nCachedBlockHeight
  let state := (sortedKeys Uint256.less state.mapTxLockVotesOrphan).foldl
    (removeOrphanIfTimedOut ctx) state
  let state := state.removeVotes (state.isFailed ctx)
  { state with
    mapMasternodeOrphanVotes :=
      eraseIf (fun expireTime => decide (expireTime < ctx.time)) state.mapMasternodeOrphanVotes }

def checkAndRemove : CInstantSend :=
  if !ctx.masternodeListSynced then state
  else (state.removeExpiredCandidates params).removeOldVotes params ctx

inductive Conflict where
  | none
  | lockedBy (hashConflicting : Uint256)
  | mempool

def findConflict (state : CInstantSend) (txHash : Uint256) : List CTxIn → Conflict
  | [] => .none
  | txin :: rest =>
    let lockedBy := (state.mapLockedOutpoints.lookup txin.prevout).filter (· ≠ txHash)
    match lockedBy, ctx.mapNextTx txin.prevout with
    | some hashConflicting, _ => .lockedBy hashConflicting
    | none, some hashConflicting =>
      if txHash = hashConflicting then findConflict state txHash rest else .mempool
    | none, none => findConflict state txHash rest

def setConfirmedHeight (txHash : Uint256) (nConfirmedHeight : Int) : CInstantSend :=
  { state with
    mapTxLockCandidates := adjust state.mapTxLockCandidates txHash
      fun candidate => { candidate with nConfirmedHeight } }

def dropBoth (txHash hashConflicting : Uint256) : CInstantSend :=
  match state.mapTxLockCandidates.lookup txHash,
      state.mapTxLockCandidates.lookup hashConflicting with
  | some candidate, some conflicting =>
    let state := (state.setConfirmedHeight txHash 0).setConfirmedHeight hashConflicting 0
    let state := state.checkAndRemove params ctx
    { state with
      mapLockRequestRejected :=
        insertNew (insertNew state.mapLockRequestRejected txHash candidate.txLockRequest)
          hashConflicting conflicting.txLockRequest }
  | _, _ => state

def resolveConflicts (candidate : CTxLockCandidate) : CInstantSend × Bool :=
  let txHash := candidate.txLockRequest.getHash params
  if !candidate.isAllOutPointsReady then (state, false)
  else
    match state.findConflict ctx txHash candidate.txLockRequest.vin with
    | .lockedBy hashConflicting => (state.dropBoth params ctx txHash hashConflicting, false)
    | .mempool => (state, false)
    | .none =>
      (state, ctx.includedInBlock txHash ||
        candidate.txLockRequest.vin.all fun txin => (ctx.getUTXOCoin txin.prevout).isSome)

def lockTransactionInputs (candidate : CTxLockCandidate) : CInstantSend :=
  if !ctx.isSporkActive .SPORK_2_INSTANTSEND_ENABLED then state
  else if !candidate.isAllOutPointsReady then state
  else
    { state with
      mapLockedOutpoints := candidate.mapOutPointLocks.keys.foldl
        (fun map outpoint => insertNew map outpoint (candidate.txLockRequest.getHash params))
        state.mapLockedOutpoints }

def tryToFinalizeLockCandidate (candidate : CTxLockCandidate) : CInstantSend :=
  if !ctx.isSporkActive .SPORK_2_INSTANTSEND_ENABLED then state
  else if candidate.isAllOutPointsReady && !state.isLockedInstantSendTransaction ctx
      (candidate.txLockRequest.getHash params) then
    match state.resolveConflicts params ctx candidate with
    | (state, true) => state.lockTransactionInputs params ctx candidate
    | (state, false) => state
  else state

def finalize : CInstantSend × Option CTxLockCandidate → CInstantSend
  | (state, none) => state
  | (state, some candidate) => state.tryToFinalizeLockCandidate params ctx candidate

/-- All inputs become tracked, unless the candidate had timed out while it was empty: then it keeps
its request and no outpoint. -/
def createTxLockCandidate : CInstantSend × Bool :=
  let txHash := params.hashTx tx
  if !lockRequestIsValid params ctx tx then (state, false)
  else
    match state.mapTxLockCandidates.lookup txHash with
    | none =>
      let candidate := (CTxLockCandidate.new ctx.time (some tx)).addOutPointLocks tx.vin
      ({ state with
          mapTxLockCandidates := state.mapTxLockCandidates.insert txHash candidate }, true)
    | some candidate =>
      if candidate.txLockRequest.isSet params then (state, true)
      else
        let candidate := { candidate with txLockRequest := some tx }
        if candidate.isTimedOut ctx.time then
          ({ state with
              mapTxLockCandidates := state.mapTxLockCandidates.insert txHash candidate }, false)
        else
          ({ state with
              mapTxLockCandidates := state.mapTxLockCandidates.insert txHash
                (candidate.addOutPointLocks tx.vin) }, true)

def createEmptyTxLockCandidate (txHash : Uint256) : CInstantSend :=
  { state with
    mapTxLockCandidates := insertNew state.mapTxLockCandidates txHash (.new ctx.time none) }

/-- Two votes of one masternode for one outpoint mark it as attacked in both candidates. -/
def markConflict (vote : CTxLockVote) (candidates : Map Uint256 CTxLockCandidate)
    (hash : Uint256) : Map Uint256 CTxLockCandidate :=
  if hash ≠ vote.txHash ∧ (candidates.lookup hash).any
      (·.hasMasternodeVoted vote.outpoint vote.outpointMasternode) then
    adjust (adjust candidates vote.txHash (·.markOutpointAsAttacked vote.outpoint))
      hash (·.markOutpointAsAttacked vote.outpoint)
  else candidates

def updateVotedOutpoints (vote : CTxLockVote) : CInstantSend :=
  let hashes := (state.mapVotedOutpoints.lookup vote.outpoint).getD []
  { state with
    mapTxLockCandidates := hashes.foldl (markConflict vote) state.mapTxLockCandidates
    mapVotedOutpoints :=
      state.mapVotedOutpoints.insert vote.outpoint (insertHash hashes vote.txHash) }

def addCandidateVote (vote : CTxLockVote) : CInstantSend × Bool :=
  let state := state.updateVotedOutpoints vote
  match (state.mapTxLockCandidates.lookup vote.txHash).bind (·.addVote vote) with
  | none => (state, false)
  | some candidate =>
    ({ state with
        mapTxLockCandidates := state.mapTxLockCandidates.insert vote.txHash candidate }, true)

def processOrphanTxLockVote (vote : CTxLockVote) : CInstantSend × Bool :=
  match state.mapTxLockCandidates.lookup vote.txHash with
  | none => (state, false)
  | some candidate =>
    if !candidate.txLockRequest.isSet params then (state, false)
    else if candidate.isTimedOut ctx.time then (state, false)
    else state.addCandidateVote vote

def processOrphan : CInstantSend :=
  match state.mapTxLockVotesOrphan.lookup voteHash with
  | none => state
  | some vote =>
    match state.processOrphanTxLockVote params ctx vote with
    | (state, true) =>
      { state with mapTxLockVotesOrphan := state.mapTxLockVotesOrphan.erase voteHash }
    | (state, false) => state

def processOrphanTxLockVotes : CInstantSend :=
  (sortedKeys Uint256.less state.mapTxLockVotesOrphan).foldl (processOrphan params ctx) state

def receiveTxLockRequest : CInstantSend × Option CTxLockCandidate :=
  match state.createTxLockCandidate params ctx tx with
  | (state, false) => (state, none)
  | (state, true) =>
    let state := state.processOrphanTxLockVotes params ctx
    (state, state.mapTxLockCandidates.lookup (params.hashTx tx))

def processTxLockRequest : CInstantSend :=
  finalize params ctx (state.receiveTxLockRequest params ctx tx)

def getAverageMasternodeOrphanVoteTime : Int :=
  let times := state.mapMasternodeOrphanVotes.entries.map (·.2)
  if times.isEmpty then 0 else times.sum / times.length

section

variable (candidates : Map Uint256 CTxLockCandidate) (outpoint masternode : COutPoint)

def trackMasternodeOrphan : CInstantSend :=
  let nMasternodeOrphanExpireTime := ctx.time + 60 * 10
  let refreshed := { state with
    mapMasternodeOrphanVotes :=
      state.mapMasternodeOrphanVotes.insert masternode nMasternodeOrphanExpireTime }
  match state.mapMasternodeOrphanVotes.lookup masternode with
  | none => refreshed
  | some expireTime =>
    if ctx.time < expireTime ∧ state.getAverageMasternodeOrphanVoteTime < expireTime then state
    else refreshed

def storeOrphanVote (vote : CTxLockVote) : CInstantSend :=
  let state := state.createEmptyTxLockCandidate ctx vote.txHash
  let state := { state with
    mapTxLockVotesOrphan := insertNew state.mapTxLockVotesOrphan (vote.getHash params) vote }
  state.trackMasternodeOrphan ctx vote.outpointMasternode

def receiveTxLockVote (vote : CTxLockVote) : CInstantSend × Option CTxLockCandidate :=
  if !vote.isValid params ctx then (state, none)
  else
    match state.mapTxLockCandidates.lookup vote.txHash with
    | none => (state.storeOrphanVote params ctx vote, none)
    | some candidate =>
      if !candidate.txLockRequest.isSet params then
        (state.storeOrphanVote params ctx vote, none)
      else if candidate.isTimedOut ctx.time then (state, none)
      else
        match state.addCandidateVote vote with
        | (state, false) => (state, none)
        | (state, true) => (state, state.mapTxLockCandidates.lookup vote.txHash)

def receiveMessage (vote : CTxLockVote) : CInstantSend × Option CTxLockCandidate :=
  if ctx.fLiteMode then (state, none)
  else if !ctx.isSporkActive .SPORK_2_INSTANTSEND_ENABLED then (state, none)
  else if ctx.peerVersion < MIN_INSTANTSEND_PROTO_VERSION then (state, none)
  else if !ctx.masternodeListSynced then (state, none)
  else
    let vote := { vote with nConfirmedHeight := -1, nTimeCreated := ctx.time }
    match state.mapTxLockVotes.lookup (vote.getHash params) with
    | some _ => (state, none)
    | none =>
      let state := { state with
        mapTxLockVotes := state.mapTxLockVotes.insert (vote.getHash params) vote }
      state.receiveTxLockVote params ctx vote

def processMessage (vote : CTxLockVote) : CInstantSend :=
  finalize params ctx (state.receiveMessage params ctx vote)

def confirmVote : CInstantSend :=
  { state with
    mapTxLockVotes := adjust state.mapTxLockVotes voteHash
      fun vote => { vote with nConfirmedHeight := nHeightNew } }

def candidateVoteHashes (candidate : CTxLockCandidate) : List Uint256 :=
  candidate.mapOutPointLocks.entries.flatMap fun entry =>
    entry.2.mapMasternodeVotes.entries.map fun vote => vote.2.getHash params

def confirmOrphanVote (state : CInstantSend) (voteHash : Uint256) : CInstantSend :=
  { state with
    mapTxLockVotes := state.mapTxLockVotes.insert voteHash
      { (state.mapTxLockVotes.lookup voteHash).getD ⟨0, ⟨0, 0xffffffff⟩, ⟨0, 0xffffffff⟩, [], -1,
          ctx.time⟩ with nConfirmedHeight := nHeightNew } }

def syncTransaction : CInstantSend :=
  if tx.isCoinBase then state
  else
    let txHash := params.hashTx tx
    let state := match state.mapTxLockCandidates.lookup txHash with
      | none => state
      | some candidate =>
        (candidateVoteHashes params candidate).foldl (confirmVote · nHeightNew ·)
          (state.setConfirmedHeight txHash nHeightNew)
    (state.mapTxLockVotesOrphan.entries.filter fun entry => entry.2.txHash = txHash).foldl
      (fun state entry => confirmOrphanVote ctx nHeightNew state entry.1) state

/-- The candidates are looked up without a test, so a missing one is undefined behaviour, here
`none`. -/
def alreadyVoted : List Uint256 → Option Bool
  | [] => some false
  | hash :: rest =>
    match candidates.lookup hash with
    | none => none
    | some candidate =>
      if candidate.hasMasternodeVoted outpoint masternode then some true
      else alreadyVoted rest

end

inductive OwnVote where
  | quit
  | skip
  | undefined
  /-- The vote was signed, and its signature then passed the check or not. -/
  | signed (vote : CTxLockVote) (checked : Bool)

variable (txHash : Uint256)

def ownVote (outpoint : COutPoint) : OwnVote :=
  match ctx.getUTXOCoin outpoint with
  | none => .quit
  | some coin =>
    match lockRank params ctx ctx.activeMasternode coin with
    | none => .skip
    | some nRank =>
      if SIGNATURES_TOTAL < nRank then .skip
      else
        match alreadyVoted state.mapTxLockCandidates outpoint ctx.activeMasternode
            ((state.mapVotedOutpoints.lookup outpoint).getD []) with
        | none => .undefined
        | some true => .skip
        | some false =>
          match CTxLockVote.sign params ctx
              ⟨txHash, outpoint, ctx.activeMasternode, [], -1, ctx.time⟩ with
          | none => .quit
          | some vote => .signed vote (vote.checkSignature params ctx)

/-- The vote is counted in the candidate at hand, which is a copy of the stored one. -/
def storeOwnVote (candidate : CTxLockCandidate) (vote : CTxLockVote) :
    CInstantSend × CTxLockCandidate :=
  let state := { state with
    mapTxLockVotes := insertNew state.mapTxLockVotes (vote.getHash params) vote }
  match candidate.addVote vote with
  | none => (state, candidate)
  | some candidate =>
    ({ state with
        mapVotedOutpoints := state.mapVotedOutpoints.insert vote.outpoint
          (insertHash ((state.mapVotedOutpoints.lookup vote.outpoint).getD []) vote.txHash) },
      candidate)

def ownVotes : CInstantSend → CTxLockCandidate → List CTxLockVote →
    List COutPoint → Option (CInstantSend × CTxLockCandidate × List CTxLockVote)
  | state, candidate, signed, [] => some (state, candidate, signed)
  | state, candidate, signed, outpoint :: rest =>
    match state.ownVote params ctx txHash outpoint with
    | .quit => some (state, candidate, signed)
    | .skip => ownVotes state candidate signed rest
    | .undefined => none
    | .signed vote false => some (state, candidate, signed ++ [vote])
    | .signed vote true =>
      let (state, candidate) := state.storeOwnVote params candidate vote
      ownVotes state candidate (signed ++ [vote]) rest

def voteCandidate (candidate : CTxLockCandidate) :
    Option (CInstantSend × CTxLockCandidate × List CTxLockVote) :=
  let txHash := candidate.txLockRequest.getHash params
  if !ctx.fMasternodeMode then some (state, candidate, [])
  else if !ctx.isSporkActive .SPORK_2_INSTANTSEND_ENABLED then some (state, candidate, [])
  else if (state.mapLockRequestAccepted.lookup txHash).isNone then some (state, candidate, [])
  else
    ownVotes params ctx txHash state candidate []
      (sortedKeys COutPoint.less candidate.mapOutPointLocks)

/-- `Vote` by hash up to the attempt to finalize. A copy of the stored candidate gets the votes. -/
def voteByHash : Option (CInstantSend × Option CTxLockCandidate × List CTxLockVote) :=
  match state.mapTxLockCandidates.lookup txHash with
  | none => some (state, none, [])
  | some candidate =>
    match state.voteCandidate params ctx candidate with
    | none => none
    | some (state, candidate, signed) => some (state, some candidate, signed)

end CInstantSend

inductive LockEvent where
  | lockRequest (ctx : LockContext) (tx : CTransaction)
  | mempoolAccepted (ctx : LockContext) (tx : CTransaction)
  | walletAccepted (tx : CTransaction)
  | rejected (tx : CTransaction)
  | lockVote (ctx : LockContext) (vote : CTxLockVote)
  | syncTransaction (ctx : LockContext) (tx : CTransaction) (nHeightNew : Int)
  | updatedBlockTip (nHeight : Int)
  | checkAndRemove (ctx : LockContext)

/-- The tables, with all votes the node has signed; `undefined` once a missing candidate has
been read. -/
structure InstantSendNode where
  tables : CInstantSend
  signed : List CTxLockVote
  undefined : Bool

namespace InstantSendNode

def initial : InstantSendNode := ⟨.empty, [], false⟩

def mempoolAccepted (node : InstantSendNode) (tx : CTransaction) : InstantSendNode :=
  if node.tables.alreadyHave (params.hashTx tx) then node
  else
    match (node.tables.acceptLockRequest params tx).voteByHash params ctx (params.hashTx tx) with
    | none => { node with undefined := true }
    | some (tables, candidate, signed) =>
      { node with
        tables := CInstantSend.finalize params ctx (tables, candidate)
        signed := node.signed ++ signed }

def event (params : LockParams) (node : InstantSendNode) (event : LockEvent) : InstantSendNode :=
  if node.undefined then node
  else
    match event with
    | .lockRequest ctx tx =>
      { node with tables := node.tables.processTxLockRequest params ctx tx }
    | .mempoolAccepted ctx tx => node.mempoolAccepted params ctx tx
    | .walletAccepted tx => { node with tables := node.tables.acceptLockRequest params tx }
    | .rejected tx => { node with tables := node.tables.rejectLockRequest params tx }
    | .lockVote ctx vote =>
      { node with tables := node.tables.processMessage params ctx vote }
    | .syncTransaction ctx tx nHeightNew =>
      { node with tables := node.tables.syncTransaction params ctx tx nHeightNew }
    | .updatedBlockTip nHeight =>
      { node with tables := { node.tables with nCachedBlockHeight := nHeight } }
    | .checkAndRemove ctx => { node with tables := node.tables.checkAndRemove params ctx }

end InstantSendNode

end Minerium
