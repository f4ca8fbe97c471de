import Minerium.InstantSendCore

/-! Governance votes of an object and of `CGovernanceManager`. The caches of `cachemap.h` and
`cachemultimap.h` are lists with the newest item first. -/

namespace Minerium

open ByteCodec

open StdMap (Map)

def MAX_SUPPORTED_VOTE_SIGNAL : Nat := 4
def GOVERNANCE_UPDATE_MIN : Int64 := 3600
def GOVERNANCE_ORPHAN_EXPIRATION_TIME : Int64 := 600
def MAX_CACHE_SIZE : Nat := 1000000

structure CGovernanceVote where
  masternodeOutpoint : COutPoint
  nParentHash : Uint256
  nVoteSignal : Int32
  nVoteOutcome : Int32
  nTime : Int64
  vchSig : Bytes
deriving DecidableEq

structure GovernanceParams where
  hash : Bytes → Uint256
  verifyHash : Uint256 → Bytes → Bytes → Bool

structure GovernanceContext where
  getMasternodeInfo : COutPoint → Option Bytes
  adjustedTime : Int64
  newSigs : Bool
  fRateChecksEnabled : Bool

variable (params : GovernanceParams) (ctx : GovernanceContext)

namespace CGovernanceVote

variable (vote : CGovernanceVote)

/-- `vote_signal_enum_t` has no negative values. -/
def getSignal : Nat := vote.nVoteSignal.toUInt32.toNat

def getHash : Uint256 :=
  params.hash (serializeOutPoint vote.masternodeOutpoint ++ serializeUint256 vote.nParentHash ++
    leBytes 4 vote.nVoteSignal.toUInt32.toNat ++
    leBytes 4 vote.nVoteOutcome.toUInt32.toNat ++
    leBytes 8 vote.nTime.toUInt64.toNat)

def getSignatureHash : Uint256 :=
  params.hash (serializeOutPoint vote.masternodeOutpoint ++ serializeUint256 vote.nParentHash ++
    leBytes 4 vote.nVoteOutcome.toUInt32.toNat ++
    leBytes 4 vote.nVoteSignal.toUInt32.toNat ++
    leBytes 8 vote.nTime.toUInt64.toNat)

def signedBy (pubKeyMasternode : Bytes) : Bool :=
  params.verifyHash (vote.getSignatureHash params) pubKeyMasternode vote.vchSig

def checkSignature (pubKeyMasternode : Bytes) : Bool :=
  !ctx.newSigs || vote.signedBy params pubKeyMasternode

def isValid : Bool :=
  !decide (ctx.adjustedTime + 3600 < vote.nTime) &&
    !decide ((MAX_SUPPORTED_VOTE_SIGNAL : Int) < vote.nVoteSignal.toInt) &&
    !decide (3 < vote.nVoteOutcome.toInt) &&
    (ctx.getMasternodeInfo vote.masternodeOutpoint).any (vote.checkSignature params ctx)

/-- `operator<` as it is written: a smaller masternode is to be equal as well. -/
def less (vote1 vote2 : CGovernanceVote) : Bool :=
  vote1.masternodeOutpoint.less vote2.masternodeOutpoint &&
    decide (vote1.masternodeOutpoint = vote2.masternodeOutpoint) &&
    Uint256.less vote1.nParentHash vote2.nParentHash &&
    decide (vote1.nParentHash = vote2.nParentHash) &&
    decide (vote1.nVoteOutcome < vote2.nVoteOutcome) &&
    decide (vote1.nVoteOutcome = vote2.nVoteOutcome) &&
    decide (vote1.nVoteSignal = vote2.nVoteSignal) && decide (vote1.nTime < vote2.nTime)

end CGovernanceVote

namespace VoteTimePair

/-- The operator of `governance-object.h`, found before that of `std::pair`. -/
def less (a b : CGovernanceVote × Int64) : Bool := a.1.less b.1

def equivalent (a b : CGovernanceVote × Int64) : Bool := !less a b && !less b a

end VoteTimePair

section

variable {κ : Type} [DecidableEq κ]

def pruneLast {α : Type} (nMaxSize : Nat) (items : List α) : List α :=
  if items.length = nMaxSize then items.dropLast else items

def cacheInsert (nMaxSize : Nat) (keys : List κ) (key : κ) : List κ :=
  if key ∈ keys then keys else key :: pruneLast nMaxSize keys

abbrev OrphanVotes (κ : Type) := List (κ × CGovernanceVote × Int64)

variable (nMaxSize : Nat) (items : OrphanVotes κ) (key : κ) (value : CGovernanceVote × Int64)

def OrphanVotes.insert : OrphanVotes κ :=
  if items.any fun item => decide (item.1 = key) && VoteTimePair.equivalent item.2 value then items
  else (key, value) :: pruneLast nMaxSize items

def OrphanVotes.getAll : List (CGovernanceVote × Int64) :=
  ((items.filter (·.1 = key)).map Prod.snd).insertionSort fun a b => VoteTimePair.less b a = false

def OrphanVotes.erase : OrphanVotes κ :=
  items.eraseP fun item => decide (item.1 = key) && VoteTimePair.equivalent item.2 value

end

structure VoteInstance where
  eOutcome : Int32 := 0
  nTime : Int64 := 0
  nCreationTime : Int64 := 0
deriving DecidableEq

/-- What votes read and change. The records of the masternodes are one map, keyed by masternode and
signal. -/
structure VotedObject where
  hash : Uint256
  fCachedDelete : Bool
  fExpired : Bool
  mapCurrentMNVotes : Finmap fun _ : COutPoint × Nat => VoteInstance
  cmmapOrphanVotes : OrphanVotes COutPoint
  fileVotes : List CGovernanceVote

inductive VoteResult where
  | alreadyKnown
  | masternodeNotFound
  | signalNone
  | unsupportedSignal
  | obsolete
  | votingTooOften
  | invalid
  | accepted
deriving DecidableEq

namespace VotedObject

variable (object : VotedObject)

def instanceOf (key : COutPoint × Nat) : VoteInstance :=
  (object.mapCurrentMNVotes.lookup key).getD {}

def setInstance (key : COutPoint × Nat) (voteInstance : VoteInstance) : VotedObject :=
  { object with mapCurrentMNVotes := object.mapCurrentMNVotes.insert key voteInstance }

def judgeVote (vote : CGovernanceVote) : VotedObject × VoteResult :=
  let key := (vote.masternodeOutpoint, vote.getSignal)
  let found := object.instanceOf key
  let emplaced := object.setInstance key found
  if vote.nTime < found.nCreationTime then (emplaced, .obsolete)
  else if ctx.fRateChecksEnabled && decide (ctx.adjustedTime - found.nTime < GOVERNANCE_UPDATE_MIN)
  then (emplaced, .votingTooOften)
  else if !vote.isValid params ctx then (emplaced, .invalid)
  else
    ({ object.setInstance key ⟨vote.nVoteOutcome, found.nTime, vote.nTime⟩ with
        fileVotes := vote :: object.fileVotes }, .accepted)

def hasVote (nHash : Uint256) : Bool :=
  object.fileVotes.any fun vote => decide (vote.getHash params = nHash)

def processVote (vote : CGovernanceVote) : VotedObject × VoteResult :=
  if object.hasVote params (vote.getHash params) then (object, .alreadyKnown)
  else if (ctx.getMasternodeInfo vote.masternodeOutpoint).isNone then
    ({ object with
        cmmapOrphanVotes := object.cmmapOrphanVotes.insert 0 vote.masternodeOutpoint
          (vote, ctx.adjustedTime + GOVERNANCE_ORPHAN_EXPIRATION_TIME) }, .masternodeNotFound)
  else if vote.getSignal = 0 then (object, .signalNone)
  else if MAX_SUPPORTED_VOTE_SIGNAL < vote.getSignal then (object, .unsupportedSignal)
  else object.judgeVote params ctx vote

def countMatchingVotes (eVoteSignalIn : Nat) (eVoteOutcomeIn : Int32) : Nat :=
  (object.mapCurrentMNVotes.keys.filter fun key => key.2 = eVoteSignalIn ∧
    (object.instanceOf key).eOutcome = eVoteOutcomeIn).card

end VotedObject

structure CGovernanceManager where
  mapObjects : Map Uint256 VotedObject
  cmapVoteToObject : List Uint256
  cmapInvalidVotes : List Uint256
  cmmapOrphanVotes : OrphanVotes Uint256

namespace CGovernanceManager

variable (params : GovernanceParams) (ctx : GovernanceContext) (manager : CGovernanceManager)

def addInvalidVote (vote : CGovernanceVote) : CGovernanceManager :=
  { manager with
    cmapInvalidVotes := cacheInsert MAX_CACHE_SIZE manager.cmapInvalidVotes (vote.getHash params) }

def afterVote (vote : CGovernanceVote) : VoteResult → CGovernanceManager
  | .accepted => { manager with
      cmapVoteToObject := cacheInsert MAX_CACHE_SIZE manager.cmapVoteToObject
        (vote.getHash params) }
  | .invalid => manager.addInvalidVote params vote
  | _ => manager

def processVote (manager : CGovernanceManager) (vote : CGovernanceVote) :
    CGovernanceManager × Bool :=
  if vote.getHash params ∈ manager.cmapVoteToObject then (manager, false)
  else if vote.getHash params ∈ manager.cmapInvalidVotes then (manager, false)
  else
    match manager.mapObjects.lookup vote.nParentHash with
    | none =>
      ({ manager with
          cmmapOrphanVotes := manager.cmmapOrphanVotes.insert MAX_CACHE_SIZE vote.nParentHash
            (vote, ctx.adjustedTime + GOVERNANCE_ORPHAN_EXPIRATION_TIME) }, false)
    | some govobj =>
      if govobj.fCachedDelete || govobj.fExpired then (manager, false)
      else
        let (object, result) := govobj.processVote params ctx vote
        let stored := { manager with
          mapObjects := manager.mapObjects.insert vote.nParentHash object }
        (stored.afterVote params vote result, result = .accepted)

def checkOrphanVote (nHash : Uint256) (state : CGovernanceManager × VotedObject)
    (pairVote : CGovernanceVote × Int64) : CGovernanceManager × VotedObject :=
  let (manager, govobj) := state
  let removed := { manager with
    cmmapOrphanVotes := manager.cmmapOrphanVotes.erase nHash pairVote }
  if pairVote.2 < ctx.adjustedTime then (removed, govobj)
  else
    match govobj.processVote params { ctx with fRateChecksEnabled := false } pairVote.1 with
    | (object, .accepted) => (removed, object)
    | (object, .invalid) => (manager.addInvalidVote params pairVote.1, object)
    | (object, _) => (manager, object)

def checkOrphanVotes (govobj : VotedObject) : CGovernanceManager × VotedObject :=
  (manager.cmmapOrphanVotes.getAll govobj.hash).foldl (checkOrphanVote params ctx govobj.hash)
    (manager, govobj)

/-- `fValidLocally` is the answer of `IsValidLocally`, `fTriggerAdded` is false for a trigger that
`AddNewTrigger` refuses. The orphan votes change the caller's object, not the stored copy. -/
def addGovernanceObject (govobj : VotedObject)
    (fValidLocally fTriggerAdded : Bool) : CGovernanceManager × VotedObject :=
  if !fValidLocally || (manager.mapObjects.lookup govobj.hash).isSome then (manager, govobj)
  else if !fTriggerAdded then
    ({ manager with
        mapObjects := manager.mapObjects.insert govobj.hash { govobj with fCachedDelete := true } },
      govobj)
  else
    let stored := { manager with mapObjects := manager.mapObjects.insert govobj.hash govobj }
    stored.checkOrphanVotes params ctx govobj

end CGovernanceManager

end Minerium
