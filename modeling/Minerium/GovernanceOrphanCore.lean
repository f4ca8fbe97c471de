import Minerium.GovernanceVoteCore

/-! Orphans of the governance: votes and trigger objects of unknown masternodes. `Misbehaving`
adds a peer to the list of penalised ones. -/

namespace Minerium

open StdMap (Map)

namespace VotedObject

variable (params : GovernanceParams) (ctx : GovernanceContext)

def checkOrphanVote (object : VotedObject) (item : COutPoint × CGovernanceVote × Int64) :
    VotedObject :=
  let (key, pairVote) := item
  let expired := decide (pairVote.2 < ctx.adjustedTime)
  if !expired && (ctx.getMasternodeInfo pairVote.1.masternodeOutpoint).isNone then object
  else
    let (processed, result) := object.processVote params ctx pairVote.1
    if expired || result = .accepted then
      { processed with cmmapOrphanVotes := processed.cmmapOrphanVotes.erase key pairVote }
    else processed

def checkOrphanVotes (object : VotedObject) : VotedObject :=
  object.cmmapOrphanVotes.foldl (checkOrphanVote params ctx) object

end VotedObject

structure ExpirationInfo where
  nExpirationTime : Int64
  idFrom : Int64

/-- The constructor: its second parameter is an `int`. -/
def expirationInfo (nExpirationTime : Int64) (idFrom : Int32) : ExpirationInfo :=
  ⟨nExpirationTime, idFrom.toInt64⟩

inductive LocalValidity where
  | valid
  | masternodeMissing
  | confirmationsMissing
  | invalid
deriving DecidableEq

structure OrphanObject where
  govobj : VotedObject
  masternodeOutpoint : COutPoint
  info : ExpirationInfo

structure ObjectContext extends GovernanceContext where
  isValidLocally : Uint256 → LocalValidity
  addNewTrigger : Uint256 → Bool

structure ObjectManager where
  manager : CGovernanceManager
  mapMasternodeOrphanObjects : Map Uint256 OrphanObject
  mapMasternodeOrphanCounter : Map COutPoint Int32

/-- Messages are `dropped` for the version of the peer, the synchronisation, an unrequested,
postponed or erased object, or the rate. -/
inductive ObjectEvent where
  | message (ctx : ObjectContext) (dropped : Bool) (peer : Int64) (govobj : VotedObject)
      (masternodeOutpoint : COutPoint)
  | sweep (ctx : ObjectContext)

namespace ObjectManager

variable (params : GovernanceParams) (ctx : ObjectContext) (state : ObjectManager)

variable (peer : Int64) (govobj : VotedObject) (masternodeOutpoint : COutPoint)

def addObject : ObjectManager :=
  { state with
    manager := (state.manager.addGovernanceObject params ctx.toGovernanceContext govobj true
      (ctx.addNewTrigger govobj.hash)).1 }

def storeOrphan : ObjectManager :=
  let count := (state.mapMasternodeOrphanCounter.lookup masternodeOutpoint).getD 0
  if 10 ≤ count then
    { state with
      mapMasternodeOrphanCounter :=
        state.mapMasternodeOrphanCounter.insert masternodeOutpoint count }
  else
    let info := expirationInfo peer (ctx.adjustedTime + GOVERNANCE_ORPHAN_EXPIRATION_TIME).toInt32
    { state with
      mapMasternodeOrphanCounter :=
        state.mapMasternodeOrphanCounter.insert masternodeOutpoint (count + 1)
      mapMasternodeOrphanObjects := state.mapMasternodeOrphanObjects.insert govobj.hash
        ⟨govobj, masternodeOutpoint, info⟩ }

/-- `ProcessMessage` for a governance object, with the peers that it penalises. -/
def receiveObject : ObjectManager × List Int64 :=
  if (state.manager.mapObjects.lookup govobj.hash).isSome ||
      (state.mapMasternodeOrphanObjects.lookup govobj.hash).isSome then (state, [])
  else
    match ctx.isValidLocally govobj.hash with
    | .valid => (state.addObject params ctx govobj, [])
    | .masternodeMissing => (state.storeOrphan ctx peer govobj masternodeOutpoint, [])
    | .confirmationsMissing => (state, [])
    | .invalid => (state, [peer])

def dischargeOrphan (orphan : OrphanObject) : ObjectManager :=
  let counter := state.mapMasternodeOrphanCounter
  let count := (counter.lookup orphan.masternodeOutpoint).getD 0 - 1
  { state with
    mapMasternodeOrphanObjects := state.mapMasternodeOrphanObjects.erase orphan.govobj.hash
    mapMasternodeOrphanCounter :=
      if count = 0 then counter.erase orphan.masternodeOutpoint
      else counter.insert orphan.masternodeOutpoint count }

def checkOrphanObject (visited : ObjectManager × List Int64) (orphan : OrphanObject) :
    ObjectManager × List Int64 :=
  let (state, penalised) := visited
  if ctx.adjustedTime ≤ orphan.info.nExpirationTime then
    match ctx.isValidLocally orphan.govobj.hash with
    | .valid => ((state.addObject params ctx orphan.govobj).dischargeOrphan orphan, penalised)
    | .masternodeMissing => (state, penalised)
    | _ => (state.dischargeOrphan orphan, penalised)
  else (state.dischargeOrphan orphan, orphan.info.idFrom :: penalised)

def orphanObjects : List OrphanObject :=
  (StdMap.sortedKeys Uint256.less state.mapMasternodeOrphanObjects).filterMap
    state.mapMasternodeOrphanObjects.lookup

def checkMasternodeOrphanObjects : ObjectManager × List Int64 :=
  state.orphanObjects.foldl (checkOrphanObject params ctx) (state, [])

def event : ObjectEvent → ObjectManager
  | .message ctx dropped peer govobj masternodeOutpoint =>
    if dropped then state else (state.receiveObject params ctx peer govobj masternodeOutpoint).1
  | .sweep ctx => (state.checkMasternodeOrphanObjects params ctx).1

end ObjectManager

end Minerium
