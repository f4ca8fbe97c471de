import Minerium.IndexCore
import Minerium.VerdictCore

/-! `ConnectBlock` and `DisconnectBlock` with the service databases and the optional indexes. The
outcome of every access to the disk is a parameter. -/

namespace Minerium

structure Databases where
  services : ServiceState
  indexes : Indexes

structure NodeEnv where
  connect : ConnectEnv Unit
  services : ServiceEnv
  hash160 : Bytes → Bytes
  flags : IndexFlags
  fLoaded : Bool

inductive DiskStep where
  | flush
  | undo
  | txIndex
  | addressIndex
  | addressUnspentIndex
  | spentIndex
  | timestampIndex
deriving DecidableEq

abbrev DiskOutcome := DiskStep → Option Failure

abbrev NodeProcedure := Procedure Databases Failure

variable (node : NodeEnv) (chain : ActiveChain) (disk : DiskOutcome) (block : CBlock)
  (nHeight : Nat) (fJustCheck : Bool) (pcoinsTip : UtxoMap)

def diskStep (step : DiskStep) (write : Indexes → Indexes) : NodeProcedure Unit :=
  match disk step with
  | some failure => .stop failure
  | none => .modify fun databases => { databases with indexes := write databases.indexes }

structure CoinsConnected where
  state : ConnectState
  entries : IndexEntries

variable {σ : Type} (env : ConnectEnv σ) (hash160 : Bytes → Bytes) (pos : CDiskBlockPos)

def connectTxsIndexed (nHeight : Nat) :
    Nat → List CTransaction → CoinsConnected → Except Failure CoinsConnected
  | _, [], connected => .ok connected
  | i, tx :: rest, connected => do
      let state ← connectTx env nHeight (decide (i = 0)) tx connected.state
      let entries := connected.entries.addTx env.toBlockEnv hash160 pos nHeight i tx
        connected.state.view
      connectTxsIndexed nHeight (i + 1) rest ⟨state, entries⟩

def connectCoins (block : LoadedBlock) (nHeight : Nat) (fJustCheck : Bool)
    (view : CCoinsViewCache) :
    Except Failure (Option CoinsConnected) := do
  require (decide (env.stopAtBlock = 0 ∨ nHeight ≤ env.stopAtBlock)) (.error "stopatblock")
  let _ ← checkBlock env.toBlockEnv block.toCBlock (!fJustCheck) (!fJustCheck)
  if blockHash env.toBlockEnv block.toCPureBlockHeader = env.hashGenesisBlock then
    return none
  else
    let view ← noOverwrite env.toBlockEnv view block.vtx
    let connected ← connectTxsIndexed env hash160 pos nHeight 0 block.vtx
      { state :=
          { view := view, nFees := 0, nSigOps := 0, scriptsPassed := true, vtxundo := [] }
        entries := .start block.vtx }
    require connected.state.scriptsPassed (.invalid ⟨100, 0, "", false⟩)
    return some connected

def throwIf : Option String → NodeProcedure Unit
  | some what => .stop (.exception what)
  | none => pure ()

/-- `CheckMineriumInputs` on a block.  The databases are flushed after every 200th block. -/
def checkMineriumInputs (ctx : BlockContext) (disk : DiskOutcome) (vtx : List CTransaction) :
    NodeProcedure Unit := do
  let what ← .read fun databases => blockException ctx vtx databases.services
  .modify fun databases =>
    { databases with services := connectServices ctx vtx databases.services }
  throwIf what
  diskStep disk .flush id

def NodeEnv.context (nHeight : Nat) : BlockContext := ⟨node.services, pcoinsTip, chain, nHeight⟩

def NodeEnv.runServices (vtx : List CTransaction) (nHeight : Nat) (fJustCheck : Bool)
    (pcoinsTip : UtxoMap) :
    NodeProcedure Unit :=
  if !node.fLoaded || fJustCheck then pure ()
  else checkMineriumInputs (node.context chain pcoinsTip nHeight) disk vtx

def writeWhen (kept : Bool) (write : NodeProcedure Unit) : NodeProcedure Unit :=
  if kept then write else pure ()

def NodeEnv.writeIndexes (entries : IndexEntries) : NodeProcedure Unit := do
  diskStep disk .undo id
  writeWhen node.flags.fTxIndex (diskStep disk .txIndex (·.writeTxIndex entries.vPos))
  writeWhen node.flags.fAddressIndex do
    diskStep disk .addressIndex (·.writeAddressIndex entries.addressIndex)
    diskStep disk .addressUnspentIndex (·.updateAddressUnspentIndex entries.addressUnspentIndex)
  writeWhen node.flags.fSpentIndex
    (diskStep disk .spentIndex (·.updateSpentIndex entries.spentIndex))
  writeWhen node.flags.fTimestampIndex (diskStep disk .timestampIndex (·.writeTimestampIndex
      ⟨block.nTime, blockHash node.connect.toBlockEnv block.toCPureBlockHeader⟩))

def blockReward (block : CBlock) (nHeight : Nat) (nFees : CAmount) : Check :=
  rewardFailure (block.vtx.head?.bind fun coinbase =>
    checkBlockReward env.payment coinbase nHeight nFees)

def NodeEnv.finishBlock (connected : CoinsConnected) : NodeProcedure Unit := do
  node.runServices chain disk block.vtx nHeight fJustCheck pcoinsTip
  .liftExcept (blockReward node.connect block nHeight connected.state.nFees)
  writeWhen (!fJustCheck) (node.writeIndexes disk block connected.entries)

def connectedResult (view : CCoinsViewCache) : Option CoinsConnected → ConnectResult Unit
  | none => ⟨view, 0, [], ()⟩
  | some connected => ⟨connected.state.view, connected.state.nFees, connected.state.vtxundo, ()⟩

def NodeEnv.connectBlock (block : LoadedBlock) (nHeight : Nat) (fJustCheck : Bool)
    (view : CCoinsViewCache) : NodeProcedure (ConnectResult Unit) := do
  let connected ← .liftExcept
    (connectCoins node.connect node.hash160 pos block nHeight fJustCheck view)
  match connected with
  | none => pure (connectedResult view none)
  | some coins => do
      node.finishBlock chain disk block.toCBlock nHeight fJustCheck view.base coins
      return connectedResult view (some coins)

def undoStep (step : DiskStep) (write : Indexes → Indexes) :
    Procedure Databases DisconnectFailure Unit :=
  match disk step with
  | some _ => .stop .DISCONNECT_FAILED
  | none => .modify fun databases => { databases with indexes := write databases.indexes }

def NodeEnv.eraseIndexes (entries : UndoEntries) : Procedure Databases DisconnectFailure Unit :=
  if node.flags.fAddressIndex then do
    undoStep disk .addressIndex (·.eraseAddressIndex entries.addressIndex)
    undoStep disk .addressUnspentIndex (·.updateAddressUnspentIndex entries.addressUnspentIndex)
  else pure ()

/-- `DisconnectBlock`: the services are not touched. -/
def NodeEnv.disconnectBlock (keys : PubKeyEnv) (disk : DiskOutcome) (block : CBlock) (nHeight : Nat)
    (file : Bytes) (hashPrev : Uint256) (view : CCoinsViewCache) :
    Procedure Databases DisconnectFailure (DisconnectResult × CCoinsViewCache) := do
  let vtxundo ← .orStop .DISCONNECT_FAILED (undoReadFromDisk keys node.connect.hash file hashPrev)
  let run ← .liftExcept (undoTxs node.connect.toBlockEnv node.hash160 nHeight block.vtx
    vtxundo ⟨⟨view, true⟩, .start⟩)
  node.eraseIndexes disk run.entries
  return (if run.state.fClean then .DISCONNECT_OK else .DISCONNECT_UNCLEAN, run.state.view)

def NodeEnv.servicesAfter (nHeight : Nat) (vtx : List CTransaction) (services : ServiceState) :
    ServiceState :=
  if node.fLoaded then connectServices (node.context chain pcoinsTip nHeight) vtx services
  else services

/-- All but the lists of one block and the conflicts, which are only kept in memory. -/
def ServiceState.records (state : ServiceState) : ServiceState :=
  { state.startBlock with
    tokens := { state.startBlock.tokens with assetAllocationConflicts := [] } }

def NodeEnv.connectEnv : ConnectEnv ServiceState where
  toBlockEnv := node.connect.toBlockEnv
  payment := node.connect.payment
  dip0001Height := node.connect.dip0001Height
  stopAtBlock := node.connect.stopAtBlock
  fScriptChecks := node.connect.fScriptChecks
  scriptThreads := node.connect.scriptThreads
  verifyScripts := node.connect.verifyScripts
  sequenceLocks := node.connect.sequenceLocks
  checkMineriumInputs := fun services pcoinsTip block nHeight fJustCheck =>
    some (if !node.fLoaded || fJustCheck then services
      else connectServices (node.context chain pcoinsTip nHeight) block.vtx services)

end Minerium
