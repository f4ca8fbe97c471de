import Minerium.Lib.Table
import Minerium.PaymentsCore
import Minerium.SerializeCore

/-! Spork messages from `spork.cpp`. The hash function and the check of a signature against a key id
are parameters. -/

namespace Minerium

open ByteCodec

def SporkId.number : SporkId → Int32
  | .SPORK_2_INSTANTSEND_ENABLED => 10001
  | .SPORK_3_INSTANTSEND_BLOCK_FILTERING => 10002
  | .SPORK_5_INSTANTSEND_MAX_VALUE => 10004
  | .SPORK_6_NEW_SIGS => 10005
  | .SPORK_8_MASTERNODE_PAYMENT_ENFORCEMENT => 10007
  | .SPORK_9_SUPERBLOCKS_ENABLED => 10008
  | .SPORK_10_MASTERNODE_PAY_UPDATED_NODES => 10009
  | .SPORK_12_RECONSIDER_BLOCKS => 10011
  | .SPORK_14_REQUIRE_SENTINEL_FLAG => 10013

def sporkIds : List SporkId :=
  [.SPORK_2_INSTANTSEND_ENABLED, .SPORK_3_INSTANTSEND_BLOCK_FILTERING,
    .SPORK_5_INSTANTSEND_MAX_VALUE, .SPORK_6_NEW_SIGS, .SPORK_8_MASTERNODE_PAYMENT_ENFORCEMENT,
    .SPORK_9_SUPERBLOCKS_ENABLED, .SPORK_10_MASTERNODE_PAY_UPDATED_NODES,
    .SPORK_12_RECONSIDER_BLOCKS, .SPORK_14_REQUIRE_SENTINEL_FLAG]

def sporkDefault (nSporkID : Int32) : Option Int64 :=
  (sporkIds.find? fun id => id.number = nSporkID).map mapSporkDefaults

structure CSporkMessage where
  vchSig : Bytes
  nSporkID : Int32
  nValue : Int64
  nTimeSigned : Int64
deriving DecidableEq

def CSporkMessage.getHash (hash : Bytes → Uint256) (spork : CSporkMessage) : Uint256 :=
  hash (leBytes 4 spork.nSporkID.toUInt32.toNat ++ leBytes 8 spork.nValue.toUInt64.toNat ++
    leBytes 8 spork.nTimeSigned.toUInt64.toNat)

structure CSporkManager where
  mapSporks : Finmap fun _ : Uint256 => CSporkMessage
  mapSporksActive : Table CSporkMessage.nSporkID
  /-- The static variable of `ExecuteSpork`. -/
  nTimeExecuted : Int64

def CSporkManager.initial : CSporkManager := ⟨∅, .empty, 0⟩

structure SporkKeys where
  hash : Bytes → Uint256
  verifyHash : Uint256 → Bytes → Bytes → Bool
  sporkPubKeyID : Bytes

structure SporkContext where
  fLiteMode : Bool
  hasTip : Bool
  time : Int64
  adjustedTime : Int64

inductive SporkOutcome where
  | disabled
  | noTip
  | seen
  | invalidSignature
  | accepted (reprocessBlocks : Option Int32)
deriving DecidableEq

namespace CSporkManager

def isActive (manager : CSporkManager) (adjustedTime : Int64) (nSporkID : Int32) : Bool :=
  let r := match manager.mapSporksActive.lookup nSporkID with
    | some spork => spork.nValue
    | none => (sporkDefault nSporkID).getD 4070908800
  decide (r < adjustedTime)

variable (keys : SporkKeys) (manager : CSporkManager)

def checkSignature (adjustedTime : Int64) (spork : CSporkMessage) : Bool :=
  !manager.isActive adjustedTime SporkId.SPORK_6_NEW_SIGS.number ||
    keys.verifyHash (spork.getHash keys.hash) keys.sporkPubKeyID spork.vchSig

def nMaxBlocks : Int64 := 1440
def nTimeout : Int64 := 10 * 60

/-- The number of blocks to reprocess, if any; the value arrives as an `int`. -/
def executeSpork (time : Int64) (nSporkID nValue : Int32) : CSporkManager × Option Int32 :=
  if nSporkID = SporkId.SPORK_12_RECONSIDER_BLOCKS.number ∧ 0 < nValue then
    if time - manager.nTimeExecuted < nTimeout then (manager, none)
    else if nMaxBlocks < nValue.toInt64 then (manager, none)
    else ({ manager with nTimeExecuted := time }, some nValue)
  else (manager, none)

def acceptSpork (hash : Bytes → Uint256) (manager : CSporkManager) (spork : CSporkMessage) :
    CSporkManager :=
  { manager with
    mapSporks := manager.mapSporks.insert (spork.getHash hash) spork
    mapSporksActive := manager.mapSporksActive.write spork }

def alreadySeen (spork : CSporkMessage) : Bool :=
  (manager.mapSporksActive.lookup spork.nSporkID).any
    fun active => decide (spork.nTimeSigned ≤ active.nTimeSigned)

def processSpork (ctx : SporkContext) (spork : CSporkMessage) : CSporkManager × SporkOutcome :=
  if ctx.fLiteMode then (manager, .disabled)
  else if !ctx.hasTip then (manager, .noTip)
  else if manager.alreadySeen spork then (manager, .seen)
  else if !manager.checkSignature keys ctx.adjustedTime spork then (manager, .invalidSignature)
  else
    let (manager, reprocess) := (manager.acceptSpork keys.hash spork).executeSpork ctx.time
      spork.nSporkID spork.nValue.toInt32
    (manager, .accepted reprocess)

structure SporkEvent where
  ctx : SporkContext
  spork : CSporkMessage

def event (message : SporkEvent) : CSporkManager :=
  (manager.processSpork keys message.ctx message.spork).1

end CSporkManager

end Minerium
