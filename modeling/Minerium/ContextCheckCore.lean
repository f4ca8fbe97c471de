import Minerium.ConnectCore

/-! The checks of `validation.cpp` that read the block before, and `TestBlockValidity`. The required
work and the version bits are arbitrary. -/

namespace Minerium

def LOCKTIME_THRESHOLD : Int64 := 500000000

structure TipContext where
  nHeight : Nat
  isGenesis : Bool
  medianTimePast : Int64
  nextWorkRequired : UInt32
  csvActive : Bool
  adjustedTime : Int64
  regtest : Bool
  bip34Height : Nat
  fCheckpointsEnabled : Bool
  lastCheckpointHeight : Option Nat

variable (env : PruneEnv) (dip0001Height : Nat) (tip : TipContext) (block : CBlock)

def checkIndexAgainstCheckpoint : Check :=
  if !tip.fCheckpointsEnabled || tip.isGenesis then .ok ()
  else
    require (tip.lastCheckpointHeight.all fun nHeight => decide (nHeight ≤ tip.nHeight + 1))
      (.invalid ⟨100, 0, "", false⟩)

def CPureBlockHeader.blockTime (header : CPureBlockHeader) : Int64 := Int64.ofNat header.nTime.toNat

def contextualCheckBlockHeader (block : CBlockHeader) : Check := do
  require (decide (block.nBits = tip.nextWorkRequired)) (dos 100 "bad-diffbits")
  require (tip.regtest || decide (tip.medianTimePast < block.blockTime))
    (.invalid ⟨0, REJECT_INVALID, "time-too-old", false⟩)
  require (tip.regtest || decide (block.blockTime ≤ tip.adjustedTime + 2 * 60 * 60))
    (.invalid ⟨0, REJECT_INVALID, "time-too-new", false⟩)

def isFinalTx (tx : CTransaction) (nBlockHeight : Nat) (nBlockTime : Int64) : Bool :=
  let nLockTime := Int64.ofNat tx.nLockTime.toNat
  decide (tx.nLockTime = 0) || decide (nLockTime <
      if nLockTime < LOCKTIME_THRESHOLD then Int64.ofNat nBlockHeight else nBlockTime) ||
    tx.vin.all fun txin => decide (txin.nSequence = SEQUENCE_FINAL)

def scriptNumFrom : Nat → Nat → Bytes
  | 0, _ => []
  | _ + 1, 0 => []
  | bytes + 1, absvalue => UInt8.ofNat absvalue :: scriptNumFrom bytes (absvalue / 256)

def serializeScriptNum (value : Nat) : Bytes :=
  let result := scriptNumFrom 8 value
  if 0x80 ≤ (result.getLastD 0).toNat then result ++ [0] else result

def pushInt64 (n : Nat) : CScript :=
  if 1 ≤ n ∧ n ≤ 16 then [UInt8.ofNat (n + (OP_1 - 1))]
  else if n = 0 then [0]
  else UInt8.ofNat (serializeScriptNum n).length :: serializeScriptNum n

def lockTimeCutoff : Int64 :=
  if tip.csvActive then tip.medianTimePast else block.blockTime

variable (fDIP0001Active : Bool) (nHeight : Nat) (nLockTimeCutoff : Int64)

def contextualCheckTxs : List CTransaction → Check
  | [] => .ok ()
  | tx :: rest => do
      require (isFinalTx tx nHeight nLockTimeCutoff) (dos 10 "bad-txns-nonfinal")
      require (!fDIP0001Active || decide (txSize env tx ≤ MAX_STANDARD_TX_SIZE))
        (dos 10 "bad-txns-oversized")
      contextualCheckTxs rest

def startsWithHeight (vtx : List CTransaction) : Bool :=
  (pushInt64 nHeight).isPrefixOf
    (((vtx.head?.bind fun coinbase => coinbase.vin.head?).map (·.scriptSig)).getD [])

def contextualCheckBlock : Check := do
  let nHeight := tip.nHeight + 1
  let fDIP0001Active := decide (dip0001Height ≤ nHeight)
  require (withinSizeLimits env block (maxBlockSize fDIP0001Active)) (dos 10 "bad-blk-length")
  contextualCheckTxs env fDIP0001Active nHeight (lockTimeCutoff tip block) block.vtx
  require (decide (blockSigOps block.vtx ≤ maxBlockSigOps fDIP0001Active)) (dos 10 "bad-blk-sigops")
  require (decide (nHeight < tip.bip34Height) || startsWithHeight nHeight block.vtx)
    (dos 100 "bad-cb-height")

/-- `TestBlockValidity` without proof of work and without the Merkle root. -/
def testBlockValidity {σ : Type} (env : ConnectEnv σ) (tip : TipContext) (block : LoadedBlock)
    (pcoinsTip : UtxoMap) (services : σ) : Check := do
  checkIndexAgainstCheckpoint tip
  contextualCheckBlockHeader tip block.toCBlockHeader
  let _ ← checkBlock env.toBlockEnv block.toCBlock false false
  contextualCheckBlock env.prune env.dip0001Height tip block.toCBlock
  let _ ← connectBlock env block (tip.nHeight + 1) true (.atop pcoinsTip) services

end Minerium
