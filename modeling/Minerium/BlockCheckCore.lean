import Minerium.MerkleCore
import Minerium.PaymentsCore
import Minerium.SerializeCore

/-! Blocks and the context-free checks of `validation.cpp`. `BlockEnv` holds what the checks read
besides the block. -/

namespace Minerium

open ByteCodec

structure Reject where
  nDoS : Nat
  chRejectCode : Nat
  strRejectReason : String
  corruptionPossible : Bool
deriving DecidableEq

inductive Failure where
  | invalid (reject : Reject)
  | error (strMessage : String)
  | exception (what : String)
deriving DecidableEq

def REJECT_INVALID : Nat := 0x10

def dos (level : Nat) (reason : String) : Failure := .invalid ⟨level, REJECT_INVALID, reason, false⟩

def dosCorrupted (level : Nat) (reason : String) : Failure :=
  .invalid ⟨level, REJECT_INVALID, reason, true⟩

abbrev Check := Except Failure Unit

def require (condition : Bool) (failure : Failure) : Check :=
  if condition then .ok () else .error failure

structure CPureBlockHeader where
  nVersion : Int32
  hashPrevBlock : Uint256
  hashMerkleRoot : Uint256
  nTime : UInt32
  nBits : UInt32
  nNonce : UInt32
deriving DecidableEq

/-- The auxiliary proof of work is kept as its serialized bytes. -/
structure CBlockHeader extends CPureBlockHeader where
  auxpow : Option Bytes
deriving DecidableEq

structure CBlock extends CBlockHeader where
  vtx : List CTransaction
  fChecked : Bool
deriving DecidableEq

structure BlockEnv where
  hash : Bytes → Uint256
  prune : PruneEnv
  checkProofOfWork : CBlockHeader → Bool
  hashGenesisBlock : Uint256
  hashDevnetGenesisBlock : Uint256
  isSporkActive : SporkId → Bool
  getLockedOutPointTxHash : COutPoint → Option Uint256

def serializePureHeader (header : CPureBlockHeader) : Bytes :=
  leBytes 4 header.nVersion.toUInt32.toNat ++ serializeUint256 header.hashPrevBlock ++
    serializeUint256 header.hashMerkleRoot ++ leBytes 4 header.nTime.toNat ++
    leBytes 4 header.nBits.toNat ++ leBytes 4 header.nNonce.toNat

variable (env : BlockEnv)

def blockHash (header : CPureBlockHeader) : Uint256 := env.hash (serializePureHeader header)

def serializeBlock (env : PruneEnv) (block : CBlock) : Bytes :=
  serializePureHeader block.toCPureBlockHeader ++ block.auxpow.getD [] ++
    writeVector (serializeTx env .SER_NETWORK) block.vtx

def blockSize (env : PruneEnv) (block : CBlock) : Nat := (serializeBlock env block).length

variable (tx : CTransaction)

variable (block : CBlock) (fCheckPOW fCheckMerkleRoot : Bool)

def txHash : Uint256 := env.hash (serializeTx env.prune .SER_GETHASH tx)

def hashPair (left right : Uint256) : Uint256 :=
  env.hash (serializeUint256 left ++ serializeUint256 right)

def blockMerkleRoot (vtx : List CTransaction) : Uint256 × Bool :=
  computeMerkleRoot (hashPair env) (vtx.map (txHash env))

def MAX_LEGACY_BLOCK_SIZE : Nat := 10 * 1000 * 1000
def MAX_DIP0001_BLOCK_SIZE : Nat := 10 * 1000 * 1000
def MAX_STANDARD_TX_SIZE : Nat := 100000
def COINBASE_MATURITY : Int := 36

def maxBlockSize (fDIP0001Active : Bool) : Nat :=
  if fDIP0001Active then MAX_DIP0001_BLOCK_SIZE else MAX_LEGACY_BLOCK_SIZE

def maxBlockSigOps (fDIP0001Active : Bool) : Nat := maxBlockSize fDIP0001Active / 50

def checkOutputValues : CAmount → List CTxOut → Check
  | _, [] => .ok ()
  | nValueOut, txout :: rest =>
    if txout.nValue < 0 then .error (dos 100 "bad-txns-vout-negative")
    else if MAX_MONEY < txout.nValue then .error (dos 100 "bad-txns-vout-toolarge")
    else if !moneyRange (nValueOut + txout.nValue) then
      .error (dos 100 "bad-txns-txouttotal-toolarge")
    else checkOutputValues (nValueOut + txout.nValue) rest

def checkInputForm : Check :=
  if tx.isCoinBase then
    require (tx.vin.all fun txin =>
      decide (2 ≤ txin.scriptSig.length) && decide (txin.scriptSig.length ≤ 100))
      (dos 100 "bad-cb-length")
  else
    require (tx.vin.all fun txin => !txin.prevout.isNull) (dos 10 "bad-txns-prevout-null")

def checkTransaction (fCheckDuplicateInputs : Bool) : Check := do
  require (!tx.vin.isEmpty) (dos 10 "bad-txns-vin-empty")
  require (!tx.vout.isEmpty) (dos 10 "bad-txns-vout-empty")
  require (decide (txSize env.prune tx ≤ MAX_LEGACY_BLOCK_SIZE)) (dos 100 "bad-txns-oversize")
  checkOutputValues 0 tx.vout
  require (!fCheckDuplicateInputs || decide (tx.vin.map (·.prevout)).Nodup)
    (dos 100 "bad-txns-inputs-duplicate")
  checkInputForm tx

def checkBlockHeader (block : CBlockHeader) (fCheckPOW : Bool) : Check := do
  require (!fCheckPOW || env.checkProofOfWork block) (dos 50 "high-hash")
  require (decide (env.hashDevnetGenesisBlock = 0 ∨ block.hashPrevBlock ≠ env.hashGenesisBlock ∨
    blockHash env block.toCPureBlockHeader = env.hashDevnetGenesisBlock))
    (dos 100 "devnet-genesis")

def checkMerkleRoot : Check :=
  if !fCheckMerkleRoot then .ok ()
  else do
    let root := blockMerkleRoot env block.vtx
    require (decide (block.hashMerkleRoot = root.1)) (dosCorrupted 100 "bad-txnmrklroot")
    require (!root.2) (dosCorrupted 100 "bad-txns-duplicate")

def withinSizeLimits (env : PruneEnv) (block : CBlock) (nMaxBlockSize : Nat) : Bool :=
  !block.vtx.isEmpty && decide (block.vtx.length ≤ nMaxBlockSize) &&
    decide (blockSize env block ≤ nMaxBlockSize)

def checkCoinBasePosition : List CTransaction → Check
  | [] => .error (dos 100 "bad-cb-missing")
  | first :: rest => do
      require first.isCoinBase (dos 100 "bad-cb-missing")
      require (rest.all fun tx => !tx.isCoinBase) (dos 100 "bad-cb-multiple")

def conflictsWithLock : Bool :=
  !tx.isCoinBase && tx.vin.any fun txin =>
    match env.getLockedOutPointTxHash txin.prevout with
    | some hashLocked => decide (hashLocked ≠ txHash env tx)
    | none => false

def checkTransactions (env : BlockEnv) : List CTransaction → Check
  | [] => .ok ()
  | tx :: rest => do
      checkTransaction env tx true
      checkTransactions env rest

def blockSigOps (vtx : List CTransaction) : Nat := (vtx.map legacySigOpCount).sum

def checkBlockBody : Check := do
  checkBlockHeader env block.toCBlockHeader fCheckPOW
  checkMerkleRoot env block fCheckMerkleRoot
  require (withinSizeLimits env.prune block (maxBlockSize true)) (dos 100 "bad-blk-length")
  checkCoinBasePosition block.vtx
  require (!env.isSporkActive .SPORK_3_INSTANTSEND_BLOCK_FILTERING ||
    block.vtx.all fun tx => !conflictsWithLock env tx) (dos 100 "conflict-tx-lock")
  checkTransactions env block.vtx
  require (decide (blockSigOps block.vtx ≤ maxBlockSigOps true)) (dos 100 "bad-blk-sigops")

def checkBlock : Except Failure CBlock :=
  if block.fChecked then .ok block
  else do
    checkBlockBody env block fCheckPOW fCheckMerkleRoot
    return if fCheckPOW && fCheckMerkleRoot then { block with fChecked := true } else block

end Minerium
