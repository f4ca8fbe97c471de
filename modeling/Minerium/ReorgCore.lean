import Minerium.Ledger
import Minerium.NodeCore

/-! A node that connects blocks to its chain and disconnects them again. The abstract model is the
replay of a chain. -/

namespace Minerium

structure ChainBlock where
  block : CBlock
  undo : Bytes

structure ReorgEnv where
  node : NodeEnv
  keys : PubKeyEnv
  nTimeGenesis : UInt32

structure ChainNode where
  blocks : List ChainBlock
  coins : UtxoMap
  databases : Databases

def ChainNode.start : ChainNode := ⟨[], ∅, ⟨.empty, .empty⟩⟩

def ChainNode.chain (node : ChainNode) : List CBlock := node.blocks.map (·.block)

def unmarked (block : CBlock) : CBlock := { block with fChecked := false }

def activeChain (nTimeGenesis : UInt32) : List CBlock → ActiveChain
  | [] => ⟨nTimeGenesis, []⟩
  | tip :: earlier => ⟨tip.nTime, earlier.map (·.nTime) ++ [nTimeGenesis]⟩

def isGenesis (env : BlockEnv) (block : CBlock) : Bool :=
  decide (blockHash env block.toCPureBlockHeader = env.hashGenesisBlock)

variable (env : ReorgEnv)

def ReorgEnv.undoFile (block : CBlock) (vtxundo : List CTxUndo) : Bytes :=
  if isGenesis env.node.connect.toBlockEnv block then []
  else undoWriteToDisk env.keys env.node.connect.hash vtxundo block.hashPrevBlock

section

variable (node : ChainNode) (block : LoadedBlock) (pos : CDiskBlockPos) (disk : DiskOutcome)

/-- The coins of a failed block are dropped with their view; the databases stay written. -/
def ChainNode.connect : ChainNode :=
  match env.node.connectBlock (activeChain env.nTimeGenesis node.chain) disk pos block
      (node.blocks.length + 1) false (.atop node.coins) node.databases with
  | (.ok result, databases) =>
    { blocks := ⟨block.toCBlock, env.undoFile block.toCBlock result.vtxundo⟩ :: node.blocks
      coins := result.view.flush
      databases := databases }
  | (.error _, databases) => { node with databases := databases }

/-- Only a clean disconnection moves the tip. -/
def ChainNode.disconnect : ChainNode :=
  match node.blocks with
  | [] => node
  | tip :: earlier =>
    match env.node.disconnectBlock env.keys disk tip.block (earlier.length + 1) tip.undo
        tip.block.hashPrevBlock (.atop node.coins) node.databases with
    | (.ok (.DISCONNECT_OK, view), databases) => ⟨earlier, view.flush, databases⟩
    | (_, databases) => { node with databases := databases }

end

inductive ChainAction where
  | connect (block : LoadedBlock) (pos : CDiskBlockPos) (disk : DiskOutcome)
  | disconnect (disk : DiskOutcome)

def ChainNode.step (node : ChainNode) : ChainAction → ChainNode
  | .connect block pos disk => node.connect env block pos disk
  | .disconnect disk => node.disconnect env disk

def replayCoins (env : BlockEnv) : List CBlock → UtxoMap
  | [] => ∅
  | block :: earlier =>
    if isGenesis env block then replayCoins env earlier
    else
      ((Ledger.applyTxs (txHash env) (earlier.length + 1) (replayCoins env earlier)
        block.vtx).map (·.1)).getD (replayCoins env earlier)

def replayServices (env : ReorgEnv) : List CBlock → ServiceState
  | [] => .empty
  | block :: earlier =>
    if isGenesis env.node.connect.toBlockEnv block then replayServices env earlier
    else
      env.node.servicesAfter (activeChain env.nTimeGenesis earlier)
        (replayCoins env.node.connect.toBlockEnv earlier) (earlier.length + 1) block.vtx
        (replayServices env earlier)

end Minerium
