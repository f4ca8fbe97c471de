import Minerium.NodeCore

/-! `CVerifyDB::VerifyDB`. What the node finds on the disk and in memory on the way is part of its
state. -/

namespace Minerium

inductive VerifyEnd where
  | passed
  | failed
  | exception
deriving DecidableEq

/-- The two times a block is read from the disk, its undo data, the outcome of its index writes, and
whether it was pruned, the coins fit into memory and a shutdown is requested. -/
structure VerifyBlock where
  block : Option LoadedBlock
  blockAgain : Option LoadedBlock
  undo : Option Bytes
  hashPrev : Uint256
  pos : CDiskBlockPos
  disk : DiskOutcome
  pruned : Bool
  fitsMemory : Bool
  shutdownRequested : Bool

structure VerifyEnv where
  node : NodeEnv
  keys : PubKeyEnv
  chain : ActiveChain
  blocks : List VerifyBlock

abbrev VerifyProcedure := Procedure Databases VerifyEnd

structure VerifyState where
  coins : CCoinsViewCache
  pindexState : Nat
  fFailure : Bool

def clampedDepth (nCheckDepth : Int) (height : Nat) : Nat :=
  let depth := if nCheckDepth ≤ 0 then 1000000000 else nCheckDepth.toNat
  if height < depth then height else depth

def clampedLevel (nCheckLevel : Int) : Int := max 0 (min 4 nCheckLevel)

variable (env : VerifyEnv)

variable (nCheckLevel : Int) (stored : VerifyBlock) (block : CBlock) (nHeight : Nat)
  (state : VerifyState)

def verifyUndo : Bool :=
  match stored.undo with
  | none => true
  | some file => (undoReadFromDisk env.keys env.node.connect.hash file stored.hashPrev).isSome

def ofDisconnect : DisconnectFailure → VerifyEnd
  | .DISCONNECT_FAILED => .failed
  | .exception => .exception

def ofConnect : Failure → VerifyEnd
  | .invalid _ => .failed
  | .error _ => .failed
  | .exception _ => .exception

def verifyDisconnect : VerifyProcedure VerifyState := do
  let file ← .orStop .failed stored.undo
  let (result, coins) ← .mapStop ofDisconnect
    (env.node.disconnectBlock env.keys stored.disk block nHeight file stored.hashPrev state.coins)
  return { coins := coins, pindexState := nHeight - 1
           fFailure := state.fFailure || decide (result = .DISCONNECT_UNCLEAN) }

/-- Level 3: the tip of the scratch view is disconnected, as long as the coins fit into memory. -/
def verifyTip : VerifyProcedure VerifyState :=
  if 3 ≤ nCheckLevel ∧ nHeight = state.pindexState ∧ stored.fitsMemory = true then
    verifyDisconnect env stored block nHeight state
  else pure state

def stopWhen (condition : Bool) (stopped : VerifyEnd) : VerifyProcedure Unit :=
  .require (!condition) stopped

/-- The loop from the tip down.  It leaves at the depth and at the first pruned block. -/
def verifyBlocks (env : VerifyEnv) (nCheckLevel : Int) (lowest : Nat) :
    List VerifyBlock → VerifyState → VerifyProcedure VerifyState
  | [], state => pure state
  | stored :: earlier, state =>
    if earlier.length + 1 < lowest ∨ stored.pruned = true then pure state
    else do
      let block ← .orStop .failed stored.block
      stopWhen (decide (1 ≤ nCheckLevel) &&
        !(checkBlock env.node.connect.toBlockEnv block.toCBlock true true).isOk) .failed
      stopWhen (decide (2 ≤ nCheckLevel) && !verifyUndo env stored) .failed
      let state ← verifyTip env nCheckLevel stored block.toCBlock (earlier.length + 1) state
      stopWhen stored.shutdownRequested .passed
      verifyBlocks env nCheckLevel lowest earlier state

def reconnectBlocks (env : VerifyEnv) :
    List (VerifyBlock × Nat) → CCoinsViewCache → VerifyProcedure Unit
  | [], _ => pure ()
  | (stored, nHeight) :: rest, coins => do
      let block ← .orStop .failed stored.blockAgain
      let result ← .mapStop ofConnect
        (env.node.connectBlock env.chain stored.disk stored.pos block nHeight false coins)
      reconnectBlocks env rest result.view

def VerifyEnv.disconnected (pindexState : Nat) : List (VerifyBlock × Nat) :=
  ((env.blocks.reverse.zipIdx 1).drop pindexState)

def verifyDB (coinsview : UtxoMap) (nCheckLevel nCheckDepth : Int) : VerifyProcedure Unit := do
  stopWhen env.blocks.isEmpty .passed
  let height := env.blocks.length
  let level := clampedLevel nCheckLevel
  let state ← verifyBlocks env level (height - clampedDepth nCheckDepth height) env.blocks
    ⟨.atop coinsview, height, false⟩
  stopWhen state.fFailure .failed
  if 4 ≤ level then reconnectBlocks env (env.disconnected state.pindexState) state.coins
  else pure ()

end Minerium
