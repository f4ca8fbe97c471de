import Minerium.ArrivalOrderCore
import Minerium.BlockPayeeCore

/-! Block assembly from `miner.cpp`. A mempool entry is known by its position in the order of the
hashes; comparisons of `double` values and the order by ancestor score are arbitrary. `none` is a
run without end or a failed assertion. -/

namespace Minerium

structure CTxMemPoolEntry where
  tx : CTransaction
  nFee : CAmount
  nModifiedFee : CAmount
  nTxSize : UInt64
  sigOpCount : UInt32
  nCountWithAncestors : UInt64
  nSizeWithAncestors : UInt64
  nModFeesWithAncestors : CAmount
  nSigOpCountWithAncestors : UInt32
  parents : List Nat
  children : List Nat
deriving DecidableEq

/-- The entries in the order of their hashes, each transaction once, and their positions by
ancestor score. -/
structure CTxMemPool where
  mapTx : List CTxMemPoolEntry
  ancestorScore : List Nat
  distinct : (mapTx.map (·.tx)).Nodup

structure CTxMemPoolModifiedEntry where
  iter : Nat
  nSizeWithAncestors : UInt64
  nModFeesWithAncestors : CAmount
  nSigOpCountWithAncestors : UInt32
deriving DecidableEq

structure MinerSettings where
  nBlockMaxSize : UInt64
  nSatoshisPerK : CAmount
  nBlockPrioritySize : UInt64
  fDIP0001ActiveAtTip : Bool
  compareModifiedEntry : CTxMemPoolModifiedEntry → CTxMemPoolModifiedEntry → Bool
  comparePriority : Nat → Nat → Bool
  allowFree : Nat → Bool

structure BlockAssembler where
  vtx : List CTransaction
  vTxFees : List CAmount
  vTxSigOps : List Int64
  nBlockSize : UInt64
  nBlockTx : UInt64
  nBlockSigOps : UInt32
  nFees : CAmount
  inBlock : List Nat
  lastFewTxs : Nat
  blockFinished : Bool
deriving DecidableEq

def noTransaction : CTransaction := { nVersion := 0, vin := [], vout := [], nLockTime := 0 }

def BlockAssembler.reset : BlockAssembler where
  vtx := [noTransaction]
  vTxFees := [-1]
  vTxSigOps := [-1]
  nBlockSize := 1000
  nBlockTx := 0
  nBlockSigOps := 100
  nFees := 0
  inBlock := []
  lastFewTxs := 0
  blockFinished := false

def setInsert (entry : Nat) (entries : List Nat) : List Nat :=
  if entry ∈ entries then entries else entries.orderedInsert (· ≤ ·) entry

def walkLinks (links : Nat → List Nat) : Nat → List Nat → List Nat → List Nat
  | 0, _, found => found
  | _ + 1, [], found => found
  | fuel + 1, it :: stage, found =>
    let found := setInsert it found
    walkLinks links fuel
      (((links it).filter fun next => decide (next ∉ found)).foldl (fun set next =>
        setInsert next set) stage) found

variable (pool : CTxMemPool)

namespace CTxMemPool

def parents (pool : CTxMemPool) (iter : Nat) : List Nat :=
  (pool.mapTx[iter]?.map (·.parents)).getD []

def children (pool : CTxMemPool) (iter : Nat) : List Nat :=
  (pool.mapTx[iter]?.map (·.children)).getD []

def calculateMemPoolAncestors (iter : Nat) : List Nat :=
  walkLinks pool.parents (pool.mapTx.length + 1) (pool.parents iter) []

def calculateDescendants (iter : Nat) : List Nat :=
  walkLinks pool.children (pool.mapTx.length + 1) [iter] []

end CTxMemPool

def getFee (nSatoshisPerK : CAmount) (nBytes : UInt64) : CAmount :=
  let nSize := nBytes.toInt64
  let nFee := nSatoshisPerK * nSize / 1000
  if nFee = 0 ∧ nSize ≠ 0 then
    if 0 < nSatoshisPerK then 1 else if nSatoshisPerK < 0 then -1 else nFee
  else nFee

def maxSigOps (settings : MinerSettings) : UInt32 :=
  UInt32.ofNat (maxBlockSigOps settings.fDIP0001ActiveAtTip)

namespace BlockAssembler

variable (assembler : BlockAssembler)

def addToBlock (iter : Nat) (entry : CTxMemPoolEntry) : BlockAssembler :=
  { assembler with
    vtx := assembler.vtx ++ [entry.tx]
    vTxFees := assembler.vTxFees ++ [entry.nFee]
    vTxSigOps := assembler.vTxSigOps ++ [Int64.ofNat entry.sigOpCount.toNat]
    nBlockSize := assembler.nBlockSize + entry.nTxSize
    nBlockTx := assembler.nBlockTx + 1
    nBlockSigOps := assembler.nBlockSigOps + entry.sigOpCount
    nFees := assembler.nFees + entry.nFee
    inBlock := setInsert iter assembler.inBlock }

def isStillDependent (pool : CTxMemPool) (iter : Nat) : Bool :=
  (pool.parents iter).any fun parent => decide (parent ∉ assembler.inBlock)

def onlyUnconfirmed (testSet : List Nat) : List Nat :=
  testSet.filter fun iter => decide (iter ∉ assembler.inBlock)

def testPackage (settings : MinerSettings) (packageSize : UInt64) (packageSigOps : UInt32) : Bool :=
  decide (assembler.nBlockSize + packageSize < settings.nBlockMaxSize) &&
    decide (assembler.nBlockSigOps + packageSigOps < maxSigOps settings)

def testForBlock (settings : MinerSettings) (nHeight : Nat) (nLockTimeCutoff : Int64)
    (entry : CTxMemPoolEntry) : Bool × BlockAssembler :=
  if settings.nBlockMaxSize ≤ assembler.nBlockSize + entry.nTxSize then
    if settings.nBlockMaxSize - 100 < assembler.nBlockSize ∨ 50 < assembler.lastFewTxs then
      (false, { assembler with blockFinished := true })
    else if settings.nBlockMaxSize - 1000 < assembler.nBlockSize then
      (false, { assembler with lastFewTxs := assembler.lastFewTxs + 1 })
    else (false, assembler)
  else if maxSigOps settings ≤ assembler.nBlockSigOps + entry.sigOpCount then
    if maxSigOps settings - 2 < assembler.nBlockSigOps then
      (false, { assembler with blockFinished := true })
    else (false, assembler)
  else (isFinalTx entry.tx nHeight nLockTimeCutoff, assembler)

end BlockAssembler

def testPackageTransactions (nHeight : Nat) (nLockTimeCutoff : Int64) (package : List Nat) : Bool :=
  package.all fun iter =>
    pool.mapTx[iter]?.all fun entry => isFinalTx entry.tx nHeight nLockTimeCutoff

def sortForBlock (package : List Nat) : List Nat :=
  let count (iter : Nat) : UInt64 := (pool.mapTx[iter]?.map (·.nCountWithAncestors)).getD 0
  package.insertionSort fun a b => count a < count b ∨ count a = count b ∧ a ≤ b

def CTxMemPoolEntry.modified (entry : CTxMemPoolEntry) (iter : Nat) : CTxMemPoolModifiedEntry :=
  ⟨iter, entry.nSizeWithAncestors, entry.nModFeesWithAncestors, entry.nSigOpCountWithAncestors⟩

def CTxMemPoolModifiedEntry.subtract (modified : CTxMemPoolModifiedEntry)
    (entry : CTxMemPoolEntry) (fee : CAmount) : CTxMemPoolModifiedEntry :=
  { modified with
    nSizeWithAncestors := modified.nSizeWithAncestors - entry.nTxSize
    nModFeesWithAncestors := modified.nModFeesWithAncestors - fee
    nSigOpCountWithAncestors := modified.nSigOpCountWithAncestors - entry.sigOpCount }

/-- A new modified entry takes off the modified fee of the ancestor, one that is there already
its base fee. -/
def updateDescendant (added descendant : CTxMemPoolEntry) (desc : Nat)
    (mapModifiedTx : List CTxMemPoolModifiedEntry) : List CTxMemPoolModifiedEntry :=
  if mapModifiedTx.any fun modified => decide (modified.iter = desc) then
    mapModifiedTx.map fun modified =>
      if modified.iter = desc then modified.subtract added added.nFee else modified
  else mapModifiedTx ++ [(descendant.modified desc).subtract added added.nModifiedFee]

def updatePackagesForAdded (alreadyAdded : List Nat)
    (mapModifiedTx : List CTxMemPoolModifiedEntry) : List CTxMemPoolModifiedEntry :=
  alreadyAdded.foldl (fun mapModifiedTx it =>
    (pool.calculateDescendants it).foldl (fun mapModifiedTx desc =>
      if desc ∈ alreadyAdded then mapModifiedTx
      else
        match pool.mapTx[it]?, pool.mapTx[desc]? with
        | some added, some descendant => updateDescendant added descendant desc mapModifiedTx
        | _, _ => mapModifiedTx) mapModifiedTx) mapModifiedTx

structure AssemblyContext where
  pool : CTxMemPool
  settings : MinerSettings
  nHeight : Nat
  nLockTimeCutoff : Int64

def bestOf {α : Type} (better : α → α → Bool) : List α → Option α
  | [] => none
  | first :: rest =>
    some (rest.foldl (fun best other => if better other best then other else best) first)

structure PriorityQueue where
  vecPriority : List Nat
  waitPriMap : List Nat

def PriorityQueue.release (queue : PriorityQueue) (children : List Nat) : PriorityQueue :=
  { vecPriority := queue.vecPriority ++ children.filter (· ∈ queue.waitPriMap)
    waitPriMap := queue.waitPriMap.filter (· ∉ children) }

def addPriorityLoop (ctx : AssemblyContext) :
    Nat → PriorityQueue → BlockAssembler → Option BlockAssembler
  | 0, _, _ => none
  | fuel + 1, queue, assembler =>
    match bestOf (fun a b => ctx.settings.comparePriority b a) queue.vecPriority with
    | none => some assembler
    | some iter =>
      let queue := { queue with vecPriority := queue.vecPriority.erase iter }
      if assembler.blockFinished then some assembler
      else if iter ∈ assembler.inBlock then none
      else if assembler.isStillDependent ctx.pool iter then
        addPriorityLoop ctx fuel
          { queue with waitPriMap := setInsert iter queue.waitPriMap } assembler
      else
        match ctx.pool.mapTx[iter]? with
        | none => none
        | some entry =>
          match assembler.testForBlock ctx.settings ctx.nHeight ctx.nLockTimeCutoff
              entry with
          | (false, assembler) => addPriorityLoop ctx fuel queue assembler
          | (true, assembler) =>
            let assembler := assembler.addToBlock iter entry
            if ctx.settings.nBlockPrioritySize ≤ assembler.nBlockSize ∨
                ctx.settings.allowFree iter = false then some assembler
            else
              addPriorityLoop ctx fuel (queue.release (ctx.pool.children iter)) assembler

variable (ctx : AssemblyContext)

def addPriorityTxs (fuel : Nat) (assembler : BlockAssembler) : Option BlockAssembler :=
  if ctx.settings.nBlockPrioritySize = 0 then some assembler
  else addPriorityLoop ctx fuel ⟨List.range ctx.pool.mapTx.length, []⟩ assembler

structure PackageLoop where
  mi : List Nat
  mapModifiedTx : List CTxMemPoolModifiedEntry
  failedTx : List Nat
  nConsecutiveFailed : Nat

def MAX_CONSECUTIVE_FAILURES : Nat := 1000

section

variable (loop : PackageLoop) (assembler : BlockAssembler)

def PackageLoop.skips (it : Nat) : Bool :=
  loop.mapModifiedTx.any (fun modified => decide (modified.iter = it)) ||
    decide (it ∈ assembler.inBlock) || decide (it ∈ loop.failedTx)

structure PackageCandidate where
  package : CTxMemPoolModifiedEntry
  fUsingModified : Bool

def nextPackage : Option (PackageCandidate × PackageLoop) :=
  let modit := bestOf ctx.settings.compareModifiedEntry loop.mapModifiedTx
  match loop.mi with
  | [] => modit.map fun package => (⟨package, true⟩, loop)
  | it :: rest =>
    match ctx.pool.mapTx[it]? with
    | none => none
    | some entry =>
      let package := entry.modified it
      match modit with
      | none => some (⟨package, false⟩, { loop with mi := rest })
      | some best =>
        if ctx.settings.compareModifiedEntry best package then some (⟨best, true⟩, loop)
        else some (⟨package, false⟩, { loop with mi := rest })

def PackageLoop.fail (candidate : PackageCandidate) : PackageLoop :=
  if candidate.fUsingModified then
    { loop with
      mapModifiedTx := loop.mapModifiedTx.filter fun modified =>
        decide (modified.iter ≠ candidate.package.iter)
      failedTx := setInsert candidate.package.iter loop.failedTx }
  else loop

def addEntries (sortedEntries : List Nat) : BlockAssembler :=
  sortedEntries.foldl (fun assembler iter =>
    match pool.mapTx[iter]? with
    | some entry => assembler.addToBlock iter entry
    | none => assembler) assembler

end

def addPackageLoop (ctx : AssemblyContext) :
    Nat → PackageLoop → BlockAssembler → Option BlockAssembler
  | 0, _, _ => none
  | fuel + 1, loop, assembler =>
    if loop.mi.isEmpty && loop.mapModifiedTx.isEmpty then some assembler
    else if loop.mi.head?.any (loop.skips assembler) then
      addPackageLoop ctx fuel { loop with mi := loop.mi.tail } assembler
    else
      match nextPackage ctx loop with
      | none => none
      | some (candidate, loop) =>
        let package := candidate.package
        if package.iter ∈ assembler.inBlock then none
        else if package.nModFeesWithAncestors <
            getFee ctx.settings.nSatoshisPerK package.nSizeWithAncestors then some assembler
        else if !assembler.testPackage ctx.settings package.nSizeWithAncestors
            package.nSigOpCountWithAncestors then
          if MAX_CONSECUTIVE_FAILURES < loop.nConsecutiveFailed + 1 ∧
              ctx.settings.nBlockMaxSize - 1000 < assembler.nBlockSize then some assembler
          else
            addPackageLoop ctx fuel
              { loop.fail candidate with nConsecutiveFailed := loop.nConsecutiveFailed + 1 }
              assembler
        else
          let ancestors := setInsert package.iter
            (assembler.onlyUnconfirmed (ctx.pool.calculateMemPoolAncestors package.iter))
          if !testPackageTransactions ctx.pool ctx.nHeight ctx.nLockTimeCutoff ancestors then
            addPackageLoop ctx fuel (loop.fail candidate) assembler
          else
            addPackageLoop ctx fuel
              { loop with
                nConsecutiveFailed := 0
                mapModifiedTx := updatePackagesForAdded ctx.pool ancestors
                  (loop.mapModifiedTx.filter fun modified => decide (modified.iter ∉ ancestors)) }
              (addEntries ctx.pool assembler (sortForBlock ctx.pool ancestors))

def addPackageTxs (fuel : Nat) (assembler : BlockAssembler) : Option BlockAssembler :=
  addPackageLoop ctx fuel
    { mi := ctx.pool.ancestorScore
      mapModifiedTx := updatePackagesForAdded ctx.pool assembler.inBlock []
      failedTx := []
      nConsecutiveFailed := 0 } assembler

structure CBlockTemplate where
  block : CBlock
  vTxFees : List CAmount
  vTxSigOps : List Int64
  txoutMasternode : CTxOut
  voutSuperblock : List CTxOut
deriving DecidableEq

structure MinerEnv (σ : Type) where
  connect : ConnectEnv σ
  services : ServiceEnv
  tip : TipContext
  settings : MinerSettings
  queue : Nat → Option CScript
  nVersion : Int32
  hashPrevBlock : Uint256
  needsMasternodeSync : Bool
  masternodeSyncFailed : Bool

inductive TemplateError where
  | syncFailed
  | notSynced
  | orderFailed
  | testFailed (failure : Failure)
deriving DecidableEq

def formatStateMessage (strRejectReason : String) (chRejectCode : Nat) : String :=
  s!"{strRejectReason} (code {chRejectCode})"

def TemplateError.what : TemplateError → String
  | syncFailed => "Masternode information has failed to sync, please restart your node!"
  | notSynced =>
    "Masternode information has not synced, please wait until it finishes before mining!"
  | orderFailed => "OrderBasedOnArrivalTime failed!"
  | testFailed (.invalid reject) => "CreateNewBlock: TestBlockValidity failed: " ++
      formatStateMessage reject.strRejectReason reject.chRejectCode
  | testFailed (.error _) => "CreateNewBlock: TestBlockValidity failed: " ++ formatStateMessage "" 0
  | testFailed (.exception what) => what

namespace MinerEnv

variable {σ : Type}

variable (env : MinerEnv σ)

def nHeight : Nat := env.tip.nHeight + 1

def context (pool : CTxMemPool) : AssemblyContext :=
  ⟨pool, env.settings, env.nHeight, env.tip.medianTimePast⟩

def selectTxs (pool : CTxMemPool) (fuel : Nat) : Option BlockAssembler :=
  (addPriorityTxs (env.context pool) fuel BlockAssembler.reset).bind
    (addPackageTxs (env.context pool) fuel)

def checkSync : Except TemplateError Unit :=
  if env.needsMasternodeSync && decide (1 < env.nHeight) then
    if env.masternodeSyncFailed then .error .syncFailed
    else if !env.connect.payment.masternodeSynced then .error .notSynced
    else .ok ()
  else .ok ()

def newBlock (vtx : List CTransaction) : LoadedBlock :=
  { nVersion := env.nVersion
    hashPrevBlock := env.hashPrevBlock
    hashMerkleRoot := 0
    nTime := (if env.tip.adjustedTime < env.tip.medianTimePast + 1 then env.tip.medianTimePast + 1
      else env.tip.adjustedTime).toUInt64.toUInt32
    nBits := env.tip.nextWorkRequired
    nNonce := 0
    auxpow := none
    vtx := vtx
    fChecked := false
    checkedSound := fun checked => by cases checked }

def testTemplate (block : LoadedBlock) (pcoinsTip : UtxoMap) (databases : σ) :
    Except TemplateError Unit :=
  match testBlockValidity env.connect env.tip block pcoinsTip databases with
  | .ok _ => .ok ()
  | .error failure => .error (.testFailed failure)

def finishTemplate (state : ServiceState) (pcoinsTip : UtxoMap) (databases : σ)
    (scriptPubKeyIn : CScript) (assembler : BlockAssembler) :
    Except TemplateError CBlockTemplate := do
  env.checkSync
  let payments := createCoinbase env.connect.payment env.queue scriptPubKeyIn env.nHeight
    assembler.nFees
  match orderBasedOnArrivalTime env.services state pcoinsTip env.nHeight
      (assembler.vtx.set 0 payments.txNew) with
  | none => .error .orderFailed
  | some vtx => do
      env.testTemplate (env.newBlock vtx) pcoinsTip databases
      return {
        block := (env.newBlock vtx).toCBlock
        vTxFees := assembler.vTxFees.set 0 (-assembler.nFees)
        vTxSigOps := assembler.vTxSigOps.set 0
          (Int64.ofNat ((vtx.head?.map legacySigOpCount).getD 0))
        txoutMasternode := payments.txoutMasternode
        voutSuperblock := payments.voutSuperblock }

def createNewBlock (pool : CTxMemPool) (state : ServiceState) (pcoinsTip : UtxoMap) (databases : σ)
    (scriptPubKeyIn : CScript) (fuel : Nat) : Option (Except TemplateError CBlockTemplate) :=
  (env.selectTxs pool fuel).map (env.finishTemplate state pcoinsTip databases scriptPubKeyIn)

end MinerEnv

end Minerium
