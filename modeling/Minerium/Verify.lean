import Minerium.RejectedBlocks
import Minerium.Undoing
import Minerium.VerifyCore

/-! Which verifications of the databases only read. The scratch view keeps only the coins apart.
-/

namespace Minerium

open Procedure

open Procedure (Frame Keeps)

variable {env : VerifyEnv} {nCheckLevel level nCheckDepth : Int} {flags : IndexFlags}
  {fLoaded : Bool} {disk : DiskOutcome} {block : CBlock} {view : CCoinsViewCache}
  {pcoinsTip coinsview : UtxoMap} {state : VerifyState} {node : NodeEnv} {chain : ActiveChain}

def untouched : Frame Databases where
  good := fun _ => True
  rel := fun before after => after = before
  refl := fun _ => rfl
  trans := fun first second => second.trans first

variable {nHeight : Nat}

theorem disconnectBlock_untouched (unindexed : node.flags.fAddressIndex = false)
    {keys : PubKeyEnv} {file : Bytes} {hashPrev : Uint256} : Keeps untouched
      (node.disconnectBlock keys disk block nHeight file hashPrev view) fun _ => True := by
  refine (Keeps.orStop _ _).bind fun vtxundo _ => ?_
  refine (Keeps.liftExcept _).bind fun run _ => ?_
  have nothing : node.eraseIndexes disk run.entries = pure () := by
    simp [NodeEnv.eraseIndexes, unindexed]
  rw [nothing]
  exact fun _ good => ⟨good, rfl, trivial⟩

def noIndexes : IndexFlags := ⟨false, false, false, false⟩

theorem diskStep_untouched {step : DiskStep} :
    Keeps untouched (diskStep disk step id) fun _ => True := by
  unfold diskStep
  cases disk step with
  | none => exact .modify fun _ _ => ⟨trivial, rfl⟩
  | some failure => exact fun _ good => ⟨good, rfl⟩

theorem writeWhen_untouched {kept : Bool} (off : kept = false) {write : NodeProcedure Unit} :
    Keeps untouched (writeWhen kept write) fun _ => True := by
  subst off
  exact fun _ good => ⟨good, rfl, trivial⟩

theorem writeIndexes_untouched (unindexed : node.flags = noIndexes) {entries : IndexEntries} :
    Keeps untouched (node.writeIndexes disk block entries) fun _ => True := by
  refine diskStep_untouched.bind fun _ _ => ?_
  refine (writeWhen_untouched (by rw [unindexed]; rfl)).bind fun _ _ => ?_
  refine (writeWhen_untouched (by rw [unindexed]; rfl)).bind fun _ _ => ?_
  refine (writeWhen_untouched (by rw [unindexed]; rfl)).bind fun _ _ => ?_
  exact writeWhen_untouched (by rw [unindexed]; rfl)

theorem runServices_untouched (unloaded : node.fLoaded = false) {vtx : List CTransaction} :
    Keeps untouched (node.runServices chain disk vtx nHeight false pcoinsTip) fun _ => True := by
  have nothing : node.runServices chain disk vtx nHeight false pcoinsTip = pure () := by
    simp [NodeEnv.runServices, unloaded]
  rw [nothing]
  exact fun _ good => ⟨good, rfl, trivial⟩

theorem finishBlock_untouched (unindexed : node.flags = noIndexes) (unloaded : node.fLoaded = false)
    {connected : CoinsConnected} : Keeps untouched
      (node.finishBlock chain disk block nHeight false pcoinsTip connected) fun _ => True := by
  refine (runServices_untouched unloaded).bind fun _ _ => ?_
  refine (Keeps.liftExcept _).bind fun _ _ => ?_
  exact writeIndexes_untouched unindexed

theorem connectBlock_untouched (unindexed : node.flags = noIndexes)
    (unloaded : node.fLoaded = false) (chain : ActiveChain) (pos : CDiskBlockPos)
    (block : LoadedBlock) (nHeight : Nat) :
    Keeps untouched (node.connectBlock chain disk pos block nHeight false view) fun _ => True := by
  refine (Keeps.liftExcept _).bind fun connected _ => ?_
  cases connected with
  | none => exact .pure trivial
  | some coins => exact (finishBlock_untouched unindexed unloaded).bind fun _ _ => .pure trivial

theorem verifyDisconnect_untouched (unindexed : env.node.flags.fAddressIndex = false)
    (stored : VerifyBlock) (nHeight : Nat) :
    Keeps untouched (verifyDisconnect env stored block nHeight state) fun _ => True := by
  refine (Keeps.orStop _ _).bind fun file _ => ?_
  refine ((disconnectBlock_untouched unindexed).mapStop ofDisconnect).bind fun outcome _ => ?_
  exact .pure trivial

theorem verifyBlocks_untouched {lowest : Nat}
    (unindexed : 3 ≤ nCheckLevel → env.node.flags.fAddressIndex = false) {blocks : List VerifyBlock}
    (state : VerifyState) :
    Keeps untouched (verifyBlocks env nCheckLevel lowest blocks state) fun _ => True := by
  induction blocks generalizing state with
  | nil => exact .pure trivial
  | cons stored earlier ih =>
    unfold verifyBlocks
    refine .ite (fun _ => .pure trivial) fun _ => ?_
    refine (Keeps.orStop _ _).bind fun block _ => ?_
    refine (Keeps.require _ _).bind fun _ _ => ?_
    refine (Keeps.require _ _).bind fun _ _ => ?_
    have level : Keeps untouched
        (verifyTip env nCheckLevel stored block.toCBlock (earlier.length + 1) state)
        fun _ => True :=
      Keeps.ite (fun reached => verifyDisconnect_untouched (unindexed reached.1) stored _)
        fun _ => .pure trivial
    refine level.bind fun next _ => ?_
    exact (Keeps.require _ _).bind fun _ _ => ih next

theorem reconnectBlocks_untouched (unindexed : env.node.flags = noIndexes)
    (unloaded : env.node.fLoaded = false) {blocks : List (VerifyBlock × Nat)}
    (coins : CCoinsViewCache) :
    Keeps untouched (reconnectBlocks env blocks coins) fun _ => True := by
  induction blocks generalizing coins with
  | nil => exact .pure trivial
  | cons stored rest ih =>
    refine (Keeps.orStop _ _).bind fun block _ => ?_
    refine ((connectBlock_untouched unindexed unloaded env.chain stored.1.pos block
      stored.2).mapStop ofConnect).bind fun result _ => ?_
    exact ih result.view

section

variable (flags fLoaded)

/-- Not level 3 with an address index, nor level 4 with any index or with loaded services. -/
def OnlyReads (nCheckLevel : Int) : Prop :=
  (3 ≤ nCheckLevel → flags.fAddressIndex = false) ∧
    (4 ≤ nCheckLevel → flags = noIndexes ∧ fLoaded = false)

theorem clampedLevel_ge (positive : 0 < level) (most : level ≤ 4) :
    level ≤ clampedLevel nCheckLevel ↔ level ≤ nCheckLevel := by
  unfold clampedLevel
  omega

theorem verifyDB_untouched (reads : OnlyReads env.node.flags env.node.fLoaded nCheckLevel) :
    Keeps untouched (verifyDB env coinsview nCheckLevel nCheckDepth) fun _ => True := by
  refine (Keeps.require _ _).bind fun _ _ => ?_
  refine (verifyBlocks_untouched (fun level => reads.1
    ((clampedLevel_ge (by omega) (by omega)).mp level)) _).bind fun state _ => ?_
  refine (Keeps.require _ _).bind fun _ _ => ?_
  refine .ite (fun level => ?_) fun _ => .pure trivial
  obtain ⟨unindexed, unloaded⟩ := reads.2 ((clampedLevel_ge (by omega) (by omega)).mp level)
  exact reconnectBlocks_untouched unindexed unloaded _

def ReadOnly (nCheckLevel : Int) : Prop :=
  ∀ (env : VerifyEnv) (coinsview : UtxoMap) (nCheckDepth : Int) (databases : Databases),
    env.node.flags = flags → env.node.fLoaded = fLoaded →
      (verifyDB env coinsview nCheckLevel nCheckDepth databases).2.services.records =
        databases.services.records ∧
      (verifyDB env coinsview nCheckLevel nCheckDepth databases).2.indexes = databases.indexes

def samplePaidCoinbase : CTransaction :=
  { coinbasePaying COIN with
    vout := [⟨COIN, [0x76, 0xa9, 0x14] ++ List.replicate 20 0 ++ [0x88, 0xac]⟩] }

def sampleVerifyBlock : LoadedBlock :=
  sampleLoaded [samplePaidCoinbase, sampleServiceTx 1 0 [sampleAliasScript 1 [0x61]] 0]

def sampleVerifyCoins : UtxoMap × Bytes :=
  match connectBlock sampleConnectEnv sampleVerifyBlock 1 false (.atop (sampleFunds [[0x51]])) ()
    with
  | .ok result => (result.view.flush, undoWriteToDisk sampleKeys sampleHash result.vtxundo 1)
  | .error _ => (∅, [])

def sampleVerifyEnv : VerifyEnv where
  node := { sampleNodeEnv fun _ => some (.alias (sampleAliasRecord [0x61])) with
    flags := flags, fLoaded := fLoaded }
  keys := sampleKeys
  chain := ⟨0, [0]⟩
  blocks := [{ block := some sampleVerifyBlock
               blockAgain := some sampleVerifyBlock
               undo := some sampleVerifyCoins.2
               hashPrev := 1
               pos := ⟨0, 0⟩
               disk := fun _ => none
               pruned := false
               fitsMemory := true
               shutdownRequested := false }]

def sampleVerified (nCheckLevel : Int) (databases : Databases) : Databases :=
  (verifyDB (sampleVerifyEnv flags fLoaded) sampleVerifyCoins.1 nCheckLevel 1 databases).2

end

def samplePaidKey : CAddressIndexKey :=
  ⟨1, List.replicate 20 0, 1, 0, txHash sampleBlockEnv samplePaidCoinbase, 0, false⟩

def sampleIndexed : Databases :=
  { sampleDatabases with
    indexes := { Indexes.empty with addressIndex := Finmap.singleton samplePaidKey COIN } }

theorem sampleVerified_erases : ∀ fTxIndex fSpentIndex fTimestampIndex fLoaded : Bool,
    (sampleVerified ⟨fTxIndex, true, fSpentIndex, fTimestampIndex⟩ fLoaded 3
      sampleIndexed).indexes.addressIndex.lookup samplePaidKey = none := by
  decide +kernel

theorem sampleVerified_writes : ∀ fTxIndex fAddressIndex fSpentIndex fTimestampIndex fLoaded : Bool,
    let flags : IndexFlags := ⟨fTxIndex, fAddressIndex, fSpentIndex, fTimestampIndex⟩
    let after := sampleVerified flags fLoaded 4 sampleDatabases
    (fTxIndex = true →
      after.indexes.txIndex.lookup (txHash sampleBlockEnv samplePaidCoinbase) ≠ none) ∧
    (fAddressIndex = true → after.indexes.addressIndex.lookup samplePaidKey ≠ none) ∧
    (fSpentIndex = true → after.indexes.spentIndex.lookup ⟨5, 0⟩ ≠ none) ∧
    (fTimestampIndex = true → after.indexes.timestampIndex.lookup
      ⟨0, blockHash sampleBlockEnv sampleVerifyBlock.toCPureBlockHeader⟩ ≠ none) ∧
    (fLoaded = true → after.services.aliases.names.lookup [0x61] ≠ none) := by
  decide +kernel

theorem verifyDB_clamped (same : clampedLevel nCheckLevel = clampedLevel level) :
    verifyDB env coinsview nCheckLevel nCheckDepth = verifyDB env coinsview level nCheckDepth := by
  unfold verifyDB
  rw [same]

theorem readOnly_unindexed (reads : ReadOnly flags fLoaded nCheckLevel) (level : nCheckLevel = 3) :
    flags.fAddressIndex = false := by
  obtain ⟨fTxIndex, fAddressIndex, fSpentIndex, fTimestampIndex⟩ := flags
  cases fAddressIndex with
  | false => rfl
  | true =>
    subst level
    have kept := (reads (sampleVerifyEnv ⟨fTxIndex, true, fSpentIndex, fTimestampIndex⟩ fLoaded)
      sampleVerifyCoins.1 1 sampleIndexed rfl rfl).2
    have erased := sampleVerified_erases fTxIndex fSpentIndex fTimestampIndex fLoaded
    rw [sampleVerified, kept] at erased
    exact absurd erased (by decide +kernel)

theorem readOnly_unwritten (reads : ReadOnly flags fLoaded nCheckLevel) (level : 4 ≤ nCheckLevel) :
    flags = noIndexes ∧ fLoaded = false := by
  obtain ⟨fTxIndex, fAddressIndex, fSpentIndex, fTimestampIndex⟩ := flags
  have clamped : clampedLevel nCheckLevel = clampedLevel 4 := by
    unfold clampedLevel
    omega
  obtain ⟨records, indexes⟩ := reads
    (sampleVerifyEnv ⟨fTxIndex, fAddressIndex, fSpentIndex, fTimestampIndex⟩ fLoaded)
    sampleVerifyCoins.1 1 sampleDatabases rfl rfl
  rw [verifyDB_clamped clamped] at records indexes
  have aliases := congrArg ServiceState.aliases records
  rw [records_aliases, records_aliases] at aliases
  have written := sampleVerified_writes fTxIndex fAddressIndex fSpentIndex fTimestampIndex fLoaded
  simp only [sampleVerified, indexes, aliases] at written
  obtain ⟨tx, address, spent, timestamp, services⟩ := written
  have off : ∀ {kept : Bool}, ¬kept = true → kept = false := Bool.eq_false_iff.mpr
  rw [off fun kept => tx kept rfl, off fun kept => address kept rfl,
    off fun kept => spent kept rfl, off fun kept => timestamp kept rfl]
  exact ⟨rfl, off fun kept => services kept rfl⟩

theorem verifyDB_readOnly_iff (flags : IndexFlags) (fLoaded : Bool) (nCheckLevel : Int) :
    ReadOnly flags fLoaded nCheckLevel ↔ OnlyReads flags fLoaded nCheckLevel := by
  constructor
  · intro reads
    refine ⟨fun level => ?_, readOnly_unwritten reads⟩
    by_cases exact : nCheckLevel = 3
    · exact readOnly_unindexed reads exact
    · rw [(readOnly_unwritten reads (by omega)).1]
      rfl
  · rintro reads env coinsview nCheckDepth databases rfl rfl
    have same : (verifyDB env coinsview nCheckLevel nCheckDepth databases).2 = databases :=
      ((verifyDB_untouched reads).final trivial).2
    rw [same]
    exact ⟨rfl, rfl⟩

theorem verifyDB_writes_sample :
    sampleIndexed.indexes.addressIndex.lookup samplePaidKey = some COIN ∧
      (sampleVerified ⟨false, true, false, false⟩ true 3
        sampleIndexed).indexes.addressIndex.lookup samplePaidKey = none ∧
      sampleDatabases.services.aliases.names.lookup [0x61] = none ∧
      (sampleVerified noIndexes true 4
        sampleDatabases).services.aliases.names.lookup [0x61] ≠ none := by
  refine ⟨?_, ?_, rfl, ?_⟩
  · decide +kernel
  · decide +kernel
  · decide +kernel

end Minerium
