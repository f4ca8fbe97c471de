import Minerium.Reorganisation

/-! Crashes. The databases of the services are written at once, the chain and the coins only when
they are flushed. The blocks since the last flush are connected again, to records that have them. -/

namespace Minerium

open ChainNode

/-- The node stops in the block that it connects after `since`. -/
structure Crash where
  flushed : ChainNode
  since : List ChainAction
  block : LoadedBlock
  pos : CDiskBlockPos

section

variable (env : ReorgEnv) (crash : Crash) (nDone : Nat) (left : Databases)

def Crash.before : ChainNode := Run.run (.step env) crash.flushed crash.since

def Crash.last : ChainAction := .connect crash.block crash.pos fun _ => none

def Crash.avoided : ChainNode := (crash.before env).step env crash.last

def Crash.restarted : ChainNode :=
  { crash.flushed with databases := ⟨left.services.records, left.indexes⟩ }

/-- From the databases as the crash left them. -/
def Crash.recovered : ChainNode :=
  Run.run (.step env) (crash.restarted left) (crash.since ++ [crash.last])

def Crash.context : BlockContext := (crash.before env).context env

def Crash.vtx : List CTransaction :=
  if (crash.before env).reachesServices env crash.block crash.pos then
    processedVtx (crash.context env) crash.block.vtx
  else []

/-- After the first `nDone` transactions of the block. -/
def Crash.servicesAt : ServiceState :=
  Loop.run (serviceTx (crash.context env)) ((crash.vtx env).take nDone)
    (crash.before env).databases.services.startBlock

/-- The transactions still to come have nothing to do. -/
def Crash.RestTurnedAway : Prop :=
  ∀ visit ∈ Loop.visits (serviceTx (crash.context env)) ((crash.vtx env).drop nDone)
      (crash.servicesAt env nDone), turnedAway (crash.context env) visit.2 visit.1 = true

/-- No transaction has anything to do when it comes again. -/
def Crash.IdleAgain : Prop :=
  Run.Permitted (.step env) (Idle env) (crash.restarted left) (crash.since ++ [crash.last])

end

section

variable {env : ReorgEnv} {crash : Crash} {nDone : Nat} {left : Databases}

theorem idle_keeps {node : ChainNode} {action : ChainAction} (idle : Idle env node action) :
    SameServices (node.step env action).databases.services node.databases.services := by
  cases action with
  | connect block pos disk => exact connect_idle idle
  | disconnect disk =>
    obtain ⟨databases, unchanged, same | ⟨tip, earlier, view, -, same, -⟩⟩ :=
      @disconnect_cases disk node env
    · rw [step, same, unchanged]
      rfl
    · rw [step, same, unchanged]
      rfl

theorem Crash.recovered_records (idle : crash.IdleAgain env left) :
    (crash.recovered env left).databases.services.records = left.services.records := by
  refine @Run.invariant _ _ _ _ (fun node => node.databases.services.records =
    left.services.records) ?_ _ rfl _ idle
  intro node action kept idle
  exact (records_of_same (idle_keeps idle)).trans kept

theorem Crash.avoided_records (rest : crash.RestTurnedAway env nDone) :
    (crash.avoided env).databases.services.records = (crash.servicesAt env nDone).records := by
  have whole : (crash.avoided env).databases.services.records =
      (Loop.run (serviceTx (crash.context env)) (crash.vtx env)
        (crash.before env).databases.services.startBlock).records := by
    rw [avoided, last, step, connect_services, vtx]
    split
    · rfl
    · rfl
  rw [whole]
  rcases Loop.run_take_drop nDone with ended | goesOn
  · rw [ended]
    rfl
  · have settled : Loop.run (serviceTx (crash.context env)) ((crash.vtx env).drop nDone)
        (crash.servicesAt env nDone) = crash.servicesAt env nDone := by
      refine (Loop.invariant (· = crash.servicesAt env nDone) rfl fun visit visited same => ?_).1
      obtain ⟨verdict, ran⟩ := serviceTx_turnedAway (crash.context env) visit.2
      rw [ran visit.1 (rest visit visited)]
      exact same
    exact congrArg ServiceState.records (goesOn.trans settled)

end

/-- An alias is activated after the flush, and the crash comes in the next block. -/
def sampleCrash : Crash where
  flushed := run sampleAliasEnv (sampleMine 36)
  since := [sampleConnect [sampleMint 36, sampleFirstService [sampleAliasScript 1 [0x61]] 0]]
  block := sampleLoaded [sampleMint 37]
  pos := ⟨0, 0⟩

def sampleLeft : Databases := ⟨sampleCrash.servicesAt sampleAliasEnv 0, .empty⟩

def sampleOwnerMint : CTransaction :=
  { coinbasePaying 0 with vout := [⟨0, [0x52]⟩, ⟨0, [0x52]⟩] }

def sampleOwnerTx (coin : UInt32) (op : UInt8) : CTransaction :=
  { sampleFirstService [sampleScript .asset op [[0]]] 0 with
    vin := [⟨⟨txHash sampleBlockEnv sampleOwnerMint, coin⟩, [], SEQUENCE_FINAL⟩] }

def sampleOwnerEnv : ReorgEnv :=
  sampleReorgEnv fun _ => some (.asset { CAsset.null with
    vchAsset := [0x74], vchAliasOrAddress := [0x52], nBalance := 5, nMaxSupply := 100
    nPrecision := 0 })

/-- An asset of 5 units is activated and updated by 5 units. -/
def sampleUpdateCrash : Crash where
  flushed := run sampleOwnerEnv (sampleConnect [sampleOwnerMint] ::
    (List.range 35).map fun i => sampleConnect [sampleMint (i + 1)])
  since := []
  block := sampleLoaded [sampleMint 36, sampleOwnerTx 0 1, sampleOwnerTx 1 2]
  pos := ⟨0, 0⟩

end Minerium
