import Minerium.Allocation
import Minerium.ServiceRun

/-! Allocation outputs with an operation number other than the two that exist. -/

namespace Minerium

open FinmapTotal Procedure

variable {tokens : AssetState}

/-- The operation number of an allocation output, whether or not the decoder takes it. -/
def allocationOutputOp (script : CScript) : Option Nat := do
  let (code, pc) ← getSmallOp script
  if code ≠ Service.assetAllocation.code then none
  else
    let (op, _) ← getSmallOp pc
    return op

def firstAllocationOp (tx : CTransaction) : Option Nat :=
  tx.vout.findSome? fun out => allocationOutputOp out.scriptPubKey

variable (ctx : BlockContext) (tx : CTransaction)

def reachesService (state : ServiceState) : Bool :=
  decide (tx.nVersion = MINERIUM_TX_VERSION) && (checkAlias ctx tx state).1

def tokensAfterCall (tokens : AssetState) : ServiceCall → AssetState
  | .allocation op => (checkAssetAllocationInputs ctx.env.assetEnv ctx.inputs tx op
      (signingAlias ctx.inputs tx) ctx.nHeight tokens).2
  | .asset op => (checkAssetInputs ctx.env.assetEnv ctx.inputs tx op
      (signingAlias ctx.inputs tx) ctx.nHeight tokens).2
  | .offer _ => tokens
  | .cert _ => tokens
  | .escrow _ => tokens
  | .none => tokens

def rawRecord : Option CAssetAllocation :=
  if tx.isCoinBase then none
  else (ctx.env.assetEnv.unserializeAllocation tx).map
    (stamped (ctx.env.txHash tx) ctx.nHeight false)

def isStored (tokens : AssetState) (record : CAssetAllocation) : Prop :=
  tokens.allocations.lookup record.tuple = some record ∧
    tokens.lastAllocations.lookup record.tuple = some record

section

variable (ctx : BlockContext) (tx : CTransaction) (state : ServiceState)

theorem checkAlias_tokens : (checkAlias ctx tx state).2.tokens = state.tokens := by
  rw [checkAlias]
  split
  · rfl
  · rfl

theorem runService_tokens :
    (runService ctx tx state).2.tokens = tokensAfterCall ctx tx state.tokens (serviceCall tx) := by
  unfold runService
  cases serviceCall tx with
  | allocation op => rfl
  | asset op => rfl
  | none => rfl
  | offer op | cert op | escrow op =>
    dsimp only
    split
    · rfl
    · rfl

theorem serviceTx_tokens : (serviceTx ctx tx state).2.tokens =
      if reachesService ctx tx state then tokensAfterCall ctx tx state.tokens (serviceCall tx)
      else state.tokens := by
  simp only [serviceTx, reachesService, Bool.and_eq_true, decide_eq_true_eq]
  by_cases version : tx.nVersion = MINERIUM_TX_VERSION
  · simp only [version, if_true, true_and]
    split
    · rw [runService_tokens, checkAlias_tokens]
    · exact checkAlias_tokens ctx tx state
  · simp only [version, if_false, false_and]

end

theorem afterWrite_eq_self {record : CAssetAllocation} :
    afterWrite record tokens = tokens ↔ isStored tokens record := by
  constructor
  · intro same
    rw [isStored, ← same]
    simp only [afterWrite, Finmap.lookup_insert]
    exact ⟨trivial, trivial⟩
  · rintro ⟨current, last⟩
    rw [afterWrite, insert_lookup_eq current, insert_lookup_eq last]

theorem unknownOp_writes {op : Nat}
    (notSend : op ≠ OP_ASSET_ALLOCATION_SEND) (notCollect : op ≠ OP_ASSET_COLLECT_INTEREST) :
    tokensAfterCall ctx tx tokens (.allocation op) =
      ((rawRecord ctx tx).map fun record => afterWrite record tokens).getD tokens := by
  refine @wp_final AssetState ServiceStop Unit _ _ (fun after => after = _) ?_
  rw [checkAssetAllocationInputs, rawRecord]
  split
  · exact rfl
  · cases decoded : ctx.env.assetEnv.unserializeAllocation tx with
    | none => exact rfl
    | some payload =>
      rw [orStop_some_bind, runAllocationOp]
      simp only [if_neg notSend, if_neg notCollect]
      rfl

def allocationHolder (payload : CAssetAllocation) : CAssetAllocationTuple :=
  let vchAlias := signingAlias ctx.inputs tx
  ⟨payload.vchAsset, if vchAlias.isEmpty then payload.vchAliasOrAddress else vchAlias⟩

/-- What an operation that the decoder takes would write is there already, or what it has to find
is not. -/
def WritesNothing (tokens : AssetState) : ServiceCall → Prop
  | .allocation op =>
    if op = OP_ASSET_ALLOCATION_SEND ∨ op = OP_ASSET_COLLECT_INTEREST then
      ∀ payload ∈ ctx.env.assetEnv.unserializeAllocation tx,
        tokens.allocations.lookup (allocationHolder ctx tx payload) = none
    else ∀ record ∈ rawRecord ctx tx, isStored tokens record
  | .asset op =>
    if op = OP_ASSET_SEND then ∀ payload ∈ ctx.env.assetEnv.unserializeAllocation tx,
      tokens.assets.lookup payload.vchAsset = none
    else ∀ theAsset ∈ ctx.env.assetEnv.unserializeAsset tx,
      op ≠ OP_ASSET_ACTIVATE ∧ tokens.assets.lookup theAsset.vchAsset = none
  | .offer _ => True
  | .cert _ => True
  | .escrow _ => True
  | .none => True

instance (record : CAssetAllocation) : Decidable (isStored tokens record) :=
  inferInstanceAs (Decidable (_ ∧ _))

instance (call : ServiceCall) : Decidable (WritesNothing ctx tx tokens call) := by
  unfold WritesNothing
  cases call <;> infer_instance

section

variable {ctx tx} {op : Nat}

theorem allocation_writesNothing (known : op = OP_ASSET_ALLOCATION_SEND ∨
      op = OP_ASSET_COLLECT_INTEREST)
    (missing : ∀ payload ∈ ctx.env.assetEnv.unserializeAllocation tx,
      tokens.allocations.lookup (allocationHolder ctx tx payload) = none) :
    tokensAfterCall ctx tx tokens (.allocation op) = tokens := by
  refine @wp_final AssetState ServiceStop Unit _ _ (fun after => after = tokens) ?_
  rw [checkAssetAllocationInputs]
  split
  · exact rfl
  cases decoded : ctx.env.assetEnv.unserializeAllocation tx with
  | none => exact rfl
  | some payload =>
    have absent := missing payload decoded
    rw [allocationHolder] at absent
    rw [orStop_some_bind, runAllocationOp]
    rcases known with rfl | rfl
    · rw [if_neg (by decide), if_pos rfl]
      simp only [allocationSend, readAssetAllocation, wp_bind, wp_require, wp_read, absent]
      exact ⟨fun _ => rfl, fun _ => trivial⟩
    · rw [if_pos rfl]
      simp only [collectInterestIn, collectInterest, checkInterest, readAssetAllocation, wp_bind,
        wp_read, absent]
      exact rfl

theorem asset_writesNothing (writes : WritesNothing ctx tx tokens (.asset op)) :
    tokensAfterCall ctx tx tokens (.asset op) = tokens := by
  refine @wp_final AssetState ServiceStop Unit _ _ (fun after => after = tokens) ?_
  rw [checkAssetInputs]
  simp only [WritesNothing] at writes
  split
  · exact rfl
  split
  · rename_i isSend
    rw [if_pos isSend] at writes
    cases decoded : ctx.env.assetEnv.unserializeAllocation tx with
    | none => exact rfl
    | some payload =>
      rw [orStop_some_bind, assetSend]
      simp only [requireFoundAsset, readAsset, wp_bind, wp_read, writes payload decoded]
      exact rfl
  · rename_i notSend
    rw [if_neg notSend] at writes
    cases decoded : ctx.env.assetEnv.unserializeAsset tx with
    | none => exact rfl
    | some theAsset =>
      obtain ⟨notActivate, absent⟩ := writes theAsset decoded
      rw [orStop_some_bind, runAssetOp, if_neg notActivate]
      split
      all_goals
        simp only [assetUpdate, assetTransfer, requireFoundAsset, readAsset, wp_bind, wp_read,
          absent]
        exact rfl

theorem unknownOp_iff (notSend : op ≠ OP_ASSET_ALLOCATION_SEND)
    (notCollect : op ≠ OP_ASSET_COLLECT_INTEREST) :
    tokensAfterCall ctx tx tokens (.allocation op) = tokens ↔
      ∀ record ∈ rawRecord ctx tx, isStored tokens record := by
  rw [unknownOp_writes ctx tx notSend notCollect]
  cases rawRecord ctx tx with
  | none => simp
  | some record => simpa using afterWrite_eq_self

end

/-- The condition suffices for whatever the decoder takes, and is exact if it takes the number of
the first allocation output. -/
theorem unknownOp_unchanged (ctx : BlockContext) (tx : CTransaction) (state : ServiceState)
    {op : Nat} (first : firstAllocationOp tx = some op)
    (notSend : op ≠ OP_ASSET_ALLOCATION_SEND) (notCollect : op ≠ OP_ASSET_COLLECT_INTEREST) :
    ((reachesService ctx tx state = true → WritesNothing ctx tx state.tokens (serviceCall tx)) →
      (serviceTx ctx tx state).2.tokens = state.tokens) ∧
    (serviceCall tx = .allocation ((firstAllocationOp tx).getD 0) →
      (serviceTx ctx tx state).2.tokens = state.tokens → reachesService ctx tx state = true →
        WritesNothing ctx tx state.tokens (serviceCall tx)) := by
  rw [serviceTx_tokens]
  refine ⟨fun writes => ?_, fun taken unchanged reaches => ?_⟩
  · split
    · rename_i reaches
      have nothing := writes reaches
      cases call : serviceCall tx with
      | asset op =>
        rw [call] at nothing
        exact asset_writesNothing nothing
      | offer op | cert op | escrow op | none => rfl
      | allocation picked =>
        rw [call, WritesNothing] at nothing
        split at nothing
        · exact allocation_writesNothing ‹_› nothing
        · rename_i unknown
          exact (unknownOp_iff (fun isSend => unknown (.inl isSend)) fun isCollect =>
            unknown (.inr isCollect)).mpr nothing
    · rfl
  · rw [first, Option.getD_some] at taken
    rw [if_pos reaches, taken] at unchanged
    rw [taken, WritesNothing, if_neg (not_or.mpr ⟨notSend, notCollect⟩)]
    exact (unknownOp_iff notSend notCollect).mp unchanged

def sampleMinted : CAssetAllocation :=
  { CAssetAllocation.null with
    vchAsset := [0x74], vchAliasOrAddress := [0x61], nBalance := 1000 }

def sampleMintEnv : ServiceEnv :=
  sampleServiceEnv fun
    | 0 => some (.alias (sampleAliasRecord [0x61]))
    | 1 => some (.allocation sampleMinted)
    | _ => none

def sampleMintNode : ServiceNode := sampleNode sampleMintEnv [sampleAliases 100 [[0x61]]]

def sampleMintBlock (payload : UInt8) : ServiceBlock :=
  sampleSignedBlock 200 [0x61] .assetAllocation 3 payload

def sampleMintVisit (payload : UInt8) : ServiceState × CTransaction :=
  ((sampleMintNode.visits sampleMintEnv (sampleMintBlock payload))[1]?).getD
    (sampleMintNode.services, sampleCoinbase)

/-- Without a payload nothing is written. With one, which is not stored yet, something is. -/
theorem unknownOp_unchanged_sample :
    (sampleMintNode.afterVisit sampleMintEnv (sampleMintBlock 9) (sampleMintVisit 9)).tokens =
        (sampleMintVisit 9).1.tokens ∧
      (sampleMintNode.afterVisit sampleMintEnv (sampleMintBlock 1) (sampleMintVisit 1)).tokens ≠
        (sampleMintVisit 1).1.tokens := by
  constructor
  · refine (@unknownOp_unchanged _ _ _ 3 (by decide) (by decide) (by decide)).1 fun _ => ?_
    decide
  · intro unchanged
    have stored := (@unknownOp_unchanged _ _ _ 3 (by decide) (by decide) (by decide)).2
      (by decide) unchanged (by decide)
    revert stored
    decide

theorem unknownOp_mints : firstAllocationOp (sampleMintVisit 1).2 = some 3 ∧
      balanceAt (sampleMintVisit 1).1.tokens.lastAllocations ⟨[0x74], [0x61]⟩ = 0 ∧
      balanceAt (sampleMintNode.step sampleMintEnv
        (.connect (sampleMintBlock 1))).services.tokens.lastAllocations ⟨[0x74], [0x61]⟩ = 1000 ∧
      (sampleMintNode.step sampleMintEnv
        (.connect (sampleMintBlock 1))).services.tokens.assets.lookup [0x74] = none := by
  decide

end Minerium
