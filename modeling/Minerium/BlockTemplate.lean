import Minerium.ArrivalOrder
import Minerium.MinerCore

/-! The fees and signature operations of a template. -/

namespace Minerium

open ExceptBind Multimap List Option BlockAssembler

variable {assembler after : BlockAssembler} {fuel i : Nat} {tx coinbase : CTransaction}
  {chosen : List CTxMemPoolEntry} {entry : CTxMemPoolEntry}

def InStep (pool : CTxMemPool) (assembler : BlockAssembler) : Prop :=
  ∃ chosen : List CTxMemPoolEntry, (∀ entry ∈ chosen, entry ∈ pool.mapTx) ∧
    assembler.vtx = noTransaction :: chosen.map (·.tx) ∧
    assembler.vTxFees = -1 :: chosen.map (·.nFee) ∧
    assembler.vTxSigOps = -1 :: chosen.map fun entry => Int64.ofNat entry.sigOpCount.toNat

section

variable {pool : CTxMemPool} {ctx : AssemblyContext}

theorem inStep_reset : InStep pool reset := ⟨[], forall_mem_nil _, rfl, rfl, rfl⟩

theorem InStep.addToBlock (inStep : InStep pool assembler) {iter : Nat}
    (found : pool.mapTx[iter]? = some entry) : InStep pool (assembler.addToBlock iter entry) := by
  obtain ⟨chosen, members, vtx, fees, sigOps⟩ := inStep
  refine ⟨chosen ++ [entry], ?_, ?_, ?_, ?_⟩
  · intro other member
    rcases mem_append.mp member with before | last
    · exact members other before
    · rw [mem_singleton.mp last]
      exact mem_of_getElem? found
  · simp [BlockAssembler.addToBlock, vtx]
  · simp [BlockAssembler.addToBlock, fees]
  · simp [BlockAssembler.addToBlock, sigOps]

theorem InStep.testForBlock (inStep : InStep pool assembler) {settings : MinerSettings}
    {nHeight : Nat} {nLockTimeCutoff : Int64} {fits : Bool}
    (tested : assembler.testForBlock settings nHeight nLockTimeCutoff entry = (fits, after)) :
    InStep pool after := by
  unfold BlockAssembler.testForBlock at tested
  repeat' split at tested
  all_goals
    cases tested
    exact inStep

theorem addPriorityLoop_inStep {queue : PriorityQueue} (inStep : InStep ctx.pool assembler)
    (added : addPriorityLoop ctx fuel queue assembler = some after) : InStep ctx.pool after := by
  induction fuel generalizing queue assembler with
  | zero => cases added
  | succ fuel ih =>
    unfold addPriorityLoop at added
    split at added
    · cases added
      exact inStep
    · split at added
      · cases added
        exact inStep
      · split at added
        · cases added
        · split at added
          · exact ih inStep added
          · split at added
            · cases added
            · rename_i entry found
              split at added
              · rename_i tested
                exact ih (inStep.testForBlock tested) added
              · rename_i tested
                have grown := (inStep.testForBlock tested).addToBlock found
                dsimp only at added
                split at added
                · cases added
                  exact grown
                · exact ih grown added

theorem addPriorityTxs_inStep (inStep : InStep ctx.pool assembler)
    (added : addPriorityTxs ctx fuel assembler = some after) : InStep ctx.pool after := by
  unfold addPriorityTxs at added
  split at added
  · cases added
    exact inStep
  · exact addPriorityLoop_inStep inStep added

theorem addEntries_inStep {sorted : List Nat} (inStep : InStep pool assembler) :
    InStep pool (addEntries pool assembler sorted) := by
  induction sorted generalizing assembler with
  | nil => exact inStep
  | cons iter rest ih =>
    refine ih ?_
    dsimp only
    split
    · rename_i entry found
      exact inStep.addToBlock found
    · exact inStep

theorem addPackageLoop_inStep {loop : PackageLoop} (inStep : InStep ctx.pool assembler)
    (added : addPackageLoop ctx fuel loop assembler = some after) : InStep ctx.pool after := by
  induction fuel generalizing loop assembler with
  | zero => cases added
  | succ fuel ih =>
    unfold addPackageLoop at added
    split at added
    · cases added
      exact inStep
    · split at added
      · exact ih inStep added
      · split at added
        · cases added
        · dsimp only at added
          split at added
          · cases added
          · split at added
            · cases added
              exact inStep
            · split at added
              · split at added
                · cases added
                  exact inStep
                · exact ih inStep added
              · split at added
                · exact ih inStep added
                · exact ih (addEntries_inStep inStep) added

theorem selectTxs_inStep {σ : Type} {env : MinerEnv σ}
    (selected : env.selectTxs pool fuel = some after) : InStep pool after := by
  obtain ⟨middle, first, second⟩ := bind_eq_some_iff.mp selected
  have start : InStep (env.context pool).pool reset := inStep_reset
  exact addPackageLoop_inStep (addPriorityTxs_inStep start first) second

end

section

variable {place : CTransaction → ArrivalPlace} {vtx : List CTransaction}

section

variable (place vtx)

def arrivalSlot (entry : CTransaction × Nat) : Nat :=
  vtx.zipIdx.countP (comesBefore place · entry)

end

theorem getElem_arrivalSlot (all : ∀ tx ∈ vtx, place tx ≠ .skipped) (found : vtx[i]? = some tx) :
    (sortedEntries place vtx)[arrivalSlot place vtx (tx, i)]? = some (tx, i) :=
  getElem_countP (sortedEntries_perm_zipIdx all) (sortedEntries_pairwise place vtx)
    comesBefore_asymm (mem_zipIdx_iff_getElem?.mpr found)

theorem arrivalSlot_of_getElem (all : ∀ tx ∈ vtx, place tx ≠ .skipped) {k : Nat}
    {entry : CTransaction × Nat} (found : (sortedEntries place vtx)[k]? = some entry) :
    arrivalSlot place vtx entry = k := by
  unfold arrivalSlot
  rw [← (sortedEntries_perm_zipIdx all).countP_eq]
  exact countP_of_strict (sortedEntries_pairwise place vtx) comesBefore_asymm found

theorem arrivalSlot_first {rest : List CTransaction} (plain : place coinbase = .plain) :
    arrivalSlot place (coinbase :: rest) (coinbase, 0) = 0 := by
  rw [arrivalSlot, countP_eq_zero]
  intro other member
  simp [comesBefore, arrivalRank, plain]

theorem arrivalSlot_pos {coinbase : CTransaction} {rest : List CTransaction}
    (plain : place coinbase = .plain) {tx : CTransaction} {i : Nat} (later : 1 ≤ i) :
    1 ≤ arrivalSlot place (coinbase :: rest) (tx, i) := by
  rw [arrivalSlot, Nat.succ_le_iff, countP_pos_iff]
  refine ⟨(coinbase, 0), mem_zipIdx_iff_getElem?.mpr rfl, ?_⟩
  simp only [comesBefore, arrivalRank, plain, Bool.or_eq_true, Bool.and_eq_true, decide_eq_true_eq]
  rcases eq_or_ne (arrivalRank place tx) ⊥ with lowest | higher
  · exact Or.inr ⟨lowest.symm, by omega⟩
  · exact Or.inl (bot_lt_iff_ne_bot.mpr higher)

end

section

variable {σ : Type} {env : MinerEnv σ} {pool : CTxMemPool} {state : ServiceState}
  {pcoinsTip : UtxoMap} {databases : σ} {scriptPubKeyIn : CScript} {template : CBlockTemplate}

def MinerEnv.selectedVtx (env : MinerEnv σ) (scriptPubKeyIn : CScript)
    (assembler : BlockAssembler) : List CTransaction :=
  assembler.vtx.set 0 (createCoinbase env.connect.payment env.queue scriptPubKeyIn env.nHeight
      assembler.nFees).txNew

theorem finishTemplate_cases
    (finished : env.finishTemplate state pcoinsTip databases scriptPubKeyIn assembler = .ok
      template)
    : orderBasedOnArrivalTime env.services state pcoinsTip env.nHeight
        (env.selectedVtx scriptPubKeyIn assembler) = some template.block.vtx ∧
      template.vTxFees = assembler.vTxFees.set 0 (-assembler.nFees) ∧
      template.vTxSigOps = assembler.vTxSigOps.set 0
        (Int64.ofNat ((template.block.vtx.head?.map legacySigOpCount).getD 0)) := by
  simp only [MinerEnv.finishTemplate, bind_eq_ok] at finished
  obtain ⟨-, -, finished⟩ := finished
  split at finished
  · cases finished
  · rename_i vtx ordered
    simp only [bind_eq_ok, pure_eq_ok] at finished
    obtain ⟨-, -, rfl⟩ := finished
    exact ⟨ordered, rfl, rfl⟩

section

variable (pool template)

def TemplateAligned : Prop :=
  ∀ i, 1 ≤ i → ∀ tx, template.block.vtx[i]? = some tx →
    ∃ entry ∈ pool.mapTx, entry.tx = tx ∧ template.vTxFees[i]? = some entry.nFee ∧
      template.vTxSigOps[i]? = some (Int64.ofNat entry.sigOpCount.toNat)

def SlotsAgree (place : CTransaction → ArrivalPlace) (vtx : List CTransaction)
    (assembler : BlockAssembler) : Prop :=
  ∀ i, 1 ≤ i → ∀ tx, vtx[i]? = some tx →
    assembler.vTxFees[arrivalSlot place vtx (tx, i)]? = assembler.vTxFees[i]? ∧
      assembler.vTxSigOps[arrivalSlot place vtx (tx, i)]? = assembler.vTxSigOps[i]?

theorem arrivalPlace_coinbase (scriptPubKeyIn : CScript) (nFees : CAmount) :
    arrivalPlace env.services state pcoinsTip env.nHeight
      (createCoinbase env.connect.payment env.queue scriptPubKeyIn env.nHeight nFees).txNew =
        .plain := by
  have version : (createCoinbase env.connect.payment env.queue scriptPubKeyIn env.nHeight
      nFees).txNew.nVersion = TX_CURRENT_VERSION := by
    simp only [createCoinbase, fillBlockPayments, createSuperblock, fillBlockPayee]
    repeat' split
    all_goals rfl
  rw [arrivalPlace, version, if_pos (by decide)]

theorem getElem_chosen {α : Type} (f : CTxMemPoolEntry → α) {first : α} (later : 1 ≤ i)
    (found : chosen[i - 1]? = some entry) : (first :: chosen.map f)[i]? = some (f entry) := by
  obtain ⟨k, rfl⟩ : ∃ k, i = k + 1 := ⟨i - 1, by omega⟩
  rw [Nat.add_sub_cancel] at found
  rw [List.getElem?_cons_succ, List.getElem?_map, found]
  rfl

theorem exists_chosen (later : 1 ≤ i) (found : (coinbase :: chosen.map (·.tx))[i]? = some tx) :
    ∃ entry, chosen[i - 1]? = some entry ∧ entry.tx = tx := by
  obtain ⟨k, rfl⟩ : ∃ k, i = k + 1 := ⟨i - 1, by omega⟩
  rw [List.getElem?_cons_succ, List.getElem?_map, map_eq_some_iff] at found
  rw [Nat.add_sub_cancel]
  exact found

theorem getElem?_set_zero {α : Type} (l : List α) (a : α) (later : 1 ≤ i) :
    (l.set 0 a)[i]? = l[i]? := by
  rw [List.getElem?_set_ne (by omega)]

theorem CTxMemPool.eq_of_tx_eq {first second : CTxMemPoolEntry} (one : first ∈ pool.mapTx)
    (two : second ∈ pool.mapTx) (same : first.tx = second.tx) :
    first = second :=
  inj_on_of_nodup_map pool.distinct one two same

end

theorem aligned_iff_slotsAgree {place : CTransaction → ArrivalPlace} {coinbase : CTransaction}
    {chosen : List CTxMemPoolEntry} {assembler : BlockAssembler} {fee : CAmount} {count : Int64}
    (plain : place coinbase = .plain) (members : ∀ entry ∈ chosen, entry ∈ pool.mapTx)
    (all : ∀ tx ∈ coinbase :: chosen.map (·.tx), place tx ≠ .skipped)
    (sorted : (sortedEntries place (coinbase :: chosen.map (·.tx))).map (·.1) = template.block.vtx)
    (fees : template.vTxFees = assembler.vTxFees.set 0 fee)
    (sigOps : template.vTxSigOps = assembler.vTxSigOps.set 0 count)
    (feesEq : assembler.vTxFees = -1 :: chosen.map (·.nFee))
    (sigOpsEq : assembler.vTxSigOps = -1 :: chosen.map fun entry => Int64.ofNat
      entry.sigOpCount.toNat)
    : TemplateAligned pool template ↔
      SlotsAgree place (coinbase :: chosen.map (·.tx)) assembler := by
  constructor
  · intro aligned i later tx found
    obtain ⟨entry, entryAt, rfl⟩ := exists_chosen later found
    have slot := getElem_arrivalSlot all found
    have positive := @arrivalSlot_pos place coinbase (chosen.map (·.tx)) plain entry.tx i later
    have there : template.block.vtx[arrivalSlot place (coinbase :: chosen.map (·.tx))
        (entry.tx, i)]? = some entry.tx := by
      rw [← sorted, List.getElem?_map, slot]
      rfl
    obtain ⟨other, member, same, feeAt, countAt⟩ := aligned _ positive _ there
    obtain rfl := pool.eq_of_tx_eq member (members entry (mem_of_getElem? entryAt)) same
    rw [fees, getElem?_set_zero _ _ positive] at feeAt
    rw [sigOps, getElem?_set_zero _ _ positive] at countAt
    rw [feeAt, countAt, feesEq, sigOpsEq]
    exact ⟨(getElem_chosen (·.nFee) later entryAt).symm,
      (getElem_chosen (fun entry => Int64.ofNat entry.sigOpCount.toNat) later entryAt).symm⟩
  · intro agree k later tx found
    rw [← sorted, List.getElem?_map, map_eq_some_iff] at found
    obtain ⟨⟨_, i⟩, at_, rfl⟩ := found
    have slot := arrivalSlot_of_getElem all at_
    have inside := mem_zipIdx_iff_getElem?.mp
      ((sortedEntries_perm_zipIdx all).mem_iff.mp (mem_of_getElem? at_))
    have positive : 1 ≤ i := by
      by_contra none_
      obtain rfl : i = 0 := by omega
      obtain rfl := Option.some.inj (inside.symm.trans List.getElem?_cons_zero)
      rw [arrivalSlot_first plain] at slot
      omega
    obtain ⟨entry, entryAt, same⟩ := exists_chosen positive inside
    obtain ⟨feeSlot, countSlot⟩ := agree i positive _ inside
    rw [slot] at feeSlot countSlot
    refine ⟨entry, members entry (mem_of_getElem? entryAt), same, ?_, ?_⟩
    · rw [fees, getElem?_set_zero _ _ later, feeSlot, feesEq]
      exact getElem_chosen (·.nFee) positive entryAt
    · rw [sigOps, getElem?_set_zero _ _ later, countSlot, sigOpsEq]
      exact getElem_chosen (fun entry => Int64.ofNat entry.sigOpCount.toNat) positive entryAt

theorem createNewBlock_aligned_iff {σ : Type} (env : MinerEnv σ) (pool : CTxMemPool)
    (state : ServiceState) (pcoinsTip : UtxoMap) (databases : σ) (scriptPubKeyIn : CScript)
    (fuel : Nat) (template : CBlockTemplate)
    (returned : env.createNewBlock pool state pcoinsTip databases scriptPubKeyIn fuel =
      some (.ok template)) : TemplateAligned pool template ↔
      ∃ assembler, env.selectTxs pool fuel = some assembler ∧
        SlotsAgree (arrivalPlace env.services state pcoinsTip env.nHeight)
          (env.selectedVtx scriptPubKeyIn assembler) assembler := by
  obtain ⟨assembler, selected, finished⟩ := map_eq_some_iff.mp returned
  obtain ⟨ordered, fees, sigOps⟩ := finishTemplate_cases finished
  obtain ⟨chosen, members, vtxEq, feesEq, sigOpsEq⟩ := selectTxs_inStep selected
  have plain := @arrivalPlace_coinbase σ env state pcoinsTip scriptPubKeyIn assembler.nFees
  have vtxSet : env.selectedVtx scriptPubKeyIn assembler =
      (createCoinbase env.connect.payment env.queue scriptPubKeyIn env.nHeight
        assembler.nFees).txNew :: chosen.map (·.tx) := by
    rw [MinerEnv.selectedVtx, vtxEq]
    rfl
  rw [orderBasedOnArrivalTime, orderByPlace_eq, vtxSet] at ordered
  split at ordered
  on_goal 2 => cases ordered
  rename_i all
  have step := @aligned_iff_slotsAgree pool _ _ _ _ _ _ _ plain members all
    (Option.some.inj ordered) fees sigOps feesEq sigOpsEq
  rw [← vtxSet] at step
  constructor
  · intro aligned
    exact ⟨assembler, selected, step.mp aligned⟩
  · rintro ⟨other, again, agree⟩
    obtain rfl := Option.some.inj (selected.symm.trans again)
    exact step.mpr agree

def sampleEntry (tx : CTransaction) (nFee : CAmount) : CTxMemPoolEntry where
  tx := tx
  nFee := nFee
  nModifiedFee := nFee
  nTxSize := 100
  sigOpCount := 0
  nCountWithAncestors := 1
  nSizeWithAncestors := 100
  nModFeesWithAncestors := nFee
  nSigOpCountWithAncestors := 0
  parents := []
  children := []

def sampleSpendEntry : CTxMemPoolEntry := sampleEntry (samplePlainSpend ⟨8, 0⟩) (2 * COIN)

def sampleAllocationEntry : CTxMemPoolEntry := sampleEntry sampleTemplateAllocation COIN

def sampleOrderedPool : CTxMemPool :=
  ⟨[sampleSpendEntry, sampleAllocationEntry], [0, 1], by decide⟩

def sampleMixedPool : CTxMemPool :=
  ⟨[sampleAllocationEntry, sampleSpendEntry], [0, 1], by decide⟩

def sampleMinerUtxo : UtxoMap := (sampleUtxo 1).insert ⟨8, 0⟩ (sampleCoin 1)

def sampleMinerEnv : MinerEnv Unit where
  connect := sampleConnectEnv
  services := sampleTemplateEnv
  tip := sampleTip
  settings :=
    { nBlockMaxSize := 750000
      nSatoshisPerK := 1000
      nBlockPrioritySize := 10000
      fDIP0001ActiveAtTip := true
      compareModifiedEntry := fun a b => decide (b.nModFeesWithAncestors < a.nModFeesWithAncestors)
      comparePriority := fun a b => decide (b < a)
      allowFree := fun _ => true }
  queue := fun _ => none
  nVersion := 1
  hashPrevBlock := 1
  needsMasternodeSync := true
  masternodeSyncFailed := false

def sampleNewBlock (pool : CTxMemPool) : Option (Except TemplateError CBlockTemplate) :=
  sampleMinerEnv.createNewBlock pool ServiceState.empty sampleMinerUtxo () [0x51] 10

theorem createNewBlock_aligned_iff_sample :
    ∃ template, sampleNewBlock sampleOrderedPool = some (.ok template) ∧
      template.vTxFees.drop 1 = [2 * COIN, COIN] ∧ TemplateAligned sampleOrderedPool template := by
  have run : ((sampleNewBlock sampleOrderedPool).bind Except.toOption).map
      (fun template => template.vTxFees.drop 1) = some [2 * COIN, COIN] := by
    decide +kernel
  obtain ⟨template, found, fees⟩ := map_eq_some_iff.mp run
  obtain ⟨outcome, returned, succeeded⟩ := bind_eq_some_iff.mp found
  rw [toOption_eq_some] at succeeded
  subst succeeded
  refine ⟨template, returned, fees, (createNewBlock_aligned_iff sampleMinerEnv sampleOrderedPool
    ServiceState.empty sampleMinerUtxo () [0x51] 10 template returned).mpr ?_⟩
  refine ⟨(reset.addToBlock 0 sampleSpendEntry).addToBlock 1 sampleAllocationEntry, by decide, ?_⟩
  intro i later tx found
  match i with
  | 0 => omega
  | 1 =>
    obtain rfl := Option.some.inj found
    decide
  | 2 =>
    obtain rfl := Option.some.inj found
    decide
  | k + 3 => cases found

theorem reorderedTemplate_misaligned :
    ∃ template, sampleNewBlock sampleMixedPool = some (.ok template) ∧
      template.block.vtx[1]? = some (samplePlainSpend ⟨8, 0⟩) ∧
      template.vTxFees[1]? = some COIN ∧ sampleSpendEntry.nFee = 2 * COIN ∧
      ¬ TemplateAligned sampleMixedPool template := by
  have run : ((sampleNewBlock sampleMixedPool).bind Except.toOption).map
      (fun template => (template.block.vtx[1]?, template.vTxFees[1]?)) =
        some (some (samplePlainSpend ⟨8, 0⟩), some COIN) := by
    decide +kernel
  obtain ⟨template, found, values⟩ := map_eq_some_iff.mp run
  obtain ⟨outcome, returned, succeeded⟩ := bind_eq_some_iff.mp found
  rw [toOption_eq_some] at succeeded
  subst succeeded
  rw [Prod.mk.injEq] at values
  refine ⟨template, returned, values.1, values.2, rfl, fun aligned => ?_⟩
  obtain ⟨entry, member, same, fee, -⟩ := aligned 1 (le_refl 1) _ values.1
  have spend : sampleSpendEntry ∈ sampleMixedPool.mapTx := mem_cons_of_mem _ mem_cons_self
  obtain rfl := sampleMixedPool.eq_of_tx_eq member spend same
  rw [values.2] at fee
  revert fee
  decide

end

end Minerium
