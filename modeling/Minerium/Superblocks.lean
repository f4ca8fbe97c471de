import Mathlib.Algebra.Order.BigOperators.Group.List
import Mathlib.Algebra.BigOperators.Fin
import Mathlib.Data.List.Destutter
import Minerium.MinerPayments

/-! What a superblock that passes `CSuperblock::IsValid` pays, and whether the one that
`CreateSuperblock` builds passes. -/

namespace Minerium

open MachineInt List CGovernancePayment CSuperblock Int64

variable {vout rest : List CTxOut} {pSuperblock : CSuperblock} {coinbase txNew : CTransaction}
  {nPaymentsLimit blockReward : CAmount} {payment : CGovernancePayment}
  {payments : List CGovernancePayment} {script : CScript}

section

def CGovernancePayment.output (payment : CGovernancePayment) : CTxOut :=
  ⟨payment.nAmount, payment.script⟩

section

variable (pSuperblock nPaymentsLimit)

def CSuperblock.schedule : List CTxOut :=
  pSuperblock.vecPayments.map output

/-- `IsValid` at a superblock height, with the payments limit as an argument. -/
def CSuperblock.isValidWithin (txNew : CTransaction) (blockReward : CAmount) : Option Bool :=
  if txNew.vout.length < pSuperblock.vecPayments.length then some false
  else
    let nPaymentsTotalAmount := getPaymentsTotalAmount pSuperblock
    if nPaymentsLimit < nPaymentsTotalAmount then some false
    else do
      let nBlockValue ← txNew.getValueOut
      if blockReward + nPaymentsTotalAmount < nBlockValue then return false
      return paymentsMatch pSuperblock.vecPayments txNew.vout

end

theorem isValid_eq_isValidWithin {env : PaymentEnv} {nBlockHeight : Nat}
    (height : isValidBlockHeight env.consensus nBlockHeight = true) :
    pSuperblock.isValid env txNew nBlockHeight blockReward =
      pSuperblock.isValidWithin (getPaymentsLimit env.consensus nBlockHeight) txNew
        blockReward := by
  simp only [isValid, height, Bool.not_true, Bool.false_eq_true, if_false]
  rfl

theorem isValidWithin_iff : pSuperblock.isValidWithin nPaymentsLimit txNew blockReward = some true ↔
      pSuperblock.vecPayments.length ≤ txNew.vout.length ∧
        getPaymentsTotalAmount pSuperblock ≤ nPaymentsLimit ∧
        (∃ nBlockValue, txNew.getValueOut = some nBlockValue ∧
          nBlockValue ≤ blockReward + getPaymentsTotalAmount pSuperblock) ∧
        paymentsMatch pSuperblock.vecPayments txNew.vout = true := by
  unfold isValidWithin
  rw [← Nat.not_lt, ← Int64.not_lt]
  split
  · simp_all
  · rename_i enough
    dsimp only
    split
    · simp_all
    · rename_i limited
      cases value : txNew.getValueOut with
      | none => simp
      | some nBlockValue =>
        by_cases within : blockReward + getPaymentsTotalAmount pSuperblock < nBlockValue
        · simp [within, Int64.not_le.mpr within]
        · simp [within, Int64.not_lt.mp within, enough, limited]

theorem dropToPayment_head (found : dropToPayment payment vout = some rest) :
    ∃ later, rest = payment.output :: later := by
  induction vout with
  | nil => cases found
  | cons out others ih =>
    simp only [dropToPayment] at found
    split at found
    · rename_i same
      cases found
      exact ⟨others, by rw [output, same.1, same.2]⟩
    · exact ih found

theorem dropToPayment_sublist_iff {later : List CTxOut} : (payment.output :: later).Sublist vout ↔
      ∃ rest, dropToPayment payment vout = some (payment.output :: rest) ∧
        later.Sublist rest := by
  induction vout with
  | nil => simp [dropToPayment]
  | cons out others ih =>
    by_cases same : payment.output = out
    · subst same
      simp [dropToPayment, output, cons_sublist_cons]
    · have other : ¬ (payment.script = out.scriptPubKey ∧ payment.nAmount = out.nValue) := by
        rintro ⟨script, amount⟩
        exact same (by rw [output, script, amount])
      rw [dropToPayment, if_neg other, ← ih, sublist_cons_iff]
      simp [same]

theorem destutter'_head {first : CTxOut} :
    ∃ later, rest.destutter' (· ≠ ·) first = first :: later := by
  induction rest with
  | nil => exact ⟨[], rfl⟩
  | cons out others ih =>
    by_cases differs : first ≠ out
    · exact ⟨_, List.destutter'_cons_pos _ differs⟩
    · rw [List.destutter'_cons_neg _ differs]
      exact ih

theorem paymentsMatch_from {out : CTxOut} : paymentsMatch payments (out :: rest) = true ↔
      ((payments.map output).destutter' (· ≠ ·) out).Sublist (out :: rest) := by
  induction payments generalizing out rest with
  | nil => simp [paymentsMatch]
  | cons payment others ih =>
    rw [map_cons]
    by_cases differs : out ≠ payment.output
    · have other : ¬ (payment.script = out.scriptPubKey ∧ payment.nAmount = out.nValue) := by
        rintro ⟨script, amount⟩
        exact differs (by rw [output, script, amount])
      obtain ⟨later, headed⟩ := destutter'_head
      rw [List.destutter'_cons_pos _ differs, cons_sublist_cons, headed,
        dropToPayment_sublist_iff, paymentsMatch, dropToPayment, if_neg other]
      cases found : dropToPayment payment rest with
      | none => simp
      | some suffix =>
        obtain ⟨behind, rfl⟩ := dropToPayment_head found
        simp [ih, headed]
    · have same : out = payment.output := not_ne_iff.mp differs
      rw [List.destutter'_cons_neg _ differs, ← ih, paymentsMatch, dropToPayment, same]
      simp [output]

theorem paymentsMatch_iff : paymentsMatch payments vout = true ↔
      ((payments.map output).destutter (· ≠ ·)).Sublist vout := by
  cases payments with
  | nil => simp [paymentsMatch]
  | cons payment others =>
    obtain ⟨later, headed⟩ := destutter'_head
    rw [map_cons, destutter_cons', headed, dropToPayment_sublist_iff, paymentsMatch]
    cases found : dropToPayment payment vout with
    | none => simp
    | some suffix =>
      obtain ⟨behind, rfl⟩ := dropToPayment_head found
      simp [paymentsMatch_from, headed]

end

section

def payable (vout : List CTxOut) : Prop :=
  (∀ out ∈ vout, 0 ≤ out.nValue.toInt) ∧ outputSum vout ≤ MAX_MONEY.toInt

theorem getValueOutFrom_nonneg {start total : CAmount}
    (found : getValueOutFrom start vout = some total) : ∀ out ∈ vout, 0 ≤ out.nValue.toInt := by
  induction vout generalizing start with
  | nil => simp
  | cons out rest ih =>
    simp only [getValueOutFrom, Bool.or_eq_true, Bool.not_eq_true'] at found
    split at found
    · cases found
    · rename_i accepted
      simp only [not_or, Bool.not_eq_false] at accepted
      rw [forall_mem_cons]
      exact ⟨((moneyRange_iff _).mp accepted.1).1, ih found⟩

theorem getValueOut_isSome_iff_payable (tx : CTransaction) :
    tx.getValueOut.isSome = true ↔ payable tx.vout := by
  constructor
  · intro found
    obtain ⟨total, value⟩ := Option.isSome_iff_exists.mp found
    have nonneg := getValueOutFrom_nonneg value
    exact ⟨nonneg, (getValueOut_isSome_iff nonneg).mp found⟩
  · rintro ⟨nonneg, within⟩
    exact (getValueOut_isSome_iff nonneg).mpr within

theorem payable_sublist {part : List CTxOut} (sublist : part.Sublist vout) (paid : payable vout) :
    payable part ∧ outputSum part ≤ outputSum vout := by
  have smaller : outputSum part ≤ outputSum vout := by
    refine (sublist.map fun out => out.nValue.toInt).sum_le_sum ?_
    simpa using paid.1
  exact ⟨⟨fun out member => paid.1 out (sublist.subset member), smaller.trans paid.2⟩, smaller⟩

theorem foldl_amounts_toInt (start : CAmount) (low : 0 ≤ start.toInt)
    (paid : payable (payments.map output))
    (high : start.toInt + outputSum (payments.map output) < 2 ^ 63) :
    (payments.foldl (fun total payment => total + payment.nAmount) start).toInt =
      start.toInt + outputSum (payments.map output) := by
  induction payments generalizing start with
  | nil => simp
  | cons payment others ih =>
    rw [map_cons] at paid high
    have rest := payable_sublist (sublist_cons_self _ _) paid
    have nonneg := outputSum_nonneg rest.1.1
    have first : 0 ≤ payment.nAmount.toInt := paid.1 _ mem_cons_self
    have sum : outputSum (payment.output :: others.map output) =
      payment.nAmount.toInt + outputSum (others.map output) := outputSum_cons _ _
    have exact := toInt_add_of_range start payment.nAmount (by omega) (by omega)
    rw [foldl_cons, map_cons, sum, ih (start + payment.nAmount) (by omega) rest.1 (by omega), exact]
    omega

theorem getPaymentsTotalAmount_toInt (paid : payable pSuperblock.schedule) :
    (getPaymentsTotalAmount pSuperblock).toInt = outputSum pSuperblock.schedule := by
  have maximum : MAX_MONEY.toInt = 66600000000000000 := rfl
  have within : outputSum (pSuperblock.vecPayments.map output) ≤ MAX_MONEY.toInt := paid.2
  have exact := foldl_amounts_toInt 0 (by decide) paid (by simp only [toInt_zero]; omega)
  simpa [getPaymentsTotalAmount, schedule] using exact

def paidInOrder (schedule vout : List CTxOut) (blockReward : CAmount) : Prop :=
  ∃ assign : Fin schedule.length ↪o Fin vout.length, (∀ i, schedule.get i = vout.get (assign i)) ∧
      ∑ i ∈ (Finset.univ.map assign.toEmbedding)ᶜ, (vout.get i).nValue.toInt ≤ blockReward.toInt

variable {schedule : List CTxOut}

theorem paidInOrder_iff : paidInOrder schedule vout blockReward ↔
      schedule.Sublist vout ∧ outputSum vout - outputSum schedule ≤ blockReward.toInt := by
  have total (outs : List CTxOut) : outputSum outs = ∑ i, (outs.get i).nValue.toInt :=
    (Fin.sum_univ_fun_getElem outs fun out => out.nValue.toInt).symm
  have left (assign : Fin schedule.length ↪o Fin vout.length)
      (same : ∀ i, schedule.get i = vout.get (assign i)) :
      ∑ i ∈ (Finset.univ.map assign.toEmbedding)ᶜ, (vout.get i).nValue.toInt =
        outputSum vout - outputSum schedule := by
    have split := Finset.sum_add_sum_compl (Finset.univ.map assign.toEmbedding)
      fun i => (vout.get i).nValue.toInt
    rw [Finset.sum_map, ← total vout] at split
    have used : outputSum schedule = ∑ i, (vout.get (assign.toEmbedding i)).nValue.toInt := by
      rw [total]
      exact Finset.sum_congr rfl fun i _ => congrArg (fun out => out.nValue.toInt) (same i)
    omega
  rw [sublist_iff_exists_fin_orderEmbedding_get_eq]
  constructor
  · rintro ⟨assign, same, within⟩
    exact ⟨⟨assign, same⟩, (left assign same).symm.trans_le within⟩
  · rintro ⟨⟨assign, same⟩, within⟩
    exact ⟨assign, same, (left assign same).trans_le within⟩

theorem paidInOrder_of_isValidWithin
    (accepted : pSuperblock.isValidWithin nPaymentsLimit txNew blockReward = some true)
    (apart : pSuperblock.schedule.IsChain (· ≠ ·)) :
    paidInOrder pSuperblock.schedule txNew.vout blockReward := by
  obtain ⟨-, -, ⟨nBlockValue, value, within⟩, matched⟩ := (isValidWithin_iff ..).mp accepted
  have inOrder : pSuperblock.schedule.Sublist txNew.vout := by
    rw [← destutter_of_isChain _ _ apart]
    exact (paymentsMatch_iff ..).mp matched
  have part := payable_sublist inOrder ((getValueOut_isSome_iff_payable txNew).mp (by simp [value]))
  have total := getPaymentsTotalAmount_toInt part.1
  have nonneg := outputSum_nonneg part.1.1
  have exact := getValueOut_exact value
  have valueRange := (moneyRange_iff _).mp exact.2
  rw [le_iff] at within
  have fits : blockReward.toInt + (getPaymentsTotalAmount pSuperblock).toInt < 2 ^ 63 := by
    by_contra large
    have wrapped := toInt_add_of_overflow (not_lt.mp large)
    omega
  have lower := blockReward.le_toInt
  rw [toInt_add_of_range _ _ (by omega) fits] at within
  exact (paidInOrder_iff ..).mpr ⟨inOrder, by omega⟩

/-- A coinbase with one output for each run of equal payments, filled up with outputs that pay
nothing to a script of no payment. -/
def collapsedCoinbase (schedule : List CTxOut) (script : CScript) : CTransaction :=
  { coinbasePaying 0 with
    vout := schedule.destutter (· ≠ ·) ++ List.replicate schedule.length ⟨0, script⟩ }

theorem collapsedCoinbase_payable (paid : payable (schedule.destutter (· ≠ ·))) :
    payable (collapsedCoinbase schedule script).vout := by
  constructor
  · intro out member
    rcases mem_append.mp member with scheduled | filled
    · exact paid.1 out scheduled
    · rw [eq_of_mem_replicate filled]
      exact le_refl 0
  · refine le_of_eq_of_le ?_ paid.2
    simp [collapsedCoinbase, outputSum]

theorem collapsedCoinbase_accepted (paid : payable (pSuperblock.schedule.destutter (· ≠ ·))) :
    ∃ blockReward, pSuperblock.isValidWithin (getPaymentsTotalAmount pSuperblock)
      (collapsedCoinbase pSuperblock.schedule script) blockReward = some true := by
  obtain ⟨nBlockValue, value⟩ := Option.isSome_iff_exists.mp
    ((getValueOut_isSome_iff_payable _).mpr (collapsedCoinbase_payable paid))
  refine ⟨nBlockValue - getPaymentsTotalAmount pSuperblock, (isValidWithin_iff ..).mpr
    ⟨?_, Int64.le_refl _, ⟨nBlockValue, value, ?_⟩, (paymentsMatch_iff ..).mpr ?_⟩⟩
  · simp [collapsedCoinbase, schedule]
  · rw [Int64.sub_add_cancel]
    exact Int64.le_refl _
  · exact sublist_append_left _ _

theorem collapsedCoinbase_incomplete (fresh : ∀ out ∈ schedule, out.scriptPubKey ≠ script)
    (paid : schedule.Sublist (collapsedCoinbase schedule script).vout) :
    schedule.IsChain (· ≠ ·) := by
  have kept := paid.filter fun out => decide (out.scriptPubKey ≠ script)
  rw [filter_eq_self.mpr (by simpa using fresh), collapsedCoinbase, filter_append,
    filter_replicate] at kept
  have collapsed : schedule.Sublist (schedule.destutter (· ≠ ·)) := by
    rw [if_neg (by simp), append_nil] at kept
    exact kept.trans filter_sublist
  exact (destutter_eq_self_iff _ _).mp ((destutter_sublist _ _).antisymm collapsed)

theorem superblock_paidInOrder_iff (pSuperblock : CSuperblock) :
    (∀ nPaymentsLimit txNew blockReward,
      pSuperblock.isValidWithin nPaymentsLimit txNew blockReward = some true →
        paidInOrder pSuperblock.schedule txNew.vout blockReward) ↔
      pSuperblock.schedule.IsChain (· ≠ ·) ∨
        ¬ payable (pSuperblock.schedule.destutter (· ≠ ·)) := by
  constructor
  · intro complete
    by_contra neither
    obtain ⟨repeated, paid⟩ := not_or.mp neither
    obtain ⟨script, unused⟩ := Infinite.exists_notMem_finset
      (pSuperblock.schedule.map CTxOut.scriptPubKey).toFinset
    obtain ⟨blockReward, accepted⟩ := collapsedCoinbase_accepted (not_not.mp paid)
    refine repeated (collapsedCoinbase_incomplete ?_
      ((paidInOrder_iff ..).mp (complete _ _ blockReward accepted)).1)
    intro out member same
    exact unused (by simpa using ⟨out, member, same⟩)
  · rintro (apart | unpayable) nPaymentsLimit txNew blockReward accepted
    · exact paidInOrder_of_isValidWithin accepted apart
    · obtain ⟨-, -, ⟨nBlockValue, value, -⟩, matched⟩ := (isValidWithin_iff ..).mp accepted
      have paid := (getValueOut_isSome_iff_payable txNew).mp (by simp [value])
      exact absurd (payable_sublist ((paymentsMatch_iff ..).mp matched) paid).1 unpayable

def twoEqualPayments : CSuperblock :=
  { governanceObject := none, nBlockHeight := 0, vecPayments := [⟨[0x51], 5⟩, ⟨[0x51], 5⟩] }

theorem oneOutput_pays_two :
    twoEqualPayments.isValidWithin 10 (collapsedCoinbase twoEqualPayments.schedule [0x52]) 0 =
        some true ∧
      ¬ paidInOrder twoEqualPayments.schedule
        (collapsedCoinbase twoEqualPayments.schedule [0x52]).vout 0 := by
  refine ⟨by decide, fun paid => ?_⟩
  have inOrder := ((paidInOrder_iff ..).mp paid).1
  revert inOrder
  decide

end

section

variable {env : PaymentEnv} {scriptPubKeyIn : CScript} {nHeight : Nat} {nFees : CAmount}

def fundedAt (env : PaymentEnv) (trigger : CSuperblock) (nBlockHeight : Nat) : Prop :=
  isValidBlockHeight env.consensus nBlockHeight = true ∧ trigger ∈ env.mapTrigger ∧
    trigger.nBlockHeight = nBlockHeight ∧
    ∃ object, trigger.governanceObject = some object ∧
      (updateSentinelVariables env object).fCachedFunding = true

theorem fundedAt_triggers {trigger : CSuperblock} (funded : fundedAt env trigger nHeight) :
    isSuperblockTriggered env nHeight = true := by
  obtain ⟨height, member, sameHeight, object, held, enough⟩ := funded
  simp only [isSuperblockTriggered, height, Bool.true_and, any_eq_true]
  exact ⟨(trigger, object), mem_filterMap.mpr ⟨trigger, member, by simp [held]⟩,
    by simp [sameHeight, enough]⟩

theorem checkBlockReward_triggered (enoughData : env.notEnoughData = false)
    (enabled : env.isSporkActive .SPORK_9_SUPERBLOCKS_ENABLED = true)
    (triggered : isSuperblockTriggered env nHeight = true) :
    checkBlockReward env coinbase nHeight nFees = some .accepted ↔
      ∃ best, getBestSuperblock env nHeight = some best ∧
        best.isValidWithin 0 coinbase (nSubsidyAt nHeight + nFees) = some true := by
  have height : isValidBlockHeight env.consensus nHeight = true :=
    (Bool.and_eq_true_iff.mp triggered).1
  rw [checkBlockReward_accepted_iff, Int64.add_comm nFees]
  simp only [isBlockPayeeValid, isBlockValueValid, enoughData, enabled, triggered,
    superblockManagerIsValid, Bool.false_eq_true, Bool.and_self, if_false, if_true]
  cases getBestSuperblock env nHeight with
  | none => simp
  | some best =>
    simp only [isValid_eq_isValidWithin height, getPaymentsLimit_eq_zero,
      Option.some.injEq, exists_eq_left']
    constructor
    · rintro ⟨reward, payee, -⟩
      cases valid : best.isValidWithin 0 coinbase (nSubsidyAt nHeight + nFees) with
      | none => simp [valid] at payee
      | some accepted =>
        simp only [valid, Option.bind_eq_bind, Option.bind_some, Option.pure_def,
          Option.some.injEq, PayeeResult.mk.injEq] at payee
        rw [payee.1]
    · intro valid
      obtain ⟨-, -, ⟨nBlockValue, value, -⟩, -⟩ := (isValidWithin_iff ..).mp valid
      exact ⟨nSubsidyAt nHeight, by simp [valid], by simp [valid, value]⟩

theorem checkBlockReward_noData (noData : env.notEnoughData = true)
    (height : isValidBlockHeight env.consensus nHeight = true) :
    checkBlockReward env coinbase nHeight nFees = some .accepted ↔
      ∃ nValueOut, coinbase.getValueOut = some nValueOut ∧ nValueOut ≤ nValueOut + nFees := by
  rw [checkBlockReward_accepted_iff]
  cases value : coinbase.getValueOut with
  | none => simp [isBlockPayeeValid, noData, value]
  | some nValueOut =>
    simp [isBlockPayeeValid, isBlockValueValid, noData, height, value, valueWithin_ok_iff]

theorem schedule_zero_iff (paid : payable pSuperblock.schedule) :
    outputSum pSuperblock.schedule ≤ 0 ↔
      ∀ payment ∈ pSuperblock.vecPayments, payment.nAmount = 0 := by
  constructor
  · intro nothing payment member
    have scheduled : payment.output ∈ pSuperblock.schedule := mem_map_of_mem member
    have part := (payable_sublist (singleton_sublist.mpr scheduled) paid).2
    have nonneg : 0 ≤ payment.nAmount.toInt := paid.1 _ scheduled
    have single : outputSum [payment.output] = payment.nAmount.toInt := by
      simp [output]
    exact toInt_inj.mp (by simp only [toInt_zero]; omega)
  · intro zero
    refine le_of_eq (sum_eq_zero fun value member => ?_)
    obtain ⟨out, scheduled, rfl⟩ := mem_map.mp member
    obtain ⟨payment, listed, rfl⟩ := mem_map.mp scheduled
    exact congrArg toInt (zero payment listed)

theorem createCoinbase_valid_iff {best : CSuperblock}
    (built : coinbase.vout = ⟨blockReward, scriptPubKeyIn⟩ :: best.schedule) :
    best.isValidWithin 0 coinbase blockReward = some true ↔
      payable coinbase.vout ∧ ∀ payment ∈ best.vecPayments, payment.nAmount = 0 := by
  have sublist : best.schedule.Sublist coinbase.vout := by
    rw [built]
    exact sublist_cons_self _ _
  rw [isValidWithin_iff]
  constructor
  · rintro ⟨-, limited, ⟨nBlockValue, value, -⟩, -⟩
    have paid := (getValueOut_isSome_iff_payable coinbase).mp (by simp [value])
    have part := (payable_sublist sublist paid).1
    rw [le_iff, getPaymentsTotalAmount_toInt part] at limited
    exact ⟨paid, (schedule_zero_iff part).mp limited⟩
  · rintro ⟨paid, zero⟩
    obtain ⟨nBlockValue, value⟩ := Option.isSome_iff_exists.mp
      ((getValueOut_isSome_iff_payable coinbase).mpr paid)
    have part := (payable_sublist sublist paid).1
    have nonneg := outputSum_nonneg part.1
    have nothing := (schedule_zero_iff part).mpr zero
    have total : getPaymentsTotalAmount best = 0 :=
      toInt_inj.mp (by rw [getPaymentsTotalAmount_toInt part, toInt_zero]; omega)
    have exact := (getValueOut_exact value).1
    simp only [built, outputSum_cons] at exact
    rw [total, Int64.add_zero]
    refine ⟨by simp [built, schedule], Int64.le_refl _, ⟨nBlockValue, value, ?_⟩,
      (paymentsMatch_iff ..).mpr ((destutter_sublist _ _).trans sublist)⟩
    rw [le_iff]
    omega

theorem fees_toInt_le {schedule : List CTxOut}
    (built : vout = ⟨nSubsidyAt nHeight + nFees, scriptPubKeyIn⟩ :: schedule) (paid : payable vout)
    (fees : 0 ≤ nFees) : nFees.toInt ≤ MAX_MONEY.toInt := by
  have subsidy := nSubsidyAt_range nHeight
  have first : 0 ≤ (nSubsidyAt nHeight + nFees).toInt := paid.1 ⟨_, _⟩ (built ▸ mem_cons_self)
  have others := outputSum_nonneg
    (payable_sublist (built ▸ sublist_cons_self _ _) paid : payable schedule ∧ _).1.1
  have total := paid.2
  simp only [built, outputSum_cons] at total
  rw [le_iff, toInt_zero] at fees
  have fits : (nSubsidyAt nHeight).toInt + nFees.toInt < 2 ^ 63 := by
    by_contra large
    have wrapped := toInt_add_of_overflow (not_lt.mp large)
    omega
  rw [toInt_add_of_range _ _ (by omega) fits] at total
  omega

theorem createSuperblock_accepted_iff (env : PaymentEnv) (queue : Nat → Option CScript)
    (scriptPubKeyIn : CScript) (nHeight : Nat) (nFees : CAmount) (trigger : CSuperblock)
    (synced : env.masternodeSynced = true)
    (enabled : env.isSporkActive .SPORK_9_SUPERBLOCKS_ENABLED = true)
    (funded : fundedAt env trigger nHeight) (fees : 0 ≤ nFees) :
    checkBlockReward env (createCoinbase env queue scriptPubKeyIn nHeight nFees).txNew nHeight
        nFees = some .accepted ↔
      payable (⟨nSubsidyAt nHeight + nFees, scriptPubKeyIn⟩ ::
          (getBestSuperblock env nHeight).elim [] schedule) ∧
        (env.fLiteMode = true ∨ ∃ best, getBestSuperblock env nHeight = some best ∧
          ∀ payment ∈ best.vecPayments, payment.nAmount = 0) := by
  have triggered := fundedAt_triggers funded
  have built : (createCoinbase env queue scriptPubKeyIn nHeight nFees).txNew.vout =
      ⟨nSubsidyAt nHeight + nFees, scriptPubKeyIn⟩ ::
        (getBestSuperblock env nHeight).elim [] schedule := by
    simp only [createCoinbase, fillBlockPayments, enabled, triggered, Bool.and_self, if_true,
      createSuperblock, startCoinbase, getBlockSubsidy_subsidy]
    cases getBestSuperblock env nHeight <;> rfl
  rw [← built]
  cases lite : env.fLiteMode with
  | false =>
    have enoughData : env.notEnoughData = false := by
      simp [PaymentEnv.notEnoughData, synced, lite]
    rw [checkBlockReward_triggered enoughData enabled triggered]
    cases found : getBestSuperblock env nHeight with
    | none => simp
    | some best =>
      rw [found] at built
      simpa using createCoinbase_valid_iff built
  | true =>
    have noData : env.notEnoughData = true := by simp [PaymentEnv.notEnoughData, lite]
    simp only [checkBlockReward_noData noData funded.1, true_or, and_true]
    constructor
    · rintro ⟨nValueOut, value, -⟩
      exact (getValueOut_isSome_iff_payable _).mp (by simp [value])
    · intro paid
      obtain ⟨nValueOut, value⟩ := Option.isSome_iff_exists.mp
        ((getValueOut_isSome_iff_payable _).mpr paid)
      have bounds := (moneyRange_iff _).mp (getValueOut_exact value).2
      have feesWithin := fees_toInt_le built paid fees
      refine ⟨nValueOut, value, ?_⟩
      have maximum : MAX_MONEY.toInt = 66600000000000000 := rfl
      rw [le_iff, toInt_zero] at fees
      rw [le_iff, toInt_add_of_range _ _ (by omega) (by omega)]
      omega

def fundedNode (nAmount : CAmount) : PaymentEnv :=
  { freshNode true with
    mapTrigger := [⟨some ⟨true, 40⟩, 100, [⟨[0x51], nAmount⟩]⟩] }

/-- A better trigger that pays nothing beside the funded one. -/
def outvotedNode : PaymentEnv :=
  { fundedNode 1 with
    mapTrigger := (fundedNode 1).mapTrigger ++ [⟨some ⟨true, 50⟩, 100, [⟨[0x51], 0⟩]⟩] }

theorem createSuperblock_accepted_iff_sample :
    fundedAt outvotedNode ⟨some ⟨true, 40⟩, 100, [⟨[0x51], 1⟩]⟩ 100 ∧ checkBlockReward outvotedNode
        (createCoinbase outvotedNode sampleQueue [0x52] 100 1001).txNew 100 1001 =
          some .accepted := by
  have funded : fundedAt outvotedNode ⟨some ⟨true, 40⟩, 100, [⟨[0x51], 1⟩]⟩ 100 :=
    ⟨by decide, mem_cons_self, rfl, ⟨true, 40⟩, rfl, rfl⟩
  refine ⟨funded, (createSuperblock_accepted_iff _ sampleQueue [0x52] 100 1001 _ rfl (by decide)
    funded (by decide)).mpr ⟨⟨by decide, by decide⟩, Or.inr ⟨_, rfl, ?_⟩⟩⟩
  simp

theorem fundedTrigger_blocks_height :
    fundedAt (fundedNode 1) ⟨some ⟨true, 40⟩, 100, [⟨[0x51], 1⟩]⟩ 100 ∧
      checkBlockReward (fundedNode 1)
        (createCoinbase (fundedNode 1) sampleQueue [0x52] 100 1001).txNew 100 1001 =
          some .badPayee :=
  ⟨⟨by decide, mem_cons_self, rfl, ⟨true, 40⟩, rfl, rfl⟩, by decide⟩

end

end Minerium
