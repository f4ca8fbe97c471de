import Minerium.PaymentsCore
import Minerium.Transaction

/-! When the coinbase checks bound the coinbase: `isBlockPayeeValid` may overwrite the reward that
`isBlockValueValid` compares with. -/

namespace Minerium

open MachineInt CMasternodePayments

variable {env : PaymentEnv} {txNew coinbase : CTransaction} {reward fee nFees total : CAmount}
  {vecPayees : CMasternodeBlockPayees} {nHeight : Nat}

theorem bandValue_of_all {α : Type} {P : α → Prop} {bands : List (HeightBand α)} {fallback : α}
    (nHeight : Nat) (all : ∀ band ∈ bands, P band.value) (last : P fallback) :
    P (bandValue bands fallback nHeight) := by
  unfold bandValue
  split
  · rename_i band found
    exact all band (List.mem_of_find?_eq_some found)
  · exact last

section

variable (env txNew nHeight)

theorem nSubsidyAt_range :
    0 ≤ (nSubsidyAt nHeight).toInt ∧ (nSubsidyAt nHeight).toInt ≤ 300000000000000 := by
  unfold nSubsidyAt
  exact bandValue_of_all (P := fun coins : CAmount =>
    0 ≤ (coins * COIN).toInt ∧ (coins * COIN).toInt ≤ 300000000000000) nHeight
    (by decide) (by decide)

@[simp] theorem getBlockSubsidy_reward (start : CAmount) (fMasternode : Bool) :
    (getBlockSubsidy nHeight start false fMasternode).nTotalRewardWithMasternodes =
      nSubsidyAt nHeight := by
  cases fMasternode <;> simp [getBlockSubsidy]

@[simp] theorem getBlockSubsidy_subsidy (start : CAmount) :
    (getBlockSubsidy nHeight start false false).nSubsidy = nSubsidyAt nHeight := by
  simp [getBlockSubsidy]

@[simp] theorem getPaymentsLimit_eq_zero (consensus : ConsensusParams) (nBlockHeight : Nat) :
    getPaymentsLimit consensus nBlockHeight = 0 := by
  unfold getPaymentsLimit
  split
  · rfl
  · simp [superblockPart, getBlockSubsidy]

theorem payeeLoop_reward (nHalfFee : CAmount) (vecPayees : CMasternodeBlockPayees) :
    (payeeLoop env txNew nHeight nHalfFee vecPayees
      (nSubsidyAt nHeight)).nTotalRewardWithMasternodes = nSubsidyAt nHeight := by
  induction vecPayees with
  | nil => rfl
  | cons payee rest ih =>
    simp only [payeeLoop, getBlockSubsidy_reward]
    split
    · rfl
    · exact ih

end

theorem payeeLoop_quorum {nHalfFee : CAmount}
    (accepted : (payeeLoop env txNew nHeight nHalfFee vecPayees reward).accepted = true) :
    ∃ payee ∈ vecPayees, MNPAYMENTS_SIGNATURES_REQUIRED ≤ payee.getVoteCount := by
  induction vecPayees generalizing reward with
  | nil => cases accepted
  | cons payee rest ih =>
    simp only [payeeLoop, getBlockSubsidy_reward] at accepted
    split at accepted
    · rename_i paid
      exact ⟨payee, List.mem_cons_self, paid.1⟩
    · obtain ⟨other, member, votes⟩ := ih accepted
      exact ⟨other, List.mem_cons_of_mem _ member, votes⟩

theorem foldl_maxVotes_lt {bound start : Nat} : vecPayees.foldl (fun nMaxSignatures payee =>
        if nMaxSignatures ≤ payee.getVoteCount then payee.getVoteCount else nMaxSignatures)
      start < bound ↔ start < bound ∧ ∀ payee ∈ vecPayees, payee.getVoteCount < bound := by
  induction vecPayees generalizing start with
  | nil => simp
  | cons payee rest ih =>
    rw [List.foldl_cons, ih, List.forall_mem_cons, ← and_assoc]
    refine and_congr_left fun _ => ?_
    split <;> omega

def hasQuorum (vecPayees : CMasternodeBlockPayees) : Prop :=
  ∃ payee ∈ vecPayees, MNPAYMENTS_SIGNATURES_REQUIRED ≤ payee.getVoteCount

theorem getMaxSignatures_lt_iff :
    getMaxSignatures vecPayees < MNPAYMENTS_SIGNATURES_REQUIRED ↔ ¬ hasQuorum vecPayees := by
  unfold getMaxSignatures hasQuorum
  rw [foldl_maxVotes_lt]
  simp [MNPAYMENTS_SIGNATURES_REQUIRED]

theorem blockPayees_reward_of_quorum {result : PayeeResult} (quorum : hasQuorum vecPayees)
    (checked : vecPayees.isTransactionValid env txNew nHeight fee (nSubsidyAt nHeight) = some
      result) : result.nTotalRewardWithMasternodes = nSubsidyAt nHeight := by
  have enough : ¬ getMaxSignatures vecPayees < MNPAYMENTS_SIGNATURES_REQUIRED := by
    rw [getMaxSignatures_lt_iff]
    exact not_not.mpr quorum
  simp only [CMasternodeBlockPayees.isTransactionValid, if_neg enough, ite_self,
    Option.some.injEq] at checked
  subst checked
  exact payeeLoop_reward env txNew nHeight (fee / 2) vecPayees

theorem blockPayees_of_no_quorum
    (noQuorum : ¬ hasQuorum vecPayees) (valueOut : txNew.getValueOut = some total) :
    vecPayees.isTransactionValid env txNew nHeight fee reward =
      some ⟨true, if env.consensus.nShareFeeBlock ≤ nHeight then total - fee else total⟩ := by
  have unpaid : ¬ (payeeLoop env txNew nHeight (fee / 2) vecPayees reward).accepted = true :=
    fun accepted => noQuorum (payeeLoop_quorum accepted)
  have few := getMaxSignatures_lt_iff.mpr noQuorum
  simp only [CMasternodeBlockPayees.isTransactionValid, if_neg unpaid, if_pos few, valueOut]
  rfl

section

variable (env nHeight)

def quorumAt : Prop :=
  ∃ vecPayees, env.mapMasternodeBlocks nHeight = some vecPayees ∧ hasQuorum vecPayees

def checksSchedule : Bool :=
  if env.notEnoughData then !isValidBlockHeight env.consensus nHeight
  else env.isSporkActive .SPORK_9_SUPERBLOCKS_ENABLED

/-- The coinbase is compared with the schedule and not with itself. -/
def scheduleEnforced : Prop :=
  checksSchedule env nHeight = true ∨ (env.notEnoughData = false ∧ quorumAt env nHeight)

end

theorem checkBlockReward_accepted_iff {nHeight : Nat} :
    checkBlockReward env coinbase nHeight nFees = some .accepted ↔
      ∃ reward, isBlockPayeeValid env coinbase nHeight (nFees + nSubsidyAt nHeight) nFees
          (nSubsidyAt nHeight) = some ⟨true, reward⟩ ∧
        isBlockValueValid env coinbase nHeight reward nFees = some (.ok ()) := by
  simp only [checkBlockReward, getBlockSubsidy_reward, getBlockSubsidy_subsidy]
  cases payee : isBlockPayeeValid env coinbase nHeight (nFees + nSubsidyAt nHeight) nFees
      (nSubsidyAt nHeight) with
  | none => simp
  | some result =>
    obtain ⟨accepted, reward⟩ := result
    cases accepted with
    | false => simp
    | true =>
      cases value : isBlockValueValid env coinbase nHeight reward nFees with
      | none => simp [value]
      | some outcome => cases outcome <;> simp [value]

theorem valueWithin_ok_iff {nValueOut nLimit : CAmount} {failure : BlockValueError} :
    valueWithin nValueOut nLimit failure = .ok () ↔ nValueOut ≤ nLimit := by
  unfold valueWithin
  split <;> simp_all

theorem subsidy_add_fees_bound
    (totalRange : moneyRange total = true) (within : total ≤ nSubsidyAt nHeight + nFees) :
    total.toInt ≤ (nSubsidyAt nHeight).toInt + nFees.toInt := by
  have bounds := (moneyRange_iff total).mp totalRange
  have subsidy := nSubsidyAt_range nHeight
  have lower := nFees.le_toInt
  rw [le_iff] at within
  by_cases fits : (nSubsidyAt nHeight).toInt + nFees.toInt < 2 ^ 63
  · rwa [toInt_add_of_range _ _ (by omega) fits] at within
  · omega

theorem not_exceedsSchedule (within : exceedsSchedule nHeight nFees total = false) :
    total ≤ nSubsidyAt nHeight + nFees := by
  simp only [exceedsSchedule, getBlockSubsidy_reward, decide_eq_false_iff_not] at within
  rw [lt_iff] at within
  rw [le_iff]
  omega

theorem isBlockValueValid_ok_iff (untriggered : isSuperblockTriggered env nHeight = false) :
    isBlockValueValid env coinbase nHeight reward nFees = some (.ok ()) ↔
      ∃ total, coinbase.getValueOut = some total ∧ total ≤ reward + nFees ∧
        (checksSchedule env nHeight = true → exceedsSchedule nHeight nFees total = false) := by
  cases valueOut : coinbase.getValueOut with
  | none => simp [isBlockValueValid, valueOut]
  | some total =>
    cases scheduled : exceedsSchedule nHeight nFees total <;> cases data : env.notEnoughData <;>
      cases height : isValidBlockHeight env.consensus nHeight <;>
      cases spork : env.isSporkActive .SPORK_9_SUPERBLOCKS_ENABLED <;>
      simp [isBlockValueValid, checksSchedule, valueOut, scheduled, data, height, spork,
        untriggered, valueWithin_ok_iff]

theorem reward_of_quorum {blockReward : CAmount}
    (untriggered : isSuperblockTriggered env nHeight = false)
    (enoughData : env.notEnoughData = false) (quorum : quorumAt env nHeight)
    (checked : isBlockPayeeValid env coinbase nHeight blockReward nFees (nSubsidyAt nHeight) =
      some ⟨true, reward⟩) : reward = nSubsidyAt nHeight := by
  obtain ⟨vecPayees, stored, voted⟩ := quorum
  simp only [isBlockPayeeValid, enoughData, untriggered, Bool.false_eq_true, if_false,
    Bool.and_false, isTransactionValid, stored] at checked
  cases payees : vecPayees.isTransactionValid env coinbase nHeight nFees (nSubsidyAt nHeight) with
  | none => simp [payees] at checked
  | some result =>
    have scheduled := blockPayees_reward_of_quorum voted payees
    cases accepted : result.accepted with
    | false =>
      simp [payees, accepted] at checked
      rw [← checked.2, scheduled]
    | true =>
      simp [payees, accepted] at checked
      rw [← scheduled, checked]

theorem accepted_of_no_quorum {blockReward total : CAmount}
    (untriggered : isSuperblockTriggered env nHeight = false)
    (unvoted : env.notEnoughData = true ∨ ¬ quorumAt env nHeight)
    (valueOut : coinbase.getValueOut = some total) :
    isBlockPayeeValid env coinbase nHeight blockReward nFees reward = some ⟨true, total⟩ ∨
      env.consensus.nShareFeeBlock ≤ nHeight ∧
        isBlockPayeeValid env coinbase nHeight blockReward nFees reward =
          some ⟨true, total - nFees⟩ := by
  cases data : env.notEnoughData with
  | true =>
    left
    simp [isBlockPayeeValid, data, valueOut]
  | false =>
    have noQuorum : ¬ quorumAt env nHeight := by
      rcases unvoted with missing | noQuorum
      · rw [data] at missing
        cases missing
      · exact noQuorum
    cases stored : env.mapMasternodeBlocks nHeight with
    | none =>
      left
      simp [isBlockPayeeValid, data, untriggered, isTransactionValid, stored, valueOut]
    | some vecPayees =>
      have few : ¬ hasQuorum vecPayees := fun voted => noQuorum ⟨vecPayees, stored, voted⟩
      simp only [isBlockPayeeValid, data, untriggered, Bool.false_eq_true, if_false,
        Bool.and_false, isTransactionValid, stored,
        blockPayees_of_no_quorum few valueOut]
      by_cases shared : env.consensus.nShareFeeBlock ≤ nHeight
      · right
        simp [shared]
      · left
        simp [shared]

def coinbasePaying (nValue : CAmount) : CTransaction :=
  { nVersion := 1
    vin := [{ prevout := ⟨0, 0xffffffff⟩, scriptSig := [0, 0], nSequence := SEQUENCE_FINAL }]
    vout := [{ nValue := nValue, scriptPubKey := [] }]
    nLockTime := 0 }

def coinbaseBounded (env : PaymentEnv) (nHeight : Nat) (nFees : CAmount) : Prop :=
  ∀ coinbase, checkBlockReward env coinbase nHeight nFees = some .accepted →
    outputSum coinbase.vout ≤ (nSubsidyAt nHeight).toInt + nFees.toInt

theorem bounded_of_scheduleEnforced (untriggered : isSuperblockTriggered env nHeight = false)
    (enforced : scheduleEnforced env nHeight) : coinbaseBounded env nHeight nFees := by
  intro coinbase accepted
  obtain ⟨reward, payee, value⟩ := (checkBlockReward_accepted_iff ..).mp accepted
  obtain ⟨total, valueOut, within, scheduled⟩ := (isBlockValueValid_ok_iff untriggered).mp value
  obtain ⟨exactSum, totalRange⟩ := getValueOut_exact valueOut
  rw [← exactSum]
  apply subsidy_add_fees_bound totalRange
  rcases enforced with checks | ⟨enoughData, quorum⟩
  · exact not_exceedsSchedule (scheduled checks)
  · rwa [reward_of_quorum untriggered enoughData quorum payee] at within

theorem maxMoney_accepted (untriggered : isSuperblockTriggered env nHeight = false)
    (fees : 0 ≤ nFees) (small : (nSubsidyAt nHeight).toInt + nFees.toInt < MAX_MONEY.toInt)
    (unenforced : ¬ scheduleEnforced env nHeight) :
    checkBlockReward env (coinbasePaying MAX_MONEY) nHeight nFees = some .accepted := by
  have subsidy := nSubsidyAt_range nHeight
  have maximum : MAX_MONEY.toInt = 66600000000000000 := rfl
  have nonneg : 0 ≤ nFees.toInt := (le_iff 0 nFees).mp fees
  have valueOut : (coinbasePaying MAX_MONEY).getValueOut = some MAX_MONEY := by decide
  have unvoted : env.notEnoughData = true ∨ ¬ quorumAt env nHeight := by
    cases data : env.notEnoughData with
    | true => exact Or.inl rfl
    | false => exact Or.inr fun quorum => unenforced (Or.inr ⟨data, quorum⟩)
  have unchecked : checksSchedule env nHeight = true →
      exceedsSchedule nHeight nFees MAX_MONEY = false :=
    fun checks => absurd (Or.inl checks) unenforced
  rw [checkBlockReward_accepted_iff]
  rcases accepted_of_no_quorum untriggered unvoted valueOut with payee | ⟨-, payee⟩
  · refine ⟨MAX_MONEY, payee, (isBlockValueValid_ok_iff untriggered).mpr
      ⟨MAX_MONEY, valueOut, ?_, unchecked⟩⟩
    rw [le_iff, toInt_add_of_range _ _ (by omega) (by omega)]
    omega
  · refine ⟨MAX_MONEY - nFees, payee, (isBlockValueValid_ok_iff untriggered).mpr
      ⟨MAX_MONEY, valueOut, ?_, unchecked⟩⟩
    rw [Int64.sub_add_cancel]
    exact Int64.le_refl _

theorem coinbase_bounded_iff (env : PaymentEnv) (nHeight : Nat) (nFees : CAmount)
    (untriggered : isSuperblockTriggered env nHeight = false) (fees : 0 ≤ nFees) :
    coinbaseBounded env nHeight nFees ↔ scheduleEnforced env nHeight ∨
        MAX_MONEY.toInt ≤ (nSubsidyAt nHeight).toInt + nFees.toInt := by
  constructor
  · intro bounded
    by_contra neither
    simp only [not_or, not_le] at neither
    have paid := bounded _ (maxMoney_accepted untriggered fees neither.2 neither.1)
    simp only [coinbasePaying, outputSum_cons, outputSum_nil] at paid
    omega
  · rintro (enforced | large)
    · exact bounded_of_scheduleEnforced untriggered enforced
    · intro coinbase accepted
      obtain ⟨reward, payee, value⟩ := (checkBlockReward_accepted_iff ..).mp accepted
      obtain ⟨total, valueOut, -⟩ := (isBlockValueValid_ok_iff untriggered).mp value
      obtain ⟨exactSum, totalRange⟩ := getValueOut_exact valueOut
      have bounds := (moneyRange_iff total).mp totalRange
      have maximum : MAX_MONEY.toInt = 66600000000000000 := rfl
      omega

def mainConsensus : ConsensusParams :=
  { nSuperblockStartBlock := 0
    nSuperblockCycle := 1
    nShareFeeBlock := 0
    nGovernanceMinQuorum := 33 }

def freshNode (masternodeSynced : Bool) : PaymentEnv :=
  { consensus := mainConsensus
    mapSporksActive := fun _ => none
    adjustedTime := 1577836800
    masternodeSynced := masternodeSynced
    fLiteMode := false
    enabledMasternodes := 0
    mapMasternodeBlocks := fun _ => none
    mapTrigger := [] }

theorem coinbase_bounded_iff_synced :
    isSuperblockTriggered (freshNode true) 100 = false ∧ coinbaseBounded (freshNode true) 100 0 :=
  ⟨by decide, (coinbase_bounded_iff (freshNode true) 100 0 (by decide) (by decide)).mpr
    (Or.inl (Or.inl (by decide)))⟩

theorem unsynced_coinbase_unbounded : isSuperblockTriggered (freshNode false) 100 = false ∧
      checkBlockReward (freshNode false) (coinbasePaying MAX_MONEY) 100 0 = some .accepted ∧
      (nSubsidyAt 100).toInt + (0 : CAmount).toInt < outputSum (coinbasePaying MAX_MONEY).vout := by
  decide

end Minerium
