import Minerium.BlockPayeeCore
import Minerium.Payments

/-! The coinbase of a new block passes the checks of the validators. -/

namespace Minerium

open MachineInt List

variable {vecPayees : CMasternodeBlockPayees} {payee : CScript}

section

theorem halfFee_toInt {nFees : CAmount} (fees : 0 ≤ nFees) :
    (nFees / 2).toInt = nFees.toInt / 2 := by
  have nonneg : 0 ≤ nFees.toInt := (le_iff 0 nFees).mp fees
  rw [Int64.toInt_div_of_ne_right _ _ (by decide)]
  exact Int.tdiv_eq_ediv_of_nonneg nonneg

def masternodeShare (nHeight : Nat) : CAmount := (getBlockSubsidy nHeight 0 false true).nSubsidy

theorem masternodeShare_eq {nHeight : Nat} {start : CAmount} :
    (getBlockSubsidy nHeight start false true).nSubsidy = masternodeShare nHeight := by
  simp [masternodeShare, getBlockSubsidy]

theorem masternodeShare_range (nHeight : Nat) : 0 ≤ (masternodeShare nHeight).toInt ∧
      (masternodeShare nHeight).toInt ≤ (nSubsidyAt nHeight).toInt := by
  let shareFits (coins : CAmount) (constant : DoubleConstant) : Prop :=
    0 ≤ (mulDouble (coins * COIN - coins * COIN * 0) constant).toInt ∧
      (mulDouble (coins * COIN - coins * COIN * 0) constant).toInt ≤ (coins * COIN).toInt
  have all : shareFits (bandValue subsidyBands 16 nHeight)
      (bandValue masternodeBands double020 nHeight) := by
    refine bandValue_of_all (P := fun coins =>
      shareFits coins (bandValue masternodeBands double020 nHeight)) nHeight ?_ ?_
    · intro band member
      refine bandValue_of_all (P := shareFits band.value) nHeight ?_ ?_
      · revert band
        decide
      · revert band
        decide
    · refine bandValue_of_all (P := shareFits 16) nHeight ?_ ?_
      · decide
      · decide
  exact all

theorem getValueOutFrom_isSome_iff (start : CAmount) {vout : List CTxOut}
    (inRange : moneyRange start = true) (nonneg : ∀ out ∈ vout, 0 ≤ out.nValue.toInt) :
    (getValueOutFrom start vout).isSome = true ↔
      start.toInt + outputSum vout ≤ MAX_MONEY.toInt := by
  have maximum : MAX_MONEY.toInt = 66600000000000000 := rfl
  have bounds := (moneyRange_iff start).mp inRange
  induction vout generalizing start with
  | nil =>
    simp only [getValueOutFrom, Option.isSome_some, outputSum_nil, true_iff]
    omega
  | cons out rest ih =>
    have first := nonneg out mem_cons_self
    have others : ∀ other ∈ rest, 0 ≤ other.nValue.toInt :=
      fun other member => nonneg other (mem_cons_of_mem _ member)
    have remaining := outputSum_nonneg others
    have upper := out.nValue.toInt_lt
    rw [outputSum_cons]
    by_cases fits : start.toInt + out.nValue.toInt ≤ 66600000000000000
    · have sum := toInt_add_of_range start out.nValue (by omega) (by omega)
      have sumRange : moneyRange (start + out.nValue) = true := by
        rw [moneyRange_iff, sum]
        omega
      have outRange : moneyRange out.nValue = true := by
        rw [moneyRange_iff]
        omega
      simp only [getValueOutFrom, outRange, sumRange, Bool.not_true, Bool.or_self,
        Bool.false_eq_true, if_false]
      have step := ih (start + out.nValue) sumRange others ((moneyRange_iff _).mp sumRange)
      rw [sum, Int.add_assoc] at step
      exact step
    · have refused : (!moneyRange out.nValue || !moneyRange (start + out.nValue)) = true := by
        by_cases outRange : moneyRange out.nValue = true
        · have outBounds := (moneyRange_iff _).mp outRange
          have sum := toInt_add_of_range start out.nValue (by omega) (by omega)
          have sumRange : ¬ moneyRange (start + out.nValue) = true := by
            rw [moneyRange_iff, sum]
            omega
          simp [sumRange]
        · simp [outRange]
      simp only [getValueOutFrom, refused, if_true, Option.isSome_none, Bool.false_eq_true,
        false_iff]
      omega

end

section

theorem bestPayeeFrom_spec (nVotes : Int) (best : Option CMasternodePayee)
    (votes : ∀ payee, best = some payee → nVotes = payee.getVoteCount) (lowest : -1 ≤ nVotes)
    (none_iff : best = none → nVotes = -1) :
    (bestPayeeFrom nVotes best vecPayees = none ↔ best = none ∧ vecPayees = []) ∧
      ∀ chosen, bestPayeeFrom nVotes best vecPayees = some chosen →
        (chosen ∈ vecPayees ∨ best = some chosen) ∧ nVotes ≤ chosen.getVoteCount ∧
          ∀ payee ∈ vecPayees, payee.getVoteCount ≤ chosen.getVoteCount := by
  induction vecPayees generalizing nVotes best with
  | nil =>
    refine ⟨by simp [bestPayeeFrom], fun chosen found => ?_⟩
    refine ⟨Or.inr found, (votes chosen found).le, fun payee member => ?_⟩
    cases member
  | cons payee rest ih =>
    simp only [bestPayeeFrom]
    split
    · rename_i more
      obtain ⟨empty, spec⟩ := ih payee.getVoteCount (some payee)
        (fun other same => by cases same; rfl) (by omega) (fun absurd => by cases absurd)
      refine ⟨by simp [empty], fun chosen found => ?_⟩
      obtain ⟨source, atLeast, all⟩ := spec chosen found
      refine ⟨Or.inl ?_, by omega, ?_⟩
      · rcases source with member | same
        · exact mem_cons_of_mem _ member
        · cases same
          exact mem_cons_self
      · intro other member
        rcases mem_cons.mp member with rfl | member
        · omega
        · exact all other member
    · rename_i fewer
      have chosenBefore : best ≠ none := by
        intro absent
        have start := none_iff absent
        omega
      obtain ⟨empty, spec⟩ := ih nVotes best votes lowest none_iff
      refine ⟨by simp [empty, chosenBefore], fun chosen found => ?_⟩
      obtain ⟨source, atLeast, all⟩ := spec chosen found
      refine ⟨source.imp_left (mem_cons_of_mem _), atLeast, ?_⟩
      intro other member
      rcases mem_cons.mp member with rfl | member
      · omega
      · exact all other member

theorem getBestPayee_quorum (quorum : hasQuorum vecPayees) :
    ∃ chosen ∈ vecPayees, vecPayees.getBestPayee = some chosen ∧
      MNPAYMENTS_SIGNATURES_REQUIRED ≤ chosen.getVoteCount := by
  obtain ⟨voted, member, votes⟩ := quorum
  obtain ⟨empty, spec⟩ := bestPayeeFrom_spec (-1) none
    (fun payee absurd => by cases absurd) (by omega) (fun _ => rfl)
  cases best : vecPayees.getBestPayee with
  | none =>
    rw [(empty.mp best).2] at member
    cases member
  | some chosen =>
    obtain ⟨source, -, all⟩ := spec chosen best
    refine ⟨chosen, source.resolve_right (by simp), rfl, ?_⟩
    have most := all voted member
    omega

theorem payeeLoop_accepts {env : PaymentEnv} {txNew : CTransaction} {nHeight : Nat}
    {nHalfFee : CAmount} (reward : CAmount) {payee : CMasternodePayee} (member : payee ∈ vecPayees)
    (votes : MNPAYMENTS_SIGNATURES_REQUIRED ≤ payee.getVoteCount)
    (paid : foundPayment payee.scriptPubKey (masternodePayment env nHeight (masternodeShare
      nHeight) nHalfFee) txNew = true) :
    (payeeLoop env txNew nHeight nHalfFee vecPayees reward).accepted = true := by
  induction vecPayees generalizing reward with
  | nil => cases member
  | cons first rest ih =>
    simp only [payeeLoop, masternodeShare_eq]
    split
    · rfl
    · rename_i unpaid
      rcases mem_cons.mp member with rfl | member
      · exact absurd ⟨votes, paid⟩ unpaid
      · exact ih _ member

end

section

variable {env : PaymentEnv} {queue : Nat → Option CScript} {scriptPubKeyIn : CScript}
  {nHeight : Nat} {nFees : CAmount}

section

variable (env queue nHeight nFees)

def builtReward : Int :=
  match payeeToFill env queue nHeight with
  | none => (nSubsidyAt nHeight).toInt + nFees.toInt
  | some _ =>
    if env.consensus.nShareFeeBlock ≤ nHeight then
      (nSubsidyAt nHeight).toInt + 2 * (nFees.toInt / 2)
    else (nSubsidyAt nHeight).toInt

end

theorem builtReward_le (fees : 0 ≤ nFees) :
    builtReward env queue nHeight nFees ≤ (nSubsidyAt nHeight).toInt + nFees.toInt := by
  have nonneg : 0 ≤ nFees.toInt := (le_iff 0 nFees).mp fees
  unfold builtReward
  split
  · exact Int.le_refl _
  · split <;> omega

theorem builtReward_add_fees (within : builtReward env queue nHeight nFees ≤ MAX_MONEY.toInt)
    (fits : (nSubsidyAt nHeight).toInt + nFees.toInt < 2 ^ 63) :
    builtReward env queue nHeight nFees + nFees.toInt < 2 ^ 63 := by
  have maximum : MAX_MONEY.toInt = 66600000000000000 := rfl
  have subsidy := nSubsidyAt_range nHeight
  unfold builtReward at within ⊢
  split
  · rename_i nobody
    simp only [nobody] at within
    omega
  · rename_i payee chosen
    simp only [chosen] at within
    split
    · rename_i shared
      rw [if_pos shared] at within
      omega
    · exact fits

theorem createCoinbase_unpaid (untriggered : isSuperblockTriggered env nHeight = false)
    (nobody : payeeToFill env queue nHeight = none) :
    (createCoinbase env queue scriptPubKeyIn nHeight nFees).txNew.vout =
      [⟨nSubsidyAt nHeight + nFees, scriptPubKeyIn⟩] := by
  simp only [createCoinbase, fillBlockPayments, untriggered, Bool.and_false, Bool.false_eq_true,
    if_false, fillBlockPayee, nobody, startCoinbase, getBlockSubsidy_subsidy]

theorem createCoinbase_paid (untriggered : isSuperblockTriggered env nHeight = false)
    (chosen : payeeToFill env queue nHeight = some payee) :
    (createCoinbase env queue scriptPubKeyIn nHeight nFees).txNew.vout =
      [⟨nSubsidyAt nHeight - masternodeShare nHeight + sharedFee env nHeight (nFees / 2),
          scriptPubKeyIn⟩,
        ⟨masternodeShare nHeight + sharedFee env nHeight (nFees / 2), payee⟩] := by
  simp only [createCoinbase, fillBlockPayments, untriggered, Bool.and_false, Bool.false_eq_true,
    if_false, fillBlockPayee, chosen, startCoinbase, getBlockSubsidy_reward, masternodeShare_eq]
  rfl

theorem sharedFee_toInt (fees : 0 ≤ nFees) : (sharedFee env nHeight (nFees / 2)).toInt =
      if env.consensus.nShareFeeBlock ≤ nHeight then nFees.toInt / 2 else 0 := by
  unfold sharedFee
  split
  · exact halfFee_toInt fees
  · rfl

def PaysReward (vout : List CTxOut) (reward : Int) : Prop :=
  (∀ out ∈ vout, 0 ≤ out.nValue.toInt) ∧ outputSum vout = reward

section

variable (untriggered : isSuperblockTriggered env nHeight = false) (fees : 0 ≤ nFees)
include untriggered fees

theorem createCoinbase_sum_paid (chosen : payeeToFill env queue nHeight = some payee) :
    PaysReward (createCoinbase env queue scriptPubKeyIn nHeight nFees).txNew.vout
      (builtReward env queue nHeight nFees) := by
  have nonneg : 0 ≤ nFees.toInt := (le_iff 0 nFees).mp fees
  have upper := nFees.toInt_lt
  have subsidy := nSubsidyAt_range nHeight
  have share := masternodeShare_range nHeight
  have half := @sharedFee_toInt env nHeight nFees fees
  have halfRange : 0 ≤ (sharedFee env nHeight (nFees / 2)).toInt ∧
      2 * (sharedFee env nHeight (nFees / 2)).toInt ≤ nFees.toInt := by
    rw [half]
    split <;> omega
  have rest := toInt_sub_of_range (nSubsidyAt nHeight) (masternodeShare nHeight)
    (by omega) (by omega)
  have minerPart := toInt_add_of_range (nSubsidyAt nHeight - masternodeShare nHeight)
    (sharedFee env nHeight (nFees / 2)) (by omega) (by omega)
  have masternodePart := toInt_add_of_range (masternodeShare nHeight)
    (sharedFee env nHeight (nFees / 2)) (by omega) (by omega)
  rw [createCoinbase_paid untriggered chosen]
  refine ⟨?_, ?_⟩
  · simp only [forall_mem_cons, minerPart, masternodePart, rest]
    refine ⟨by omega, by omega, fun out member => ?_⟩
    cases member
  · simp only [outputSum_cons, outputSum_nil, minerPart, masternodePart, rest, half, builtReward,
      chosen]
    split <;> omega

variable (fits : (nSubsidyAt nHeight).toInt + nFees.toInt < 2 ^ 63)
include fits

theorem createCoinbase_sum_unpaid (nobody : payeeToFill env queue nHeight = none) :
    PaysReward (createCoinbase env queue scriptPubKeyIn nHeight nFees).txNew.vout
      (builtReward env queue nHeight nFees) := by
  have nonneg : 0 ≤ nFees.toInt := (le_iff 0 nFees).mp fees
  have subsidy := nSubsidyAt_range nHeight
  have sum := toInt_add_of_range (nSubsidyAt nHeight) nFees (by omega) fits
  rw [createCoinbase_unpaid untriggered nobody]
  refine ⟨?_, ?_⟩
  · simp only [forall_mem_cons, sum]
    refine ⟨by omega, fun out member => ?_⟩
    cases member
  · simp only [outputSum_cons, outputSum_nil, sum, builtReward, nobody, Int.add_zero]

theorem createCoinbase_sum :
    PaysReward (createCoinbase env queue scriptPubKeyIn nHeight nFees).txNew.vout
      (builtReward env queue nHeight nFees) := by
  cases chosen : payeeToFill env queue nHeight with
  | none => exact createCoinbase_sum_unpaid untriggered fees fits chosen
  | some payee => exact createCoinbase_sum_paid untriggered fees chosen

end

theorem getValueOut_isSome_iff {tx : CTransaction}
    (nonneg : ∀ out ∈ tx.vout, 0 ≤ out.nValue.toInt) :
    tx.getValueOut.isSome = true ↔ outputSum tx.vout ≤ MAX_MONEY.toInt := by
  have from0 := getValueOutFrom_isSome_iff 0 (by decide) nonneg
  rwa [show (0 : CAmount).toInt = 0 from rfl, Int.zero_add] at from0

theorem createCoinbase_payee {blockReward : CAmount}
    (untriggered : isSuperblockTriggered env nHeight = false)
    (enoughData : env.notEnoughData = false) (quorum : quorumAt env nHeight) :
    isBlockPayeeValid env (createCoinbase env queue scriptPubKeyIn nHeight nFees).txNew nHeight
      blockReward nFees (nSubsidyAt nHeight) = some ⟨true, nSubsidyAt nHeight⟩ := by
  obtain ⟨vecPayees, stored, voted⟩ := quorum
  obtain ⟨chosen, member, best, votes⟩ := getBestPayee_quorum voted
  have filled : payeeToFill env queue nHeight = some chosen.scriptPubKey := by
    simp [payeeToFill, getBlockPayee, stored, best]
  have paid : foundPayment chosen.scriptPubKey
      (masternodePayment env nHeight (masternodeShare nHeight) (nFees / 2))
      (createCoinbase env queue scriptPubKeyIn nHeight nFees).txNew = true := by
    unfold foundPayment
    rw [createCoinbase_paid untriggered filled]
    simp only [any_cons, masternodePayment, sharedFee]
    split <;> simp
  have accepted := payeeLoop_accepts (nSubsidyAt nHeight) member votes paid
  have valid : vecPayees.isTransactionValid env
      (createCoinbase env queue scriptPubKeyIn nHeight nFees).txNew nHeight nFees
      (nSubsidyAt nHeight) = some ⟨true, nSubsidyAt nHeight⟩ := by
    have reward := payeeLoop_reward env
      (createCoinbase env queue scriptPubKeyIn nHeight nFees).txNew nHeight (nFees / 2) vecPayees
    simp only [CMasternodeBlockPayees.isTransactionValid, if_pos accepted]
    generalize payeeLoop env (createCoinbase env queue scriptPubKeyIn nHeight nFees).txNew nHeight
      (nFees / 2) vecPayees (nSubsidyAt nHeight) = result at accepted reward
    obtain ⟨paidEnough, total⟩ := result
    simp only at accepted reward
    rw [accepted, reward]
  simp only [isBlockPayeeValid, enoughData, untriggered, Bool.false_eq_true, if_false,
    Bool.and_false, CMasternodePayments.isTransactionValid, stored, valid]
  rfl

theorem toInt_add_of_overflow {a b : CAmount} (large : 2 ^ 63 ≤ a.toInt + b.toInt) :
    (a + b).toInt < 0 := by
  have first := a.toInt_lt
  have second := b.toInt_lt
  rw [Int64.toInt_add, Int.bmod_def]
  split <;> omega

theorem rejected_of_overflow (untriggered : isSuperblockTriggered env nHeight = false)
    (fees : 0 ≤ nFees) (large : 2 ^ 63 ≤ (nSubsidyAt nHeight).toInt + nFees.toInt) :
    checkBlockReward env (createCoinbase env queue scriptPubKeyIn nHeight nFees).txNew nHeight
      nFees ≠ some .accepted := by
  intro accepted
  have subsidy := nSubsidyAt_range nHeight
  have maximum : MAX_MONEY.toInt = 66600000000000000 := rfl
  obtain ⟨reward, payee, value⟩ := (checkBlockReward_accepted_iff ..).mp accepted
  obtain ⟨total, valueOut, within, -⟩ := (isBlockValueValid_ok_iff untriggered).mp value
  obtain ⟨exactSum, totalRange⟩ := getValueOut_exact valueOut
  have bounds := (moneyRange_iff total).mp totalRange
  have wraps := toInt_add_of_overflow large
  cases chosen : payeeToFill env queue nHeight with
  | none =>
    rw [createCoinbase_unpaid untriggered chosen, outputSum_cons, outputSum_nil] at exactSum
    simp only at exactSum
    omega
  | some script =>
    rw [(createCoinbase_sum_paid untriggered fees chosen).2] at exactSum
    simp only [builtReward, chosen] at exactSum
    split at exactSum
    · omega
    · rename_i unshared
      have same : total = nSubsidyAt nHeight := Int64.toInt_inj.mp exactSum
      have kept : reward = nSubsidyAt nHeight := by
        by_cases enforced : env.notEnoughData = false ∧ quorumAt env nHeight
        · exact reward_of_quorum untriggered enforced.1 enforced.2 payee
        · have unvoted : env.notEnoughData = true ∨ ¬ quorumAt env nHeight := by
            rw [not_and_or, Bool.not_eq_false] at enforced
            exact enforced
          rcases accepted_of_no_quorum untriggered unvoted valueOut with found | ⟨shared, -⟩
          · rw [found] at payee
            cases payee
            exact same
          · exact absurd shared unshared
      rw [kept, same, le_iff] at within
      omega

theorem createCoinbase_accepted_iff (env : PaymentEnv) (queue : Nat → Option CScript)
    (scriptPubKeyIn : CScript) (nHeight : Nat) (nFees : CAmount)
    (untriggered : isSuperblockTriggered env nHeight = false) (fees : 0 ≤ nFees) :
    checkBlockReward env (createCoinbase env queue scriptPubKeyIn nHeight nFees).txNew nHeight
        nFees = some .accepted ↔
      builtReward env queue nHeight nFees ≤ MAX_MONEY.toInt ∧
        (nSubsidyAt nHeight).toInt + nFees.toInt < 2 ^ 63 := by
  constructor
  · intro accepted
    have fits : (nSubsidyAt nHeight).toInt + nFees.toInt < 2 ^ 63 := by
      by_contra large
      exact rejected_of_overflow untriggered fees (not_lt.mp large) accepted
    refine ⟨?_, fits⟩
    obtain ⟨reward, -, value⟩ := (checkBlockReward_accepted_iff ..).mp accepted
    obtain ⟨total, valueOut, -⟩ := (isBlockValueValid_ok_iff untriggered).mp value
    obtain ⟨nonneg, sum⟩ :=
      @createCoinbase_sum env queue scriptPubKeyIn nHeight nFees untriggered fees fits
    rw [← sum, ← getValueOut_isSome_iff nonneg, valueOut]
    rfl
  · rintro ⟨within, fits⟩
    have positive : 0 ≤ nFees.toInt := (le_iff 0 nFees).mp fees
    have subsidy := nSubsidyAt_range nHeight
    have addable := builtReward_add_fees within fits
    obtain ⟨nonneg, sum⟩ :=
      @createCoinbase_sum env queue scriptPubKeyIn nHeight nFees untriggered fees fits
    rw [← sum, ← getValueOut_isSome_iff nonneg] at within
    obtain ⟨total, valueOut⟩ := Option.isSome_iff_exists.mp within
    have exactSum := (getValueOut_exact valueOut).1
    rw [sum] at exactSum
    have bounded := @builtReward_le env queue nHeight nFees fees
    have scheduled : total ≤ nSubsidyAt nHeight + nFees := by
      rw [le_iff, toInt_add_of_range _ _ (by omega) fits]
      omega
    have unexceeded : exceedsSchedule nHeight nFees total = false := by
      simp only [exceedsSchedule, getBlockSubsidy_reward, decide_eq_false_iff_not]
      rw [lt_iff]
      rw [le_iff] at scheduled
      omega
    rw [checkBlockReward_accepted_iff]
    by_cases enforced : env.notEnoughData = false ∧ quorumAt env nHeight
    · exact ⟨nSubsidyAt nHeight, createCoinbase_payee untriggered enforced.1 enforced.2,
        (isBlockValueValid_ok_iff untriggered).mpr
          ⟨total, valueOut, scheduled, fun _ => unexceeded⟩⟩
    · have unvoted : env.notEnoughData = true ∨ ¬ quorumAt env nHeight := by
        rw [not_and_or, Bool.not_eq_false] at enforced
        exact enforced
      have totalRange := (moneyRange_iff total).mp (getValueOut_exact valueOut).2
      rcases accepted_of_no_quorum untriggered unvoted valueOut with payee | ⟨-, payee⟩
      · refine ⟨total, payee, (isBlockValueValid_ok_iff untriggered).mpr
          ⟨total, valueOut, ?_, fun _ => unexceeded⟩⟩
        rw [le_iff, toInt_add_of_range _ _ (by omega) (by omega)]
        omega
      · refine ⟨total - nFees, payee, (isBlockValueValid_ok_iff untriggered).mpr
          ⟨total, valueOut, ?_, fun _ => unexceeded⟩⟩
        rw [Int64.sub_add_cancel]
        exact Int64.le_refl _

def sampleQueue (nBlockHeight : Nat) : Option CScript :=
  if nBlockHeight = 100 then some [0x51] else none

theorem createCoinbase_accepted_iff_sample : isSuperblockTriggered (freshNode true) 100 = false ∧
      checkBlockReward (freshNode true)
        (createCoinbase (freshNode true) sampleQueue [0x52] 100 1001).txNew 100 1001 =
          some .accepted :=
  ⟨by decide, (createCoinbase_accepted_iff (freshNode true) sampleQueue [0x52] 100 1001
    (by decide) (by decide)).mpr ⟨by decide, by decide⟩⟩

theorem allMoneyFees_refused :
    (freshNode true).masternodeSynced = true ∧ (freshNode true).fLiteMode = false ∧
      isSuperblockTriggered (freshNode true) 101 = false ∧ moneyRange MAX_MONEY = true ∧
      checkBlockReward (freshNode true)
        (createCoinbase (freshNode true) sampleQueue [0x52] 101 MAX_MONEY).txNew 101 MAX_MONEY =
          none :=
  ⟨rfl, rfl, by decide, by decide, by decide⟩

end

end Minerium
