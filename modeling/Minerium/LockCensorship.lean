import Minerium.LockConsistency

/-! Lock votes that are never looked at: a vote is stored under a hash without its signature before
it is checked, so a forged message keeps the true vote away. -/

namespace Minerium

variable {params : LockParams} {ctx : LockContext} {state : CInstantSend} {voteHash : Uint256}
  {vote : CTxLockVote} {candidate : CTxLockCandidate}

namespace CInstantSend

def Unseen (voteHash : Uint256) (state : CInstantSend) : Prop :=
  state.mapTxLockVotes.lookup voteHash = none

theorem unseen_removeVotes {discarded : CTxLockVote → Bool} (unseen : Unseen voteHash state) :
    Unseen voteHash (state.removeVotes discarded) := by
  refine List.foldlRecOn (motive := fun map : StdMap.Map Uint256 CTxLockVote =>
    map.lookup voteHash = none) _ _ unseen fun map missing key _ => ?_
  split
  · rw [StdMap.lookup_erase_eq, missing]
    exact ite_self _
  · exact missing

theorem unseen_checkAndRemove (unseen : Unseen voteHash state) :
    Unseen voteHash (state.checkAndRemove params ctx) := by
  have candidates : Unseen voteHash (state.removeExpiredCandidates params) := by
    refine List.foldlRecOn (motive := Unseen voteHash) _ _ unseen fun before kept txHash _ => ?_
    unfold removeIfExpired
    split
    · exact kept
    · split <;> exact kept
  unfold checkAndRemove
  split
  · exact unseen
  · refine unseen_removeVotes (List.foldlRecOn (motive := Unseen voteHash) _ _
      (unseen_removeVotes candidates) fun before kept other _ => ?_)
    unfold removeOrphanIfTimedOut
    split
    · exact kept
    · split
      · rw [Unseen, StdMap.lookup_erase_eq, kept]
        exact ite_self _
      · exact kept

theorem unseen_resolveConflicts (unseen : Unseen voteHash state) :
    Unseen voteHash (state.resolveConflicts params ctx candidate).1 := by
  unfold resolveConflicts
  dsimp only
  split
  · exact unseen
  split
  · rename_i hashConflicting _
    unfold dropBoth
    split
    · have confirmed : Unseen voteHash ((state.setConfirmedHeight
          (candidate.txLockRequest.getHash params) 0).setConfirmedHeight hashConflicting 0) :=
          unseen
      exact unseen_checkAndRemove confirmed
    · exact unseen
  · exact unseen
  · exact unseen

theorem unseen_finalize {finalized : Option CTxLockCandidate} (unseen : Unseen voteHash state) :
    Unseen voteHash (finalize params ctx (state, finalized)) := by
  cases finalized with
  | none => exact unseen
  | some candidate =>
    have resolved : Unseen voteHash (state.resolveConflicts params ctx candidate).1 :=
      unseen_resolveConflicts unseen
    unfold finalize tryToFinalizeLockCandidate
    dsimp only
    split
    · exact unseen
    split
    · generalize state.resolveConflicts params ctx candidate = outcome at resolved
      obtain ⟨next, clear⟩ := outcome
      cases clear with
      | false => exact resolved
      | true =>
        dsimp only
        unfold lockTransactionInputs
        split_ifs <;> exact resolved
    · exact unseen

theorem receiveTxLockVote_votes :
    (state.receiveTxLockVote params ctx vote).1.mapTxLockVotes = state.mapTxLockVotes := by
  have orphan : (state.storeOrphanVote params ctx vote).mapTxLockVotes = state.mapTxLockVotes := by
    unfold storeOrphanVote trackMasternodeOrphan
    dsimp only
    split
    · rfl
    · split <;> rfl
  have counted : (state.addCandidateVote vote).1.mapTxLockVotes = state.mapTxLockVotes := by
    unfold addCandidateVote
    dsimp only
    split <;> rfl
  unfold receiveTxLockVote
  split
  · rfl
  split
  · exact orphan
  split
  · exact orphan
  split
  · rfl
  · generalize state.addCandidateVote vote = outcome at counted
    obtain ⟨next, added⟩ := outcome
    cases added <;> exact counted

theorem unseen_processMessage (different : vote.getHash params ≠ voteHash)
    (unseen : Unseen voteHash state) : Unseen voteHash (state.processMessage params ctx vote) := by
  have handled : Unseen voteHash (state.receiveMessage params ctx vote).1 := by
    unfold receiveMessage
    split_ifs
    · exact unseen
    · exact unseen
    · exact unseen
    · exact unseen
    dsimp only
    split
    · exact unseen
    · rw [Unseen, receiveTxLockVote_votes]
      exact (AList.lookup_insert_ne different.symm).trans unseen
  exact unseen_finalize handled

def afterLockVotes (params : LockParams) (start : CInstantSend)
    (messages : List (LockContext × CTxLockVote)) : CInstantSend :=
  messages.foldl (fun state message => state.processMessage params message.1 message.2) start

theorem addVote_recorded (tracked : candidate.Tracks vote.outpoint)
    (fresh : candidate.voteOf vote.outpoint vote.outpointMasternode = none) :
    ∃ changed, candidate.addVote vote = some changed ∧
      changed.voteOf vote.outpoint vote.outpointMasternode = some vote := by
  obtain ⟨lock, found⟩ := tracked
  rw [CTxLockCandidate.voteOf, found, Option.bind_some] at fresh
  obtain ⟨changed, added⟩ : ∃ changed, candidate.addVote vote = some changed := by
    rw [CTxLockCandidate.addVote, found]
    dsimp only
    rw [COutPointLock.addVote, fresh]
    exact ⟨_, rfl⟩
  refine ⟨changed, added, ?_⟩
  rw [(CTxLockCandidate.addVote_spec added).voteOf, if_pos ⟨rfl, rfl⟩]

section

variable (params ctx vote candidate)

structure Listens : Prop where
  full : ctx.fLiteMode = false
  enabled : ctx.isSporkActive .SPORK_2_INSTANTSEND_ENABLED = true
  version : ¬ ctx.peerVersion < MIN_INSTANTSEND_PROTO_VERSION
  synced : ctx.masternodeListSynced = true

/-- The vote is for an input of a live candidate with its request, and not recorded there. -/
structure Recordable : Prop where
  request : candidate.txLockRequest.isSet params = true
  live : candidate.isTimedOut ctx.time = false
  tracked : candidate.Tracks vote.outpoint
  fresh : candidate.voteOf vote.outpoint vote.outpointMasternode = none

end

def Recorded (state : CInstantSend) (vote : CTxLockVote) : Prop :=
  ∃ candidate, state.mapTxLockCandidates.lookup vote.txHash = some candidate ∧
    candidate.voteOf vote.outpoint vote.outpointMasternode = some vote

theorem addCandidateVote_recorded (tracked : candidate.Tracks vote.outpoint)
    (found : state.mapTxLockCandidates.lookup vote.txHash = some candidate)
    (fresh : candidate.voteOf vote.outpoint vote.outpointMasternode = none) :
    ∃ next, state.addCandidateVote vote = (next, true) ∧ Recorded next vote := by
  have marks : Related (fun _ => SameVotes) state.mapTxLockCandidates
      (state.updateVotedOutpoints vote).mapTxLockCandidates := markConflicts_sameVotes _
  obtain ⟨marked, stored, same⟩ := marks.forward found
  obtain ⟨changed, added, recorded⟩ := addVote_recorded
    ((same.evolves.tracks vote.outpoint).mpr tracked) ((same.voteOf _ _).trans fresh)
  unfold addCandidateVote
  dsimp only
  rw [stored, Option.bind_some, added]
  exact ⟨_, rfl, changed, AList.lookup_insert _, recorded⟩

theorem receiveTxLockVote_recorded (valid : vote.isValid params ctx = true)
    (found : state.mapTxLockCandidates.lookup vote.txHash = some candidate)
    (recordable : Recordable params ctx vote candidate) :
    Recorded (state.receiveTxLockVote params ctx vote).1 vote := by
  obtain ⟨next, counted, recorded⟩ :=
    addCandidateVote_recorded recordable.tracked found recordable.fresh
  unfold receiveTxLockVote
  rw [if_neg (by simp [valid]), found]
  dsimp only
  rw [if_neg (by simp [recordable.request]), if_neg (by simp [recordable.live]), counted]
  exact recorded

theorem receiveMessage_listens (listens : Listens ctx) : state.receiveMessage params ctx vote =
      match state.mapTxLockVotes.lookup (vote.getHash params) with
      | some _ => (state, none)
      | none =>
        { state with
          mapTxLockVotes := state.mapTxLockVotes.insert (vote.getHash params)
            (received ctx vote) }.receiveTxLockVote params ctx (received ctx vote) := by
  unfold receiveMessage
  rw [if_neg (by simp [listens.full]), if_neg (by simp [listens.enabled]), if_neg listens.version,
    if_neg (by simp [listens.synced])]
  rfl

theorem lockVote_recorded_iff (params : LockParams) (ctx : LockContext) (start : CInstantSend)
    (messages : List (LockContext × CTxLockVote)) (vote : CTxLockVote)
    (candidate : CTxLockCandidate) (listens : Listens ctx) (valid : vote.isValid params ctx = true)
    (found : (afterLockVotes params start messages).mapTxLockCandidates.lookup vote.txHash = some
      candidate) (recordable : Recordable params ctx vote candidate) :
    (Recorded ((afterLockVotes params start messages).receiveMessage params ctx vote).1
        (received ctx vote) ↔
      Unseen (vote.getHash params) (afterLockVotes params start messages)) ∧
    (Unseen (vote.getHash params) start →
      (∀ message ∈ messages, message.2.getHash params ≠ vote.getHash params) →
      Unseen (vote.getHash params) (afterLockVotes params start messages)) := by
  refine ⟨?_, fun unseen different => List.foldlRecOn messages _ unseen
    fun before kept message member => unseen_processMessage (different message member) kept⟩
  generalize afterLockVotes params start messages = state at found
  rw [receiveMessage_listens listens]
  constructor
  · rintro ⟨changed, stored, recorded⟩
    by_contra seen
    obtain ⟨other, remembered⟩ := Option.ne_none_iff_exists'.mp seen
    rw [remembered] at stored
    obtain rfl : candidate = changed := Option.some.inj (found.symm.trans stored)
    exact absurd (recordable.fresh.symm.trans recorded) (by simp)
  · intro unseen
    rw [Unseen] at unseen
    rw [unseen]
    exact receiveTxLockVote_recorded valid found
      { recordable with }

end CInstantSend

open CInstantSend

def openCandidate : CTxLockCandidate :=
  (CTxLockCandidate.new 1000 (some (sampleLockTx 1 [1]))).addOutPointLock ⟨99, 1⟩

def requestedTables : CInstantSend :=
  { CInstantSend.empty with
    mapTxLockCandidates :=
      AList.insert (sampleLockParams.hashTx (sampleLockTx 1 [1])) openCandidate ∅ }

def trueVote : CTxLockVote := sampleLockVote (sampleLockTx 1 [1]) 1 3

theorem trueVote_isValid : trueVote.isValid sampleLockParams sampleLockContext = true := by
  decide

theorem lockVote_recorded_iff_sample : Recorded ((afterLockVotes sampleLockParams requestedTables
        [(sampleLockContext, { trueVote with outpointMasternode := ⟨50, 4⟩ })]).receiveMessage
        sampleLockParams sampleLockContext trueVote).1 (received sampleLockContext trueVote) := by
  obtain ⟨recorded, unseen⟩ := lockVote_recorded_iff sampleLockParams sampleLockContext
    requestedTables [(sampleLockContext, { trueVote with outpointMasternode := ⟨50, 4⟩ })]
    trueVote openCandidate ⟨rfl, rfl, by decide, rfl⟩ trueVote_isValid rfl
    ⟨by decide, by decide, ⟨.new, rfl⟩, rfl⟩
  refine recorded.mpr (unseen rfl ?_)
  decide +kernel

/-- The vote counts when it comes alone, and is dropped unread after a copy without signature. -/
theorem unsignedVote_censors : trueVote.isValid sampleLockParams sampleLockContext = true ∧
      ([[trueVote], [{ trueVote with vchMasternodeSignature := [] }, trueVote]].map fun votes =>
        ((afterLockVotes sampleLockParams requestedTables
          (votes.map (sampleLockContext, ·))).mapTxLockCandidates.lookup trueVote.txHash).any
          (·.hasMasternodeVoted trueVote.outpoint trueVote.outpointMasternode)) = [true, false] :=
  ⟨trueVote_isValid, by decide +kernel⟩

end Minerium
