import Minerium.LockConsistency

/-! Safety of InstantSend locks over runs. An expired candidate takes all votes for its outpoints
along, so a masternode may then vote twice unnoticed. -/

namespace Minerium

open CTxLockCandidate (isAllOutPointsReady_spec mem_keys_iff tracks_of_voteOf)

variable {finalized candidate : CTxLockCandidate} {txHash : Uint256} {signed : List CTxLockVote}
  {outpoint : COutPoint} {before : CInstantSend}

namespace CInstantSend

variable {params : LockParams} {state next : CInstantSend} {ctx : LockContext}

section

variable (params state)

def ExpiryClean : Prop :=
  ∀ txHash gone other stays, Expired params state txHash gone →
    state.mapTxLockCandidates.lookup other = some stays →
    stays.isExpired params state.nCachedBlockHeight = false →
    ∀ outpoint, gone.Tracks outpoint → ¬ stays.Tracks outpoint

/-- Every recorded vote is listed for its outpoint, and two votes of one masternode on one
outpoint have left their mark. -/
structure Guarded : Prop where
  listed : ∀ txHash candidate outpoint masternode vote,
    state.mapTxLockCandidates.lookup txHash = some candidate →
    candidate.voteOf outpoint masternode = some vote → txHash ∈ state.votedFor outpoint
  attacked : ∀ txHash candidate otherHash other outpoint masternode vote conflicting,
    txHash ≠ otherHash → state.mapTxLockCandidates.lookup txHash = some candidate →
    state.mapTxLockCandidates.lookup otherHash = some other →
    candidate.voteOf outpoint masternode = some vote →
    other.voteOf outpoint masternode = some conflicting → candidate.Attacked outpoint
  nonzero : ∀ outpoint txHash, state.mapLockedOutpoints.lookup outpoint = some txHash → txHash ≠ 0

end

theorem Guarded.exchange (guarded : Guarded state)
    (candidates : ∀ txHash changed, next.mapTxLockCandidates.lookup txHash = some changed → (∀
      outpoint masternode, changed.voteOf outpoint masternode = none) ∨ ∃ candidate,
      state.mapTxLockCandidates.lookup txHash = some candidate ∧ (∀ outpoint masternode,
      changed.voteOf outpoint masternode = candidate.voteOf outpoint masternode) ∧ ∀ outpoint,
      candidate.Attacked outpoint → changed.Attacked outpoint)
    (voted : ∀ outpoint txHash candidate masternode vote, next.mapTxLockCandidates.lookup txHash =
      some candidate → candidate.voteOf outpoint masternode = some vote → txHash ∈ state.votedFor
      outpoint → txHash ∈ next.votedFor outpoint)
    (locked : ∀ outpoint txHash, next.mapLockedOutpoints.lookup outpoint = some txHash →
      state.mapLockedOutpoints.lookup outpoint = some txHash) : Guarded next where
  listed txHash changed outpoint masternode vote found foundVote := by
    rcases candidates txHash changed found with none | ⟨candidate, before, votes, _⟩
    · rw [none] at foundVote
      cases foundVote
    · refine voted outpoint txHash changed masternode vote found foundVote ?_
      exact guarded.listed txHash candidate outpoint masternode vote before
        ((votes outpoint masternode).symm.trans foundVote)
  attacked txHash changed otherHash other outpoint masternode vote conflicting different found
      foundOther foundVote foundConflicting := by
    rcases candidates txHash changed found with none | ⟨candidate, before, votes, marks⟩
    · rw [none] at foundVote
      cases foundVote
    rcases candidates otherHash other foundOther with none | ⟨stored, beforeOther, votesOther, _⟩
    · rw [none] at foundConflicting
      cases foundConflicting
    exact marks outpoint (guarded.attacked txHash candidate otherHash stored outpoint masternode
      vote conflicting different before beforeOther
      ((votes outpoint masternode).symm.trans foundVote)
      ((votesOther outpoint masternode).symm.trans foundConflicting))
  nonzero outpoint txHash found := guarded.nonzero outpoint txHash (locked outpoint txHash found)

theorem guarded_vote {vote : CTxLockVote} (guarded : Guarded state)
    (effect : VoteEffect vote state next) : Guarded next where
  listed txHash changed outpoint masternode recorded found foundVote := by
    rw [mem_votedFor_insert effect.voted]
    obtain ⟨candidate, before, _, votes⟩ := effect.candidates.backward found
    rcases votes outpoint masternode with same | ⟨here, place, _⟩
    · exact .inr (guarded.listed txHash candidate outpoint masternode recorded before
        (same.symm.trans foundVote))
    · exact .inl ⟨place, here⟩
  attacked txHash changed otherHash other outpoint masternode recorded conflicting different found
      foundOther foundVote foundConflicting := by
    obtain ⟨candidate, before, evolves, votes⟩ := effect.candidates.backward found
    obtain ⟨stored, beforeOther, evolvesOther, votesOther⟩ := effect.candidates.backward foundOther
    have tracked := tracks_of_voteOf foundVote
    rcases votes outpoint masternode with same | ⟨rfl, rfl, rfl, _⟩
    · rcases votesOther outpoint masternode with sameOther | ⟨rfl, rfl, rfl, _⟩
      · exact evolves.attacked outpoint (guarded.attacked txHash candidate otherHash stored
          outpoint masternode recorded conflicting different before beforeOther
          (same.symm.trans foundVote) (sameOther.symm.trans foundConflicting))
      · -- The new vote is for the other transaction; this one is listed with its older vote.
        have older := same.symm.trans foundVote
        have listed := guarded.listed txHash candidate _ _ recorded before older
        exact (effect.marked txHash listed different candidate before ⟨recorded, older⟩).1
          changed found tracked
    · rcases votesOther vote.outpoint vote.outpointMasternode with sameOther | ⟨same, _⟩
      · have older := sameOther.symm.trans foundConflicting
        have listed := guarded.listed otherHash stored _ _ conflicting beforeOther older
        exact (effect.marked otherHash listed different.symm stored beforeOther
          ⟨conflicting, older⟩).2 changed found tracked
      · exact absurd same.symm different
  nonzero := by
    rw [effect.locked]
    exact guarded.nonzero

theorem Expires.locked (expires : Expires (Expired params state) state next)
    (found : next.mapLockedOutpoints.lookup outpoint = some txHash) :
    state.mapLockedOutpoints.lookup outpoint = some txHash := by
  have untracked := expires.kept_of_some (.inr (by rw [found]; exact Option.some_ne_none _))
  exact (expires.kept outpoint untracked).2.symm.trans found

theorem guarded_expire (guarded : Guarded state) (clean : ExpiryClean params state)
    (expires : Expires (Expired params state) state next) : Guarded next := by
  refine guarded.exchange ?_ ?_ ?_
  · intro txHash candidate found
    exact .inr ⟨candidate, ((expires.candidates txHash candidate).mp found).1, fun _ _ => rfl,
      fun _ marked => marked⟩
  · intro outpoint txHash candidate masternode vote found foundVote listed
    obtain ⟨before, stays⟩ := (expires.candidates txHash candidate).mp found
    have fresh : candidate.isExpired params state.nCachedBlockHeight = false := by
      rw [Bool.eq_false_iff]
      exact fun expired => stays ⟨before, expired⟩
    have untracked : ∀ hash gone, Expired params state hash gone → ¬ gone.Tracks outpoint :=
      fun hash gone expired tracked => clean hash gone txHash candidate expired before fresh
        outpoint tracked (tracks_of_voteOf foundVote)
    rw [votedFor, (expires.kept outpoint untracked).1]
    exact listed
  · exact fun _ _ => expires.locked

theorem guarded_step (state : CInstantSend) {next : CInstantSend} (guarded : Guarded state)
    (step : TableStep params (fun _ _ => True) (ExpiryClean params) state next) : Guarded next := by
  cases step with
  | frame candidates voted locked =>
    refine ⟨?_, ?_, ?_⟩
    · simp only [candidates, votedFor_of_voted voted]
      exact guarded.listed
    · rw [candidates]
      exact guarded.attacked
    · rw [locked]
      exact guarded.nonzero
  | create missing sound fresh =>
    refine guarded.exchange ?_ (fun _ _ _ _ _ _ _ listed => listed) fun _ _ locked => locked
    intro other stored found
    dsimp only at found
    rw [StdMap.lookup_insert_eq] at found
    split at found
    · cases found
      exact .inl fresh
    · exact .inr ⟨stored, found, fun _ _ => rfl, fun _ marked => marked⟩
  | revise before sound revises =>
    refine guarded.exchange ?_ (fun _ _ _ _ _ _ _ listed => listed) fun _ _ locked => locked
    intro other stored found
    dsimp only at found
    rw [StdMap.lookup_insert_eq] at found
    split at found
    · rename_i same
      cases found
      exact .inr ⟨_, same ▸ before, revises.voteOf, revises.attacked⟩
    · exact .inr ⟨stored, found, fun _ _ => rfl, fun _ marked => marked⟩
  | vote found isSet allowed => exact guarded_vote guarded (addCandidateVote_effect state _)
  | expire clean => exact guarded_expire guarded clean (removeExpiredCandidates_expires params
    state)
  | ownVote found tracked =>
    refine ⟨?_, guarded.attacked, guarded.nonzero⟩
    intro txHash candidate outpoint masternode vote foundCandidate foundVote
    rw [mem_votedFor_insert rfl]
    exact .inr (guarded.listed txHash candidate outpoint masternode vote foundCandidate foundVote)

theorem lockedInTables_iff {txHash : Uint256} : state.lockedInTables txHash = true ↔
      ∃ candidate, state.mapTxLockCandidates.lookup txHash = some candidate ∧
        (∃ outpoint, candidate.Tracks outpoint) ∧
        ∀ outpoint, candidate.Tracks outpoint →
          state.mapLockedOutpoints.lookup outpoint = some txHash := by
  unfold lockedInTables
  cases found : state.mapTxLockCandidates.lookup txHash with
  | none => simp
  | some candidate =>
    simp only [Bool.and_eq_true, Bool.not_eq_true', List.isEmpty_eq_false_iff, List.all_eq_true,
      decide_eq_true_eq, Option.some.injEq, exists_eq_left']
    constructor
    · rintro ⟨nonempty, all⟩
      obtain ⟨outpoint, member⟩ := List.exists_mem_of_ne_nil _ nonempty
      exact ⟨⟨outpoint, mem_keys_iff.mp member⟩,
        fun outpoint tracked => all outpoint (mem_keys_iff.mpr tracked)⟩
    · rintro ⟨⟨outpoint, tracked⟩, all⟩
      refine ⟨List.ne_nil_of_mem (mem_keys_iff.mpr tracked), ?_⟩
      exact fun outpoint member => all outpoint (mem_keys_iff.mp member)

theorem Sound.tracks_inputs (sound : Sound params txHash candidate)
    (nonzero : txHash ≠ 0) (tracked : candidate.Tracks outpoint) :
    ∃ tx, candidate.txLockRequest = some tx ∧ params.hashTx tx = txHash ∧
      ∀ txin ∈ tx.vin, candidate.Tracks txin.prevout := by
  cases request : candidate.txLockRequest with
  | none => exact absurd tracked (sound.empty request outpoint)
  | some tx =>
    have hash := sound.request tx request
    have isSet : candidate.txLockRequest.isSet params = true := by
      rw [request]
      exact decide_eq_true fun null => nonzero (hash.symm.trans null)
    rcases sound.inputs isSet with none | all
    · exact absurd tracked (none outpoint)
    · rw [request] at all
      exact ⟨tx, rfl, hash, all⟩

theorem locked_inputs (coherent : Coherent params state) (guarded : Guarded state)
    (locked : state.lockedInTables txHash = true) :
    ∃ candidate tx, state.mapTxLockCandidates.lookup txHash = some candidate ∧
      candidate.txLockRequest = some tx ∧ params.hashTx tx = txHash ∧
      ∀ txin ∈ tx.vin, candidate.Tracks txin.prevout ∧
        state.mapLockedOutpoints.lookup txin.prevout = some txHash := by
  obtain ⟨candidate, found, ⟨outpoint, tracked⟩, all⟩ := lockedInTables_iff.mp locked
  have nonzero := guarded.nonzero outpoint txHash (all outpoint tracked)
  obtain ⟨tx, request, hash, inputs⟩ :=
    (coherent.sound txHash candidate found).tracks_inputs nonzero tracked
  exact ⟨candidate, tx, found, request, hash,
    fun txin member => ⟨inputs txin member, all _ (inputs txin member)⟩⟩

theorem Grows.tracks {before after : Candidates} (grows : Grows before after) (txHash : Uint256)
    (changed candidate : CTxLockCandidate) (found : after.lookup txHash = some changed)
    (stored : before.lookup txHash = some candidate) (outpoint : COutPoint)
    (tracked : candidate.Tracks outpoint) : changed.Tracks outpoint := by
  obtain ⟨grown, foundGrown, tracks⟩ := grows txHash candidate stored
  cases found.symm.trans foundGrown
  exact tracks outpoint tracked

theorem locked_of_kept (coherent : Coherent params state)
    (candidates : ∀ txHash changed candidate, next.mapTxLockCandidates.lookup txHash = some changed
      → state.mapTxLockCandidates.lookup txHash = some candidate → ∀ outpoint, candidate.Tracks
      outpoint → changed.Tracks outpoint)
    (locks : ∀ outpoint txHash, next.mapLockedOutpoints.lookup outpoint = some txHash →
      state.mapLockedOutpoints.lookup outpoint = some txHash)
    (locked : next.lockedInTables txHash = true) : state.lockedInTables txHash = true := by
  obtain ⟨changed, found, ⟨outpoint, tracked⟩, all⟩ := lockedInTables_iff.mp locked
  obtain ⟨candidate, before, trackedBefore⟩ :=
    coherent.locked outpoint txHash (locks outpoint txHash (all outpoint tracked))
  refine lockedInTables_iff.mpr ⟨candidate, before, ⟨outpoint, trackedBefore⟩, ?_⟩
  intro other trackedOther
  exact locks other txHash (all other (candidates txHash changed candidate found before other
    trackedOther))

variable {voteOk : CTxLockCandidate → CTxLockVote → Prop} {expiryOk : CInstantSend → Prop}

theorem locked_step (coherent : Coherent params state)
    (step : TableStep params voteOk expiryOk state next)
    (locked : next.lockedInTables txHash = true) : state.lockedInTables txHash = true := by
  cases step with
  | frame candidates voted locks =>
    refine locked_of_kept coherent ?_ ?_ locked
    · intro hash changed candidate found before
      rw [candidates, before] at found
      cases found
      exact fun _ tracked => tracked
    · rw [locks]
      exact fun _ _ same => same
  | create missing sound fresh =>
    refine locked_of_kept coherent ?_ (fun _ _ same => ?_) locked
    · exact (grows_create missing).tracks
    · exact same
  | revise stored sound revises =>
    refine locked_of_kept coherent ?_ (fun _ _ same => ?_) locked
    · exact (grows_revise stored revises.tracks).tracks
    · exact same
  | @vote vote _ stored isSet allowed =>
    have effect := addCandidateVote_effect state vote
    refine locked_of_kept coherent effect.grows.tracks ?_ locked
    rw [effect.locked]
    exact fun _ _ same => same
  | expire allowed =>
    have expires := removeExpiredCandidates_expires params state
    refine locked_of_kept coherent ?_ (fun _ _ => expires.locked) locked
    intro hash changed candidate found before
    cases ((expires.candidates hash changed).mp found).1.symm.trans before
    exact fun _ tracked => tracked
  | ownVote found tracked => exact locked

theorem locked_path (path : TablePath params voteOk expiryOk state next)
    (coherent : Coherent params state)
    (locked : next.lockedInTables txHash = true) : state.lockedInTables txHash = true := by
  induction path with
  | refl => exact locked
  | tail path step ih => exact ih (locked_step (coherent_path path coherent) step locked)

theorem locked_by_lock (different : txHash ≠ finalized.txLockRequest.getHash params)
    (locked : (state.lockTransactionInputs params ctx finalized).lockedInTables txHash = true) :
    state.lockedInTables txHash = true := by
  obtain ⟨candidate, found, nonempty, all⟩ := lockedInTables_iff.mp locked
  rw [lockTransactionInputs_candidates] at found
  refine lockedInTables_iff.mpr ⟨candidate, found, nonempty, ?_⟩
  intro outpoint tracked
  have here := all outpoint tracked
  rcases lookup_lockTransactionInputs with same | ⟨_, _, new⟩
  · exact same.symm.trans here
  · rw [new] at here
    cases here
    exact absurd rfl different

section

variable (finalizes : Finalizes params before signed state txHash candidate finalized)
  (coherent : Coherent params state) (ready : finalized.isAllOutPointsReady = true)

include finalizes coherent ready

theorem Finalizes.isSet : candidate.txLockRequest.isSet params = true := by
  obtain ⟨⟨outpoint, tracked⟩, all⟩ := isAllOutPointsReady_spec ready
  obtain ⟨_, voters, distinct, enough, voted⟩ := all outpoint tracked
  obtain ⟨own, signedByOwn⟩ := finalizes.own
  have stored : ∀ masternode ∈ voters, masternode ≠ own →
      candidate.txLockRequest.isSet params = true := by
    intro masternode member foreign
    obtain ⟨vote, found⟩ := voted masternode member
    rcases finalizes.votes outpoint masternode with same | ⟨_, ownVote, isSigned, _, _, rfl⟩
    · exact ((coherent.sound txHash candidate finalizes.stored).votes outpoint masternode vote
        (same.symm.trans found)).1
    · exact absurd (signedByOwn ownVote isSigned).1 foreign
  unfold SIGNATURES_REQUIRED at enough
  rcases voters with _ | ⟨first, _ | ⟨second, rest⟩⟩
  · cases enough
  · simp only [List.length_singleton] at enough
    omega
  · by_cases same : first = own
    · refine stored second (List.mem_cons_of_mem _ List.mem_cons_self) ?_
      rintro rfl
      exact (List.nodup_cons.mp distinct).1 (same ▸ List.mem_cons_self)
    · exact stored first List.mem_cons_self same

theorem Finalizes.tracks : ∀ txin ∈ finalized.txLockRequest.vin, finalized.Tracks txin.prevout := by
  obtain ⟨⟨outpoint, tracked⟩, _⟩ := isAllOutPointsReady_spec ready
  have sound := coherent.sound txHash candidate finalizes.stored
  rcases sound.inputs (finalizes.isSet coherent ready) with none | all
  · exact absurd ((finalizes.evolves.tracks outpoint).mp tracked) (none outpoint)
  · rw [finalizes.evolves.request]
    exact fun txin member => (finalizes.evolves.tracks _).mpr (all txin member)

end

theorem guarded_lock (guarded : Guarded state)
    (isSet : finalized.txLockRequest.isSet params = true) :
    Guarded (state.lockTransactionInputs params ctx finalized) where
  listed := by
    simp only [lockTransactionInputs_candidates, votedFor_of_voted (lockTransactionInputs_voted)]
    exact guarded.listed
  attacked := by
    rw [lockTransactionInputs_candidates]
    exact guarded.attacked
  nonzero := by
    intro outpoint txHash found
    rcases lookup_lockTransactionInputs with same | ⟨_, _, new⟩
    · exact guarded.nonzero outpoint txHash (same.symm.trans found)
    · cases new.symm.trans found
      exact of_decide_eq_true isSet

theorem findConflict_none {vin : List CTxIn} (clear : state.findConflict ctx txHash vin = .none) :
    ∀ txin ∈ vin, (state.mapLockedOutpoints.lookup txin.prevout).getD txHash = txHash := by
  induction vin with
  | nil => exact fun _ member => by cases member
  | cons head rest ih =>
    unfold findConflict at clear
    dsimp only at clear
    have unlocked : (state.mapLockedOutpoints.lookup head.prevout).filter (· ≠ txHash) = none ∧
        state.findConflict ctx txHash rest = .none := by
      split at clear
      · cases clear
      · rename_i unlocked _
        split at clear
        · exact ⟨unlocked, clear⟩
        · cases clear
      · rename_i unlocked _
        exact ⟨unlocked, clear⟩
    refine List.forall_mem_cons.mpr ⟨?_, ih unlocked.2⟩
    cases found : state.mapLockedOutpoints.lookup head.prevout with
    | none => rfl
    | some hash =>
      have kept := unlocked.1
      rw [found, Option.filter_some] at kept
      simpa using kept

theorem resolveConflicts_clear (clear : (state.resolveConflicts params ctx finalized).2 = true) :
    state.findConflict ctx (finalized.txLockRequest.getHash params) finalized.txLockRequest.vin =
      .none := by
  unfold resolveConflicts at clear
  dsimp only at clear
  split at clear
  · cases clear
  split at clear
  · cases clear
  · cases clear
  · assumption

theorem lockTransactionInputs_tracked
    (active : ctx.isSporkActive .SPORK_2_INSTANTSEND_ENABLED = true)
    (ready : finalized.isAllOutPointsReady = true) (tracked : finalized.Tracks outpoint) :
    (state.lockTransactionInputs params ctx finalized).mapLockedOutpoints.lookup outpoint =
      some ((state.mapLockedOutpoints.lookup outpoint).getD
        (finalized.txLockRequest.getHash params)) := by
  unfold lockTransactionInputs
  rw [active, ready]
  simp only [Bool.not_true, Bool.false_eq_true, if_false]
  rw [StdMap.lookup_foldl_insertNew, if_pos (mem_keys_iff.mpr tracked)]

end CInstantSend

namespace InstantSendNode

open CInstantSend Option Run

variable {params : LockParams} {node : InstantSendNode}

def ExpiresCleanly (params : LockParams) (node : InstantSendNode) (event : LockEvent) : Prop :=
  (∀ ctx state finalized, node.prepared params event = some (ctx, state, finalized) →
    ConflictAllowed params (ExpiryClean params) ctx state finalized) ∧
  ∀ ctx, event = .checkAndRemove ctx → ctx.masternodeListSynced = true →
    ExpiryClean params node.tables

theorem ExpiresCleanly.allowed {event : LockEvent} (cleanly : ExpiresCleanly params node event) :
    EventAllowed params (fun _ _ => True) (ExpiryClean params) node event := by
  refine ⟨cleanly.1, ?_⟩
  cases event with
  | lockRequest ctx tx => exact fun _ _ _ _ _ _ _ => trivial
  | lockVote ctx vote => exact fun _ _ _ _ _ => trivial
  | checkAndRemove ctx => exact cleanly.2 ctx rfl
  | _ => exact trivial

structure Watched (params : LockParams) (node : InstantSendNode) : Prop where
  coherent : Coherent params node.tables
  guarded : Guarded node.tables

theorem event_watched (node : InstantSendNode) (event : LockEvent)
    (watched : Watched params node) (cleanly : ExpiresCleanly params node event) :
    Watched params (node.event params event) := by
  have kept : ∀ state next, Coherent params state ∧ Guarded state →
      TableStep params (fun _ _ => True) (ExpiryClean params) state next →
      Coherent params next ∧ Guarded next :=
    fun state next good step => ⟨coherent_step good.1 step, guarded_step state good.2 step⟩
  have locked : ∀ ctx state txHash candidate signed finalized,
      Finalizes params node.tables signed state txHash candidate finalized →
      finalized.isAllOutPointsReady = true → Coherent params state ∧ Guarded state →
      Coherent params (state.lockTransactionInputs params ctx finalized) ∧
        Guarded (state.lockTransactionInputs params ctx finalized) := by
    intro ctx state txHash candidate signed finalized finalizes ready good
    refine ⟨?_, ?_⟩
    · exact coherent_lock good.1 (finalizes.found good.1 ready)
        fun outpoint => (finalizes.evolves.tracks outpoint).mp
    · refine guarded_lock good.2 ?_
      rw [finalizes.evolves.request]
      exact finalizes.isSet good.1 ready
  have result := event_keeps (fun _ _ _ _ _ => trivial) kept locked watched.coherent
    ⟨watched.coherent, watched.guarded⟩ event cleanly.allowed
  exact ⟨result.1, result.2⟩

theorem initial_watched : Watched params initial where
  coherent := empty_coherent
  guarded :=
    { listed := fun txHash candidate outpoint masternode vote found => by cases found
      attacked := fun _ _ _ _ _ _ _ _ _ found => by cases found
      nonzero := fun outpoint txHash found => by cases found }

structure LockingEvent (params : LockParams) (node after : InstantSendNode)
    (txHash : Uint256) (ctx : LockContext) (state : CInstantSend)
    (candidate finalized : CTxLockCandidate) (signed : List CTxLockVote) : Prop where
  coherent : Coherent params state
  guarded : Guarded state
  finalizes : Finalizes params node.tables signed state txHash candidate finalized
  locks : Locks params ctx state finalized after.tables
  signed : after.signed = node.signed ++ signed

theorem lockingEvent_of_locked {event : LockEvent}
    (watched : Watched params node) (cleanly : ExpiresCleanly params node event)
    (unlocked : node.tables.lockedInTables txHash = false)
    (locked : (node.event params event).tables.lockedInTables txHash = true) :
    ∃ ctx state candidate finalized signed, LockingEvent params node (node.event params event)
      txHash ctx state candidate finalized signed := by
  have impossible : ¬ node.tables.lockedInTables txHash = true := Bool.eq_false_iff.mp unlocked
  cases defined : node.undefined with
  | true =>
    rw [event_of_undefined defined] at locked
    exact absurd locked impossible
  | false =>
    have spec := event_spec (fun _ _ _ _ _ => trivial) defined watched.coherent event
      cleanly.allowed
    cases result : node.prepared params event with
    | none => exact absurd (locked_path (spec.idle result) watched.coherent locked) impossible
    | some prepared =>
      obtain ⟨ctx, state, finalized⟩ := prepared
      obtain ⟨path, tables, hash, candidate, signed, finalizes, log⟩ :=
        spec.finalizing ctx state finalized result
      have coherent := coherent_path path watched.coherent
      have guarded := path.keeps guarded_step watched.guarded
      have outcome : TablePath params (fun _ _ => True) (ExpiryClean params) state _ ∨ _ :=
        tryToFinalizeLockCandidate_cases (cleanly.1 ctx state finalized result)
      rcases outcome with later | locks
      · rw [tables] at locked
        exact absurd (locked_path path watched.coherent (locked_path later coherent locked))
          impossible
      · rw [← tables] at locks
        have hashed := finalizes.getHash coherent locks.ready
        by_cases same : txHash = hash
        · subst same
          exact ⟨ctx, state, candidate, finalized, signed, coherent, guarded, finalizes, locks, log⟩
        · rw [locks.result] at locked
          have before := locked_by_lock (fun equal => same (equal.trans hashed)) locked
          exact absurd (locked_path path watched.coherent before) impossible

/-- Enough masternodes vote for the transaction and the outpoint, recorded with the candidate or
signed in this event. None of them, and none recorded with the candidate, has its vote for the
outpoint recorded elsewhere. -/
def Backed (node after : InstantSendNode) (txHash : Uint256) (candidate : CTxLockCandidate)
    (outpoint : COutPoint) : Prop :=
  ∃ (signed : List CTxLockVote) (voters : List COutPoint),
    after.signed = node.signed ++ signed ∧ voters.Nodup ∧ SIGNATURES_REQUIRED ≤ voters.length ∧
    (∀ masternode ∈ voters, ∃ vote : CTxLockVote,
      (candidate.voteOf outpoint masternode = some vote ∨ vote ∈ signed) ∧
        vote.txHash = txHash ∧ vote.outpoint = outpoint ∧
        vote.outpointMasternode = masternode) ∧
    ∀ masternode, masternode ∈ voters ∨ candidate.voteOf outpoint masternode ≠ none →
      ∀ otherHash other, otherHash ≠ txHash →
        after.tables.mapTxLockCandidates.lookup otherHash = some other →
        other.voteOf outpoint masternode = none

theorem LockingEvent.backed {after : InstantSendNode} {ctx : LockContext} {state : CInstantSend}
    (locking : LockingEvent params node after txHash ctx state candidate finalized signed)
    (watched : Watched params node) (tracked : candidate.Tracks outpoint) :
    Backed node after txHash candidate outpoint := by
  obtain ⟨coherent, guarded, finalizes, locks, log⟩ := locking
  have sound := coherent.sound txHash candidate finalizes.stored
  obtain ⟨_, all⟩ := isAllOutPointsReady_spec locks.ready
  obtain ⟨safe, voters, distinct, enough, voted⟩ :=
    all outpoint ((finalizes.evolves.tracks outpoint).mpr tracked)
  obtain ⟨own, signedByOwn⟩ := finalizes.own
  have recorded : ∀ masternode vote, candidate.voteOf outpoint masternode = some vote →
      ∀ otherHash other, otherHash ≠ txHash →
        state.mapTxLockCandidates.lookup otherHash = some other →
        other.voteOf outpoint masternode = none := by
    intro masternode vote found otherHash other different foundOther
    cases conflicting : other.voteOf outpoint masternode with
    | none => rfl
    | some conflict =>
      exact absurd (finalizes.evolves.attacked outpoint (guarded.attacked txHash candidate
        otherHash other outpoint masternode vote conflict different.symm finalizes.stored
        foundOther found conflicting)) safe
  refine ⟨signed, voters, log, distinct, enough, ?_, ?_⟩
  · intro masternode member
    obtain ⟨vote, found⟩ := voted masternode member
    rcases finalizes.votes outpoint masternode with
      same | ⟨_, ownVote, isSigned, _, place, voter⟩
    · have before := same.symm.trans found
      exact ⟨vote, .inl before, (sound.votes outpoint masternode vote before).2⟩
    · refine ⟨ownVote, .inr isSigned, ?_, place, voter⟩
      exact (signedByOwn ownVote isSigned).2.1.trans (sound.getHash_of_tracks tracked)
  · intro masternode voter otherHash other different foundOther
    rw [locks.result, lockTransactionInputs_candidates] at foundOther
    have counted : candidate.voteOf outpoint masternode ≠ none ∨
        ∃ vote ∈ signed, vote.outpoint = outpoint ∧ vote.outpointMasternode = masternode := by
      rcases voter with member | known
      · obtain ⟨vote, found⟩ := voted masternode member
        rcases finalizes.votes outpoint masternode with
          same | ⟨_, ownVote, isSigned, _, place, voter⟩
        · exact .inl fun missing => by rw [same, missing] at found; cases found
        · exact .inr ⟨ownVote, isSigned, place, voter⟩
      · exact .inl known
    rcases counted with known | ⟨vote, isSigned, rfl, rfl⟩
    · obtain ⟨vote, found⟩ := ne_none_iff_exists'.mp known
      exact recorded masternode vote found otherHash other different foundOther
    · -- The node looked for its own earlier votes among the listed transactions.
      obtain ⟨same, _, candidates, unvoted⟩ := signedByOwn vote isSigned
      rw [same]
      cases conflicting : other.voteOf vote.outpoint own with
      | none => rfl
      | some conflict =>
        have listed := watched.guarded.listed otherHash other vote.outpoint own conflict
          (candidates ▸ foundOther) conflicting
        obtain ⟨stored, foundStored, none⟩ := unvoted otherHash listed
        cases foundStored.symm.trans foundOther
        exact conflicting.symm.trans none

section

variable (params node) (after : InstantSendNode)

def LocksBacked : Prop :=
  ∀ txHash, node.tables.lockedInTables txHash = false → after.tables.lockedInTables txHash = true →
    ∃ candidate tx, after.tables.mapTxLockCandidates.lookup txHash = some candidate ∧
      candidate.txLockRequest = some tx ∧ params.hashTx tx = txHash ∧
      ∀ txin ∈ tx.vin, Backed node after txHash candidate txin.prevout

def LocksDisjoint : Prop :=
  ∀ firstHash secondHash first second firstTx secondTx,
    node.tables.lockedInTables firstHash = true → node.tables.lockedInTables secondHash = true →
    node.tables.mapTxLockCandidates.lookup firstHash = some first →
    node.tables.mapTxLockCandidates.lookup secondHash = some second →
    first.txLockRequest = some firstTx → second.txLockRequest = some secondTx →
    firstHash ≠ secondHash →
    ∀ txin ∈ firstTx.vin, ∀ other ∈ secondTx.vin, txin.prevout ≠ other.prevout

def LocksAll (event : LockEvent) : Prop :=
  ∀ ctx state finalized, node.undefined = false →
    node.prepared params event = some (ctx, state, finalized) →
    ctx.isSporkActive .SPORK_2_INSTANTSEND_ENABLED = true →
    finalized.isAllOutPointsReady = true →
    (state.resolveConflicts params ctx finalized).2 = true →
    ∀ txin ∈ finalized.txLockRequest.vin, after.tables.mapLockedOutpoints.lookup txin.prevout =
      some (finalized.txLockRequest.getHash params)

end

theorem locksBacked_event {event : LockEvent} (watched : Watched params node)
    (cleanly : ExpiresCleanly params node event) :
    LocksBacked params node (node.event params event) := by
  intro txHash unlocked locked
  obtain ⟨ctx, state, candidate, finalized, signed, locking⟩ :=
    lockingEvent_of_locked watched cleanly unlocked locked
  have after := event_watched node event watched cleanly
  obtain ⟨stored, tx, found, request, hash, inputs⟩ :=
    locked_inputs after.coherent after.guarded locked
  have same : stored = candidate := by
    rw [locking.locks.result, lockTransactionInputs_candidates, locking.finalizes.stored] at found
    exact (Option.some.inj found).symm
  subst same
  exact ⟨stored, tx, found, request, hash,
    fun txin member => locking.backed watched (inputs txin member).1⟩

theorem locksDisjoint_of_watched (watched : Watched params node) : LocksDisjoint node := by
  intro firstHash secondHash first second firstTx secondTx firstLocked secondLocked foundFirst
    foundSecond requestFirst requestSecond different txin member other memberOther same
  obtain ⟨_, _, found, request, _, inputs⟩ :=
    locked_inputs watched.coherent watched.guarded firstLocked
  obtain ⟨_, _, foundOther, requestOther, _, inputsOther⟩ :=
    locked_inputs watched.coherent watched.guarded secondLocked
  cases found.symm.trans foundFirst
  cases foundOther.symm.trans foundSecond
  cases request.symm.trans requestFirst
  cases requestOther.symm.trans requestSecond
  have locked := (inputs txin member).2
  rw [same, (inputsOther other memberOther).2] at locked
  exact different (Option.some.inj locked).symm

theorem locksAll_event {event : LockEvent} (watched : Watched params node)
    (cleanly : ExpiresCleanly params node event) :
    LocksAll params node (node.event params event) event := by
  intro ctx state finalized defined result active ready clear txin member
  have spec := event_spec (fun _ _ _ _ _ => trivial) defined watched.coherent event cleanly.allowed
  obtain ⟨path, tables, txHash, candidate, signed, finalizes, _⟩ :=
    spec.finalizing ctx state finalized result
  have coherent := coherent_path path watched.coherent
  have guarded := path.keeps guarded_step watched.guarded
  rw [tables]
  unfold tryToFinalizeLockCandidate
  rw [active, ready]
  simp only [Bool.not_true, Bool.false_eq_true, if_false, Bool.true_and]
  split
  · have resolved : TablePath params (fun _ _ => True) (ExpiryClean params) state _ ∧ _ :=
      resolveConflicts_path (cleanly.1 ctx state finalized result)
    have outcome : state.resolveConflicts params ctx finalized = (state, true) :=
      Prod.ext (resolved.2 clear) clear
    rw [outcome]
    dsimp only
    rw [lockTransactionInputs_tracked active ready (finalizes.tracks coherent ready txin member),
      findConflict_none (resolveConflicts_clear clear) txin member]
  · rename_i known
    simp only [Bool.not_eq_true', Bool.not_eq_false, isLockedInstantSendTransaction,
      Bool.and_eq_true] at known
    obtain ⟨stored, tx, found, request, _, inputs⟩ := locked_inputs coherent guarded known.2
    cases (finalizes.found coherent ready).symm.trans found
    rw [finalizes.evolves.request, request] at member
    exact (inputs txin member).2

theorem locks_safe (params : LockParams) (events : List LockEvent) (last : LockEvent)
    (cleanly : Run.Permitted (event params) (ExpiresCleanly params) initial (events ++ [last])) :
    LocksBacked params (run (event params) initial events)
        (run (event params) initial (events ++ [last])) ∧
      LocksDisjoint (run (event params) initial (events ++ [last])) ∧
      LocksAll params (run (event params) initial events)
        (run (event params) initial (events ++ [last])) last := by
  have after : Watched params (run (event params) initial (events ++ [last])) :=
    invariant event_watched initial_watched cleanly
  obtain ⟨earlier, permitted⟩ := permitted_concat.mp cleanly
  have watched : Watched params (run (event params) initial events) :=
    invariant event_watched initial_watched earlier
  rw [run_concat] at after ⊢
  exact ⟨locksBacked_event watched permitted, locksDisjoint_of_watched after,
    locksAll_event watched permitted⟩

variable (params node) (event : LockEvent)

def removesNothing : Bool :=
  (match event with
    | .checkAndRemove _ => false
    | _ => true) &&
  (node.prepared params event).all fun (ctx, state, finalized) =>
    match state.findConflict ctx (finalized.txLockRequest.getHash params)
        finalized.txLockRequest.vin with
    | .lockedBy _ => false
    | _ => true

theorem expiresCleanly_of_removesNothing (nothing : removesNothing params node event = true) :
    ExpiresCleanly params node event := by
  unfold removesNothing at nothing
  rw [Bool.and_eq_true] at nothing
  refine ⟨?_, ?_⟩
  · intro ctx state finalized result hashConflicting _ conflict
    have checked := nothing.2
    rw [result, all_some] at checked
    dsimp only at checked
    rw [conflict] at checked
    cases checked
  · rintro ctx rfl
    cases nothing.1

end InstantSendNode

open InstantSendNode

def sampleLockVotes (tx : CTransaction) : List LockEvent :=
  [3, 4, 5, 6, 7].map fun masternode => .lockVote sampleLockContext (sampleLockVote tx 1 masternode)

theorem locks_safe_sample : LocksBacked sampleLockParams
      (Run.run (event sampleLockParams) .initial
        (.lockRequest sampleLockContext (sampleLockTx 1 [1]) ::
          sampleLockVotes (sampleLockTx 1 [1])))
      (Run.run (event sampleLockParams) .initial
        (.lockRequest sampleLockContext (sampleLockTx 1 [1]) ::
          sampleLockVotes (sampleLockTx 1 [1]) ++
          [.lockVote sampleLockContext (sampleLockVote (sampleLockTx 1 [1]) 1 8)])) ∧
      (Run.run (event sampleLockParams) .initial
        (.lockRequest sampleLockContext (sampleLockTx 1 [1]) ::
          sampleLockVotes (sampleLockTx 1 [1]) ++
          [.lockVote sampleLockContext (sampleLockVote (sampleLockTx 1 [1]) 1 8)])
        ).tables.lockedInTables 2 = true := by
  refine ⟨(locks_safe sampleLockParams _ _ ?_).1, by decide +kernel⟩
  apply Run.Permitted.imp (expiresCleanly_of_removesNothing sampleLockParams)
  decide +kernel

def sampleForgottenVote : List LockEvent :=
  [.lockRequest sampleLockContext (sampleLockTx 1 [1]),
    .lockVote sampleLockContext (sampleLockVote (sampleLockTx 1 [1]) 1 3),
    .lockRequest sampleLockContext (sampleLockTx 2 [1]),
    .syncTransaction sampleLockContext (sampleLockTx 2 [1]) 101,
    .updatedBlockTip 126,
    .checkAndRemove sampleLockContext,
    .updatedBlockTip 100,
    .lockRequest sampleLockContext (sampleLockTx 3 [1])] ++ sampleLockVotes (sampleLockTx 3 [1])

def recordsThirdVote (node : InstantSendNode) (txHash : Uint256) : Bool :=
  (node.tables.mapTxLockCandidates.lookup txHash).any fun candidate =>
    candidate.txLockRequest.vin.any (fun txin => decide (txin.prevout = ⟨99, 1⟩)) &&
      (candidate.voteOf ⟨99, 1⟩ ⟨50, 3⟩).isSome

theorem forgottenVote_countedTwice : ¬ LocksBacked sampleLockParams
      (Run.run (event sampleLockParams) .initial sampleForgottenVote)
      (Run.run (event sampleLockParams) .initial (sampleForgottenVote ++
        [.lockVote sampleLockContext (sampleLockVote (sampleLockTx 3 [1]) 1 8)])) := by
  intro backed
  obtain ⟨candidate, tx, found, request, _, inputs⟩ :=
    backed 4 (by decide +kernel) (by decide +kernel)
  have first : recordsThirdVote (Run.run (event sampleLockParams) .initial
      (sampleForgottenVote ++ [.lockVote sampleLockContext
        (sampleLockVote (sampleLockTx 3 [1]) 1 8)])) 2 = true := by decide +kernel
  have third : recordsThirdVote (Run.run (event sampleLockParams) .initial
      (sampleForgottenVote ++ [.lockVote sampleLockContext
        (sampleLockVote (sampleLockTx 3 [1]) 1 8)])) 4 = true := by decide +kernel
  simp only [recordsThirdVote, Option.any_eq_true, Bool.and_eq_true, List.any_eq_true,
    decide_eq_true_eq, Option.isSome_iff_ne_none] at first third
  obtain ⟨other, foundOther, _, votedOther⟩ := first
  obtain ⟨stored, foundStored, ⟨txin, member, output⟩, voted⟩ := third
  cases found.symm.trans foundStored
  rw [request] at member
  obtain ⟨_, _, _, _, _, _, exclusive⟩ := inputs txin member
  rw [output] at exclusive
  exact votedOther (exclusive ⟨50, 3⟩ (.inr voted) 2 other (by decide) foundOther)

end Minerium
