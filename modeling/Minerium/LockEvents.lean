import Minerium.LockTables

/-! The tables stay coherent along every path of table steps, and every handler follows such a path.
-/

namespace Minerium

open CTxLockCandidate Bool

variable {ctx : LockContext} {tx : CTransaction} {candidate finalized : CTxLockCandidate}
  {vote : CTxLockVote}

namespace CInstantSend

variable {params : LockParams} {voteOk : CTxLockCandidate → CTxLockVote → Prop}
  {expiryOk : CInstantSend → Prop} {state next : CInstantSend}

variable {txHash : Uint256}

theorem Sound.evolves {changed : CTxLockCandidate}
    (sound : Sound params txHash candidate) (evolves : candidate.Evolves changed)
    (votes : ∀ outpoint masternode vote, changed.voteOf outpoint masternode = some vote →
      candidate.txLockRequest.isSet params = true ∧ vote.txHash = txHash ∧ vote.outpoint = outpoint
      ∧ vote.outpointMasternode = masternode) : Sound params txHash changed where
  request := by
    rw [evolves.request]
    exact sound.request
  empty none outpoint tracked :=
    sound.empty (evolves.request.symm.trans none) outpoint ((evolves.tracks outpoint).mp tracked)
  inputs isSet := by
    rw [evolves.request] at isSet ⊢
    rcases sound.inputs isSet with none | all
    · exact .inl fun outpoint tracked => none outpoint ((evolves.tracks outpoint).mp tracked)
    · exact .inr fun txin member => (evolves.tracks _).mpr (all txin member)
  votes := by
    rw [evolves.request]
    exact votes

section

variable (coherent : Coherent params state)
include coherent

theorem coherent_insert (sound : Sound params txHash candidate)
    (grows : Grows state.mapTxLockCandidates (state.mapTxLockCandidates.insert txHash candidate)) :
    Coherent params { state with
      mapTxLockCandidates := state.mapTxLockCandidates.insert txHash candidate } where
  sound other stored found := by
    dsimp only at found
    rw [StdMap.lookup_insert_eq] at found
    split at found
    · rename_i same
      cases found
      exact same ▸ sound
    · exact coherent.sound other stored found
  locked := coherent.locked.grows grows

theorem coherent_vote (found : state.mapTxLockCandidates.lookup vote.txHash = some candidate)
    (isSet : candidate.txLockRequest.isSet params = true) (effect : VoteEffect vote state next) :
    Coherent params next where
  sound txHash changed foundChanged := by
    obtain ⟨before, foundBefore, evolves, votes⟩ := effect.candidates.backward foundChanged
    have sound := coherent.sound txHash before foundBefore
    refine sound.evolves evolves ?_
    intro outpoint masternode recorded foundVote
    rcases votes outpoint masternode with same | ⟨here, rfl, rfl, new⟩
    · exact sound.votes outpoint masternode recorded (same ▸ foundVote)
    · subst here
      rw [found] at foundBefore
      cases foundBefore
      rw [new] at foundVote
      cases foundVote
      exact ⟨isSet, rfl, rfl, rfl⟩
  locked := by
    rw [effect.locked]
    exact coherent.locked.grows effect.grows

theorem coherent_expire (expires : Expires (Expired params state) state next) :
    Coherent params next where
  sound txHash candidate found :=
    coherent.sound txHash candidate ((expires.candidates txHash candidate).mp found).1
  locked := by
    refine coherent.locked.expires expires ?_
    intro outpoint txHash locked
    have untracked := expires.kept_of_some (.inr (by rw [locked]; exact Option.some_ne_none _))
    exact ⟨((expires.kept outpoint untracked).2).symm.trans locked, untracked⟩

theorem coherent_step (step : TableStep params voteOk expiryOk state next) :
    Coherent params next := by
  cases step with
  | frame candidates voted locked =>
    refine ⟨?_, ?_⟩
    · rw [candidates]
      exact coherent.sound
    · rw [candidates, locked]
      exact coherent.locked
  | create missing sound fresh => exact coherent_insert coherent sound (grows_create missing)
  | revise found sound revises =>
    exact coherent_insert coherent (sound (coherent.sound _ _ found))
      (grows_revise found revises.tracks)
  | vote found isSet allowed =>
    exact coherent_vote coherent found isSet (addCandidateVote_effect state _)
  | expire allowed => exact coherent_expire coherent (removeExpiredCandidates_expires params state)
  | ownVote found tracked => exact ⟨coherent.sound, coherent.locked⟩

theorem coherent_lock (found : state.mapTxLockCandidates.lookup
      (finalized.txLockRequest.getHash params) = some candidate)
    (tracks : ∀ outpoint, finalized.Tracks outpoint → candidate.Tracks outpoint) :
    Coherent params (state.lockTransactionInputs params ctx finalized) where
  sound := by
    rw [lockTransactionInputs_candidates]
    exact coherent.sound
  locked := by
    rw [lockTransactionInputs_candidates]
    intro outpoint txHash locked
    rcases lookup_lockTransactionInputs with
      same | ⟨tracked, _, new⟩
    · exact coherent.locked outpoint txHash (same.symm.trans locked)
    · rw [new] at locked
      cases locked
      exact ⟨candidate, found, tracks outpoint tracked⟩

end

theorem coherent_path (path : TablePath params voteOk expiryOk state next)
    (coherent : Coherent params state) : Coherent params next :=
  path.keeps (fun _ _ => coherent_step) coherent

theorem empty_coherent : Coherent params empty where
  sound txHash candidate found := by cases found
  locked outpoint txHash locked := by cases locked

theorem new_sound : Sound params (params.hashTx tx)
      ((new ctx.time (some tx)).addOutPointLocks tx.vin) where
  request other same := by
    rw [addOutPointLocks_request] at same
    cases same
    rfl
  empty none := by
    rw [addOutPointLocks_request] at none
    cases none
  inputs _ := by
    refine .inr fun txin member => ?_
    rw [addOutPointLocks_request] at member
    exact (addOutPointLocks_tracks _).mpr (.inr ⟨txin, member, rfl⟩)
  votes outpoint masternode vote found := by
    rw [addOutPointLocks_voteOf] at found
    cases found

theorem sound_setRequest (sound : Sound params (params.hashTx tx) candidate)
    (unset : candidate.txLockRequest.isSet params = false) {revised : CTxLockCandidate}
    (request : revised.txLockRequest = some tx)
    (tracks : (∀ outpoint, revised.Tracks outpoint ↔ candidate.Tracks outpoint) ∨ ∀ txin ∈
      tx.vin, revised.Tracks txin.prevout)
    (voteOf : ∀ outpoint masternode, revised.voteOf outpoint masternode =
      candidate.voteOf outpoint masternode) : Sound params (params.hashTx tx) revised where
  request other same := by
    rw [request] at same
    cases same
    rfl
  empty none := by
    rw [request] at none
    cases none
  inputs isSet := by
    rcases tracks with same | all
    · left
      intro outpoint tracked
      have nonzero : params.hashTx tx ≠ 0 := by
        rw [request] at isSet
        exact of_decide_eq_true isSet
      cases old : candidate.txLockRequest with
      | none => exact sound.empty old outpoint ((same outpoint).mp tracked)
      | some other =>
        rw [old, CTxLockRequest.isSet, CTxLockRequest.getHash, sound.request other old] at unset
        exact (of_decide_eq_false unset) nonzero
    · right
      rw [request]
      exact all
  votes outpoint masternode vote found := by
    rw [voteOf] at found
    have isSet := (sound.votes outpoint masternode vote found).1
    rw [unset] at isSet
    cases isSet

theorem createTxLockCandidate_path (ctx : LockContext) (state : CInstantSend) (tx : CTransaction) :
    TablePath params voteOk expiryOk state (state.createTxLockCandidate params ctx tx).1 := by
  unfold createTxLockCandidate
  dsimp only
  split
  · exact .refl
  split
  · rename_i missing
    refine .single (.create missing new_sound ?_)
    intro outpoint masternode
    rw [addOutPointLocks_voteOf]
    rfl
  · rename_i candidate found
    split
    · exact .refl
    rename_i unset
    rw [not_eq_true] at unset
    split
    · exact .single (.revise found
        (fun sound => sound_setRequest sound unset rfl (.inl fun _ => .rfl) fun _ _ => rfl)
        ⟨fun _ tracked => tracked, fun _ _ => rfl, fun _ marked => marked⟩)
    · refine .single (.revise found (fun sound => sound_setRequest sound unset
        (addOutPointLocks_request _) (.inr ?_)
        fun _ _ => addOutPointLocks_voteOf _) ⟨?_, ?_, ?_⟩)
      · intro txin member
        exact (addOutPointLocks_tracks _).mpr (.inr ⟨txin, member, rfl⟩)
      · intro outpoint tracked
        exact (addOutPointLocks_tracks _).mpr (.inl tracked)
      · intro outpoint masternode
        exact addOutPointLocks_voteOf _
      · intro outpoint marked
        exact addOutPointLocks_attacked _ marked

theorem frame_path (candidates : next.mapTxLockCandidates = state.mapTxLockCandidates)
    (voted : next.mapVotedOutpoints = state.mapVotedOutpoints)
    (locked : next.mapLockedOutpoints = state.mapLockedOutpoints) :
    TablePath params voteOk expiryOk state next :=
  .single (.frame candidates voted locked)

def Countable (params : LockParams) (voteOk : CTxLockCandidate → CTxLockVote → Prop)
    (ctx : LockContext) (state : CInstantSend) (vote : CTxLockVote) : Prop :=
  ∀ candidate, state.mapTxLockCandidates.lookup vote.txHash = some candidate →
    candidate.txLockRequest.isSet params = true → candidate.isTimedOut ctx.time = false →
    voteOk candidate vote

def OrphansCountable (params : LockParams) (voteOk : CTxLockCandidate → CTxLockVote → Prop)
    (ctx : LockContext) (state : CInstantSend) : Prop :=
  ∀ voteHash vote, state.mapTxLockVotesOrphan.lookup voteHash = some vote →
    Countable params voteOk ctx state vote

theorem addCandidateVote_orphans :
    (state.addCandidateVote vote).1.mapTxLockVotesOrphan = state.mapTxLockVotesOrphan := by
  unfold addCandidateVote
  dsimp only
  split <;> rfl

section

variable (stable : ∀ candidate changed vote, CTxLockCandidate.Evolves candidate changed →
  voteOk candidate vote → voteOk changed vote) {voteHash : Uint256}
include stable

theorem orphansCountable_counted
    (countable : OrphansCountable params voteOk ctx state) (effect : VoteEffect vote state next)
    (orphans : next.mapTxLockVotesOrphan = state.mapTxLockVotesOrphan) :
    OrphansCountable params voteOk ctx next := by
  intro voteHash orphan foundOrphan changed found isSet inTime
  rw [orphans] at foundOrphan
  obtain ⟨candidate, foundBefore, evolves, _⟩ := effect.candidates.backward found
  rw [evolves.request] at isSet
  rw [isTimedOut, evolves.created] at inTime
  exact stable candidate changed orphan evolves
    (countable voteHash orphan foundOrphan candidate foundBefore isSet inTime)

theorem processOrphanTxLockVote_path
    (foundVote : state.mapTxLockVotesOrphan.lookup voteHash = some vote)
    (countable : OrphansCountable params voteOk ctx state) :
    TablePath params voteOk expiryOk state (state.processOrphanTxLockVote params ctx vote).1 ∧
      OrphansCountable params voteOk ctx (state.processOrphanTxLockVote params ctx vote).1 := by
  unfold processOrphanTxLockVote
  split
  · exact ⟨.refl, countable⟩
  rename_i candidate found
  split
  · exact ⟨.refl, countable⟩
  rename_i isSet
  split
  · exact ⟨.refl, countable⟩
  rename_i inTime
  rw [not_eq_true, not_eq_false'] at isSet
  rw [not_eq_true] at inTime
  constructor
  · exact .single (.vote found isSet (countable voteHash vote foundVote candidate found isSet
    inTime))
  · exact orphansCountable_counted stable countable (addCandidateVote_effect state vote)
      addCandidateVote_orphans

theorem processOrphan_path (countable : OrphansCountable params voteOk ctx state) :
    TablePath params voteOk expiryOk state (state.processOrphan params ctx voteHash) ∧
      OrphansCountable params voteOk ctx (state.processOrphan params ctx voteHash) := by
  unfold processOrphan
  split
  · exact ⟨.refl, countable⟩
  rename_i vote foundVote
  have processed : TablePath params voteOk expiryOk state _ ∧ _ :=
    processOrphanTxLockVote_path stable foundVote countable
  revert processed
  rcases state.processOrphanTxLockVote params ctx vote with ⟨result, taken⟩
  rintro ⟨path, kept⟩
  cases taken with
  | false => exact ⟨path, kept⟩
  | true =>
    refine ⟨path.trans (frame_path rfl rfl rfl), ?_⟩
    intro other orphan found
    dsimp only at found
    rw [StdMap.lookup_erase_eq] at found
    split at found
    · cases found
    · exact kept other orphan found

theorem processOrphanTxLockVotes_path (countable : OrphansCountable params voteOk ctx state) :
    TablePath params voteOk expiryOk state (state.processOrphanTxLockVotes params ctx) := by
  unfold processOrphanTxLockVotes
  generalize StdMap.sortedKeys Uint256.less state.mapTxLockVotesOrphan = keys
  induction keys generalizing state with
  | nil => exact .refl
  | cons voteHash rest ih =>
    obtain ⟨path, kept⟩ : TablePath params voteOk expiryOk state _ ∧ _ :=
      processOrphan_path stable countable
    exact path.trans (ih kept)

theorem receiveTxLockRequest_path
    (countable : OrphansCountable params voteOk ctx (state.createTxLockCandidate params ctx tx).1) :
    TablePath params voteOk expiryOk state (state.receiveTxLockRequest params ctx tx).1 := by
  have created : TablePath params voteOk expiryOk state _ := createTxLockCandidate_path ctx state tx
  unfold receiveTxLockRequest
  revert created countable
  rcases state.createTxLockCandidate params ctx tx with ⟨result, accepted⟩
  intro countable created
  cases accepted with
  | false => exact created
  | true => exact created.trans (processOrphanTxLockVotes_path stable countable)

end

theorem empty_sound : Sound params txHash (.new ctx.time none) where
  request tx same := by cases same
  empty _ outpoint := by
    rintro ⟨lock, found⟩
    cases found
  inputs isSet := absurd (of_decide_eq_true isSet) (by simp [CTxLockRequest.getHash, new])
  votes outpoint masternode vote found := by cases found

theorem trackMasternodeOrphan_path (ctx : LockContext) (masternode : COutPoint) :
    TablePath params voteOk expiryOk state (state.trackMasternodeOrphan ctx masternode) := by
  unfold trackMasternodeOrphan
  dsimp only
  split
  · exact frame_path rfl rfl rfl
  · split
    · exact .refl
    · exact frame_path rfl rfl rfl

theorem createEmptyTxLockCandidate_path (ctx : LockContext) (state : CInstantSend)
    (txHash : Uint256) :
    TablePath params voteOk expiryOk state (state.createEmptyTxLockCandidate ctx txHash) := by
  unfold createEmptyTxLockCandidate StdMap.insertNew
  cases found : state.mapTxLockCandidates.lookup txHash with
  | some candidate => exact .refl
  | none => exact .single (.create found empty_sound fun _ _ => rfl)

theorem storeOrphanVote_path :
    TablePath params voteOk expiryOk state (state.storeOrphanVote params ctx vote) := by
  unfold storeOrphanVote
  refine (createEmptyTxLockCandidate_path ctx state vote.txHash).trans ?_
  refine .trans ?_ (trackMasternodeOrphan_path ctx vote.outpointMasternode)
  exact frame_path rfl rfl rfl

theorem receiveTxLockVote_path
    (countable : vote.isValid params ctx = true → Countable params voteOk ctx state vote) :
    TablePath params voteOk expiryOk state (state.receiveTxLockVote params ctx vote).1 := by
  unfold receiveTxLockVote
  split
  · exact .refl
  rename_i valid
  rw [not_eq_true, not_eq_false'] at valid
  split
  · exact storeOrphanVote_path
  rename_i candidate found
  split
  · exact storeOrphanVote_path
  rename_i isSet
  split
  · exact .refl
  rename_i inTime
  rw [not_eq_true, not_eq_false'] at isSet
  rw [not_eq_true] at inTime
  have counted : TablePath params voteOk expiryOk state (state.addCandidateVote vote).1 :=
    .single (.vote found isSet (countable valid candidate found isSet inTime))
  revert counted
  rcases state.addCandidateVote vote with ⟨result, taken⟩
  intro counted
  cases taken <;> exact counted

def received (ctx : LockContext) (vote : CTxLockVote) : CTxLockVote :=
  { vote with nConfirmedHeight := -1, nTimeCreated := ctx.time }

theorem receiveMessage_path (countable : (received ctx vote).isValid params ctx = true →
      Countable params voteOk ctx state (received ctx vote)) :
    TablePath params voteOk expiryOk state (state.receiveMessage params ctx vote).1 := by
  unfold receiveMessage
  split
  · exact .refl
  split
  · exact .refl
  split
  · exact .refl
  split
  · exact .refl
  dsimp only
  split
  · exact .refl
  · refine .trans ?_ (receiveTxLockVote_path ?_)
    · exact frame_path rfl rfl rfl
    · exact countable

theorem setConfirmedHeight_path (state : CInstantSend) (txHash : Uint256) (nConfirmedHeight : Int) :
    TablePath params voteOk expiryOk state (state.setConfirmedHeight txHash nConfirmedHeight) := by
  unfold setConfirmedHeight StdMap.adjust
  cases found : state.mapTxLockCandidates.lookup txHash with
  | none => exact .refl
  | some candidate =>
    exact .single (.revise found (fun sound => { sound with })
      ⟨fun _ tracked => tracked, fun _ _ => rfl, fun _ marked => marked⟩)

/-- Only the candidates and the two tables of outpoints are compared. -/
structure SameTables (state next : CInstantSend) : Prop where
  candidates : next.mapTxLockCandidates = state.mapTxLockCandidates
  voted : next.mapVotedOutpoints = state.mapVotedOutpoints
  locked : next.mapLockedOutpoints = state.mapLockedOutpoints

theorem SameTables.foldl {β : Type} {step : CInstantSend → β → CInstantSend}
    (same : ∀ state item, SameTables state (step state item)) (state : CInstantSend)
    (items : List β) : SameTables state (items.foldl step state) := by
  induction items generalizing state with
  | nil => exact ⟨rfl, rfl, rfl⟩
  | cons item rest ih =>
    have first := same state item
    have later := ih (step state item)
    exact ⟨later.candidates.trans first.candidates, later.voted.trans first.voted,
      later.locked.trans first.locked⟩

theorem SameTables.path (same : SameTables state next) :
    TablePath params voteOk expiryOk state next :=
  frame_path same.candidates same.voted same.locked

theorem removeOldVotes_path :
    TablePath params voteOk expiryOk state (state.removeOldVotes params ctx) := by
  have orphans : ∀ state voteHash, SameTables state (removeOrphanIfTimedOut ctx state voteHash) :=
    by
    intro state voteHash
    unfold removeOrphanIfTimedOut
    split
    · exact ⟨rfl, rfl, rfl⟩
    · split <;> exact ⟨rfl, rfl, rfl⟩
  have same := SameTables.foldl orphans (state.removeVotes fun vote =>
      heightExpired params vote.nConfirmedHeight state.nCachedBlockHeight)
    (StdMap.sortedKeys Uint256.less state.mapTxLockVotesOrphan)
  exact frame_path same.candidates same.voted same.locked

theorem checkAndRemove_path (allowed : ctx.masternodeListSynced = true → expiryOk state) :
    TablePath params voteOk expiryOk state (state.checkAndRemove params ctx) := by
  unfold checkAndRemove
  split
  · exact .refl
  · rename_i synced
    rw [not_eq_true, not_eq_false'] at synced
    exact .head (.expire (allowed synced)) removeOldVotes_path

theorem dropBoth_path {txHash hashConflicting : Uint256}
    (allowed : ctx.masternodeListSynced = true →
      expiryOk ((state.setConfirmedHeight txHash 0).setConfirmedHeight hashConflicting 0)) :
    TablePath params voteOk expiryOk state (state.dropBoth params ctx txHash hashConflicting) := by
  unfold dropBoth
  split
  · refine (setConfirmedHeight_path state txHash 0).trans ?_
    refine (setConfirmedHeight_path _ hashConflicting 0).trans ?_
    refine .trans (checkAndRemove_path allowed) ?_
    exact frame_path rfl rfl rfl
  · exact .refl

/-- If finalizing meets a completed lock of another transaction, both are dropped, and expired
candidates are removed. -/
def ConflictAllowed (params : LockParams) (expiryOk : CInstantSend → Prop) (ctx : LockContext)
    (state : CInstantSend) (finalized : CTxLockCandidate) : Prop :=
  ∀ hashConflicting, ctx.masternodeListSynced = true →
    state.findConflict ctx (finalized.txLockRequest.getHash params) finalized.txLockRequest.vin =
      .lockedBy hashConflicting →
    expiryOk ((state.setConfirmedHeight (finalized.txLockRequest.getHash params) 0)
      |>.setConfirmedHeight hashConflicting 0)

theorem resolveConflicts_path (allowed : ConflictAllowed params expiryOk ctx state finalized) :
    TablePath params voteOk expiryOk state (state.resolveConflicts params ctx finalized).1 ∧
      ((state.resolveConflicts params ctx finalized).2 = true →
        (state.resolveConflicts params ctx finalized).1 = state) := by
  unfold resolveConflicts
  dsimp only
  split
  · exact ⟨.refl, fun _ => rfl⟩
  split
  · rename_i hashConflicting conflict
    constructor
    · exact dropBoth_path fun synced => allowed _ synced conflict
    · intro resolved
      cases resolved
  · exact ⟨.refl, fun _ => rfl⟩
  · exact ⟨.refl, fun _ => rfl⟩

structure Locks (params : LockParams) (ctx : LockContext) (state : CInstantSend)
    (finalized : CTxLockCandidate) (next : CInstantSend) : Prop where
  ready : finalized.isAllOutPointsReady = true
  clear : (state.resolveConflicts params ctx finalized).2 = true
  result : next = state.lockTransactionInputs params ctx finalized

theorem tryToFinalizeLockCandidate_cases
    (allowed : ConflictAllowed params expiryOk ctx state finalized) :
    TablePath params voteOk expiryOk state (state.tryToFinalizeLockCandidate params ctx finalized) ∨
      Locks params ctx state finalized (state.tryToFinalizeLockCandidate params ctx finalized) := by
  unfold tryToFinalizeLockCandidate
  split
  · exact .inl .refl
  split
  · rename_i ready
    rw [and_eq_true] at ready
    have resolved : TablePath params voteOk expiryOk state _ ∧ _ := resolveConflicts_path allowed
    cases outcome : state.resolveConflicts params ctx finalized with
    | mk result clear =>
      rw [outcome] at resolved
      cases clear with
      | false => exact .inl resolved.1
      | true =>
        have unchanged : result = state := resolved.2 rfl
        subst unchanged
        exact .inr ⟨ready.1, by rw [outcome], rfl⟩
  · exact .inl .refl

end CInstantSend

end Minerium
