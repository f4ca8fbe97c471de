import Minerium.LockCandidates

/-! What an event can do to the candidates, the voted and the locked outpoints. -/

namespace Minerium

open StdMap CTxLockCandidate

variable {params : LockParams} {state next : CInstantSend} {hashes : List Uint256}
  {related : Uint256 → CTxLockCandidate → CTxLockCandidate → Prop}
  {before after candidates : Candidates} {candidate : CTxLockCandidate} {outpoint : COutPoint}
  {vote : CTxLockVote} {hash txHash : Uint256} {ctx : LockContext}
  {entry : COutPoint → Uint256 → Prop}

namespace CInstantSend

def votedFor (state : CInstantSend) (outpoint : COutPoint) : List Uint256 :=
  (state.mapVotedOutpoints.lookup outpoint).getD []

/-- The request has the hash, the votes are for that transaction and their outpoint, and every input
is tracked or nothing. -/
structure Sound (params : LockParams) (txHash : Uint256) (candidate : CTxLockCandidate) : Prop where
  request : ∀ tx, candidate.txLockRequest = some tx → params.hashTx tx = txHash
  empty : candidate.txLockRequest = none → ∀ outpoint, ¬ candidate.Tracks outpoint
  inputs : candidate.txLockRequest.isSet params = true → (∀ outpoint, ¬ candidate.Tracks outpoint) ∨
      ∀ txin ∈ candidate.txLockRequest.vin, candidate.Tracks txin.prevout
  votes : ∀ outpoint masternode vote, candidate.voteOf outpoint masternode = some vote →
    candidate.txLockRequest.isSet params = true ∧ vote.txHash = txHash ∧
      vote.outpoint = outpoint ∧ vote.outpointMasternode = masternode

structure Revises (candidate revised : CTxLockCandidate) : Prop where
  tracks : ∀ outpoint, candidate.Tracks outpoint → revised.Tracks outpoint
  voteOf : ∀ outpoint masternode,
    revised.voteOf outpoint masternode = candidate.voteOf outpoint masternode
  attacked : ∀ outpoint, candidate.Attacked outpoint → revised.Attacked outpoint

inductive TableStep (params : LockParams) (voteOk : CTxLockCandidate → CTxLockVote → Prop)
    (expiryOk : CInstantSend → Prop) : CInstantSend → CInstantSend → Prop
  | frame {state next : CInstantSend}
      (candidates : next.mapTxLockCandidates = state.mapTxLockCandidates)
      (voted : next.mapVotedOutpoints = state.mapVotedOutpoints)
      (locked : next.mapLockedOutpoints = state.mapLockedOutpoints) :
      TableStep params voteOk expiryOk state next
  | create {state : CInstantSend} {txHash : Uint256} {candidate : CTxLockCandidate}
      (missing : state.mapTxLockCandidates.lookup txHash = none)
      (sound : Sound params txHash candidate)
      (fresh : ∀ outpoint masternode, candidate.voteOf outpoint masternode = none) :
      TableStep params voteOk expiryOk state
        { state with
          mapTxLockCandidates := state.mapTxLockCandidates.insert txHash candidate }
  | revise {state : CInstantSend} {txHash : Uint256} {candidate revised : CTxLockCandidate}
      (found : state.mapTxLockCandidates.lookup txHash = some candidate)
      (sound : Sound params txHash candidate → Sound params txHash revised)
      (revises : Revises candidate revised) :
      TableStep params voteOk expiryOk state
        { state with
          mapTxLockCandidates := state.mapTxLockCandidates.insert txHash revised }
  | vote {state : CInstantSend} {vote : CTxLockVote} {candidate : CTxLockCandidate}
      (found : state.mapTxLockCandidates.lookup vote.txHash = some candidate)
      (isSet : candidate.txLockRequest.isSet params = true) (allowed : voteOk candidate vote) :
      TableStep params voteOk expiryOk state (state.addCandidateVote vote).1
  | expire {state : CInstantSend} (allowed : expiryOk state) :
      TableStep params voteOk expiryOk state (state.removeExpiredCandidates params)
  | ownVote {state : CInstantSend} {txHash : Uint256} {candidate : CTxLockCandidate}
      {outpoint : COutPoint} (found : state.mapTxLockCandidates.lookup txHash = some candidate)
      (tracked : candidate.Tracks outpoint) :
      TableStep params voteOk expiryOk state
        { state with
          mapVotedOutpoints := state.mapVotedOutpoints.insert outpoint
            (insertHash (state.votedFor outpoint) txHash) }

abbrev TablePath (params : LockParams) (voteOk : CTxLockCandidate → CTxLockVote → Prop)
    (expiryOk : CInstantSend → Prop) : CInstantSend → CInstantSend → Prop :=
  Relation.ReflTransGen (TableStep params voteOk expiryOk)

theorem TablePath.keeps {voteOk : CTxLockCandidate → CTxLockVote → Prop}
    {expiryOk good : CInstantSend → Prop}
    (kept : ∀ state next, good state → TableStep params voteOk expiryOk state next → good next)
    (path : TablePath params voteOk expiryOk state next) (holds : good state) : good next := by
  induction path with
  | refl => exact holds
  | tail _ step ih => exact kept _ _ ih step

theorem mem_insertHash {txHash other : Uint256} :
    other ∈ insertHash hashes txHash ↔ other = txHash ∨ other ∈ hashes := by
  unfold insertHash
  split
  · rename_i member
    constructor
    · exact .inr
    · rintro (same | listed)
      · exact same ▸ member
      · exact listed
  · exact List.mem_orderedInsert _

structure SameVotes (candidate changed : CTxLockCandidate) : Prop where
  evolves : candidate.Evolves changed
  voteOf : ∀ outpoint masternode,
    changed.voteOf outpoint masternode = candidate.voteOf outpoint masternode

abbrev Candidates := StdMap.Map Uint256 CTxLockCandidate

section

variable (related before after)

def Related : Prop :=
  ∀ txHash, Option.Rel (related txHash) (before.lookup txHash) (after.lookup txHash)

end

theorem Related.forward (relation : Related related before after)
    (found : before.lookup txHash = some candidate) :
    ∃ changed, after.lookup txHash = some changed ∧ related txHash candidate changed := by
  have here := relation txHash
  rw [found] at here
  cases changed : after.lookup txHash with
  | none => rw [changed] at here; cases here
  | some other =>
    rw [changed] at here
    cases here with
    | some relates => exact ⟨other, rfl, relates⟩

theorem Related.backward (relation : Related related before after)
    {changed : CTxLockCandidate} (found : after.lookup txHash = some changed) :
    ∃ candidate, before.lookup txHash = some candidate ∧ related txHash candidate changed := by
  have here := relation txHash
  rw [found] at here
  cases candidate : before.lookup txHash with
  | none => rw [candidate] at here; cases here
  | some other =>
    rw [candidate] at here
    cases here with
    | some relates => exact ⟨other, rfl, relates⟩

theorem Related.imp {weaker : Uint256 → CTxLockCandidate → CTxLockCandidate → Prop}
    (relation : Related related before after)
    (implies : ∀ txHash candidate changed, related txHash candidate changed →
      weaker txHash candidate changed) : Related weaker before after := by
  intro txHash
  have here := relation txHash
  cases found : before.lookup txHash with
  | none =>
    rw [found] at here
    cases changed : after.lookup txHash with
    | none => exact .none
    | some other => rw [changed] at here; cases here
  | some candidate =>
    obtain ⟨changed, foundAfter, relates⟩ := relation.forward found
    rw [foundAfter]
    exact .some (implies txHash candidate changed relates)

theorem sameVotes_refl : Related (fun _ => SameVotes) candidates candidates := by
  intro txHash
  cases candidates.lookup txHash with
  | none => exact .none
  | some candidate => exact .some ⟨.refl candidate, fun _ _ => rfl⟩

theorem sameVotes_trans {first second third : Candidates}
    (left : Related (fun _ => SameVotes) first second)
    (right : Related (fun _ => SameVotes) second third) :
    Related (fun _ => SameVotes) first third := by
  intro txHash
  have start := left txHash
  have finish := right txHash
  revert start finish
  generalize first.lookup txHash = a
  generalize second.lookup txHash = b
  generalize third.lookup txHash = c
  intro start finish
  cases start with
  | none => cases finish; exact .none
  | some before =>
    cases finish with
    | some after =>
      exact .some ⟨before.evolves.trans after.evolves, fun outpoint masternode =>
        (after.voteOf outpoint masternode).trans (before.voteOf outpoint masternode)⟩

theorem adjust_mark_sameVotes {txHash : Uint256} : Related (fun _ => SameVotes) candidates
      (adjust candidates txHash (·.markOutpointAsAttacked outpoint)) := by
  intro other
  rw [lookup_adjust]
  by_cases same : other = txHash
  · rw [if_pos same, same]
    cases candidates.lookup txHash with
    | none => exact .none
    | some candidate =>
      exact .some ⟨candidate.mark_evolves outpoint, fun _ _ => candidate.mark_voteOf _ _ _⟩
  · rw [if_neg same]
    exact sameVotes_refl other

theorem markConflict_sameVotes :
    Related (fun _ => SameVotes) candidates (markConflict vote candidates hash) := by
  unfold markConflict
  split
  · exact sameVotes_trans adjust_mark_sameVotes adjust_mark_sameVotes
  · exact sameVotes_refl

section

variable (candidates txHash)

theorem markConflicts_sameVotes :
    Related (fun _ => SameVotes) candidates (hashes.foldl (markConflict vote) candidates) := by
  induction hashes generalizing candidates with
  | nil => exact sameVotes_refl
  | cons hash rest ih => exact sameVotes_trans markConflict_sameVotes (ih _)

def MarkedAt (outpoint : COutPoint) : Prop :=
  ∀ candidate, candidates.lookup txHash = some candidate → candidate.Tracks outpoint →
    candidate.Attacked outpoint

end

theorem MarkedAt.sameVotes (marked : MarkedAt before txHash outpoint)
    (relation : Related (fun _ => SameVotes) before after) : MarkedAt after txHash outpoint := by
  intro changed found tracked
  obtain ⟨candidate, foundBefore, same⟩ := relation.backward found
  exact same.evolves.attacked outpoint
    (marked candidate foundBefore ((same.evolves.tracks outpoint).mp tracked))

theorem adjust_mark_marked {txHash : Uint256} :
    MarkedAt (adjust candidates txHash (·.markOutpointAsAttacked outpoint)) txHash
      outpoint := by
  intro changed found tracked
  rw [lookup_adjust, if_pos rfl] at found
  obtain ⟨candidate, _, rfl⟩ := Option.map_eq_some_iff.mp found
  exact mark_attacked (((candidate.mark_evolves outpoint).tracks outpoint).mp tracked)

theorem markConflicts_marked (listed : hash ∈ hashes) (other : hash ≠ vote.txHash)
    (found : candidates.lookup hash = some candidate)
    (voted : ∃ earlier, candidate.voteOf vote.outpoint vote.outpointMasternode = some earlier) :
    MarkedAt (hashes.foldl (markConflict vote) candidates) hash vote.outpoint ∧
      MarkedAt (hashes.foldl (markConflict vote) candidates) vote.txHash vote.outpoint := by
  induction hashes generalizing candidates candidate with
  | nil => cases listed
  | cons head rest ih =>
    rw [List.foldl_cons]
    rcases List.mem_cons.mp listed with rfl | later
    · have conflicting : (candidates.lookup hash).any
          (·.hasMasternodeVoted vote.outpoint vote.outpointMasternode) = true := by
        rw [found, Option.any_some]
        exact hasMasternodeVoted_iff.mpr voted
      have marks : markConflict vote candidates hash = adjust
            (adjust candidates vote.txHash (·.markOutpointAsAttacked vote.outpoint))
            hash (·.markOutpointAsAttacked vote.outpoint) := if_pos ⟨other, conflicting⟩
      rw [marks]
      constructor
      · exact adjust_mark_marked.sameVotes (markConflicts_sameVotes _)
      · exact (adjust_mark_marked.sameVotes adjust_mark_sameVotes).sameVotes
          (markConflicts_sameVotes _)
    · obtain ⟨changed, foundChanged, same⟩ := markConflict_sameVotes.forward found
      exact ih later foundChanged (by rw [same.voteOf]; exact voted)

section

variable (state vote)

/-- The transaction is listed for the outpoint, the vote may be recorded in its candidate, and an
earlier vote of the masternode for another marks both candidates. -/
structure VoteEffect (state next : CInstantSend) : Prop where
  locked : next.mapLockedOutpoints = state.mapLockedOutpoints
  voted : next.mapVotedOutpoints = state.mapVotedOutpoints.insert vote.outpoint
    (insertHash (state.votedFor vote.outpoint) vote.txHash)
  candidates : Related (fun txHash candidate changed => candidate.Evolves changed ∧
    ∀ outpoint masternode,
      changed.voteOf outpoint masternode = candidate.voteOf outpoint masternode ∨
        txHash = vote.txHash ∧ outpoint = vote.outpoint ∧ masternode = vote.outpointMasternode ∧
          changed.voteOf outpoint masternode = some vote)
    state.mapTxLockCandidates next.mapTxLockCandidates
  marked : ∀ hash ∈ state.votedFor vote.outpoint, hash ≠ vote.txHash → ∀ candidate,
    state.mapTxLockCandidates.lookup hash = some candidate →
    (∃ earlier, candidate.voteOf vote.outpoint vote.outpointMasternode = some earlier) →
    MarkedAt next.mapTxLockCandidates hash vote.outpoint ∧
      MarkedAt next.mapTxLockCandidates vote.txHash vote.outpoint

theorem updateVotedOutpoints_effect : VoteEffect vote state (state.updateVotedOutpoints vote) where
  locked := rfl
  voted := rfl
  candidates :=
    (markConflicts_sameVotes state.mapTxLockCandidates).imp
      fun _ _ _ same => ⟨same.evolves, fun outpoint masternode =>
        .inl (same.voteOf outpoint masternode)⟩
  marked _ listed other _ found voted := markConflicts_marked listed other found voted

theorem addCandidateVote_effect : VoteEffect vote state (state.addCandidateVote vote).1 := by
  have effect := updateVotedOutpoints_effect state vote
  unfold addCandidateVote
  dsimp only
  split
  · exact effect
  · rename_i changed added
    obtain ⟨marked, found, added⟩ := Option.bind_eq_some_iff.mp added
    have adds := addVote_spec added
    have lookups : ∀ txHash, ((state.updateVotedOutpoints vote).mapTxLockCandidates.insert
        vote.txHash changed).lookup txHash = if txHash = vote.txHash then some changed
          else (state.updateVotedOutpoints vote).mapTxLockCandidates.lookup txHash :=
      fun txHash => lookup_insert_eq _ _ _ _
    have keepsMarks : ∀ hash,
        MarkedAt (state.updateVotedOutpoints vote).mapTxLockCandidates hash vote.outpoint →
        MarkedAt ((state.updateVotedOutpoints vote).mapTxLockCandidates.insert vote.txHash changed)
          hash vote.outpoint := by
      intro hash before candidate foundAfter tracked
      rw [lookups] at foundAfter
      split at foundAfter
      · rename_i same
        cases foundAfter
        exact adds.evolves.attacked _ (before marked (same ▸ found)
          ((adds.evolves.tracks _).mp tracked))
      · exact before candidate foundAfter tracked
    refine ⟨effect.locked, effect.voted, ?_, ?_⟩
    · intro txHash
      dsimp only
      rw [lookups]
      by_cases same : txHash = vote.txHash
      · rw [if_pos same, same]
        obtain ⟨candidate, foundBefore, evolves, votes⟩ := effect.candidates.backward found
        rw [foundBefore]
        refine .some ⟨evolves.trans adds.evolves, ?_⟩
        intro outpoint masternode
        rw [adds.voteOf]
        split
        · rename_i here
          exact .inr ⟨rfl, here.1, here.2, rfl⟩
        · rename_i elsewhere
          rcases votes outpoint masternode with same | new
          · exact .inl same
          · exact absurd ⟨new.2.1, new.2.2.1⟩ elsewhere
      · rw [if_neg same]
        exact effect.candidates txHash
    · intro hash listed other candidate foundBefore voted
      obtain ⟨first, second⟩ := effect.marked hash listed other candidate foundBefore voted
      exact ⟨keepsMarks hash first, keepsMarks vote.txHash second⟩

end

/-- The candidates that are gone leave the tables together with all entries for the outpoints
they track. -/
structure Expires (gone : Uint256 → CTxLockCandidate → Prop) (state next : CInstantSend) :
    Prop where
  height : next.nCachedBlockHeight = state.nCachedBlockHeight
  candidates : ∀ txHash candidate, next.mapTxLockCandidates.lookup txHash = some candidate ↔
    state.mapTxLockCandidates.lookup txHash = some candidate ∧ ¬ gone txHash candidate
  erased : ∀ txHash candidate, gone txHash candidate → ∀ outpoint, candidate.Tracks outpoint →
    next.mapVotedOutpoints.lookup outpoint = none ∧ next.mapLockedOutpoints.lookup outpoint = none
  kept : ∀ outpoint, (∀ txHash candidate, gone txHash candidate → ¬ candidate.Tracks outpoint) →
    next.mapVotedOutpoints.lookup outpoint = state.mapVotedOutpoints.lookup outpoint ∧
      next.mapLockedOutpoints.lookup outpoint = state.mapLockedOutpoints.lookup outpoint

theorem Expires.trans {first second : Uint256 → CTxLockCandidate → Prop}
    {middle next : CInstantSend} (left : Expires first state middle)
    (right : Expires second middle next) :
    Expires (fun txHash candidate => first txHash candidate ∨ second txHash candidate) state
      next where
  height := right.height.trans left.height
  candidates txHash candidate := by
    rw [right.candidates, left.candidates, and_assoc, not_or]
  erased txHash candidate gone outpoint tracked := by
    by_cases later : ∃ other removed, second other removed ∧ removed.Tracks outpoint
    · obtain ⟨other, removed, goneLater, trackedLater⟩ := later
      exact right.erased other removed goneLater outpoint trackedLater
    · have rest : ∀ other removed, second other removed → ¬ removed.Tracks outpoint :=
        fun other removed goneLater trackedLater => later ⟨other, removed, goneLater, trackedLater⟩
      rcases gone with gone | gone
      · have before := left.erased txHash candidate gone outpoint tracked
        have same := right.kept outpoint rest
        exact ⟨same.1.trans before.1, same.2.trans before.2⟩
      · exact absurd tracked (rest txHash candidate gone)
  kept outpoint none := by
    have before := left.kept outpoint fun txHash candidate gone => none txHash candidate (.inl gone)
    have after := right.kept outpoint fun txHash candidate gone => none txHash candidate (.inr gone)
    exact ⟨after.1.trans before.1, after.2.trans before.2⟩

theorem Expires.congr {gone other : Uint256 → CTxLockCandidate → Prop}
    (expires : Expires gone state next)
    (same : ∀ txHash candidate, gone txHash candidate ↔ other txHash candidate) :
    Expires other state next := by
  have equal : gone = other := by
    funext txHash candidate
    exact propext (same txHash candidate)
  exact equal ▸ expires

section

variable (params state txHash)

def Expired (candidate : CTxLockCandidate) : Prop :=
  state.mapTxLockCandidates.lookup txHash = some candidate ∧
    candidate.isExpired params state.nCachedBlockHeight = true

theorem removeIfExpired_expires :
    Expires (fun hash candidate => hash = txHash ∧ Expired params state hash candidate) state
      (state.removeIfExpired params txHash) := by
  unfold removeIfExpired
  split
  · rename_i missing
    refine ⟨rfl, ?_, ?_, fun _ _ => ⟨rfl, rfl⟩⟩
    · intro hash candidate
      refine ⟨fun found => ⟨found, ?_⟩, And.left⟩
      rintro ⟨rfl, stored, _⟩
      rw [missing] at stored
      cases stored
    · rintro hash candidate ⟨rfl, stored, _⟩
      rw [missing] at stored
      cases stored
  · rename_i candidate found
    split
    · rename_i expired
      have gone : ∀ hash other, (hash = txHash ∧ Expired params state hash other) ↔
          hash = txHash ∧ other = candidate := by
        intro hash other
        constructor
        · rintro ⟨rfl, stored, _⟩
          rw [found] at stored
          cases stored
          exact ⟨rfl, rfl⟩
        · rintro ⟨rfl, rfl⟩
          exact ⟨rfl, found, expired⟩
      suffices removed : Expires (fun hash other => hash = txHash ∧ other = candidate) state
          (state.removeCandidate params txHash candidate) from
        removed.congr fun hash other => (gone hash other).symm
      refine ⟨rfl, ?_, ?_, ?_⟩
      · intro hash other
        simp only [removeCandidate]
        rw [lookup_erase_eq]
        by_cases same : hash = txHash
        · subst same
          rw [if_pos rfl, found]
          constructor
          · intro impossible
            cases impossible
          · rintro ⟨stored, different⟩
            cases stored
            exact absurd ⟨rfl, rfl⟩ different
        · simp [same]
      · rintro hash other ⟨rfl, rfl⟩ outpoint tracked
        have member := mem_keys_iff.mpr tracked
        simp only [removeCandidate]
        rw [lookup_foldl_erase, lookup_foldl_erase, if_pos member, if_pos member]
        exact ⟨rfl, rfl⟩
      · intro outpoint none
        have absent : outpoint ∉ candidate.mapOutPointLocks.keys := fun member =>
          none txHash candidate ⟨rfl, rfl⟩ (mem_keys_iff.mp member)
        simp only [removeCandidate]
        rw [lookup_foldl_erase, lookup_foldl_erase, if_neg absent, if_neg absent]
        exact ⟨rfl, rfl⟩
    · rename_i fresh
      have none : ∀ hash other, ¬ (hash = txHash ∧ Expired params state hash other) := by
        rintro hash other ⟨rfl, stored, expired⟩
        rw [found] at stored
        cases stored
        exact fresh expired
      refine ⟨rfl, ?_, ?_, fun _ _ => ⟨rfl, rfl⟩⟩
      · intro hash other
        exact ⟨fun stored => ⟨stored, none hash other⟩, And.left⟩
      · intro hash other gone
        exact absurd gone (none hash other)

end

theorem removeAll_expires {keys : List Uint256} (state : CInstantSend) :
    Expires (fun hash candidate => hash ∈ keys ∧ Expired params state hash candidate) state
      (keys.foldl (removeIfExpired params) state) := by
  induction keys generalizing state with
  | nil =>
    refine ⟨rfl, ?_, ?_, fun _ _ => ⟨rfl, rfl⟩⟩
    · intro hash candidate
      simp
    · rintro hash candidate ⟨member, _⟩
      cases member
  | cons head rest ih =>
    have first := removeIfExpired_expires params state head
    refine (first.trans (ih (state.removeIfExpired params head))).congr ?_
    intro hash candidate
    simp only [Expired, first.height, first.candidates, List.mem_cons]
    constructor
    · rintro (⟨rfl, gone⟩ | ⟨member, ⟨stored, _⟩, expired⟩)
      · exact ⟨.inl rfl, gone⟩
      · exact ⟨.inr member, stored, expired⟩
    · rintro ⟨rfl | member, gone⟩
      · exact .inl ⟨rfl, gone⟩
      · by_cases same : hash = head
        · exact .inl ⟨same, gone⟩
        · exact .inr ⟨member, ⟨gone.1, fun both => same both.1⟩, gone.2⟩

theorem removeExpiredCandidates_expires (params : LockParams) (state : CInstantSend) :
    Expires (Expired params state) state (state.removeExpiredCandidates params) := by
  refine (removeAll_expires state).congr ?_
  intro hash candidate
  refine ⟨And.right, fun gone => ⟨mem_sortedKeys.mpr ⟨candidate, gone.1⟩, gone⟩⟩

theorem lookup_lockTransactionInputs :
    (state.lockTransactionInputs params ctx candidate).mapLockedOutpoints.lookup outpoint =
        state.mapLockedOutpoints.lookup outpoint ∨
      candidate.Tracks outpoint ∧ state.mapLockedOutpoints.lookup outpoint = none ∧
        (state.lockTransactionInputs params ctx candidate).mapLockedOutpoints.lookup outpoint =
          some (candidate.txLockRequest.getHash params) := by
  unfold lockTransactionInputs
  split
  · exact .inl rfl
  split
  · exact .inl rfl
  dsimp only
  rw [lookup_foldl_insertNew]
  split
  · rename_i member
    cases found : state.mapLockedOutpoints.lookup outpoint with
    | none => exact .inr ⟨mem_keys_iff.mp member, rfl, rfl⟩
    | some txHash => exact .inl rfl
  · exact .inl rfl

theorem lockTransactionInputs_candidates :
    (state.lockTransactionInputs params ctx candidate).mapTxLockCandidates =
      state.mapTxLockCandidates := by
  unfold lockTransactionInputs
  split
  · rfl
  split <;> rfl

theorem lockTransactionInputs_voted :
    (state.lockTransactionInputs params ctx candidate).mapVotedOutpoints =
      state.mapVotedOutpoints := by
  unfold lockTransactionInputs
  split
  · rfl
  split <;> rfl

section

variable (candidates entry)

def Anchored : Prop :=
  ∀ outpoint txHash, entry outpoint txHash →
    ∃ candidate, candidates.lookup txHash = some candidate ∧ candidate.Tracks outpoint

end

structure Coherent (params : LockParams) (state : CInstantSend) : Prop where
  sound : ∀ txHash candidate, state.mapTxLockCandidates.lookup txHash = some candidate →
    Sound params txHash candidate
  locked : Anchored state.mapTxLockCandidates
    fun outpoint txHash => state.mapLockedOutpoints.lookup outpoint = some txHash

def Grows (before after : Candidates) : Prop :=
  ∀ txHash candidate, before.lookup txHash = some candidate →
    ∃ grown, after.lookup txHash = some grown ∧
      ∀ outpoint, candidate.Tracks outpoint → grown.Tracks outpoint

theorem Anchored.grows (anchored : Anchored before entry)
    (grows : Grows before after) : Anchored after entry := by
  intro outpoint txHash listed
  obtain ⟨candidate, found, tracked⟩ := anchored outpoint txHash listed
  obtain ⟨grown, foundGrown, tracks⟩ := grows txHash candidate found
  exact ⟨grown, foundGrown, tracks outpoint tracked⟩

theorem grows_create (missing : candidates.lookup txHash = none)
    {candidate : CTxLockCandidate} : Grows candidates (candidates.insert txHash candidate) := by
  intro other stored found
  refine ⟨stored, ?_, fun _ tracked => tracked⟩
  rw [lookup_insert_eq, if_neg, found]
  rintro rfl
  rw [missing] at found
  cases found

theorem grows_revise {revised : CTxLockCandidate}
    (found : candidates.lookup txHash = some candidate)
    (tracks : ∀ outpoint, candidate.Tracks outpoint → revised.Tracks outpoint) :
    Grows candidates (candidates.insert txHash revised) := by
  intro other stored foundStored
  rw [lookup_insert_eq]
  by_cases same : other = txHash
  · subst same
    rw [found] at foundStored
    cases foundStored
    exact ⟨revised, if_pos rfl, tracks⟩
  · exact ⟨stored, (if_neg same).trans foundStored, fun _ tracked => tracked⟩

theorem VoteEffect.grows (effect : VoteEffect vote state next) :
    Grows state.mapTxLockCandidates next.mapTxLockCandidates := by
  intro txHash candidate found
  obtain ⟨changed, foundChanged, evolves, _⟩ := effect.candidates.forward found
  exact ⟨changed, foundChanged, fun outpoint => (evolves.tracks outpoint).mpr⟩

theorem Anchored.expires (expires : Expires (Expired params state) state next)
    (anchored : Anchored state.mapTxLockCandidates entry) {remaining : COutPoint → Uint256 → Prop}
    (kept : ∀ outpoint txHash, remaining outpoint txHash → entry outpoint txHash ∧ ∀ hash candidate,
      Expired params state hash candidate → ¬ candidate.Tracks outpoint) :
    Anchored next.mapTxLockCandidates remaining := by
  intro outpoint txHash listed
  obtain ⟨listedBefore, untracked⟩ := kept outpoint txHash listed
  obtain ⟨candidate, found, tracked⟩ := anchored outpoint txHash listedBefore
  refine ⟨candidate, (expires.candidates txHash candidate).mpr ⟨found, fun expired => ?_⟩, tracked⟩
  exact untracked txHash candidate expired tracked

theorem Expires.kept_of_some (expires : Expires (Expired params state) state next)
    (listed : next.mapVotedOutpoints.lookup outpoint ≠ none ∨ next.mapLockedOutpoints.lookup
      outpoint ≠ none) :
    ∀ hash candidate, Expired params state hash candidate → ¬ candidate.Tracks outpoint := by
  intro hash candidate expired tracked
  obtain ⟨voted, locked⟩ := expires.erased hash candidate expired outpoint tracked
  rcases listed with listed | listed
  · exact listed voted
  · exact listed locked

end CInstantSend

end Minerium
