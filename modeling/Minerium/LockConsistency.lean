import Minerium.Lib.Run
import Minerium.OwnVotes

/-! Consistency of the InstantSend tables over runs. -/

namespace Minerium

variable {tx : CTransaction} {finalized candidate : CTxLockCandidate} {vote : CTxLockVote}
  {after : InstantSendNode} {outpoint : COutPoint} {txHash : Uint256} {signed : List CTxLockVote}
  {before : CInstantSend} {outpoints : List COutPoint}

namespace CInstantSend

variable {params : LockParams} {voteOk : CTxLockCandidate → CTxLockVote → Prop}
  {expiryOk : CInstantSend → Prop} {state next : CInstantSend} {ctx : LockContext}

theorem receiveTxLockRequest_stored :
    (state.receiveTxLockRequest params ctx tx).2 = some finalized →
    (state.receiveTxLockRequest params ctx tx).1.mapTxLockCandidates.lookup (params.hashTx tx) =
      some finalized := by
  unfold receiveTxLockRequest
  split
  · exact nofun
  · exact id

theorem receiveTxLockVote_stored : (state.receiveTxLockVote params ctx vote).2 = some finalized →
    (state.receiveTxLockVote params ctx vote).1.mapTxLockCandidates.lookup vote.txHash =
      some finalized := by
  unfold receiveTxLockVote
  split
  · exact nofun
  split
  · exact nofun
  split
  · exact nofun
  split
  · exact nofun
  split
  · exact nofun
  · exact id

theorem receiveMessage_stored : (state.receiveMessage params ctx vote).2 = some finalized →
    (state.receiveMessage params ctx vote).1.mapTxLockCandidates.lookup vote.txHash =
      some finalized := by
  unfold receiveMessage
  split
  · exact nofun
  split
  · exact nofun
  split
  · exact nofun
  split
  · exact nofun
  dsimp only
  split
  · exact nofun
  · exact receiveTxLockVote_stored

theorem syncTransaction_path {nHeightNew : Int} :
    TablePath params voteOk expiryOk state (state.syncTransaction params ctx tx nHeightNew) := by
  have votes : ∀ state voteHash, SameTables state (confirmVote state nHeightNew voteHash) :=
    fun _ _ => ⟨rfl, rfl, rfl⟩
  have orphans : ∀ state (entry : Sigma fun _ : Uint256 => CTxLockVote),
      SameTables state (confirmOrphanVote ctx nHeightNew state entry.1) :=
    fun _ _ => ⟨rfl, rfl, rfl⟩
  unfold syncTransaction
  split
  · exact .refl
  dsimp only
  refine .trans ?_ (SameTables.foldl orphans _ _).path
  split
  · exact .refl
  · exact (setConfirmedHeight_path state _ nHeightNew).trans (SameTables.foldl votes _ _).path

/-- The stored candidate, possibly with votes of the node's own masternode, signed just now. No
candidate listed for the outpoint of such a vote recorded one of this masternode. -/
structure Finalizes (params : LockParams) (before : CInstantSend) (signed : List CTxLockVote)
    (state : CInstantSend) (txHash : Uint256) (candidate finalized : CTxLockCandidate) : Prop where
  stored : state.mapTxLockCandidates.lookup txHash = some candidate
  evolves : candidate.Evolves finalized
  attacked : ∀ outpoint, finalized.Attacked outpoint → candidate.Attacked outpoint
  votes : ∀ outpoint masternode,
    finalized.voteOf outpoint masternode = candidate.voteOf outpoint masternode ∨
      candidate.voteOf outpoint masternode = none ∧ ∃ vote ∈ signed,
        finalized.voteOf outpoint masternode = some vote ∧ vote.outpoint = outpoint ∧
          vote.outpointMasternode = masternode
  own : ∃ masternode, ∀ vote ∈ signed, vote.outpointMasternode = masternode ∧
    vote.txHash = candidate.txLockRequest.getHash params ∧
    state.mapTxLockCandidates = before.mapTxLockCandidates ∧
    ∀ hash ∈ before.votedFor vote.outpoint, ∃ other,
      state.mapTxLockCandidates.lookup hash = some other ∧
        other.voteOf vote.outpoint masternode = none

theorem finalizes_stored (found : state.mapTxLockCandidates.lookup txHash = some candidate) :
    Finalizes params before [] state txHash candidate candidate where
  stored := found
  evolves := .refl candidate
  attacked _ marked := marked
  votes _ _ := .inl rfl
  own := ⟨⟨0, 0⟩, fun vote member => by cases member⟩

section

variable (finalizes : Finalizes params before signed state txHash candidate finalized)
  (coherent : Coherent params state) (ready : finalized.isAllOutPointsReady = true)
include finalizes coherent ready

theorem Finalizes.getHash :
    finalized.txLockRequest.getHash params = txHash := by
  obtain ⟨⟨outpoint, tracked⟩, _⟩ := CTxLockCandidate.isAllOutPointsReady_spec ready
  have sound := coherent.sound txHash candidate finalizes.stored
  rw [finalizes.evolves.request]
  exact sound.getHash_of_tracks ((finalizes.evolves.tracks outpoint).mp tracked)

theorem Finalizes.found :
    state.mapTxLockCandidates.lookup (finalized.txLockRequest.getHash params) = some candidate := by
  rw [finalizes.getHash coherent ready]
  exact finalizes.stored

end

theorem OwnVotes.finalizes {copy : CTxLockCandidate}
    (found : state.mapTxLockCandidates.lookup txHash = some candidate)
    (effect : OwnVotes params ctx (candidate.txLockRequest.getHash params) outpoints state candidate
      next copy signed) : Finalizes params state signed next txHash candidate copy where
  stored := by
    rw [effect.candidates]
    exact found
  evolves := effect.evolves
  attacked := effect.attacked
  votes := effect.votes
  own := by
    refine ⟨ctx.activeMasternode, fun vote member => ?_⟩
    obtain ⟨hash, masternode, unvoted⟩ := effect.fresh vote member
    refine ⟨masternode, hash, effect.candidates, ?_⟩
    rw [effect.candidates]
    exact alreadyVoted_none_recorded unvoted

end CInstantSend

variable (params : LockParams) {ctx : LockContext} {state : CInstantSend}

namespace InstantSendNode

open CInstantSend

/-- What an event hands to `TryToFinalizeLockCandidate`, if it gets there. -/
def prepared (node : InstantSendNode) :
    LockEvent → Option (LockContext × CInstantSend × CTxLockCandidate)
  | .lockRequest ctx tx =>
    (node.tables.receiveTxLockRequest params ctx tx).2.map fun finalized =>
      (ctx, (node.tables.receiveTxLockRequest params ctx tx).1, finalized)
  | .lockVote ctx vote =>
    (node.tables.receiveMessage params ctx vote).2.map fun finalized =>
      (ctx, (node.tables.receiveMessage params ctx vote).1, finalized)
  | .mempoolAccepted ctx tx =>
    if node.tables.alreadyHave (params.hashTx tx) then none
    else
      ((node.tables.acceptLockRequest params tx).voteByHash params ctx (params.hashTx tx)).bind
        fun result => result.2.1.map fun finalized => (ctx, result.1, finalized)
  | _ => none

def EventAllowed (voteOk : CTxLockCandidate → CTxLockVote → Prop)
    (expiryOk : CInstantSend → Prop) (node : InstantSendNode) (event : LockEvent) : Prop :=
  (∀ ctx state finalized, node.prepared params event = some (ctx, state, finalized) →
    ConflictAllowed params expiryOk ctx state finalized) ∧
  match event with
  | .lockRequest ctx tx =>
    OrphansCountable params voteOk ctx (node.tables.createTxLockCandidate params ctx tx).1
  | .lockVote ctx vote => (received ctx vote).isValid params ctx = true →
      Countable params voteOk ctx node.tables (received ctx vote)
  | .checkAndRemove ctx => ctx.masternodeListSynced = true → expiryOk node.tables
  | _ => True

variable {params : LockParams} {voteOk : CTxLockCandidate → CTxLockVote → Prop}
  {expiryOk : CInstantSend → Prop} {node : InstantSendNode}

theorem acceptLockRequest_coherent {tables : CInstantSend} (coherent : Coherent params tables)
    (tx : CTransaction) : Coherent params (tables.acceptLockRequest params tx) :=
  ⟨coherent.sound, coherent.locked⟩

section

variable (params voteOk expiryOk node)

/-- An event follows a path, to its end or to the tables in which it finalizes a candidate. -/
structure EventSpec (event : LockEvent) (after : InstantSendNode) : Prop where
  idle : node.prepared params event = none →
    TablePath params voteOk expiryOk node.tables after.tables
  finalizing : ∀ ctx state finalized, node.prepared params event = some (ctx, state, finalized) →
    TablePath params voteOk expiryOk node.tables state ∧
      after.tables = state.tryToFinalizeLockCandidate params ctx finalized ∧
      ∃ txHash candidate signed,
        Finalizes params node.tables signed state txHash candidate finalized ∧
        after.signed = node.signed ++ signed

end

variable {event : LockEvent}

theorem eventSpec_path (none : node.prepared params event = none)
    (path : TablePath params voteOk expiryOk node.tables after.tables) :
    EventSpec params voteOk expiryOk node event after :=
  ⟨fun _ => path, by simp [none]⟩

theorem eventSpec_received {result : CInstantSend × Option CTxLockCandidate}
    (same : node.prepared params event = result.2.map fun finalized => (ctx, result.1, finalized))
    (path : TablePath params voteOk expiryOk node.tables result.1)
    (stored : ∀ finalized, result.2 = some finalized → result.1.mapTxLockCandidates.lookup txHash =
      some finalized)
    (tables : after.tables = finalize params ctx result) (signed : after.signed = node.signed) :
    EventSpec params voteOk expiryOk node event after := by
  rcases result with ⟨state, _ | finalized⟩
  · exact eventSpec_path same (tables ▸ path)
  · refine ⟨by simp [same], ?_⟩
    intro other next candidate result
    rw [same] at result
    cases result
    exact ⟨path, tables, txHash, finalized, [], finalizes_stored (stored finalized rfl),
      by rw [signed, List.append_nil]⟩

theorem mempoolAccepted_spec (coherent : Coherent params node.tables) :
    EventSpec params voteOk expiryOk node (.mempoolAccepted ctx tx)
      (node.mempoolAccepted params ctx tx) := by
  have accepted : TablePath params voteOk expiryOk node.tables
      (node.tables.acceptLockRequest params tx) := frame_path rfl rfl rfl
  unfold mempoolAccepted
  split
  · rename_i known
    exact eventSpec_path (by rw [prepared, if_pos known]) .refl
  rename_i unknown
  split
  · rename_i undefined
    exact eventSpec_path (by rw [prepared, if_neg unknown, undefined]; rfl) .refl
  · rename_i next finalized signed voted
    have same : node.prepared params (.mempoolAccepted ctx tx) =
        finalized.map fun finalized => (ctx, next, finalized) := by
      rw [prepared, if_neg unknown, voted]
      rfl
    rcases voteByHash_spec (acceptLockRequest_coherent coherent tx) voted with
      ⟨rfl, rfl, rfl⟩ | ⟨candidate, copy, found, rfl, effect, path⟩
    · exact eventSpec_path same accepted
    · refine ⟨by simp [same], ?_⟩
      intro _ _ _ result
      rw [same] at result
      cases result
      have own := effect.finalizes found
      refine ⟨accepted.trans path, rfl, params.hashTx tx, candidate, signed, ?_, rfl⟩
      exact { own with }

theorem event_spec (stable : ∀ candidate changed vote,
      CTxLockCandidate.Evolves candidate changed → voteOk candidate vote → voteOk changed vote)
    (defined : node.undefined = false) (coherent : Coherent params node.tables)
    (event : LockEvent) (allowed : EventAllowed params voteOk expiryOk node event) :
    EventSpec params voteOk expiryOk node event (node.event params event) := by
  unfold InstantSendNode.event
  rw [if_neg (by rw [defined]; exact Bool.false_ne_true)]
  cases event with
  | lockRequest ctx tx =>
    exact eventSpec_received rfl (receiveTxLockRequest_path stable allowed.2)
      (fun _ => receiveTxLockRequest_stored) rfl rfl
  | mempoolAccepted ctx tx => exact mempoolAccepted_spec coherent
  | walletAccepted tx => exact eventSpec_path rfl (frame_path rfl rfl rfl)
  | rejected tx => exact eventSpec_path rfl (frame_path rfl rfl rfl)
  | lockVote ctx vote =>
    exact eventSpec_received rfl (receiveMessage_path allowed.2)
      (fun _ => receiveMessage_stored) rfl rfl
  | syncTransaction ctx tx nHeightNew => exact eventSpec_path rfl syncTransaction_path
  | updatedBlockTip nHeight => exact eventSpec_path rfl (frame_path rfl rfl rfl)
  | checkAndRemove ctx => exact eventSpec_path rfl (checkAndRemove_path allowed.2)

theorem event_of_undefined (undefined : node.undefined = true) :
    node.event params event = node := by
  unfold InstantSendNode.event
  rw [if_pos undefined]

theorem event_keeps {good : CInstantSend → Prop}
    (stable : ∀ candidate changed vote, CTxLockCandidate.Evolves candidate changed → voteOk
      candidate vote → voteOk changed vote)
    (kept : ∀ state next, good state → TableStep params voteOk expiryOk state next → good next)
    (locked : ∀ ctx state txHash candidate signed finalized, Finalizes params node.tables signed
      state txHash candidate finalized → finalized.isAllOutPointsReady = true → good state → good
      (state.lockTransactionInputs params ctx finalized)) (coherent : Coherent params node.tables)
    (holds : good node.tables) (event : LockEvent)
    (allowed : EventAllowed params voteOk expiryOk node event) :
    good (node.event params event).tables := by
  cases defined : node.undefined with
  | true =>
    rw [event_of_undefined defined]
    exact holds
  | false =>
    have spec := event_spec stable defined coherent event allowed
    cases result : node.prepared params event with
    | none => exact (spec.idle result).keeps kept holds
    | some prepared =>
      obtain ⟨ctx, state, finalized⟩ := prepared
      obtain ⟨path, tables, txHash, candidate, signed, finalizes, _⟩ :=
        spec.finalizing ctx state finalized result
      have before := path.keeps kept holds
      rw [tables]
      rcases tryToFinalizeLockCandidate_cases (allowed.1 ctx state finalized result) with
        path | locks
      · exact path.keeps kept before
      · rw [locks.result]
        exact locked ctx state txHash candidate signed finalized finalizes locks.ready before

variable (node event)

theorem event_coherent (coherent : Coherent params node.tables) :
    Coherent params (node.event params event).tables := by
  have allowed : EventAllowed params (fun _ _ => True) (fun _ => True) node event := by
    refine ⟨fun _ _ _ _ _ _ _ => trivial, ?_⟩
    cases event with
    | lockRequest ctx tx => exact fun _ _ _ _ _ _ _ => trivial
    | lockVote ctx vote => exact fun _ _ _ _ _ => trivial
    | checkAndRemove ctx => exact fun _ => trivial
    | _ => exact trivial
  refine event_keeps (fun _ _ _ _ _ => trivial) (fun _ _ => coherent_step) ?_ coherent coherent
    event allowed
  intro ctx state txHash candidate signed finalized finalizes ready before
  exact coherent_lock before (finalizes.found before ready)
    fun outpoint => (finalizes.evolves.tracks outpoint).mp

end InstantSendNode

namespace CInstantSend

variable {params : LockParams} {expiryOk : CInstantSend → Prop} {state next : CInstantSend}
  {ctx : LockContext}

def OwnOutpoint (candidate : CTxLockCandidate) (vote : CTxLockVote) : Prop :=
  candidate.Tracks vote.outpoint

def Listed (state : CInstantSend) : Prop :=
  Anchored state.mapTxLockCandidates fun outpoint txHash => txHash ∈ state.votedFor outpoint

theorem votedFor_of_voted (same : next.mapVotedOutpoints = state.mapVotedOutpoints) :
    next.votedFor outpoint = state.votedFor outpoint := by
  rw [votedFor, votedFor, same]

theorem mem_votedFor_insert {other : COutPoint} {txHash hash : Uint256}
    (voted : next.mapVotedOutpoints =
      state.mapVotedOutpoints.insert outpoint (insertHash (state.votedFor outpoint) txHash)) :
    hash ∈ next.votedFor other ↔ other = outpoint ∧ hash = txHash ∨ hash ∈
      state.votedFor other := by
  rw [votedFor, voted, StdMap.lookup_insert_eq]
  split
  · rename_i same
    subst same
    rw [Option.getD_some, mem_insertHash]
    simp
  · rename_i different
    simp [different, votedFor]

theorem listed_vote (listed : Listed state)
    (found : state.mapTxLockCandidates.lookup vote.txHash = some candidate)
    (own : OwnOutpoint candidate vote) (effect : VoteEffect vote state next) : Listed next := by
  intro outpoint txHash member
  have grown := listed.grows effect.grows
  rcases (mem_votedFor_insert effect.voted).mp member with ⟨rfl, rfl⟩ | old
  · obtain ⟨changed, foundChanged, tracks⟩ := effect.grows _ _ found
    exact ⟨changed, foundChanged, tracks _ own⟩
  · exact grown outpoint txHash old

theorem listed_expire (listed : Listed state)
    (expires : Expires (Expired params state) state next) : Listed next := by
  refine listed.expires expires ?_
  intro outpoint txHash member
  have present : next.mapVotedOutpoints.lookup outpoint ≠ none := by
    intro erased
    rw [votedFor, erased] at member
    cases member
  have untracked := expires.kept_of_some (.inl present)
  rw [votedFor, (expires.kept outpoint untracked).1] at member
  exact ⟨member, untracked⟩

theorem listed_step (state next : CInstantSend) (listed : Listed state)
    (step : TableStep params OwnOutpoint expiryOk state next) : Listed next := by
  cases step with
  | frame candidates voted locked =>
    unfold Listed
    simp only [candidates, votedFor_of_voted voted]
    exact listed
  | create missing sound fresh => exact listed.grows (grows_create missing)
  | revise found sound revises => exact listed.grows (grows_revise found revises.tracks)
  | vote found isSet own => exact listed_vote listed found own (addCandidateVote_effect state _)
  | expire allowed => exact listed_expire listed (removeExpiredCandidates_expires params state)
  | ownVote found tracked =>
    intro outpoint txHash member
    rcases (mem_votedFor_insert rfl).mp member with ⟨rfl, rfl⟩ | old
    · exact ⟨_, found, tracked⟩
    · exact listed outpoint txHash old

theorem listed_lock (ctx : LockContext) (state : CInstantSend) (candidate : CTxLockCandidate)
    (listed : Listed state) : Listed (state.lockTransactionInputs params ctx candidate) := by
  unfold Listed
  simp only [lockTransactionInputs_candidates, votedFor_of_voted (lockTransactionInputs_voted)]
  exact listed

theorem alreadyVoted_defined {candidates : Candidates} {hashes : List Uint256}
    (stored : ∀ hash ∈ hashes, ∃ candidate, candidates.lookup hash = some candidate)
    {masternode : COutPoint} : alreadyVoted candidates outpoint masternode hashes ≠ none := by
  induction hashes with
  | nil => exact Option.some_ne_none _
  | cons head rest ih =>
    obtain ⟨⟨candidate, found⟩, storedRest⟩ := List.forall_mem_cons.mp stored
    unfold alreadyVoted
    rw [found]
    dsimp only
    split
    · exact Option.some_ne_none _
    · exact ih storedRest

theorem ownVote_defined (listed : ∀ outpoint, ∀ hash ∈
      state.votedFor outpoint, ∃ candidate, state.mapTxLockCandidates.lookup hash = some candidate)
    (txHash : Uint256) : state.ownVote params ctx txHash outpoint ≠ .undefined := by
  unfold ownVote
  split
  · exact nofun
  split
  · exact nofun
  split
  · exact nofun
  split
  · rename_i undefined
    exact absurd undefined (alreadyVoted_defined (listed outpoint))
  · exact nofun
  · split <;> exact nofun

theorem ownVotes_defined {stored : CTxLockCandidate}
    (found : state.mapTxLockCandidates.lookup txHash = some stored)
    (listed : ∀ outpoint, ∀ hash ∈ state.votedFor outpoint,
      ∃ candidate, state.mapTxLockCandidates.lookup hash = some candidate)
    (candidate : CTxLockCandidate) (signed : List CTxLockVote) :
    ownVotes params ctx txHash state candidate signed outpoints ≠ none := by
  induction outpoints generalizing state candidate signed with
  | nil => exact Option.some_ne_none _
  | cons outpoint rest ih =>
    unfold ownVotes
    split
    · exact Option.some_ne_none _
    · exact ih found listed candidate signed
    · rename_i undefined
      exact absurd undefined (ownVote_defined listed txHash)
    · exact Option.some_ne_none _
    · rename_i vote signature
      have stores : StoresOwnVote vote state candidate
          (state.storeOwnVote params candidate vote).1 _ := storeOwnVote_spec state candidate
      have foundNext := found
      rw [← stores.candidates] at foundNext
      have listedNext : ∀ other, ∀ hash ∈ (state.storeOwnVote params candidate vote).1.votedFor
          other, ∃ candidate, state.mapTxLockCandidates.lookup hash = some candidate := by
        intro other hash member
        rcases stores.listed other hash member with rfl | old
        · rw [(ownVote_signed signature).1]
          exact ⟨stored, found⟩
        · exact listed other hash old
      rw [← stores.candidates] at listedNext
      exact ih foundNext listedNext _ _

theorem voteByHash_defined (coherent : Coherent params state) (listed : Listed state)
    {txHash : Uint256} : state.voteByHash params ctx txHash ≠ none := by
  have stored : ∀ outpoint, ∀ hash ∈ state.votedFor outpoint,
      ∃ candidate, state.mapTxLockCandidates.lookup hash = some candidate := by
    intro outpoint hash member
    obtain ⟨candidate, found, _⟩ := listed outpoint hash member
    exact ⟨candidate, found⟩
  unfold voteByHash
  split
  · exact Option.some_ne_none _
  · rename_i candidate found
    split
    · rename_i undefined
      unfold voteCandidate at undefined
      dsimp only at undefined
      split_ifs at undefined
      cases keys : StdMap.sortedKeys COutPoint.less candidate.mapOutPointLocks with
      | nil => simp [keys, ownVotes] at undefined
      | cons outpoint rest =>
        have tracked : candidate.Tracks outpoint :=
          StdMap.mem_sortedKeys.mp (by rw [keys]; exact List.mem_cons_self)
        have hash := (coherent.sound txHash candidate found).getHash_of_tracks tracked
        rw [hash] at undefined
        exact absurd undefined (ownVotes_defined found stored _ _)
    · exact Option.some_ne_none _

/-- No table of outpoints names a transaction without a candidate. -/
def Consistent (state : CInstantSend) : Prop :=
  ∀ outpoint txHash,
    txHash ∈ state.votedFor outpoint ∨ state.mapLockedOutpoints.lookup outpoint = some txHash →
    ∃ candidate, state.mapTxLockCandidates.lookup txHash = some candidate

end CInstantSend

namespace InstantSendNode

open CInstantSend

variable {params : LockParams} {node : InstantSendNode}

section

variable (params node)

def VotesFit : LockEvent → Prop
  | .lockRequest ctx tx =>
    OrphansCountable params OwnOutpoint ctx (node.tables.createTxLockCandidate params ctx tx).1
  | .lockVote ctx vote => (received ctx vote).isValid params ctx = true →
      Countable params OwnOutpoint ctx node.tables (received ctx vote)
  | _ => True

structure Intact : Prop where
  coherent : Coherent params node.tables
  listed : Listed node.tables
  defined : node.undefined = false

end

theorem VotesFit.allowed {event : LockEvent} (fit : VotesFit params node event) :
    EventAllowed params OwnOutpoint (fun _ => True) node event := by
  refine ⟨fun _ _ _ _ _ _ _ => trivial, ?_⟩
  cases event with
  | lockRequest ctx tx => exact fit
  | lockVote ctx vote => exact fit
  | checkAndRemove ctx => exact fun _ => trivial
  | _ => exact trivial

theorem mempoolAccepted_defined (intact : Intact params node) :
    (node.mempoolAccepted params ctx tx).undefined = false := by
  unfold mempoolAccepted
  split
  · exact intact.defined
  · have coherent := acceptLockRequest_coherent intact.coherent tx
    have listed : Listed (node.tables.acceptLockRequest params tx) := intact.listed
    split
    · rename_i undefined
      exact absurd undefined (voteByHash_defined coherent listed)
    · exact intact.defined

theorem event_defined (intact : Intact params node) {event : LockEvent} :
    (node.event params event).undefined = false := by
  unfold InstantSendNode.event
  split
  · exact intact.defined
  · cases event with
    | mempoolAccepted ctx tx => exact mempoolAccepted_defined intact
    | _ => exact intact.defined

theorem event_intact (node : InstantSendNode) (event : LockEvent)
    (intact : Intact params node) (fit : VotesFit params node event) :
    Intact params (node.event params event) :=
  ⟨event_coherent node event intact.coherent,
    event_keeps (fun _ _ vote evolves => (evolves.tracks vote.outpoint).mpr) listed_step
      (fun ctx state _ _ _ finalized _ _ => listed_lock ctx state finalized) intact.coherent
      intact.listed event fit.allowed,
    event_defined intact⟩

theorem initial_intact : Intact params initial where
  coherent := empty_coherent
  listed outpoint txHash member := by cases member
  defined := rfl

theorem tables_consistent (params : LockParams) (events : List LockEvent)
    (fit : Run.Permitted (event params) (VotesFit params) initial events) :
    Consistent (Run.run (event params) initial events).tables ∧
      (Run.run (event params) initial events).undefined = false := by
  have intact : Intact params (Run.run (event params) initial events) :=
    Run.invariant event_intact initial_intact fit
  refine ⟨?_, intact.defined⟩
  rintro outpoint txHash (listed | locked)
  · obtain ⟨candidate, found, _⟩ := intact.listed outpoint txHash listed
    exact ⟨candidate, found⟩
  · obtain ⟨candidate, found, _⟩ := intact.coherent.locked outpoint txHash locked
    exact ⟨candidate, found⟩

end InstantSendNode

theorem createTxLockCandidate_orphans :
    (state.createTxLockCandidate params ctx tx).1.mapTxLockVotesOrphan =
      state.mapTxLockVotesOrphan := by
  unfold CInstantSend.createTxLockCandidate
  dsimp only
  split
  · rfl
  split
  · rfl
  split
  · rfl
  split <;> rfl

theorem countable_of_tracked {params : LockParams}
    (checked : (state.mapTxLockCandidates.lookup vote.txHash).all (fun candidate =>
      (candidate.mapOutPointLocks.lookup vote.outpoint).isSome) = true) :
    CInstantSend.Countable params CInstantSend.OwnOutpoint ctx state vote := by
  intro candidate found _ _
  rw [found, Option.all_some] at checked
  exact Option.isSome_iff_exists.mp checked

def sampleLockParams : LockParams where
  hashTx tx := BitVec.ofNat 256 (tx.nLockTime.toNat + 1)
  hash bytes := bytes.foldl (fun acc byte => acc * 257 + BitVec.ofNat 256 byte.toNat) 1
  verifyHash _ pubKey vchSig := vchSig = pubKey
  nInstantSendConfirmationsRequired := 6
  nInstantSendKeepLock := 24

def sampleLockContext : LockContext where
  fLiteMode := false
  fMasternodeMode := true
  fEnableInstantSend := true
  fLargeWorkFound := false
  masternodeListSynced := true
  peerVersion := 70221
  isSporkActive _ := true
  maxValue := 15000
  time := 1000
  adjustedTime := 1000
  chainHeight := 100
  getUTXOCoin outpoint := if outpoint.hash = 99 then some ⟨⟨2 * COIN, []⟩, false, 10⟩ else none
  mapNextTx _ := none
  includedInBlock _ := false
  getMasternodeInfo outpoint :=
    if outpoint.hash = 50 ∧ outpoint.n < 20 then some [UInt8.ofNat outpoint.n.toNat] else none
  getMasternodeRank _ _ _ := some 1
  activeMasternode := ⟨50, 0⟩
  pubKeyMasternode := [0]
  signHash _ := some [0]

def sampleLockTx (number : UInt32) (inputs : List UInt32) : CTransaction where
  nVersion := 2
  vin := inputs.map fun n => ⟨⟨99, n⟩, [], SEQUENCE_FINAL⟩
  vout := [⟨COIN, []⟩]
  nLockTime := number

def sampleLockVote (tx : CTransaction) (input masternode : UInt32) : CTxLockVote :=
  ⟨sampleLockParams.hashTx tx, ⟨99, input⟩, ⟨50, masternode⟩, [UInt8.ofNat masternode.toNat], -1, 0⟩

theorem tables_consistent_sample :
    CInstantSend.Consistent (Run.run (InstantSendNode.event sampleLockParams) .initial
        [.lockRequest sampleLockContext (sampleLockTx 1 [1]),
          .lockVote sampleLockContext (sampleLockVote (sampleLockTx 1 [1]) 1 3)]).tables ∧
      (Run.run (InstantSendNode.event sampleLockParams) .initial
        [.lockRequest sampleLockContext (sampleLockTx 1 [1]), .lockVote sampleLockContext
            (sampleLockVote (sampleLockTx 1 [1]) 1 3)]).undefined = false := by
  refine InstantSendNode.tables_consistent sampleLockParams _ ⟨?_, ?_, trivial⟩
  · intro voteHash vote found
    rw [createTxLockCandidate_orphans] at found
    cases found
  · intro _
    exact countable_of_tracked (by decide)

theorem foreignVote_undefined : (Run.run (InstantSendNode.event sampleLockParams) .initial
      [.lockRequest sampleLockContext (sampleLockTx 1 [1]),
        .lockVote sampleLockContext (sampleLockVote (sampleLockTx 1 [1]) 2 3),
        .syncTransaction sampleLockContext (sampleLockTx 1 [1]) 101, .updatedBlockTip 126,
        .checkAndRemove sampleLockContext, .lockRequest sampleLockContext (sampleLockTx 2 [2]),
        .mempoolAccepted sampleLockContext (sampleLockTx 2 [2])]).undefined = true := by
  decide +kernel

end Minerium
