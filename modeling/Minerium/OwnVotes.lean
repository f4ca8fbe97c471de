import Minerium.LockEvents

/-! The votes of the node's own masternode, which the stored candidate never records. -/

namespace Minerium

open List StdMap

variable {outpoint : COutPoint} {rest outpoints : List COutPoint} {vote : CTxLockVote}
  {signed earlier : List CTxLockVote} {stored : CTxLockCandidate}

namespace CInstantSend

variable {params : LockParams} {voteOk : CTxLockCandidate → CTxLockVote → Prop}
  {expiryOk : CInstantSend → Prop} {state next : CInstantSend} {ctx : LockContext}
  {txHash : Uint256} {candidate copy : CTxLockCandidate}

theorem sign_spec {signed : CTxLockVote} (result : vote.sign params ctx = some signed) :
    signed.txHash = vote.txHash ∧ signed.outpoint = vote.outpoint ∧
      signed.outpointMasternode = vote.outpointMasternode := by
  unfold CTxLockVote.sign at result
  split at result
  · split at result
    · cases result
    · split at result
      · cases result
        exact ⟨rfl, rfl, rfl⟩
      · cases result
  · cases result
    exact ⟨rfl, rfl, rfl⟩

/-- No candidate listed for the outpoint has a vote of the node's masternode. -/
def Unvoted (ctx : LockContext) (state : CInstantSend) (outpoint : COutPoint) : Prop :=
  alreadyVoted state.mapTxLockCandidates outpoint ctx.activeMasternode (state.votedFor outpoint) =
    some false

theorem ownVote_signed {checked : Bool}
    (result : state.ownVote params ctx txHash outpoint = .signed vote checked) :
    vote.txHash = txHash ∧ vote.outpoint = outpoint ∧
      vote.outpointMasternode = ctx.activeMasternode ∧ Unvoted ctx state outpoint := by
  unfold ownVote at result
  split at result
  · cases result
  split at result
  · cases result
  split at result
  · cases result
  split at result
  · cases result
  · cases result
  · rename_i unvoted
    split at result
    · cases result
    · rename_i signed signature
      cases result
      obtain ⟨hash, place, masternode⟩ := sign_spec signature
      exact ⟨hash, place, masternode, unvoted⟩

theorem alreadyVoted_none_recorded {candidates : Candidates} {masternode : COutPoint}
    {hashes : List Uint256}
    (unvoted : alreadyVoted candidates outpoint masternode hashes = some false) :
    ∀ hash ∈ hashes, ∃ candidate, candidates.lookup hash = some candidate ∧
      candidate.voteOf outpoint masternode = none := by
  induction hashes with
  | nil =>
    intro hash member
    cases member
  | cons head rest ih =>
    unfold alreadyVoted at unvoted
    split at unvoted
    · cases unvoted
    · rename_i candidate found
      split at unvoted
      · cases unvoted
      · rename_i none
        intro hash member
        rcases mem_cons.mp member with rfl | later
        · refine ⟨candidate, found, ?_⟩
          rw [CTxLockCandidate.hasMasternodeVoted_iff, not_exists] at none
          exact Option.eq_none_iff_forall_ne_some.mpr none
        · exact ih unvoted hash later

/-- The copy may get votes of the own masternode, each of them newly signed. -/
structure OwnVotes (params : LockParams) (ctx : LockContext) (txHash : Uint256)
    (outpoints : List COutPoint) (state : CInstantSend) (candidate : CTxLockCandidate)
    (next : CInstantSend) (copy : CTxLockCandidate) (signed : List CTxLockVote) : Prop where
  candidates : next.mapTxLockCandidates = state.mapTxLockCandidates
  evolves : candidate.Evolves copy
  attacked : ∀ outpoint, copy.Attacked outpoint → candidate.Attacked outpoint
  votes : ∀ outpoint masternode,
    copy.voteOf outpoint masternode = candidate.voteOf outpoint masternode ∨
      candidate.voteOf outpoint masternode = none ∧ ∃ vote ∈ signed,
        copy.voteOf outpoint masternode = some vote ∧ vote.outpoint = outpoint ∧
          vote.outpointMasternode = masternode
  places : (signed.map (·.outpoint)).Sublist outpoints
  fresh : ∀ vote ∈ signed, vote.txHash = txHash ∧
    vote.outpointMasternode = ctx.activeMasternode ∧ Unvoted ctx state vote.outpoint

theorem OwnVotes.nothing (outpoints : List COutPoint) (state : CInstantSend) :
    OwnVotes params ctx txHash outpoints state candidate state candidate [] where
  candidates := rfl
  evolves := .refl candidate
  attacked _ marked := marked
  votes _ _ := .inl rfl
  places := nil_sublist outpoints
  fresh vote member := by cases member

structure StoresOwnVote (vote : CTxLockVote) (state : CInstantSend)
    (candidate : CTxLockCandidate) (next : CInstantSend) (copy : CTxLockCandidate) : Prop where
  candidates : next.mapTxLockCandidates = state.mapTxLockCandidates
  voted : ∀ outpoint, outpoint ≠ vote.outpoint → next.votedFor outpoint = state.votedFor outpoint
  listed : ∀ outpoint, ∀ hash ∈ next.votedFor outpoint,
    hash = vote.txHash ∨ hash ∈ state.votedFor outpoint
  evolves : candidate.Evolves copy
  attacked : ∀ outpoint, copy.Attacked outpoint → candidate.Attacked outpoint
  votes : ∀ outpoint masternode,
    copy.voteOf outpoint masternode = candidate.voteOf outpoint masternode ∨
      candidate.voteOf outpoint masternode = none ∧ copy.voteOf outpoint masternode = some vote ∧
        vote.outpoint = outpoint ∧ vote.outpointMasternode = masternode

theorem storeOwnVote_spec (state : CInstantSend) (candidate : CTxLockCandidate) :
    StoresOwnVote vote state candidate (state.storeOwnVote params candidate vote).1
      (state.storeOwnVote params candidate vote).2 := by
  unfold storeOwnVote
  dsimp only
  split
  · exact ⟨rfl, fun _ _ => rfl, fun _ _ => .inr, .refl candidate, fun _ marked => marked,
      fun _ _ => .inl rfl⟩
  · rename_i copy added
    have adds := CTxLockCandidate.addVote_spec added
    refine ⟨rfl, ?_, ?_, adds.evolves, adds.attacked, ?_⟩
    · intro outpoint different
      simp only [votedFor]
      rw [lookup_insert_eq, if_neg different]
    · intro outpoint hash member
      simp only [votedFor] at member
      rw [lookup_insert_eq] at member
      split at member
      · rename_i same
        subst same
        exact mem_insertHash.mp member
      · exact .inr member
    · intro outpoint masternode
      rw [adds.voteOf]
      split
      · rename_i here
        refine .inr ⟨?_, rfl, here.1.symm, here.2.symm⟩
        rw [here.1, here.2]
        exact adds.first
      · exact .inl rfl

theorem storeOwnVote_path (found : state.mapTxLockCandidates.lookup vote.txHash = some stored)
    (tracked : stored.Tracks vote.outpoint) :
    TablePath params voteOk expiryOk state (state.storeOwnVote params candidate vote).1 := by
  unfold storeOwnVote
  dsimp only
  split
  · exact frame_path rfl rfl rfl
  · let noted := { state with
      mapTxLockVotes := insertNew state.mapTxLockVotes (vote.getHash params) vote }
    have listed : TableStep params voteOk expiryOk noted _ := .ownVote found tracked
    have first : TablePath params voteOk expiryOk state noted := frame_path rfl rfl rfl
    exact first.tail listed

theorem OwnVotes.cons {middle : CInstantSend}
    {voted : CTxLockCandidate} (distinct : (vote.outpoint :: rest).Nodup)
    (signature : vote.txHash = txHash ∧ vote.outpointMasternode = ctx.activeMasternode ∧ Unvoted ctx
      state vote.outpoint) (stores : StoresOwnVote vote state candidate middle voted)
    (later : OwnVotes params ctx txHash rest middle voted next copy signed) :
    OwnVotes params ctx txHash (vote.outpoint :: rest) state candidate next copy
      (vote :: signed) where
  candidates := later.candidates.trans stores.candidates
  evolves := stores.evolves.trans later.evolves
  attacked outpoint marked := stores.attacked outpoint (later.attacked outpoint marked)
  votes outpoint masternode := by
    rcases later.votes outpoint masternode with same | ⟨none, other, member, new⟩
    · rcases stores.votes outpoint masternode with kept | ⟨none, new, place⟩
      · exact .inl (same.trans kept)
      · exact .inr ⟨none, vote, mem_cons_self, same.trans new, place⟩
    · rcases stores.votes outpoint masternode with kept | ⟨_, new, _⟩
      · exact .inr ⟨kept.symm.trans none, other, mem_cons_of_mem vote member, new⟩
      · rw [none] at new
        cases new
  places := later.places.cons_cons vote.outpoint
  fresh other member := by
    rcases mem_cons.mp member with rfl | member
    · exact signature
    · obtain ⟨hash, masternode, unvoted⟩ := later.fresh other member
      refine ⟨hash, masternode, ?_⟩
      have elsewhere : other.outpoint ≠ vote.outpoint := by
        intro same
        have listed := later.places.subset (mem_map_of_mem member)
        exact (nodup_cons.mp distinct).1 (same ▸ listed)
      rw [Unvoted, stores.candidates, stores.voted _ elsewhere] at unvoted
      exact unvoted

theorem OwnVotes.skip (later : OwnVotes params ctx txHash rest state candidate next copy signed) :
    OwnVotes params ctx txHash (outpoint :: rest) state candidate next copy signed :=
  { later with places := later.places.trans (sublist_cons_self outpoint rest) }

theorem ownVotes_spec (distinct : outpoints.Nodup)
    (result : ownVotes params ctx txHash state candidate earlier outpoints =
      some (next, copy, signed)) : ∃ new, signed = earlier ++ new ∧
      OwnVotes params ctx txHash outpoints state candidate next copy new := by
  induction outpoints generalizing state candidate earlier with
  | nil =>
    unfold ownVotes at result
    cases result
    exact ⟨[], (append_nil _).symm, .nothing _ _⟩
  | cons outpoint rest ih =>
    have distinctRest := (nodup_cons.mp distinct).2
    unfold ownVotes at result
    split at result
    · cases result
      exact ⟨[], (append_nil _).symm, .nothing _ _⟩
    · obtain ⟨new, same, later⟩ := ih distinctRest result
      exact ⟨new, same, later.skip⟩
    · cases result
    · rename_i vote signature
      cases result
      obtain ⟨hash, rfl, masternode, unvoted⟩ := ownVote_signed signature
      refine ⟨[vote], rfl, ⟨rfl, .refl _, fun _ marked => marked, fun _ _ => .inl rfl, ?_, ?_⟩⟩
      · exact (nil_sublist rest).cons_cons vote.outpoint
      · intro other member
        cases mem_singleton.mp member
        exact ⟨hash, masternode, unvoted⟩
    · rename_i vote signature
      obtain ⟨hash, rfl, masternode, unvoted⟩ := ownVote_signed signature
      obtain ⟨new, same, later⟩ := ih distinctRest result
      refine ⟨vote :: new, by rw [same, append_assoc]; rfl, ?_⟩
      exact .cons distinct ⟨hash, masternode, unvoted⟩ (storeOwnVote_spec _ _) later

theorem ownVotes_path (found : state.mapTxLockCandidates.lookup txHash = some stored)
    (tracked : ∀ outpoint ∈ outpoints, stored.Tracks outpoint)
    (result : ownVotes params ctx txHash state candidate earlier outpoints =
      some (next, copy, signed)) : TablePath params voteOk expiryOk state next := by
  induction outpoints generalizing state candidate earlier with
  | nil =>
    unfold ownVotes at result
    cases result
    exact .refl
  | cons outpoint rest ih =>
    obtain ⟨trackedFirst, trackedRest⟩ := forall_mem_cons.mp tracked
    unfold ownVotes at result
    split at result
    · cases result
      exact .refl
    · exact ih found trackedRest result
    · cases result
    · cases result
      exact .refl
    · rename_i vote signature
      obtain ⟨hash, place, _⟩ := ownVote_signed signature
      have first : TablePath params voteOk expiryOk state
          (state.storeOwnVote params candidate vote).1 :=
        storeOwnVote_path (hash.symm ▸ found) (place.symm ▸ trackedFirst)
      refine first.trans (ih ?_ trackedRest result)
      rw [(storeOwnVote_spec state candidate).candidates]
      exact found

theorem Sound.getHash_of_tracks (sound : Sound params txHash candidate)
    (tracked : candidate.Tracks outpoint) : candidate.txLockRequest.getHash params = txHash := by
  cases request : candidate.txLockRequest with
  | none => exact absurd tracked (sound.empty request outpoint)
  | some tx => exact sound.request tx request

theorem voteCandidate_spec (sound : Sound params txHash candidate)
    (found : state.mapTxLockCandidates.lookup txHash = some candidate)
    (result : state.voteCandidate params ctx candidate = some (next, copy, signed)) :
    OwnVotes params ctx (candidate.txLockRequest.getHash params)
        (sortedKeys COutPoint.less candidate.mapOutPointLocks) state candidate next copy
        signed ∧
      TablePath params voteOk expiryOk state next := by
  unfold voteCandidate at result
  dsimp only at result
  split at result
  · cases result
    exact ⟨.nothing _ _, .refl⟩
  split at result
  · cases result
    exact ⟨.nothing _ _, .refl⟩
  split at result
  · cases result
    exact ⟨.nothing _ _, .refl⟩
  have tracked : ∀ outpoint ∈ sortedKeys COutPoint.less candidate.mapOutPointLocks,
      candidate.Tracks outpoint := fun _ => mem_sortedKeys.mp
  obtain ⟨new, same, effect⟩ := ownVotes_spec nodup_sortedKeys result
  rw [nil_append] at same
  subst same
  refine ⟨effect, ?_⟩
  cases keys : sortedKeys COutPoint.less candidate.mapOutPointLocks with
  | nil =>
    rw [keys] at result
    cases result
    exact .refl
  | cons outpoint rest =>
    refine ownVotes_path ?_ tracked result
    rw [sound.getHash_of_tracks (tracked outpoint (by rw [keys]; exact mem_cons_self))]
    exact found

theorem voteByHash_spec {finalized : Option CTxLockCandidate} (coherent : Coherent params state)
    (result : state.voteByHash params ctx txHash = some (next, finalized, signed)) :
    (next = state ∧ finalized = none ∧ signed = []) ∨
      ∃ candidate copy, state.mapTxLockCandidates.lookup txHash = some candidate ∧
        finalized = some copy ∧
        OwnVotes params ctx (candidate.txLockRequest.getHash params)
          (sortedKeys COutPoint.less candidate.mapOutPointLocks) state candidate next copy
          signed ∧
        TablePath params voteOk expiryOk state next := by
  unfold voteByHash at result
  split at result
  · cases result
    exact .inl ⟨rfl, rfl, rfl⟩
  · rename_i candidate found
    split at result
    · cases result
    · rename_i voted
      cases result
      obtain ⟨effect, path⟩ := voteCandidate_spec (coherent.sound txHash candidate found) found
        voted
      exact .inr ⟨candidate, _, found, rfl, effect, path⟩

end CInstantSend

end Minerium
