import Minerium.InstantSendCore

/-! What a lock candidate shows: the outpoints it tracks, the votes on them, and which are marked as
attacked. -/

namespace Minerium

open COutPointLock

variable {outpoint other : COutPoint}

theorem COutPointLock.addVote_spec {lock voted : COutPointLock} {vote : CTxLockVote}
    (added : lock.addVote vote = some voted) :
    lock.mapMasternodeVotes.lookup vote.outpointMasternode = none ∧
      voted.fAttacked = lock.fAttacked ∧
      ∀ masternode, voted.mapMasternodeVotes.lookup masternode =
        if masternode = vote.outpointMasternode then some vote
        else lock.mapMasternodeVotes.lookup masternode := by
  unfold addVote at added
  split at added
  · cases added
  · rename_i fresh
    cases added
    exact ⟨fresh, rfl, fun masternode => StdMap.lookup_insert_eq _ _ _ _⟩

namespace CTxLockCandidate

variable (candidate : CTxLockCandidate)

def Tracks (outpoint : COutPoint) : Prop :=
  ∃ lock, candidate.mapOutPointLocks.lookup outpoint = some lock

def voteOf (outpoint masternode : COutPoint) : Option CTxLockVote :=
  (candidate.mapOutPointLocks.lookup outpoint).bind (·.mapMasternodeVotes.lookup masternode)

def Attacked (outpoint : COutPoint) : Prop :=
  ∃ lock, candidate.mapOutPointLocks.lookup outpoint = some lock ∧ lock.fAttacked = true

variable {candidate changed : CTxLockCandidate} {vote : CTxLockVote} {masternode : COutPoint}

theorem mem_keys_iff : outpoint ∈ candidate.mapOutPointLocks.keys ↔ candidate.Tracks outpoint := by
  rw [← AList.mem_keys, ← AList.lookup_isSome, Option.isSome_iff_exists]
  rfl

theorem hasMasternodeVoted_iff : candidate.hasMasternodeVoted outpoint masternode = true ↔
      ∃ vote, candidate.voteOf outpoint masternode = some vote := by
  unfold hasMasternodeVoted voteOf COutPointLock.hasMasternodeVoted
  cases candidate.mapOutPointLocks.lookup outpoint with
  | none => simp
  | some lock => simp [Option.isSome_iff_exists]

theorem tracks_of_voteOf
    (found : candidate.voteOf outpoint masternode = some vote) : candidate.Tracks outpoint := by
  unfold voteOf at found
  obtain ⟨lock, foundLock, _⟩ := Option.bind_eq_some_iff.mp found
  exact ⟨lock, foundLock⟩

structure Evolves (candidate changed : CTxLockCandidate) : Prop where
  request : changed.txLockRequest = candidate.txLockRequest
  created : changed.nTimeCreated = candidate.nTimeCreated
  tracks : ∀ outpoint, changed.Tracks outpoint ↔ candidate.Tracks outpoint
  attacked : ∀ outpoint, candidate.Attacked outpoint → changed.Attacked outpoint

theorem Evolves.refl (candidate : CTxLockCandidate) : Evolves candidate candidate :=
  ⟨rfl, rfl, fun _ => Iff.rfl, fun _ marked => marked⟩

theorem Evolves.trans {middle : CTxLockCandidate} (first : Evolves candidate middle)
    (second : Evolves middle changed) : Evolves candidate changed where
  request := second.request.trans first.request
  created := second.created.trans first.created
  tracks outpoint := (second.tracks outpoint).trans (first.tracks outpoint)
  attacked outpoint marked := second.attacked outpoint (first.attacked outpoint marked)

theorem lookup_mark : (candidate.markOutpointAsAttacked outpoint).mapOutPointLocks.lookup other =
      if other = outpoint then
        (candidate.mapOutPointLocks.lookup outpoint).map markAsAttacked
      else candidate.mapOutPointLocks.lookup other :=
  StdMap.lookup_adjust

theorem mark_voteOf (candidate : CTxLockCandidate) (outpoint other masternode : COutPoint) :
    (candidate.markOutpointAsAttacked outpoint).voteOf other masternode =
      candidate.voteOf other masternode := by
  unfold voteOf
  rw [lookup_mark]
  split
  · rename_i same
    rw [same]
    cases candidate.mapOutPointLocks.lookup outpoint <;> rfl
  · rfl

theorem mark_attacked (tracked : candidate.Tracks outpoint) :
    (candidate.markOutpointAsAttacked outpoint).Attacked outpoint := by
  obtain ⟨lock, found⟩ := tracked
  refine ⟨lock.markAsAttacked, ?_, rfl⟩
  rw [lookup_mark, if_pos rfl, found]
  rfl

theorem mark_evolves (candidate : CTxLockCandidate) (outpoint : COutPoint) :
    Evolves candidate (candidate.markOutpointAsAttacked outpoint) where
  request := rfl
  created := rfl
  tracks other := by
    unfold Tracks
    rw [lookup_mark]
    split
    · rename_i same
      rw [same]
      cases candidate.mapOutPointLocks.lookup outpoint <;> simp
    · exact Iff.rfl
  attacked other marked := by
    by_cases same : other = outpoint
    · subst same
      obtain ⟨lock, found, _⟩ := marked
      exact mark_attacked ⟨lock, found⟩
    · obtain ⟨lock, found, attacked⟩ := marked
      exact ⟨lock, by rw [lookup_mark, if_neg same, found], attacked⟩

structure AddsVote (candidate : CTxLockCandidate) (vote : CTxLockVote)
    (changed : CTxLockCandidate) : Prop where
  evolves : Evolves candidate changed
  tracked : candidate.Tracks vote.outpoint
  first : candidate.voteOf vote.outpoint vote.outpointMasternode = none
  voteOf : ∀ outpoint masternode, changed.voteOf outpoint masternode =
    if outpoint = vote.outpoint ∧ masternode = vote.outpointMasternode then some vote
    else candidate.voteOf outpoint masternode
  attacked : ∀ outpoint, changed.Attacked outpoint → candidate.Attacked outpoint

theorem addVote_spec (added : candidate.addVote vote = some changed) :
    AddsVote candidate vote changed := by
  unfold addVote at added
  split at added
  · cases added
  · rename_i lock found
    obtain ⟨voted, addedLock, rfl⟩ := Option.map_eq_some_iff.mp added
    obtain ⟨fresh, mark, votes⟩ := addVote_spec addedLock
    have locks : ∀ other, (candidate.mapOutPointLocks.insert vote.outpoint voted).lookup other =
        if other = vote.outpoint then some voted else candidate.mapOutPointLocks.lookup other :=
      fun other => StdMap.lookup_insert_eq _ _ _ _
    refine ⟨⟨rfl, rfl, ?_, ?_⟩, ⟨lock, found⟩, ?_, ?_, ?_⟩
    · intro other
      by_cases same : other = vote.outpoint
      · subst same
        simp [Tracks, locks, found]
      · simp [Tracks, locks, same]
    · rintro other ⟨marked, foundMarked, attacked⟩
      by_cases same : other = vote.outpoint
      · rw [same, found] at foundMarked
        cases foundMarked
        exact ⟨voted, by rw [locks, if_pos same], mark.trans attacked⟩
      · exact ⟨marked, by rw [locks, if_neg same, foundMarked], attacked⟩
    · rw [CTxLockCandidate.voteOf, found]
      exact fresh
    · intro outpoint masternode
      unfold CTxLockCandidate.voteOf
      rw [locks]
      by_cases same : outpoint = vote.outpoint
      · rw [if_pos same, same, found, Option.bind_some, votes]
        simp
      · rw [if_neg same, if_neg (fun both => same both.1)]
    · rintro other ⟨marked, foundMarked, attacked⟩
      rw [locks] at foundMarked
      split at foundMarked
      · rename_i same
        cases foundMarked
        exact ⟨lock, by rw [same, found], mark.symm.trans attacked⟩
      · exact ⟨marked, foundMarked, attacked⟩

theorem lookup_addOutPointLock (candidate : CTxLockCandidate) :
    (candidate.addOutPointLock outpoint).mapOutPointLocks.lookup other = if other = outpoint then
        some ((candidate.mapOutPointLocks.lookup outpoint).getD .new)
      else candidate.mapOutPointLocks.lookup other :=
  StdMap.lookup_insertNew

theorem addOutPointLock_tracks (candidate : CTxLockCandidate) :
    (candidate.addOutPointLock outpoint).Tracks other ↔
      candidate.Tracks other ∨ other = outpoint := by
  unfold Tracks
  rw [lookup_addOutPointLock]
  by_cases same : other = outpoint <;> simp [same]

theorem addOutPointLock_voteOf (candidate : CTxLockCandidate) (masternode : COutPoint) :
    (candidate.addOutPointLock outpoint).voteOf other masternode =
      candidate.voteOf other masternode := by
  unfold voteOf
  rw [lookup_addOutPointLock]
  split
  · rename_i same
    rw [same]
    cases candidate.mapOutPointLocks.lookup outpoint <;> rfl
  · rfl

variable {vin : List CTxIn}

theorem addOutPointLocks_request (candidate : CTxLockCandidate) :
    (candidate.addOutPointLocks vin).txLockRequest = candidate.txLockRequest := by
  induction vin generalizing candidate with
  | nil => rfl
  | cons txin rest ih => exact ih (candidate.addOutPointLock txin.prevout)

theorem addOutPointLocks_tracks (candidate : CTxLockCandidate) :
    (candidate.addOutPointLocks vin).Tracks outpoint ↔
      candidate.Tracks outpoint ∨ ∃ txin ∈ vin, txin.prevout = outpoint := by
  induction vin generalizing candidate with
  | nil => simp [addOutPointLocks]
  | cons txin rest ih =>
    have step := ih (candidate.addOutPointLock txin.prevout)
    rw [addOutPointLock_tracks] at step
    simp only [List.mem_cons, exists_eq_or_imp]
    exact step.trans (by rw [or_assoc, eq_comm])

theorem addOutPointLocks_voteOf (candidate : CTxLockCandidate) :
    (candidate.addOutPointLocks vin).voteOf outpoint masternode =
      candidate.voteOf outpoint masternode := by
  induction vin generalizing candidate with
  | nil => rfl
  | cons txin rest ih =>
    exact (ih (candidate.addOutPointLock txin.prevout)).trans
      (addOutPointLock_voteOf candidate masternode)

theorem addOutPointLocks_attacked (candidate : CTxLockCandidate)
    (attacked : candidate.Attacked outpoint) :
    (candidate.addOutPointLocks vin).Attacked outpoint := by
  induction vin generalizing candidate with
  | nil => exact attacked
  | cons txin rest ih =>
    apply ih (candidate.addOutPointLock txin.prevout)
    obtain ⟨lock, found, marked⟩ := attacked
    refine ⟨lock, ?_, marked⟩
    rw [lookup_addOutPointLock]
    split
    · rename_i same
      rw [← same, found]
      rfl
    · exact found

def Ready (candidate : CTxLockCandidate) (outpoint : COutPoint) : Prop :=
  ¬ candidate.Attacked outpoint ∧ ∃ voters : List COutPoint, voters.Nodup ∧
    SIGNATURES_REQUIRED ≤ voters.length ∧
    ∀ masternode ∈ voters, ∃ vote, candidate.voteOf outpoint masternode = some vote

theorem isReady_spec {lock : COutPointLock}
    (found : candidate.mapOutPointLocks.lookup outpoint = some lock) (ready : lock.isReady = true) :
    candidate.Ready outpoint := by
  unfold isReady countVotes at ready
  simp only [Bool.and_eq_true, Bool.not_eq_true', decide_eq_true_eq] at ready
  obtain ⟨safe, enough⟩ := ready
  simp only [safe, Bool.false_eq_true, if_false] at enough
  constructor
  · rintro ⟨other, foundOther, attacked⟩
    rw [found] at foundOther
    cases foundOther
    rw [safe] at attacked
    cases attacked
  · refine ⟨lock.mapMasternodeVotes.keys, lock.mapMasternodeVotes.keys_nodup, enough, ?_⟩
    intro masternode voted
    rw [← AList.mem_keys, ← AList.lookup_isSome, Option.isSome_iff_exists] at voted
    obtain ⟨vote, foundVote⟩ := voted
    exact ⟨vote, by rw [voteOf, found, Option.bind_some, foundVote]⟩

theorem isAllOutPointsReady_spec (ready : candidate.isAllOutPointsReady = true) :
    (∃ outpoint, candidate.Tracks outpoint) ∧
      ∀ outpoint, candidate.Tracks outpoint → candidate.Ready outpoint := by
  unfold isAllOutPointsReady at ready
  simp only [Bool.and_eq_true, Bool.not_eq_true', List.isEmpty_eq_false_iff, List.all_eq_true]
    at ready
  obtain ⟨nonempty, all⟩ := ready
  constructor
  · obtain ⟨outpoint, member⟩ := List.exists_mem_of_ne_nil _ nonempty
    exact ⟨outpoint, mem_keys_iff.mp member⟩
  · intro outpoint tracked
    have checked := all outpoint (mem_keys_iff.mpr tracked)
    obtain ⟨lock, found⟩ := tracked
    rw [found, Option.any_some] at checked
    exact isReady_spec found checked

end CTxLockCandidate

end Minerium
