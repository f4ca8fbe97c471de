import Minerium.Lib.FinmapTotal
import Minerium.Lib.Run
import Minerium.PaymentVoteCore

/-! Payment votes of one masternode counted at one height. -/

namespace Minerium

open List CMasternodePayments

variable {voteHash : Uint256} {nBlockHeight nLimit : Int} {hash : Bytes → Uint256}
  {ctx : VoteContext} {vote : CMasternodePaymentVote}

namespace CMasternodePayments

variable (state : CMasternodePayments)

def hashesAt (nBlockHeight : Int) : List Uint256 :=
  ((state.mapMasternodeBlocks.lookup nBlockHeight).getD []).flatMap (·.vecVoteHashes)

def votedBy (outpoint : COutPoint) (voteHash : Uint256) : Bool :=
  (state.mapMasternodePaymentVotes.lookup voteHash).any
    fun vote => vote.masternodeOutpoint = outpoint

def countedVotes (nBlockHeight : Int) (outpoint : COutPoint) : List Uint256 :=
  (state.hashesAt nBlockHeight).filter (state.votedBy outpoint)

def OneVotePerHeight : Prop :=
  ∀ nBlockHeight outpoint, (state.countedVotes nBlockHeight outpoint).length ≤ 1

def Recorded : Prop :=
  ∀ nBlockHeight, ∀ voteHash ∈ state.hashesAt nBlockHeight,
    ∃ vote, state.mapMasternodePaymentVotes.lookup voteHash = some vote ∧
      vote.nBlockHeight = nBlockHeight

def Retains (state next : CMasternodePayments) : Prop :=
  ∀ voteHash vote, state.mapMasternodePaymentVotes.lookup voteHash = some vote →
    ∃ kept, next.mapMasternodePaymentVotes.lookup voteHash = some kept ∧
      kept.markAsNotVerified = vote.markAsNotVerified

end CMasternodePayments

theorem addPayee_hashes {nVoteHash : Uint256} {vecPayees : CMasternodeBlockPayees} :
    ((addPayee nVoteHash vote vecPayees).flatMap (·.vecVoteHashes)).Perm
      (nVoteHash :: vecPayees.flatMap (·.vecVoteHashes)) := by
  induction vecPayees with
  | nil => exact List.Perm.refl _
  | cons payee rest ih =>
    unfold addPayee
    split
    · simp only [flatMap_cons, append_assoc, singleton_append]
      exact perm_middle
    · simp only [flatMap_cons]
      exact (ih.append_left _).trans perm_middle

namespace CMasternodePayments

variable {state next : CMasternodePayments}

theorem votedBy_of_lookup {outpoint : COutPoint}
    (found : state.mapMasternodePaymentVotes.lookup voteHash = some vote) :
    state.votedBy outpoint voteHash = decide (vote.masternodeOutpoint = outpoint) := by
  rw [votedBy, found, Option.any_some]

theorem Retains.votedBy_eq (retained : Retains state next)
    (found : state.mapMasternodePaymentVotes.lookup voteHash = some vote) (outpoint : COutPoint) :
    next.votedBy outpoint voteHash = state.votedBy outpoint voteHash := by
  obtain ⟨kept, foundKept, same⟩ := retained voteHash vote found
  rw [votedBy_of_lookup found, votedBy_of_lookup foundKept]
  exact congrArg (fun vote => decide (vote.masternodeOutpoint = outpoint)) same

theorem Retains.recorded (retained : Retains state next) (recorded : Recorded state)
    (counted : voteHash ∈ state.hashesAt nBlockHeight) :
    ∃ vote, next.mapMasternodePaymentVotes.lookup voteHash = some vote ∧
      vote.nBlockHeight = nBlockHeight := by
  obtain ⟨vote, found, height⟩ := recorded nBlockHeight voteHash counted
  obtain ⟨kept, foundKept, same⟩ := retained voteHash vote found
  exact ⟨kept, foundKept, (congrArg (·.nBlockHeight) same).trans height⟩

theorem Retains.filter_eq (retained : Retains state next) (recorded : Recorded state)
    (nBlockHeight : Int) (outpoint : COutPoint) :
    (state.hashesAt nBlockHeight).filter (next.votedBy outpoint) =
      state.countedVotes nBlockHeight outpoint := by
  apply filter_congr
  intro voteHash counted
  obtain ⟨vote, found, _⟩ := recorded nBlockHeight voteHash counted
  exact retained.votedBy_eq found outpoint

section

variable (hash state)

/-- The vote stored under the hash of a new vote, if any, is that vote. -/
def NoCollision (vote : CMasternodePaymentVote) : Prop :=
  ∀ stored ∈ state.mapMasternodePaymentVotes.lookup (vote.getHash hash),
    stored.markAsNotVerified = vote.markAsNotVerified

theorem emplaceVote_retains (nHash : Uint256) (vote : CMasternodePaymentVote) :
    Retains state (state.emplaceVote nHash vote) := by
  intro voteHash stored found
  by_cases same : voteHash = nHash
  · subst same
    refine ⟨_, AList.lookup_insert _, ?_⟩
    rw [found]
    rfl
  · exact ⟨stored, (AList.lookup_insert_ne same).trans found, rfl⟩

end

theorem emplaceVote_lookup (fresh : NoCollision hash state vote) :
    (state.emplaceVote (vote.getHash hash) vote).mapMasternodePaymentVotes.lookup
      (vote.getHash hash) = some vote.markAsNotVerified := by
  refine (AList.lookup_insert _).trans (congrArg some ?_)
  cases found : state.mapMasternodePaymentVotes.lookup (vote.getHash hash) with
  | none => rfl
  | some stored => exact fresh stored found

section

variable (hash vote state next)

structure Counts : Prop where
  stored : next.mapMasternodePaymentVotes.lookup (vote.getHash hash) = some vote
  tally : next.mapMasternodeBlocks = state.mapMasternodeBlocks.insert vote.nBlockHeight
    (addPayee (vote.getHash hash) vote
      ((state.mapMasternodeBlocks.lookup vote.nBlockHeight).getD []))

end

theorem countVote_spec (vote : CMasternodePaymentVote)
    (emplaced : state.mapMasternodePaymentVotes.lookup (vote.getHash hash) =
      some vote.markAsNotVerified) : Retains state (state.countVote hash ctx vote).1 ∧
      ((state.countVote hash ctx vote).1.mapMasternodeBlocks = state.mapMasternodeBlocks ∨
        state.mapMasternodesLastVote.lookup vote.masternodeOutpoint ≠ some vote.nBlockHeight ∧
          Counts hash vote state (state.countVote hash ctx vote).1) := by
  have reflexive : Retains state state := fun voteHash stored found => ⟨stored, found, rfl⟩
  unfold countVote updateLastVote
  by_cases repeated : state.mapMasternodesLastVote.lookup vote.masternodeOutpoint =
      some vote.nBlockHeight
  · rw [if_pos repeated]
    exact ⟨reflexive, .inl rfl⟩
  · rw [if_neg repeated]
    dsimp only [addOrUpdatePaymentVote]
    split
    · exact ⟨reflexive, .inl rfl⟩
    · rename_i added result
      split at result
      · cases result
      · split at result
        · cases result
        · cases result
          refine ⟨?_, .inr ⟨repeated, AList.lookup_insert _, rfl⟩⟩
          intro voteHash stored found
          by_cases same : voteHash = vote.getHash hash
          · subst same
            rw [emplaced] at found
            cases found
            exact ⟨vote, AList.lookup_insert _, rfl⟩
          · exact ⟨stored, (AList.lookup_insert_ne same).trans found, rfl⟩

theorem Retains.trans {middle : CMasternodePayments} (first : Retains state middle)
    (second : Retains middle next) : Retains state next := by
  intro voteHash vote found
  obtain ⟨kept, foundKept, same⟩ := first voteHash vote found
  obtain ⟨last, foundLast, sameLast⟩ := second voteHash kept foundKept
  exact ⟨last, foundLast, sameLast.trans same⟩

theorem processMessage_spec (fresh : NoCollision hash state vote) :
    Retains state (state.processMessage hash ctx vote).1 ∧
      ((state.processMessage hash ctx vote).1.mapMasternodeBlocks = state.mapMasternodeBlocks ∨
        checkVote hash ctx state.nCachedBlockHeight vote = none ∧
          state.mapMasternodesLastVote.lookup vote.masternodeOutpoint ≠ some vote.nBlockHeight ∧
          Counts hash vote state (state.processMessage hash ctx vote).1) := by
  have reflexive : Retains state state := fun voteHash stored found => ⟨stored, found, rfl⟩
  have emplaced := emplaceVote_retains state (vote.getHash hash) vote
  unfold processMessage
  split
  · exact ⟨reflexive, .inl rfl⟩
  split
  · exact ⟨reflexive, .inl rfl⟩
  split
  · exact ⟨reflexive, .inl rfl⟩
  dsimp only
  split
  · exact ⟨reflexive, .inl rfl⟩
  split
  · exact ⟨emplaced, .inl rfl⟩
  · rename_i checked
    obtain ⟨retained, same | ⟨first, counted⟩⟩ := countVote_spec vote (emplaceVote_lookup fresh)
    · exact ⟨emplaced.trans retained, .inl same⟩
    · exact ⟨emplaced.trans retained, .inr ⟨checked, first, counted.stored, counted.tally⟩⟩

theorem Counts.hashesAt_self (counts : Counts hash vote state next) :
    (next.hashesAt vote.nBlockHeight).Perm
      (vote.getHash hash :: state.hashesAt vote.nBlockHeight) := by
  unfold hashesAt
  rw [counts.tally, Finmap.lookup_insert, Option.getD_some]
  exact addPayee_hashes

theorem Counts.hashesAt_other (counts : Counts hash vote state next)
    (different : nBlockHeight ≠ vote.nBlockHeight) :
    next.hashesAt nBlockHeight = state.hashesAt nBlockHeight := by
  unfold hashesAt
  rw [counts.tally, Finmap.lookup_insert_of_ne _ different]

theorem hashesAt_of_blocks (same : next.mapMasternodeBlocks = state.mapMasternodeBlocks) :
    next.hashesAt nBlockHeight = state.hashesAt nBlockHeight := by
  rw [hashesAt, hashesAt, same]

theorem Retains.unchanged (retained : Retains state next)
    (same : next.mapMasternodeBlocks = state.mapMasternodeBlocks)
    (good : Recorded state ∧ OneVotePerHeight state) : Recorded next ∧ OneVotePerHeight next := by
  constructor
  · intro nBlockHeight voteHash counted
    rw [hashesAt_of_blocks same] at counted
    exact retained.recorded good.1 counted
  · intro nBlockHeight outpoint
    rw [countedVotes, hashesAt_of_blocks same, retained.filter_eq good.1]
    exact good.2 nBlockHeight outpoint

theorem Counts.recorded (counts : Counts hash vote state next)
    (retained : Retains state next) (recorded : Recorded state) : Recorded next := by
  intro nBlockHeight voteHash counted
  by_cases same : nBlockHeight = vote.nBlockHeight
  · subst same
    rcases mem_cons.mp (counts.hashesAt_self.mem_iff.mp counted) with new | old
    · subst new
      exact ⟨vote, counts.stored, rfl⟩
    · exact retained.recorded recorded old
  · rw [counts.hashesAt_other same] at counted
    exact retained.recorded recorded counted

theorem Counts.oneVotePerHeight
    (counts : Counts hash vote state next) (retained : Retains state next)
    (good : Recorded state ∧ OneVotePerHeight state)
    (first : state.countedVotes vote.nBlockHeight vote.masternodeOutpoint = []) :
    OneVotePerHeight next := by
  intro nBlockHeight outpoint
  by_cases same : nBlockHeight = vote.nBlockHeight
  · subst same
    have counted := (counts.hashesAt_self.filter (next.votedBy outpoint)).length_eq
    rw [filter_cons, votedBy_of_lookup counts.stored, retained.filter_eq good.1] at counted
    rw [countedVotes, counted]
    by_cases own : vote.masternodeOutpoint = outpoint
    · subst own
      simp [first]
    · simp only [own, decide_false, Bool.false_eq_true, if_false]
      exact good.2 _ _
  · rw [countedVotes, counts.hashesAt_other same, retained.filter_eq good.1]
    exact good.2 _ _

theorem removeVote_keeps (good : Recorded state ∧ OneVotePerHeight state) :
    Recorded (removeVote nLimit state voteHash) ∧
      OneVotePerHeight (removeVote nLimit state voteHash) := by
  unfold removeVote
  split
  · exact good
  · rename_i vote found
    split
    · -- The erased tally is that of the erased vote, so no other tally lists its hash.
      generalize result : ({ state with
        mapMasternodePaymentVotes := state.mapMasternodePaymentVotes.erase voteHash
        mapMasternodeBlocks := state.mapMasternodeBlocks.erase vote.nBlockHeight } :
          CMasternodePayments) = next
      have erased : next.hashesAt vote.nBlockHeight = [] := by
        subst result
        simp only [hashesAt, Finmap.lookup_erase, Option.getD_none, flatMap_nil]
      have others : ∀ nBlockHeight, nBlockHeight ≠ vote.nBlockHeight →
          next.hashesAt nBlockHeight = state.hashesAt nBlockHeight := by
        intro nBlockHeight different
        subst result
        simp only [hashesAt, Finmap.lookup_erase_ne different]
      have lookups : ∀ nBlockHeight, nBlockHeight ≠ vote.nBlockHeight →
          ∀ other ∈ state.hashesAt nBlockHeight, next.mapMasternodePaymentVotes.lookup other =
            state.mapMasternodePaymentVotes.lookup other := by
        intro nBlockHeight different other counted
        subst result
        refine AList.lookup_erase_ne ?_
        intro same
        obtain ⟨stored, foundStored, height⟩ := good.1 nBlockHeight other counted
        rw [same, found] at foundStored
        cases foundStored
        exact different height.symm
      constructor
      · intro nBlockHeight other counted
        by_cases same : nBlockHeight = vote.nBlockHeight
        · rw [same, erased] at counted
          cases counted
        · rw [others _ same] at counted
          rw [lookups _ same other counted]
          exact good.1 nBlockHeight other counted
      · intro nBlockHeight outpoint
        by_cases same : nBlockHeight = vote.nBlockHeight
        · rw [same, countedVotes, erased]
          exact Nat.zero_le 1
        · have kept : (state.hashesAt nBlockHeight).filter (next.votedBy outpoint) =
              state.countedVotes nBlockHeight outpoint := by
            apply filter_congr
            intro other counted
            rw [votedBy, votedBy, lookups _ same other counted]
          rw [countedVotes, others _ same, kept]
          exact good.2 nBlockHeight outpoint
    · exact good

theorem checkAndRemove_keeps (good : Recorded state ∧ OneVotePerHeight state) :
    Recorded (state.checkAndRemove nLimit) ∧ OneVotePerHeight (state.checkAndRemove nLimit) := by
  unfold checkAndRemove
  generalize state.mapMasternodePaymentVotes.keys = keys
  induction keys generalizing state with
  | nil => exact good
  | cons voteHash rest ih => exact ih (removeVote_keeps good)

section

variable (hash state)

/-- A valid vote brings its masternode back to a height that it left and is counted at. -/
def Returns (ctx : VoteContext) (state : CMasternodePayments) (vote : CMasternodePaymentVote) :
    Prop :=
  checkVote hash ctx state.nCachedBlockHeight vote = none ∧
    state.mapMasternodesLastVote.lookup vote.masternodeOutpoint ≠ some vote.nBlockHeight ∧
    state.countedVotes vote.nBlockHeight vote.masternodeOutpoint ≠ []

def EventPermitted : PaymentVoteEvent → Prop
  | .message ctx vote => NoCollision hash state vote ∧ ¬ Returns hash ctx state vote
  | .updatedBlockTip _ => True
  | .checkAndRemove _ => True

end

instance : Decidable (NoCollision hash state vote) := inferInstanceAs (Decidable (∀ stored ∈ _, _))

instance : Decidable (Returns hash ctx state vote) := inferInstanceAs (Decidable (_ ∧ _))

instance : ∀ event, Decidable (EventPermitted hash state event)
  | .message _ _ => inferInstanceAs (Decidable (_ ∧ _))
  | .updatedBlockTip _ => .isTrue trivial
  | .checkAndRemove _ => .isTrue trivial

theorem event_keeps (hash : Bytes → Uint256) (state : CMasternodePayments)
    (event : PaymentVoteEvent) (good : Recorded state ∧ OneVotePerHeight state)
    (permitted : EventPermitted hash state event) :
    Recorded (state.event hash event) ∧ OneVotePerHeight (state.event hash event) := by
  cases event with
  | message ctx vote =>
    obtain ⟨retained, same | ⟨checked, first, counts⟩⟩ := processMessage_spec permitted.1
    · exact retained.unchanged same good
    · have none : state.countedVotes vote.nBlockHeight vote.masternodeOutpoint = [] := by
        by_contra counted
        exact permitted.2 ⟨checked, first, counted⟩
      exact ⟨counts.recorded retained good.1, counts.oneVotePerHeight retained good none⟩
  | updatedBlockTip nHeight => exact good
  | checkAndRemove nLimit => exact checkAndRemove_keeps good

theorem empty_good : Recorded empty ∧ OneVotePerHeight empty := by
  constructor
  · intro nBlockHeight voteHash counted
    cases counted
  · intro nBlockHeight outpoint
    exact Nat.zero_le 1

theorem oneVotePerHeight_of_permitted (hash : Bytes → Uint256) (events : List PaymentVoteEvent)
    (permitted : Run.Permitted (event hash) (EventPermitted hash) empty events) :
    OneVotePerHeight (Run.run (event hash) empty events) :=
  (Run.invariant (event_keeps hash) empty_good permitted).2

end CMasternodePayments

def sampleVoteHash (bytes : Bytes) : Uint256 :=
  bytes.foldl (fun acc byte => acc * 257 + BitVec.ofNat 256 byte.toNat) 1

def sampleVoteContext : VoteContext where
  fLiteMode := false
  fMasternodeMode := false
  peerVersion := 70215
  minPaymentsProto := 70215
  masternodeListSynced := true
  storageLimit := 5000
  getMasternodeInfo outpoint := if outpoint = ⟨7, 0⟩ then some ⟨[2], 70215⟩ else none
  getMasternodeRank _ _ _ := some 1
  newSigs := true
  verifyHash _ pubKey vchSig := vchSig = 1 :: pubKey
  hasBlockHash _ := true

def sampleVote (nBlockHeight : Int) (payee : CScript) : PaymentVoteEvent :=
  .message sampleVoteContext ⟨⟨7, 0⟩, nBlockHeight, 0, payee, [1, 2]⟩

theorem oneVotePerHeight_sample :
    CMasternodePayments.OneVotePerHeight (Run.run (event sampleVoteHash) .empty
        [.updatedBlockTip 1000, sampleVote 1005 [81], sampleVote 1006 [82],
          sampleVote 1006 [83], .checkAndRemove 5000]) := by
  exact oneVotePerHeight_of_permitted _ _ (by decide +kernel)

theorem revisitedHeight_countedTwice : ((Run.run (event sampleVoteHash) .empty
      [.updatedBlockTip 1000, sampleVote 1005 [81], sampleVote 1006 [82],
        sampleVote 1005 [83]]).countedVotes 1005 ⟨7, 0⟩).length = 2 := by
  decide +kernel

end Minerium
