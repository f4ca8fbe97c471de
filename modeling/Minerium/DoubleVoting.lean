import Minerium.LockConsistency

/-! Votes that a masternode node signs. They only reach copies of the stored candidates, so it signs
again for a second transaction. -/

namespace Minerium

namespace InstantSendNode

open CInstantSend

variable {params : LockParams} {node : InstantSendNode}

section

variable (params node)

def signedOutpoints : List COutPoint := node.signed.map (·.outpoint)

/-- Where the node has signed for an outpoint of the accepted request, a candidate listed there
records the vote. -/
def OwnVotesKnown : LockEvent → Prop
  | .mempoolAccepted ctx tx =>
    node.tables.alreadyHave (params.hashTx tx) = false → ∀ candidate,
      node.tables.mapTxLockCandidates.lookup (params.hashTx tx) = some candidate →
      ∀ outpoint ∈ node.signedOutpoints, candidate.Tracks outpoint →
        ¬ Unvoted ctx node.tables outpoint
  | _ => True

end

theorem mempoolAccepted_signs {ctx : LockContext} {tx : CTransaction}
    (coherent : Coherent params node.tables) (distinct : node.signedOutpoints.Nodup)
    (known : OwnVotesKnown params node (.mempoolAccepted ctx tx)) :
    (node.mempoolAccepted params ctx tx).signedOutpoints.Nodup := by
  unfold mempoolAccepted
  split
  · exact distinct
  rename_i unknown
  rw [Bool.not_eq_true] at unknown
  split
  · exact distinct
  rename_i next finalized signed result
  have spec : (next = _ ∧ finalized = none ∧ signed = []) ∨ ∃ candidate copy, _ ∧ _ ∧ _ ∧
      TablePath params (fun _ _ => True) (fun _ => True) _ _ :=
    voteByHash_spec (acceptLockRequest_coherent coherent tx) result
  rcases spec with ⟨_, _, rfl⟩ | ⟨candidate, copy, found, _, effect, _⟩
  · simpa only [signedOutpoints, List.append_nil] using distinct
  · simp only [signedOutpoints, List.map_append]
    rw [List.nodup_append']
    refine ⟨distinct, effect.places.nodup (StdMap.nodup_sortedKeys), ?_⟩
    intro outpoint before new
    have tracked : candidate.Tracks outpoint := StdMap.mem_sortedKeys.mp (effect.places.subset new)
    obtain ⟨vote, member, rfl⟩ := List.mem_map.mp new
    exact known unknown candidate found vote.outpoint before tracked (effect.fresh vote member).2.2

theorem event_signs (node : InstantSendNode) (event : LockEvent)
    (good : Coherent params node.tables ∧ node.signedOutpoints.Nodup)
    (known : OwnVotesKnown params node event) : Coherent params (node.event params event).tables ∧
      (node.event params event).signedOutpoints.Nodup := by
  refine ⟨event_coherent node event good.1, ?_⟩
  unfold InstantSendNode.event
  split
  · exact good.2
  · cases event with
    | mempoolAccepted ctx tx => exact mempoolAccepted_signs good.1 good.2 known
    | _ => exact good.2

theorem neverVotesTwice (params : LockParams) (events : List LockEvent)
    (known : Run.Permitted (event params) (OwnVotesKnown params) initial events) :
    (Run.run (event params) initial events).signedOutpoints.Nodup := by
  have start : Coherent params initial.tables ∧ initial.signedOutpoints.Nodup :=
    ⟨empty_coherent, List.nodup_nil⟩
  exact (Run.invariant event_signs start known).2

end InstantSendNode

theorem neverVotesTwice_sample : (Run.run (InstantSendNode.event sampleLockParams) .initial
      [.lockRequest sampleLockContext (sampleLockTx 1 [1, 2]),
        .mempoolAccepted sampleLockContext (sampleLockTx 1 [1, 2])]).signedOutpoints.Nodup := by
  refine InstantSendNode.neverVotesTwice sampleLockParams _ ⟨trivial, ?_, trivial⟩
  intro _ candidate _ outpoint signed
  cases signed

theorem conflictingRequests_votedTwice : (Run.run (InstantSendNode.event sampleLockParams) .initial
        [.lockRequest sampleLockContext (sampleLockTx 1 [1]),
          .mempoolAccepted sampleLockContext (sampleLockTx 1 [1]),
          .lockRequest sampleLockContext (sampleLockTx 2 [1]),
          .mempoolAccepted sampleLockContext (sampleLockTx 2 [1])]).signed.map
        (fun vote => (vote.txHash, vote.outpoint)) = [(2, ⟨99, 1⟩), (3, ⟨99, 1⟩)] ∧
      (Run.run (InstantSendNode.event sampleLockParams) .initial
        [.lockRequest sampleLockContext (sampleLockTx 1 [1]),
          .mempoolAccepted sampleLockContext (sampleLockTx 1 [1]),
          .lockRequest sampleLockContext (sampleLockTx 2 [1]), .mempoolAccepted sampleLockContext
            (sampleLockTx 2 [1])]).tables.mapTxLockCandidates.keys = [3, 2] := by
  constructor <;> decide +kernel

end Minerium
