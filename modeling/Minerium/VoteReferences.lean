import Minerium.GovernanceVotes

/-! The pointers in the vote cache of the governance manager. -/

namespace Minerium

open List

/-- The manager with the address of every object in `mapObjects`, and the pointers that are stored
with the keys of `cmapVoteToObject`. -/
structure ReferenceManager where
  manager : CGovernanceManager
  address : Uint256 → Nat
  pointer : Uint256 → Nat

/-- `refresh` is what the triggers, the dirty masternodes and the updates of a dirty object change
in it; `deletionDue` compares the time since its deletion with the delay. -/
structure CleanContext where
  refresh : Uint256 → VotedObject → VotedObject
  deletionDue : Uint256 → Bool
  proposalInvalid : Uint256 → Bool

/-- A new object may get any address. -/
inductive ReferenceEvent where
  | add (ctx : GovernanceContext) (govobj : VotedObject) (fValidLocally fTriggerAdded : Bool)
      (newAddress : Nat)
  | vote (ctx : GovernanceContext) (vote : CGovernanceVote)
  | clean (ctx : CleanContext)
  | clear
  | rebuildIndexes

namespace ReferenceManager

variable (params : GovernanceParams)

section

variable (state : ReferenceManager)

def objectHashes : List Uint256 := StdMap.sortedKeys Uint256.less state.manager.mapObjects

def withObjects (objects : StdMap.Map Uint256 VotedObject) : ReferenceManager :=
  { state with manager := { state.manager with mapObjects := objects } }

def withVotes (keys : List Uint256) : ReferenceManager :=
  { state with manager := { state.manager with cmapVoteToObject := keys } }

def insertReference (nHash : Uint256) (pObj : Nat) : ReferenceManager :=
  let keys := state.manager.cmapVoteToObject
  { state.withVotes (cacheInsert MAX_CACHE_SIZE keys nHash) with
    pointer := if nHash ∈ keys then state.pointer else Function.update state.pointer nHash pObj }

def addGovernanceObject (ctx : GovernanceContext) (govobj : VotedObject)
    (fValidLocally fTriggerAdded : Bool) (newAddress : Nat) : ReferenceManager :=
  { state with
    manager := (state.manager.addGovernanceObject params ctx govobj fValidLocally fTriggerAdded).1
    address := if (state.manager.mapObjects.lookup govobj.hash).isSome then state.address
      else Function.update state.address govobj.hash newAddress }

def processVote (ctx : GovernanceContext) (vote : CGovernanceVote) : ReferenceManager :=
  let (manager, fOk) := state.manager.processVote params ctx vote
  { state with
    manager := manager
    pointer := if fOk then
      Function.update state.pointer (vote.getHash params) (state.address vote.nParentHash)
      else state.pointer }

/-- The iterator has left an item before its key is erased. -/
def removeReferences (pObj : Nat) : ReferenceManager :=
  state.withVotes (state.manager.cmapVoteToObject.foldl
    (fun keys nKey => if state.pointer nKey = pObj then keys.erase nKey else keys)
    state.manager.cmapVoteToObject)

end

section

variable (ctx : CleanContext) (state : ReferenceManager) (nHash : Uint256)

def cleanObject : ReferenceManager :=
  match state.manager.mapObjects.lookup nHash with
  | none => state
  | some stored =>
    let object := ctx.refresh nHash stored
    if (object.fCachedDelete || object.fExpired) && ctx.deletionDue nHash then
      (state.removeReferences (state.address nHash)).withObjects
        (state.manager.mapObjects.erase nHash)
    else
      state.withObjects (state.manager.mapObjects.insert nHash
        { object with fCachedDelete := object.fCachedDelete || ctx.proposalInvalid nHash })

def indexObject : ReferenceManager :=
  match state.manager.mapObjects.lookup nHash with
  | none => state
  | some govobj => govobj.fileVotes.foldl (fun indexed vote =>
      indexed.insertReference (vote.getHash params) (state.address nHash)) state

def event : ReferenceEvent → ReferenceManager
  | .add ctx govobj fValidLocally fTriggerAdded newAddress =>
    state.addGovernanceObject params ctx govobj fValidLocally fTriggerAdded newAddress
  | .vote ctx vote => state.processVote params ctx vote
  | .clean ctx => state.objectHashes.foldl (cleanObject ctx) state
  | .clear => { state with manager := emptyManager }
  | .rebuildIndexes => state.objectHashes.foldl (indexObject params) (state.withVotes [])

def Refers (pObj : Nat) : Prop :=
  ∃ nHash, (state.manager.mapObjects.lookup nHash).isSome ∧ state.address nHash = pObj

structure Live : Prop where
  distinct : state.manager.cmapVoteToObject.Nodup
  refers : ∀ nKey ∈ state.manager.cmapVoteToObject, state.Refers (state.pointer nKey)

end

variable {params} {state next : ReferenceManager} {pObj : Nat} {nHash : Uint256}

theorem Live.mono (live : Live state)
    (votes : next.manager.cmapVoteToObject = state.manager.cmapVoteToObject)
    (pointers : next.pointer = state.pointer)
    (objects : ∀ pObj, state.Refers pObj → next.Refers pObj) : Live next :=
  ⟨votes ▸ live.distinct, fun nKey member =>
    objects _ (pointers ▸ live.refers nKey (votes ▸ member))⟩

theorem isSome_insert {objects : StdMap.Map Uint256 VotedObject} {object : VotedObject}
    {other : Uint256} (stored : (objects.lookup other).isSome) :
    ((objects.insert nHash object).lookup other).isSome := by
  rw [StdMap.lookup_insert_eq]
  split
  · rfl
  · exact stored

theorem Refers.insert {object : VotedObject} (refers : state.Refers pObj) :
    (state.withObjects (state.manager.mapObjects.insert nHash object)).Refers pObj := by
  obtain ⟨other, stored, here⟩ := refers
  exact ⟨other, isSome_insert stored, here⟩

theorem cacheInsert_spec {nMaxSize : Nat} {keys : List Uint256} (distinct : keys.Nodup)
    (missing : nHash ∉ keys) : (cacheInsert nMaxSize keys nHash).Nodup ∧
      ∀ nKey ∈ cacheInsert nMaxSize keys nHash, nKey = nHash ∨ nKey ≠ nHash ∧ nKey ∈ keys := by
  have pruned : (pruneLast nMaxSize keys).Sublist keys := by
    unfold pruneLast
    split
    · exact dropLast_sublist keys
    · exact .refl keys
  rw [cacheInsert, if_neg missing]
  refine ⟨nodup_cons.mpr ⟨fun member => missing (pruned.subset member), distinct.sublist pruned⟩,
    fun nKey member => (mem_cons.mp member).imp_right fun member => ?_⟩
  have stored := pruned.subset member
  exact ⟨fun same => missing (same ▸ stored), stored⟩

theorem insertReference_live (live : Live state) (refers : state.Refers pObj) :
    Live (state.insertReference nHash pObj) := by
  by_cases known : nHash ∈ state.manager.cmapVoteToObject
  · refine live.mono ?_ (if_pos known) fun _ => id
    exact if_pos known
  · have inserted := @cacheInsert_spec nHash MAX_CACHE_SIZE _ live.distinct known
    refine ⟨inserted.1, fun nKey member => ?_⟩
    simp only [insertReference, if_neg known]
    rcases inserted.2 nKey member with rfl | ⟨different, stored⟩
    · rw [Function.update_self]
      exact refers
    · rw [Function.update_of_ne different]
      exact live.refers nKey stored

theorem removeReferences_spec (live : Live state) (pObj : Nat) :
    (state.removeReferences pObj).manager.cmapVoteToObject.Nodup ∧
      ∀ nKey, nKey ∈ (state.removeReferences pObj).manager.cmapVoteToObject ↔
        nKey ∈ state.manager.cmapVoteToObject ∧ state.pointer nKey ≠ pObj := by
  have left : (state.removeReferences pObj).manager.cmapVoteToObject =
      state.manager.cmapVoteToObject.diff
        (state.manager.cmapVoteToObject.filter (state.pointer · = pObj)) := by
    simp only [removeReferences, withVotes, diff_eq_foldl, foldl_filter, decide_eq_true_eq]
  rw [left]
  refine ⟨live.distinct.diff, fun nKey => ?_⟩
  rw [live.distinct.mem_sdiff_iff, mem_filter]
  exact and_congr_right fun member => by simp [member]

theorem cleanObject_live (ctx : CleanContext) (live : Live state) :
    Live (state.cleanObject ctx nHash) := by
  unfold cleanObject
  split
  · exact live
  · dsimp only
    split
    · obtain ⟨distinct, members⟩ := removeReferences_spec live (state.address nHash)
      refine ⟨distinct, fun nKey member => ?_⟩
      obtain ⟨stored, different⟩ := (members nKey).mp member
      obtain ⟨other, found, here⟩ := live.refers nKey stored
      refine ⟨other, ?_, here⟩
      have apart : other ≠ nHash := fun same => different (same ▸ here.symm)
      simpa only [withObjects, StdMap.lookup_erase_eq, if_neg apart] using found
    · exact live.mono rfl rfl fun _ => .insert

theorem indexObject_live (live : Live state) : Live (state.indexObject params nHash) := by
  unfold indexObject
  split
  · exact live
  · rename_i govobj stored
    have indexed := foldlRecOn (motive := fun indexed : ReferenceManager =>
      Live indexed ∧ indexed.Refers (state.address nHash)) govobj.fileVotes
      (fun indexed vote => indexed.insertReference (vote.getHash params) (state.address nHash))
      ⟨live, nHash, by rw [stored]; rfl, rfl⟩
      fun indexed kept vote _ => ⟨insertReference_live kept.1 kept.2, kept.2⟩
    exact indexed.1

theorem addGovernanceObject_live (ctx : GovernanceContext) (govobj : VotedObject)
    (fValidLocally fTriggerAdded : Bool) (newAddress : Nat) (live : Live state) :
    Live (state.addGovernanceObject params ctx govobj fValidLocally fTriggerAdded newAddress) := by
  let added := state.manager.addGovernanceObject params ctx govobj fValidLocally fTriggerAdded
  have kept : added.1.cmapVoteToObject = state.manager.cmapVoteToObject ∧
      ∀ other, (state.manager.mapObjects.lookup other).isSome →
        (added.1.mapObjects.lookup other).isSome := by
    unfold added CGovernanceManager.addGovernanceObject
    split_ifs
    · exact ⟨rfl, fun _ => id⟩
    · exact ⟨rfl, fun _ => isSome_insert⟩
    · rw [checkOrphanVotes_kept.1, checkOrphanVotes_kept.2]
      exact ⟨rfl, fun _ => isSome_insert⟩
  refine live.mono kept.1 rfl fun pObj ⟨other, stored, here⟩ => ⟨other, kept.2 other stored, ?_⟩
  simp only [addGovernanceObject]
  split
  · exact here
  · rename_i new
    have apart : other ≠ govobj.hash := fun same => new (same ▸ stored)
    rw [Function.update_of_ne apart, here]

theorem processVote_live (ctx : GovernanceContext) (vote : CGovernanceVote) (live : Live state) :
    Live (state.processVote params ctx vote) := by
  unfold processVote CGovernanceManager.processVote
  split_ifs with known
  · exact live
  · exact live
  · cases found : state.manager.mapObjects.lookup vote.nParentHash with
    | none => exact live.mono rfl rfl fun _ => id
    | some govobj =>
      dsimp only
      split
      · exact live
      · generalize govobj.processVote params ctx vote = processed
        obtain ⟨object, result⟩ := processed
        let stored := state.withObjects (state.manager.mapObjects.insert vote.nParentHash object)
        have inserted : Live stored := live.mono rfl rfl fun _ => .insert
        cases result with
        | accepted =>
          have refers : stored.Refers (state.address vote.nParentHash) :=
            .insert ⟨_, by rw [found]; rfl, rfl⟩
          have indexed : Live (stored.insertReference (vote.getHash params) _) :=
            insertReference_live inserted refers
          simpa [stored, insertReference, withObjects, withVotes, known,
            CGovernanceManager.afterVote] using indexed
        | _ => exact inserted.mono rfl rfl fun _ => id

theorem event_live (live : Live state) (event : ReferenceEvent) :
    Live (state.event params event) := by
  cases event with
  | add ctx govobj fValidLocally fTriggerAdded newAddress =>
    exact addGovernanceObject_live ctx govobj fValidLocally fTriggerAdded newAddress live
  | vote ctx vote => exact processVote_live ctx vote live
  | clean ctx => exact foldlRecOn _ _ live fun state live nHash _ => cleanObject_live ctx live
  | clear => exact ⟨nodup_nil, forall_mem_nil _⟩
  | rebuildIndexes =>
    exact foldlRecOn _ _ ⟨nodup_nil, forall_mem_nil _⟩ fun state live nHash _ =>
      indexObject_live live

/-- The second part is about the moment before an object is erased in a cleanup. -/
theorem references_live (params : GovernanceParams) (address pointer : Uint256 → Nat)
    (events : List ReferenceEvent) :
    let state := Run.run (event params) ⟨emptyManager, address, pointer⟩ events
    (∀ nKey ∈ state.manager.cmapVoteToObject, state.Refers (state.pointer nKey)) ∧
    ∀ ctx visited nHash rest, state.objectHashes = visited ++ nHash :: rest →
      let reached := visited.foldl (cleanObject ctx) state
      let removed := reached.removeReferences (reached.address nHash)
      ∀ nKey ∈ removed.manager.cmapVoteToObject, removed.pointer nKey ≠ removed.address nHash := by
  intro state
  have kept (state : ReferenceManager) (event : ReferenceEvent) (live : Live state) :
      Live (state.event params event) := event_live live event
  have live : Live state := Run.invariant_always kept ⟨nodup_nil, forall_mem_nil _⟩ events
  refine ⟨live.refers, fun ctx visited nHash rest _ nKey member => ?_⟩
  have reached : Live (visited.foldl (cleanObject ctx) state) :=
    foldlRecOn _ _ live fun state live nHash _ => cleanObject_live ctx live
  exact (((removeReferences_spec reached _).2 nKey).mp member).2

end ReferenceManager
end Minerium
