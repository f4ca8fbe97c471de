import Minerium.GovernanceVoteCore
import Minerium.Lib.FinmapTotal
import Minerium.Lib.Run

/-! Governance votes over runs. Of the votes of a masternode for a signal the newest counts, of
votes with one time the last to come. -/

namespace Minerium

open MachineInt List VotedObject CGovernanceVote

variable {params : GovernanceParams} {ctx : GovernanceContext} {object after : VotedObject}
  {vote : CGovernanceVote} {votes : List CGovernanceVote}
  {messages : List (GovernanceContext × CGovernanceVote)} {manager : CGovernanceManager}
  {found : VoteInstance} (key : COutPoint × Nat)

section

def CGovernanceVote.slot (vote : CGovernanceVote) : Option (COutPoint × Nat) :=
  if vote.getSignal = 0 ∨ MAX_SUPPORTED_VOTE_SIGNAL < vote.getSignal then none
  else some (vote.masternodeOutpoint, vote.getSignal)

def supersede (found : VoteInstance) (vote : CGovernanceVote) : VoteInstance :=
  if vote.nTime < found.nCreationTime then found
  else ⟨vote.nVoteOutcome, found.nTime, vote.nTime⟩

def countedOutcomes : List Int32 := [1, 2, 3]

section

variable (params ctx object votes)

def afterVotes : VotedObject :=
  votes.foldl (fun object vote => (object.processVote params ctx vote).1) object

end

theorem instanceOf_setInstance {key other : COutPoint × Nat} {voteInstance : VoteInstance} :
    (object.setInstance key voteInstance).instanceOf other =
      if other = key then voteInstance else object.instanceOf other := by
  rw [setInstance, instanceOf, FinmapTotal.lookup_insert_eq]
  split
  · rfl
  · rfl

section

variable (params ctx object vote)

structure Accepts (key : COutPoint × Nat) : Prop where
  unknown : object.hasVote params (vote.getHash params) = false
  slot : vote.slot = some key
  current : ¬ vote.nTime < (object.instanceOf key).nCreationTime
  spaced : ctx.fRateChecksEnabled = true →
    ¬ ctx.adjustedTime - (object.instanceOf key).nTime < GOVERNANCE_UPDATE_MIN
  valid : vote.isValid params ctx = true

def VotedObject.accept (key : COutPoint × Nat) : VotedObject :=
  { object.setInstance key ⟨vote.nVoteOutcome, (object.instanceOf key).nTime, vote.nTime⟩ with
    fileVotes := vote :: object.fileVotes }

def sameVotes (after : VotedObject) : Prop :=
  after.instanceOf = object.instanceOf ∧ after.fileVotes = object.fileVotes

end

theorem sameVotes_emplaced : sameVotes object (object.setInstance key (object.instanceOf key)) := by
  refine ⟨funext fun other => ?_, rfl⟩
  rw [instanceOf_setInstance]
  split
  · rename_i same
    rw [same]
  · rfl

theorem judgeVote_cases (slot : vote.slot = some key)
    (unknown : object.hasVote params (vote.getHash params) = false) :
    (Accepts params ctx object vote key ∧
      object.judgeVote params ctx vote = (object.accept vote key, .accepted)) ∨
    (¬ Accepts params ctx object vote key ∧ (object.judgeVote params ctx vote).2 ≠ .accepted ∧
      sameVotes object (object.judgeVote params ctx vote).1) := by
  have named : (vote.masternodeOutpoint, vote.getSignal) = key := by
    unfold CGovernanceVote.slot at slot
    split at slot
    · cases slot
    · exact Option.some.inj slot
  simp only [judgeVote, named]
  by_cases older : vote.nTime < (object.instanceOf key).nCreationTime
  · rw [if_pos older]
    exact .inr ⟨fun accepts => accepts.current older, by simp, sameVotes_emplaced key⟩
  rw [if_neg older]
  split
  · rename_i often
    simp only [Bool.and_eq_true, decide_eq_true_eq] at often
    exact .inr ⟨fun accepts => accepts.spaced often.1 often.2, by simp, sameVotes_emplaced key⟩
  · rename_i seldom
    cases valid : vote.isValid params ctx with
    | false =>
      exact .inr ⟨fun accepts => by simp [accepts.valid] at valid, by simp, sameVotes_emplaced key⟩
    | true =>
      refine .inl ⟨⟨unknown, slot, older, fun enabled close => seldom ?_, valid⟩, rfl⟩
      simp [enabled, close]

theorem isSome_of_isValid (valid : vote.isValid params ctx = true) :
    (ctx.getMasternodeInfo vote.masternodeOutpoint).isNone = false := by
  simp only [isValid, Bool.and_eq_true] at valid
  cases found : ctx.getMasternodeInfo vote.masternodeOutpoint with
  | none => simp [found] at valid
  | some pubKey => rfl

section

variable (params ctx object vote)

theorem processVote_cases : (∃ key, Accepts params ctx object vote key ∧
      object.processVote params ctx vote = (object.accept vote key, .accepted)) ∨
    ((∀ key, ¬ Accepts params ctx object vote key) ∧
      (object.processVote params ctx vote).2 ≠ .accepted ∧
      sameVotes object (object.processVote params ctx vote).1) := by
  unfold processVote
  by_cases known : object.hasVote params (vote.getHash params) = true
  · rw [if_pos known]
    exact .inr ⟨fun key accepts => by simp [accepts.unknown] at known, by simp, rfl, rfl⟩
  rw [if_neg known]
  split
  · rename_i missing
    refine .inr ⟨fun key accepts => ?_, by simp, rfl, rfl⟩
    simp [isSome_of_isValid accepts.valid] at missing
  · cases slot : vote.slot with
    | none =>
      refine .inr ⟨fun key accepts => by simp [accepts.slot] at slot, ?_⟩
      unfold CGovernanceVote.slot at slot
      split_ifs at slot with unsupported
      rcases unsupported with none | tooHigh
      · rw [if_pos none]
        exact ⟨by simp, rfl, rfl⟩
      · rw [if_pos tooHigh]
        split
        · exact ⟨by simp, rfl, rfl⟩
        · exact ⟨by simp, rfl, rfl⟩
    | some key =>
      have supported := slot
      unfold CGovernanceVote.slot at supported
      split_ifs at supported with unsupported
      obtain ⟨none, tooHigh⟩ := not_or.mp unsupported
      rw [if_neg none, if_neg tooHigh]
      rcases judgeVote_cases key slot (Bool.eq_false_iff.mpr known) with accepted | refused
      · exact .inl ⟨key, accepted⟩
      · refine .inr ⟨fun other accepts => refused.1 ?_, refused.2⟩
        rwa [Option.some.inj (slot.symm.trans accepts.slot)]

end

theorem instanceOf_accept {key other : COutPoint × Nat} :
    (object.accept vote key).instanceOf other =
      if other = key then ⟨vote.nVoteOutcome, (object.instanceOf key).nTime, vote.nTime⟩
      else object.instanceOf other :=
  instanceOf_setInstance

theorem processVote_valid (valid : vote.isValid params ctx = true)
    (unlimited : ctx.fRateChecksEnabled = false)
    (unknown : object.hasVote params (vote.getHash params) = false) :
    (∀ key, (object.processVote params ctx vote).1.instanceOf key =
      if vote.slot = some key then supersede (object.instanceOf key) vote
      else object.instanceOf key) ∧
    ∀ other : CGovernanceVote, other.getHash params ≠ vote.getHash params →
      (object.processVote params ctx vote).1.hasVote params (other.getHash params) =
        object.hasVote params (other.getHash params) := by
  rcases processVote_cases params ctx object vote with ⟨place, accepts, done⟩ | ⟨refused, -, same⟩
  · rw [done, accepts.slot]
    refine ⟨fun key => ?_, fun other different => ?_⟩
    · rw [instanceOf_accept]
      by_cases here : key = place
      · rw [if_pos here, here, if_pos rfl, supersede, if_neg accepts.current]
      · rw [if_neg here, if_neg fun same => here (Option.some.inj same).symm]
    · simp [hasVote, accept, Ne.symm different]
  · refine ⟨fun key => ?_, fun other _ => by rw [hasVote, same.2]; rfl⟩
    rw [same.1]
    split
    · rename_i slot
      rw [supersede, if_pos]
      by_contra current
      exact refused key ⟨unknown, slot, current, by simp [unlimited], valid⟩
    · rfl

section

variable (params ctx object votes)

structure Processable : Prop where
  unlimited : ctx.fRateChecksEnabled = false
  valid : ∀ vote ∈ votes, vote.isValid params ctx = true
  distinct : (votes.map (·.getHash params)).Nodup
  unknown : ∀ vote ∈ votes, object.hasVote params (vote.getHash params) = false

end

def votesFor (key : COutPoint × Nat) (votes : List CGovernanceVote) : List CGovernanceVote :=
  votes.filter fun vote => vote.slot = some key

theorem instanceOf_afterVotes
    (fresh : Processable params ctx object votes) (key : COutPoint × Nat) :
    (afterVotes params ctx object votes).instanceOf key =
      (votesFor key votes).foldl supersede (object.instanceOf key) := by
  induction votes generalizing object with
  | nil => rfl
  | cons vote rest ih =>
    have first := processVote_valid (fresh.valid vote mem_cons_self) fresh.unlimited
      (fresh.unknown vote mem_cons_self)
    obtain ⟨others, distinct⟩ := nodup_cons.mp fresh.distinct
    have next : Processable params ctx (object.processVote params ctx vote).1 rest := by
      refine ⟨fresh.unlimited,
        fun other member => fresh.valid other (mem_cons_of_mem _ member), distinct,
        fun other member => ?_⟩
      rw [first.2 other fun same => others (mem_map.mpr ⟨other, member, same⟩)]
      exact fresh.unknown other (mem_cons_of_mem _ member)
    refine (ih next).trans ?_
    rw [first.1 key, votesFor, votesFor, filter_cons]
    by_cases same : vote.slot = some key
    · simp [same]
    · simp [same]

theorem settled_time (found : VoteInstance) (votes : List CGovernanceVote) :
    found.nCreationTime.toInt ≤ (votes.foldl supersede found).nCreationTime.toInt ∧
      ∀ vote ∈ votes, vote.nTime.toInt ≤ (votes.foldl supersede found).nCreationTime.toInt := by
  induction votes generalizing found with
  | nil => simp
  | cons vote rest ih =>
    obtain ⟨start, others⟩ := ih (supersede found vote)
    have step : found.nCreationTime.toInt ≤ (supersede found vote).nCreationTime.toInt ∧
        vote.nTime.toInt ≤ (supersede found vote).nCreationTime.toInt := by
      unfold supersede
      split
      · rename_i older
        rw [lt_iff] at older
        exact ⟨le_refl _, older.le⟩
      · rename_i newer
        rw [lt_iff] at newer
        exact ⟨not_lt.mp newer, le_refl _⟩
    rw [foldl_cons, forall_mem_cons]
    exact ⟨step.1.trans start, step.2.trans start, others⟩

theorem settled_cases (found : VoteInstance) (votes : List CGovernanceVote) :
    (votes.foldl supersede found = found ∧ ∀ vote ∈ votes, vote.nTime < found.nCreationTime) ∨
      ∃ vote ∈ votes, vote.nTime = (votes.foldl supersede found).nCreationTime ∧
        vote.nVoteOutcome = (votes.foldl supersede found).eOutcome := by
  induction votes generalizing found with
  | nil => simp
  | cons vote rest ih =>
    rw [foldl_cons]
    rcases ih (supersede found vote) with ⟨kept, older⟩ | ⟨other, member, time, outcome⟩
    · rw [kept, supersede]
      split
      · rename_i first
        rw [supersede, if_pos first] at older
        exact .inl ⟨rfl, forall_mem_cons.mpr ⟨first, older⟩⟩
      · exact .inr ⟨vote, mem_cons_self, rfl, rfl⟩
    · exact .inr ⟨other, mem_cons_of_mem _ member, time, outcome⟩

theorem mem_matching_iff {signal : Nat} {outcome : Int32} (counted : outcome ∈ countedOutcomes)
    (key : COutPoint × Nat) :
    (key ∈ object.mapCurrentMNVotes.keys.filter fun key => key.2 = signal ∧
      (object.instanceOf key).eOutcome = outcome) ↔
      key.2 = signal ∧ (object.instanceOf key).eOutcome = outcome := by
  rw [Finset.mem_filter, and_iff_right_iff_imp]
  rintro ⟨-, stored⟩
  rw [Finmap.mem_keys]
  by_contra missing
  rw [instanceOf, Finmap.lookup_eq_none.mpr missing] at stored
  subst stored
  exact absurd counted (by decide)

/-- The newest votes of a masternode and signal, if not older than the stored one, have one outcome,
as far as outcomes are counted. -/
def Decided (object : VotedObject) (votes : List CGovernanceVote) : Prop :=
  ∀ key, ∀ vote ∈ votesFor key votes, ∀ other ∈ votesFor key votes, vote.nTime = other.nTime →
    (object.instanceOf key).nCreationTime ≤ vote.nTime →
    (∀ older ∈ votesFor key votes, older.nTime ≤ vote.nTime) →
    ∀ outcome ∈ countedOutcomes, vote.nVoteOutcome = outcome → other.nVoteOutcome = outcome

theorem outcome_of_decided {order order' : List CGovernanceVote}
    (decided : Decided object votes) (perm : order.Perm votes) (perm' : order'.Perm votes)
    {key : COutPoint × Nat} {outcome : Int32} (counted : outcome ∈ countedOutcomes)
    (settled : ((votesFor key order).foldl supersede (object.instanceOf key)).eOutcome = outcome) :
    ((votesFor key order').foldl supersede (object.instanceOf key)).eOutcome = outcome := by
  have member {vote : CGovernanceVote} : vote ∈ votesFor key order ↔ vote ∈ votesFor key votes :=
    (perm.filter _).mem_iff
  have member' {vote : CGovernanceVote} : vote ∈ votesFor key order' ↔ vote ∈ votesFor key votes :=
    (perm'.filter _).mem_iff
  have time := settled_time (object.instanceOf key) (votesFor key order)
  have time' := settled_time (object.instanceOf key) (votesFor key order')
  rcases settled_cases (object.instanceOf key) (votesFor key order) with
    ⟨kept, older⟩ | ⟨vote, listed, newest, same⟩
  · rcases settled_cases (object.instanceOf key) (votesFor key order') with
      ⟨kept', -⟩ | ⟨vote, listed, newest, -⟩
    · rw [kept', ← kept, settled]
    · have before := older vote (member.mpr (member'.mp listed))
      rw [newest, lt_iff] at before
      omega
  · rcases settled_cases (object.instanceOf key) (votesFor key order') with
      ⟨-, older⟩ | ⟨other, listed', newest', same'⟩
    · have before := older vote (member'.mpr (member.mp listed))
      rw [newest, lt_iff] at before
      omega
    · have first := time'.2 vote (member'.mpr (member.mp listed))
      have second := time.2 other (member.mpr (member'.mp listed'))
      have equal : vote.nTime = other.nTime := by
        refine Int64.toInt_inj.mp (le_antisymm ?_ ?_)
        · rwa [newest']
        · rwa [newest]
      rw [← same']
      refine decided key vote (member.mp listed) other (member'.mp listed') equal ?_ ?_ outcome
        counted (same.trans settled)
      · rw [le_iff, newest]
        exact time.1
      · intro older known
        rw [le_iff, newest]
        exact time.2 older (member.mpr known)

def Converges (params : GovernanceParams) (ctx ctx' : GovernanceContext) (object : VotedObject)
    (votes : List CGovernanceVote) : Prop :=
  ∀ order order', order.Perm votes → order'.Perm votes → ∀ signal, ∀ outcome ∈ countedOutcomes,
    (afterVotes params ctx object order).countMatchingVotes signal outcome =
      (afterVotes params ctx' object order').countMatchingVotes signal outcome

theorem Processable.perm {order : List CGovernanceVote}
    (fresh : Processable params ctx object votes) (perm : order.Perm votes) :
    Processable params ctx object order :=
  ⟨fresh.unlimited, fun vote member => fresh.valid vote (perm.mem_iff.mp member),
    (perm.map _).nodup_iff.mpr fresh.distinct,
    fun vote member => fresh.unknown vote (perm.mem_iff.mp member)⟩

theorem overwritten {other : CGovernanceVote}
    (notOlder : ¬ vote.nTime < found.nCreationTime) (sameTime : vote.nTime = other.nTime) :
    (supersede (supersede found vote) other).eOutcome = other.nVoteOutcome := by
  have again : ¬ other.nTime < vote.nTime := by simp [sameTime]
  simp [supersede, notOlder, again]

theorem notOlder_of_settled (stored : found.nCreationTime ≤ vote.nTime)
    (newest : ∀ older ∈ votes, older.nTime ≤ vote.nTime) :
    ¬ vote.nTime < (votes.foldl supersede found).nCreationTime := by
  rw [lt_iff, not_lt, ← le_iff]
  rcases settled_cases found votes with ⟨kept, -⟩ | ⟨older, listed, time, -⟩
  · rwa [kept]
  · rw [← time]
    exact newest older listed

theorem decided_of_converges {ctx' : GovernanceContext}
    (fresh : Processable params ctx object votes) (fresh' : Processable params ctx' object votes)
    (converges : Converges params ctx ctx' object votes) : Decided object votes := by
  intro key vote listed other listed' sameTime stored newest outcome counted voted
  by_contra differs
  obtain ⟨member, slot⟩ := mem_filter.mp listed
  obtain ⟨member', slot'⟩ := mem_filter.mp listed'
  have different : other ≠ vote := by
    rintro rfl
    exact differs voted
  let others := (votes.erase vote).erase other
  have perm : (others ++ [vote, other]).Perm votes := by
    refine perm_append_comm.trans ((perm_cons_erase member).trans ?_).symm
    exact (perm_cons_erase ((mem_erase_of_ne different).mpr member')).cons vote
  have perm' : (others ++ [other, vote]).Perm votes :=
    ((List.Perm.swap ..).append_left others).trans perm
  have older : ∀ earlier ∈ votesFor key others, earlier.nTime ≤ vote.nTime := by
    intro earlier present
    obtain ⟨left, same⟩ := mem_filter.mp present
    exact newest earlier (mem_filter.mpr ⟨mem_of_mem_erase (mem_of_mem_erase left), same⟩)
  have settled := notOlder_of_settled stored older
  have final := instanceOf_afterVotes (fresh.perm perm)
  have final' := instanceOf_afterVotes (fresh'.perm perm')
  simp only [votesFor, filter_append, foldl_append] at final final' settled
  have slots : vote.slot = some key ∧ other.slot = some key :=
    ⟨of_decide_eq_true slot, of_decide_eq_true slot'⟩
  have last : ((afterVotes params ctx object (others ++ [vote, other])).instanceOf key).eOutcome =
      other.nVoteOutcome := by
    rw [final key]
    simpa [slots] using overwritten settled sameTime
  have last' : ((afterVotes params ctx' object (others ++ [other, vote])).instanceOf key).eOutcome =
      vote.nVoteOutcome := by
    rw [final' key]
    simpa [slots] using overwritten (sameTime ▸ settled) sameTime.symm
  refine (converges _ _ perm perm' key.2 outcome counted).not_lt (Finset.card_lt_card ?_)
  refine (Finset.ssubset_iff_of_subset fun place matching => ?_).mpr
    ⟨key, (mem_matching_iff counted key).mpr ⟨rfl, last'.trans voted⟩, fun matching =>
      differs (last.symm.trans ((mem_matching_iff counted key).mp matching).2)⟩
  rw [mem_matching_iff counted] at matching ⊢
  have elsewhere : key ≠ place := by
    rintro rfl
    exact differs (last.symm.trans matching.2)
  rw [final' place]
  rw [final place] at matching
  simpa [slots, elsewhere] using matching

theorem tally_converges_iff (params : GovernanceParams) (ctx ctx' : GovernanceContext)
    (object : VotedObject) (votes : List CGovernanceVote)
    (fresh : Processable params ctx object votes) (fresh' : Processable params ctx' object votes) :
    Converges params ctx ctx' object votes ↔ Decided object votes := by
  refine ⟨decided_of_converges fresh fresh', fun decided order order' perm perm' signal outcome
    counted => congrArg Finset.card (Finset.ext fun key => ?_)⟩
  rw [mem_matching_iff counted, mem_matching_iff counted, instanceOf_afterVotes (fresh.perm perm),
    instanceOf_afterVotes (fresh'.perm perm')]
  exact and_congr_right fun _ => ⟨outcome_of_decided decided perm perm' counted,
    outcome_of_decided decided perm' perm counted⟩

def sampleGovernance : GovernanceParams :=
  { hash := fun bytes => BitVec.ofNat 256
      (bytes.foldl (fun value byte => 257 * value + byte.toNat) 0)
    verifyHash := fun _ pubKeyMasternode vchSig => decide (pubKeyMasternode = vchSig) }

def sampleContext (fRateChecksEnabled : Bool) : GovernanceContext :=
  { getMasternodeInfo := fun outpoint => if outpoint = ⟨1, 0⟩ then some [7] else none
    adjustedTime := 10000
    newSigs := true
    fRateChecksEnabled := fRateChecksEnabled }

def voteAt (nTime : Int64) (nVoteOutcome : Int32) (vchSig : Bytes) : CGovernanceVote :=
  ⟨⟨1, 0⟩, 5, 1, nVoteOutcome, nTime, vchSig⟩

def objectVote : Int32 → Bytes → CGovernanceVote := voteAt 9000

def sampleObject : VotedObject := ⟨5, false, false, ∅, [], []⟩

def votedObject (nVoteOutcome : Int32) : VotedObject :=
  { sampleObject.setInstance (⟨1, 0⟩, 1) ⟨nVoteOutcome, 0, 8000⟩ with
    fileVotes := [voteAt 8000 nVoteOutcome [7]] }

theorem tally_converges_iff_sample :
    Converges sampleGovernance (sampleContext false) (sampleContext false) (votedObject 3)
      [voteAt 9000 1 [7], voteAt 9100 2 [7], voteAt 7000 1 [7]] := by
  have fresh : Processable sampleGovernance (sampleContext false) (votedObject 3)
      [voteAt 9000 1 [7], voteAt 9100 2 [7], voteAt 7000 1 [7]] :=
    ⟨rfl, by decide +kernel, by decide +kernel, by decide +kernel⟩
  refine (tally_converges_iff _ _ _ _ _ fresh fresh).mpr ?_
  intro key vote listed other listed' sameTime stored newest outcome counted voted
  have byTime : ∀ one ∈ [voteAt 9000 1 [7], voteAt 9100 2 [7], voteAt 7000 1 [7]],
      ∀ two ∈ [voteAt 9000 1 [7], voteAt 9100 2 [7], voteAt 7000 1 [7]],
        one.nTime = two.nTime → one = two := by decide
  rw [← byTime vote (mem_filter.mp listed).1 other (mem_filter.mp listed').1 sameTime, voted]

theorem equalTimes_diverge : Processable sampleGovernance (sampleContext false) sampleObject
        [objectVote 1 [7], objectVote 2 [7]] ∧
      (afterVotes sampleGovernance (sampleContext false) sampleObject
        [objectVote 1 [7], objectVote 2 [7]]).countMatchingVotes 1 1 = 0 ∧
      (afterVotes sampleGovernance (sampleContext false) sampleObject
        [objectVote 2 [7], objectVote 1 [7]]).countMatchingVotes 1 1 = 1 :=
  ⟨⟨rfl, by decide +kernel, by decide +kernel, fun _ _ => rfl⟩, by decide +kernel,
    by decide +kernel⟩

end

section

def afterMessages (params : GovernanceParams) (manager : CGovernanceManager)
    (messages : List (GovernanceContext × CGovernanceVote)) : CGovernanceManager :=
  messages.foldl (fun manager message => (manager.processVote params message.1 message.2).1) manager

theorem afterMessages_early {nHash : Uint256} (unknown : manager.mapObjects.lookup nHash = none)
    (about : ∀ message ∈ messages, message.2.nParentHash = nHash) :
    (afterMessages params manager messages).mapObjects = manager.mapObjects := by
  induction messages generalizing manager with
  | nil => rfl
  | cons message rest ih =>
    have same : (manager.processVote params message.1 message.2).1.mapObjects =
        manager.mapObjects := by
      unfold CGovernanceManager.processVote
      rw [about message mem_cons_self, unknown]
      split_ifs <;> rfl
    refine (ih (same ▸ unknown) fun other member => about other ?_).trans same
    exact mem_cons_of_mem _ member

theorem checkOrphanVotes_kept {govobj : VotedObject} :
    (manager.checkOrphanVotes params ctx govobj).1.mapObjects = manager.mapObjects ∧
      (manager.checkOrphanVotes params ctx govobj).1.cmapVoteToObject =
        manager.cmapVoteToObject := by
  unfold CGovernanceManager.checkOrphanVotes
  refine List.foldlRecOn (motive := fun state : CGovernanceManager × VotedObject =>
    state.1.mapObjects = manager.mapObjects ∧
      state.1.cmapVoteToObject = manager.cmapVoteToObject) _ _ ⟨rfl, rfl⟩ ?_
  rintro ⟨other, object⟩ kept pairVote -
  unfold CGovernanceManager.checkOrphanVote
  dsimp only
  split_ifs
  · exact kept
  · split <;> exact kept

variable (object vote)

def VotedObject.counts : Prop :=
  (object.mapCurrentMNVotes.lookup (vote.masternodeOutpoint, vote.getSignal)).map (·.eOutcome) =
    some vote.nVoteOutcome

theorem earlyVotes_counted_iff (params : GovernanceParams) (ctx : GovernanceContext)
    (manager : CGovernanceManager) (govobj : VotedObject)
    (messages : List (GovernanceContext × CGovernanceVote))
    (unknown : manager.mapObjects.lookup govobj.hash = none)
    (about : ∀ message ∈ messages, message.2.nParentHash = govobj.hash) :
    (∃ stored, ((afterMessages params manager messages).addGovernanceObject params ctx govobj true
        true).1.mapObjects.lookup govobj.hash = some stored ∧
      ∀ message ∈ messages, stored.counts message.2) ↔
    ∀ message ∈ messages, govobj.counts message.2 := by
  have added : ((afterMessages params manager messages).addGovernanceObject params ctx govobj true
      true).1.mapObjects.lookup govobj.hash = some govobj := by
    simp only [CGovernanceManager.addGovernanceObject, afterMessages_early unknown about, unknown,
      Option.isSome_none, Bool.not_true, Bool.or_self, Bool.false_eq_true, if_false,
      checkOrphanVotes_kept.1, AList.lookup_insert]
  rw [added]
  constructor
  · rintro ⟨stored, same, counted⟩
    cases same
    exact counted
  · intro counted
    exact ⟨govobj, rfl, counted⟩

def emptyManager : CGovernanceManager := ⟨∅, [], [], []⟩

theorem earlyVotes_counted_iff_sample : ∃ stored, ((afterMessages sampleGovernance emptyManager
        [(sampleContext true, objectVote 1 [7]), (sampleContext true, voteAt 9100 1 [7])]
        ).addGovernanceObject sampleGovernance (sampleContext true) (votedObject 1) true
        true).1.mapObjects.lookup 5 = some stored ∧
      ∀ message ∈ [(sampleContext true, objectVote 1 [7]), (sampleContext true, voteAt 9100 1 [7])],
        stored.counts message.2 := by
  refine (earlyVotes_counted_iff _ _ emptyManager (votedObject 1) _ rfl (by simp; decide)).mpr ?_
  simp only [mem_cons, not_mem_nil, or_false, forall_eq_or_imp, forall_eq]
  exact ⟨by rfl, by rfl⟩

/-- Two masternodes vote early. Only the first of the votes is kept for the object, and it is
counted for the caller's object only. -/
theorem earlyVotes_lost :
    let ctx := { sampleContext true with getMasternodeInfo := fun _ => some [7] }
    let other := { objectVote 1 [7] with masternodeOutpoint := ⟨2, 0⟩ }
    (objectVote 1 [7]).isValid sampleGovernance ctx = true ∧
      other.isValid sampleGovernance ctx = true ∧
      let (manager, govobj) := (afterMessages sampleGovernance emptyManager
        [(ctx, objectVote 1 [7]), (ctx, other)]).addGovernanceObject sampleGovernance ctx
          sampleObject true true
      govobj.countMatchingVotes 1 1 = 1 ∧ manager.cmmapOrphanVotes = [] ∧
        (manager.mapObjects.lookup 5).map (·.countMatchingVotes 1 1) = some 0 := by
  refine ⟨by decide, by decide, by decide, by decide, by decide⟩

end

section

def acceptedVotes (params : GovernanceParams) :
    VotedObject → List (GovernanceContext × CGovernanceVote) → List (Int64 × CGovernanceVote)
  | _, [] => []
  | object, message :: rest =>
      let (after, result) := object.processVote params message.1 message.2
      if result = .accepted then
        (message.1.adjustedTime, message.2) :: acceptedVotes params after rest
      else acceptedVotes params after rest

def RateLimited (accepted : List (Int64 × CGovernanceVote)) : Prop :=
  accepted.Pairwise fun earlier later => earlier.2.slot = later.2.slot →
    GOVERNANCE_UPDATE_MIN.toInt ≤ later.1.toInt - earlier.1.toInt

section

variable (params object)

/-- The vote comes after the first hour, is valid, and neither filed nor older than what is filed
for its masternode and signal. -/
structure Eligible (message : GovernanceContext × CGovernanceVote) : Prop where
  late : ¬ message.1.adjustedTime < GOVERNANCE_UPDATE_MIN
  valid : message.2.isValid params message.1 = true
  unknown : object.hasVote params (message.2.getHash params) = false
  current : ∃ key, message.2.slot = some key ∧
    ¬ message.2.nTime < (object.instanceOf key).nCreationTime

/-- `vote` is another vote, and not an older one of the same masternode and signal. -/
def NotBehind (vote earlier : CGovernanceVote) : Prop :=
  earlier.getHash params ≠ vote.getHash params ∧
    (earlier.slot = vote.slot → ¬ vote.nTime < earlier.nTime)

def Stands (earlier : List (GovernanceContext × CGovernanceVote))
    (message : GovernanceContext × CGovernanceVote) : Prop :=
  Eligible params object message ∧
    ∀ other ∈ earlier, Eligible params object other → NotBehind params message.2 other.2

/-- The senders keep the limit: of the votes that stand when they come, any two of a masternode and
signal are an hour apart. -/
def SentSpaced (messages : List (GovernanceContext × CGovernanceVote)) : Prop :=
  ∀ i j message later, i < j → messages[i]? = some message → messages[j]? = some later →
    Stands params object (messages.take i) message →
    Stands params object (messages.take j) later → message.2.slot = later.2.slot →
    GOVERNANCE_UPDATE_MIN.toInt ≤ later.1.adjustedTime.toInt - message.1.adjustedTime.toInt

/-- What the hash covers agrees for votes with one hash. -/
def HashesTell (messages : List (GovernanceContext × CGovernanceVote)) : Prop :=
  ∀ one ∈ messages, ∀ two ∈ messages, one.2.getHash params = two.2.getHash params →
    one.2.slot = two.2.slot ∧ one.2.nTime = two.2.nTime

instance : Decidable (HashesTell params messages) :=
  inferInstanceAs (Decidable (∀ one ∈ messages, ∀ two ∈ messages, _ → _))

/-- The object `current` has processed the messages `earlier`. -/
structure Follows (earlier : List (GovernanceContext × CGovernanceVote)) (current : VotedObject) :
    Prop where
  never : ∀ key, (current.instanceOf key).nTime = 0
  accepts : ∀ message : GovernanceContext × CGovernanceVote,
    message.1.fRateChecksEnabled = true → HashesTell params (message :: earlier) →
    ((∃ key, Accepts params message.1 current message.2 key) ↔ Stands params object earlier message)

end

variable {current : VotedObject} {earlier : List (GovernanceContext × CGovernanceVote)}
  {message : GovernanceContext × CGovernanceVote}

theorem accepts_congr (same : sameVotes object after) {key : COutPoint × Nat} :
    Accepts params ctx after vote key ↔ Accepts params ctx object vote key := by
  have unknown (nHash : Uint256) : after.hasVote params nHash = object.hasVote params nHash := by
    rw [hasVote, same.2]
    rfl
  constructor
  · rintro ⟨fresh, slot, current, spaced, valid⟩
    exact ⟨unknown _ ▸ fresh, slot, same.1 ▸ current, same.1 ▸ spaced, valid⟩
  · rintro ⟨fresh, slot, current, spaced, valid⟩
    exact ⟨(unknown _).trans fresh, slot, same.1 ▸ current, same.1 ▸ spaced, valid⟩

theorem follows_start (never : ∀ key, (object.instanceOf key).nTime = 0) :
    Follows params object [] object := by
  refine ⟨never, fun message enabled _ => ⟨?_, ?_⟩⟩
  · rintro ⟨key, unknown, slot, current, spaced, valid⟩
    refine ⟨⟨?_, valid, unknown, key, slot, current⟩, by simp⟩
    simpa [never key] using spaced enabled
  · rintro ⟨⟨late, valid, unknown, key, slot, current⟩, -⟩
    exact ⟨key, unknown, slot, current, fun _ => by simpa [never key] using late, valid⟩

theorem stands_concat : Stands params object (earlier ++ [message]) (ctx, vote) ↔
    Stands params object earlier (ctx, vote) ∧
      (Eligible params object message → NotBehind params vote message.2) := by
  simp only [Stands, mem_append, mem_singleton, or_imp, forall_and, forall_eq, and_assoc]

/-- An eligible vote that an earlier one outdates outdates nothing that this one does not. -/
theorem notBehind_of_outdated {outdated : GovernanceContext × CGovernanceVote}
    (tell : HashesTell params (message :: (earlier ++ [outdated])))
    (stands : Stands params object earlier message)
    (refused : ¬ Stands params object earlier outdated)
    (eligible : Eligible params object outdated) : NotBehind params message.2 outdated.2 := by
  obtain ⟨other, member, able, behind⟩ : ∃ other ∈ earlier, Eligible params object other ∧
      ¬ NotBehind params outdated.2 other.2 := by
    by_contra! all
    exact refused ⟨eligible, all⟩
  obtain ⟨different, newer⟩ := stands.2 other member able
  by_cases same : other.2.getHash params = outdated.2.getHash params
  · obtain ⟨slot, time⟩ := tell other (by simp [member]) outdated (by simp) same
    exact ⟨same ▸ different, fun together => time ▸ newer (slot.trans together)⟩
  · have older : other.2.slot = outdated.2.slot ∧ outdated.2.nTime < other.2.nTime := by
      by_contra newer
      exact behind ⟨same, fun slot less => newer ⟨slot, less⟩⟩
    rw [lt_iff] at older
    refine ⟨fun equal => ?_, fun together => ?_⟩
    · obtain ⟨slot, time⟩ := tell outdated (by simp) message (by simp) equal
      have notOlder := newer (older.1.trans slot)
      rw [lt_iff, ← time] at notOlder
      exact notOlder older.2
    · have notOlder := newer (older.1.trans together)
      rw [lt_iff] at notOlder ⊢
      omega

theorem accepts_accept {place : COutPoint × Nat} {accepted : CGovernanceVote}
    {acceptedAt : GovernanceContext} (accepts : Accepts params acceptedAt object accepted place) :
    Accepts params ctx (object.accept accepted place) vote key ↔
      Accepts params ctx object vote key ∧ NotBehind params vote accepted := by
  have known : (object.accept accepted place).hasVote params (vote.getHash params) = false ↔
      accepted.getHash params ≠ vote.getHash params ∧
        object.hasVote params (vote.getHash params) = false := by
    simp [hasVote, accept]
  have notOlder := accepts.current
  by_cases here : key = place
  · subst here
    constructor
    · rintro ⟨unknown, slot, current, spaced, valid⟩
      rw [instanceOf_accept, if_pos rfl] at current spaced
      obtain ⟨different, unknown⟩ := known.mp unknown
      refine ⟨⟨unknown, slot, ?_, spaced, valid⟩, different, fun _ => current⟩
      rw [lt_iff] at current notOlder ⊢
      exact fun older => current (older.trans_le (not_lt.mp notOlder))
    · rintro ⟨⟨unknown, slot, -, spaced, valid⟩, different, newer⟩
      refine ⟨known.mpr ⟨different, unknown⟩, slot, ?_, ?_, valid⟩
      · rw [instanceOf_accept, if_pos rfl]
        exact newer (accepts.slot.trans slot.symm)
      · rwa [instanceOf_accept, if_pos rfl]
  · constructor
    · rintro ⟨unknown, slot, current, spaced, valid⟩
      rw [instanceOf_accept, if_neg here] at current spaced
      obtain ⟨different, unknown⟩ := known.mp unknown
      exact ⟨⟨unknown, slot, current, spaced, valid⟩, different, fun together =>
        absurd (Option.some.inj (slot.symm.trans (together.symm.trans accepts.slot))) here⟩
    · rintro ⟨⟨unknown, slot, current, spaced, valid⟩, different, -⟩
      refine ⟨known.mpr ⟨different, unknown⟩, slot, ?_, ?_, valid⟩
      · rwa [instanceOf_accept, if_neg here]
      · rwa [instanceOf_accept, if_neg here]

theorem follows_step (follows : Follows params object earlier current)
    (enabled : message.1.fRateChecksEnabled = true)
    (tell : HashesTell params (message :: earlier)) :
    ((current.processVote params message.1 message.2).2 = .accepted ↔
      Stands params object earlier message) ∧
    Follows params object (earlier ++ [message])
      (current.processVote params message.1 message.2).1 := by
  have shorter {other : GovernanceContext × CGovernanceVote}
      (tells : HashesTell params (other :: (earlier ++ [message]))) :
      HashesTell params (other :: earlier) := fun one first two second =>
    tells one (by simp at first ⊢; tauto) two (by simp at second ⊢; tauto)
  rcases processVote_cases params message.1 current message.2 with
    ⟨place, accepts, done⟩ | ⟨refused, no, kept⟩
  · have stands := (follows.accepts message enabled tell).mp ⟨place, accepts⟩
    rw [done]
    refine ⟨iff_of_true rfl stands, fun key => ?_, fun other on tells => ?_⟩
    · rw [instanceOf_accept]
      split
      · exact follows.never place
      · exact follows.never key
    · rw [stands_concat, ← follows.accepts other on (shorter tells)]
      simp only [accepts_accept _ accepts, exists_and_right]
      exact and_congr_right fun _ => ⟨fun holds _ => holds, fun holds => holds stands.1⟩
  · have fallen : ¬ Stands params object earlier message := fun stands =>
      ((follows.accepts message enabled tell).mpr stands).elim refused
    refine ⟨iff_of_false no fallen, fun key => kept.1 ▸ follows.never key,
      fun other on tells => ?_⟩
    rw [stands_concat, ← follows.accepts other on (shorter tells)]
    simp only [accepts_congr kept]
    refine ⟨fun accepts => ⟨accepts, ?_⟩, And.left⟩
    exact notBehind_of_outdated tells ((follows.accepts other on (shorter tells)).mp accepts) fallen

theorem acceptedVotes_cons {rest : List (GovernanceContext × CGovernanceVote)} :
    acceptedVotes params object (message :: rest) =
      (if (object.processVote params message.1 message.2).2 = .accepted then
        [(message.1.adjustedTime, message.2)] else []) ++
      acceptedVotes params (object.processVote params message.1 message.2).1 rest := by
  simp only [acceptedVotes]
  split_ifs <;> rfl

theorem hashesTell_head {rest : List (GovernanceContext × CGovernanceVote)}
    (tell : HashesTell params (earlier ++ message :: rest)) :
    HashesTell params (message :: earlier) ∧ HashesTell params (earlier ++ [message] ++ rest) := by
  refine ⟨fun one first two second => tell one ?_ two ?_, by simpa using tell⟩
  · exact (mem_cons.mp first).elim (by rintro rfl; simp) (mem_append_left _)
  · exact (mem_cons.mp second).elim (by rintro rfl; simp) (mem_append_left _)

section

variable {rest : List (GovernanceContext × CGovernanceVote)}
  (follows : Follows params object earlier current)
  (enabled : ∀ message ∈ rest, message.1.fRateChecksEnabled = true)
  (tell : HashesTell params (earlier ++ rest))
include follows enabled tell

theorem mem_acceptedVotes {accepted : Int64 × CGovernanceVote} :
    accepted ∈ acceptedVotes params current rest ↔ ∃ i message, rest[i]? = some message ∧
      Stands params object (earlier ++ rest.take i) message ∧
        accepted = (message.1.adjustedTime, message.2) := by
  induction rest generalizing earlier current with
  | nil => simp [acceptedVotes]
  | cons message rest ih =>
    obtain ⟨heads, tails⟩ := hashesTell_head tell
    obtain ⟨outcome, next⟩ := follows_step follows (enabled message mem_cons_self) heads
    rw [acceptedVotes_cons, mem_append,
      ih next (fun other member => enabled other (mem_cons_of_mem _ member)) tails]
    constructor
    · rintro (first | ⟨i, sent, listed, stands, same⟩)
      · split_ifs at first with accept
        · exact ⟨0, message, rfl, by simpa using outcome.mp accept, mem_singleton.mp first⟩
        · cases first
      · exact ⟨i + 1, sent, listed, by simpa using stands, same⟩
    · rintro ⟨_ | i, sent, listed, stands, same⟩
      · cases listed
        rw [take_zero, append_nil] at stands
        rw [if_pos (outcome.mpr stands)]
        exact .inl (mem_singleton.mpr same)
      · exact .inr ⟨i, sent, listed, by simpa using stands, same⟩

theorem rateLimited_acceptedVotes : RateLimited (acceptedVotes params current rest) ↔
    ∀ i j message later, i < j → rest[i]? = some message → rest[j]? = some later →
      Stands params object (earlier ++ rest.take i) message →
      Stands params object (earlier ++ rest.take j) later → message.2.slot = later.2.slot →
      GOVERNANCE_UPDATE_MIN.toInt ≤ later.1.adjustedTime.toInt - message.1.adjustedTime.toInt := by
  induction rest generalizing earlier current with
  | nil => simp [acceptedVotes, RateLimited]
  | cons message rest ih =>
    obtain ⟨heads, tails⟩ := hashesTell_head tell
    obtain ⟨outcome, next⟩ := follows_step follows (enabled message mem_cons_self) heads
    have others := fun other member => enabled other (mem_cons_of_mem message member)
    rw [acceptedVotes_cons, RateLimited, pairwise_append, ← RateLimited, ← RateLimited,
      ih next others tails]
    constructor
    · rintro ⟨-, spaced, apart⟩ i (_ | j) sent later less listed laterListed stands laterStands
      · omega
      cases i with
      | zero =>
        cases listed
        rw [take_zero, append_nil] at stands
        rw [if_pos (outcome.mpr stands)] at apart
        refine apart _ mem_cons_self (later.1.adjustedTime, later.2) ?_
        exact (mem_acceptedVotes next others tails).mpr
          ⟨j, later, laterListed, by simpa using laterStands, rfl⟩
      | succ i =>
        exact spaced i j sent later (by omega) listed laterListed (by simpa using stands)
          (by simpa using laterStands)
    · intro spaced
      refine ⟨?_, fun i j sent later less listed laterListed stands laterStands => ?_,
        fun first member accepted laterMember => ?_⟩
      · split_ifs
        · exact pairwise_singleton _ _
        · exact Pairwise.nil
      · exact spaced (i + 1) (j + 1) sent later (by omega) listed laterListed
          (by simpa using stands) (by simpa using laterStands)
      · split_ifs at member with accept
        · obtain rfl := mem_singleton.mp member
          obtain ⟨j, later, laterListed, laterStands, rfl⟩ :=
            (mem_acceptedVotes next others tails).mp laterMember
          exact spaced 0 (j + 1) message later (by omega) rfl laterListed
            (by simpa using outcome.mp accept) (by simpa using laterStands)
        · cases member

end

theorem rateLimited_iff (params : GovernanceParams) (object : VotedObject)
    (messages : List (GovernanceContext × CGovernanceVote))
    (never : ∀ key, (object.instanceOf key).nTime = 0)
    (enabled : ∀ message ∈ messages, message.1.fRateChecksEnabled = true)
    (tell : HashesTell params messages) :
    RateLimited (acceptedVotes params object messages) ↔ SentSpaced params object messages :=
  rateLimited_acceptedVotes (follows_start never) enabled tell

theorem rateLimited_iff_sample : RateLimited (acceptedVotes sampleGovernance sampleObject
      [(sampleContext true, voteAt 9000 1 [7]), (sampleContext true, voteAt 8000 2 [7]),
        ({ sampleContext true with adjustedTime := 14000 }, voteAt 9500 2 [7])]) := by
  refine (rateLimited_iff _ _ _ (fun key => rfl) (by simp [sampleContext]) (by decide +kernel)).mpr
    ?_
  rintro i (_ | _ | _ | j) message later less listed laterListed stands ⟨-, laterStands⟩ -
  · omega
  · obtain rfl : i = 0 := by omega
    cases listed
    cases laterListed
    exact absurd (by decide) ((laterStands _ mem_cons_self stands.1).2 rfl)
  · cases laterListed
    have early : message.1.adjustedTime = 10000 := by
      obtain rfl | rfl : i = 0 ∨ i = 1 := by omega
      all_goals cases listed; rfl
    rw [early]
    decide
  · cases laterListed

theorem votes_accepted_at_once : (sampleContext true).fRateChecksEnabled = true ∧
      acceptedVotes sampleGovernance sampleObject
        [(sampleContext true, objectVote 1 [7]), (sampleContext true, objectVote 2 [7])] =
          [(10000, objectVote 1 [7]), (10000, objectVote 2 [7])] ∧
      (objectVote 1 [7]).slot = (objectVote 2 [7]).slot :=
  ⟨rfl, by decide +kernel, by decide⟩

end

section

section

variable (params vote)

def isSigned (message : GovernanceContext × CGovernanceVote) : Bool :=
  (message.1.getMasternodeInfo message.2.masternodeOutpoint).any (message.2.signedBy params)

/-- The object of the vote is there and live, and neither it nor the caches stand against it. -/
structure Awaits (key : COutPoint × Nat) (manager : CGovernanceManager) : Prop where
  unseen : vote.getHash params ∉ manager.cmapVoteToObject
  unmarked : vote.getHash params ∉ manager.cmapInvalidVotes
  live : ∃ govobj, manager.mapObjects.lookup vote.nParentHash = some govobj ∧
    (govobj.fCachedDelete || govobj.fExpired) = false ∧
    govobj.hasVote params (vote.getHash params) = false ∧ (govobj.instanceOf key).nTime = 0 ∧
    ¬ vote.nTime < (govobj.instanceOf key).nCreationTime

end

theorem processVote_flags {vote : CGovernanceVote} :
    (object.processVote params ctx vote).1.fCachedDelete = object.fCachedDelete ∧
      (object.processVote params ctx vote).1.fExpired = object.fExpired := by
  unfold processVote judgeVote
  dsimp only
  split_ifs <;> exact ⟨rfl, rfl⟩

theorem not_mem_cacheInsert {nMaxSize : Nat} {keys : List Uint256} {key other : Uint256}
    (missing : key ∉ keys) (different : key ≠ other) : key ∉ cacheInsert nMaxSize keys other := by
  unfold cacheInsert pruneLast
  split_ifs
  · exact missing
  · exact fun member => (mem_cons.mp member).elim different fun kept =>
      missing (dropLast_subset _ kept)
  · exact fun member => (mem_cons.mp member).elim different missing

theorem isSigned_of_isValid (enforced : ctx.newSigs = true)
    (valid : vote.isValid params ctx = true) : isSigned params (ctx, vote) = true := by
  have signed : vote.checkSignature params ctx = vote.signedBy params := by
    funext pubKeyMasternode
    simp [checkSignature, enforced]
  simp only [isValid, signed, Bool.and_eq_true] at valid
  exact valid.2

theorem awaits_processVote {key : COutPoint × Nat} (awaits : Awaits params vote key manager)
    {message : GovernanceContext × CGovernanceVote} (enforced : message.1.newSigs = true)
    (different : message.2.getHash params ≠ vote.getHash params)
    (current : isSigned params message = true → message.2.nParentHash = vote.nParentHash →
      message.2.slot = some key → ¬ vote.nTime < message.2.nTime) :
    Awaits params vote key (manager.processVote params message.1 message.2).1 := by
  obtain ⟨ctx, other⟩ := message
  obtain ⟨unseen, unmarked, govobj, found, flags, unknown, never, notOlder⟩ := awaits
  unfold CGovernanceManager.processVote
  split_ifs
  · exact ⟨unseen, unmarked, govobj, found, flags, unknown, never, notOlder⟩
  · exact ⟨unseen, unmarked, govobj, found, flags, unknown, never, notOlder⟩
  cases parent : manager.mapObjects.lookup other.nParentHash with
  | none => exact ⟨unseen, unmarked, govobj, found, flags, unknown, never, notOlder⟩
  | some target =>
    dsimp only
    split_ifs
    · exact ⟨unseen, unmarked, govobj, found, flags, unknown, never, notOlder⟩
    have stored : Awaits params vote key { manager with
        mapObjects := manager.mapObjects.insert other.nParentHash
          (target.processVote params ctx other).1 } := by
      refine ⟨unseen, unmarked, ?_⟩
      by_cases same : other.nParentHash = vote.nParentHash
      · rw [same, found] at parent
        cases parent
        obtain ⟨deleted, expired⟩ := processVote_flags
        refine ⟨(govobj.processVote params ctx other).1, by simp [same],
          by rw [deleted, expired, flags], ?_⟩
        rcases processVote_cases params ctx govobj other with
          ⟨place, accepts, done⟩ | ⟨-, -, kept⟩
        · rw [done, instanceOf_accept]
          refine ⟨by simpa [hasVote, accept, different] using unknown, ?_⟩
          split_ifs with here
          · subst here
            exact ⟨never, current (isSigned_of_isValid enforced accepts.valid) same accepts.slot⟩
          · exact ⟨never, notOlder⟩
        · rw [kept.1, hasVote, kept.2]
          exact ⟨unknown, never, notOlder⟩
      · exact ⟨govobj, by rwa [AList.lookup_insert_ne (Ne.symm same)], flags, unknown, never,
          notOlder⟩
    cases result : (target.processVote params ctx other).2 with
    | accepted => exact ⟨not_mem_cacheInsert unseen different.symm, stored.unmarked, stored.live⟩
    | invalid => exact ⟨stored.unseen, not_mem_cacheInsert unmarked different.symm, stored.live⟩
    | _ => exact stored

theorem signedVote_accepted (params : GovernanceParams) (ctx : GovernanceContext)
    (manager : CGovernanceManager) (vote : CGovernanceVote) (key : COutPoint × Nat)
    (messages : List (GovernanceContext × CGovernanceVote))
    (awaits : Awaits params vote key manager) (valid : vote.isValid params ctx = true)
    (slot : vote.slot = some key) (late : ¬ ctx.adjustedTime < GOVERNANCE_UPDATE_MIN)
    (fresh : ∀ message ∈ messages, isSigned params message = true → message.2.getHash params ≠
      vote.getHash params)
    (notObsolete : ∀ message ∈ messages, isSigned params message = true → message.2.nParentHash =
      vote.nParentHash → message.2.slot = some key → ¬ vote.nTime < message.2.nTime)
    (enforced : ∀ message ∈ messages, message.1.newSigs = true)
    (notForged : ∀ message ∈ messages, isSigned params message = false → message.2.getHash params ≠
      vote.getHash params) :
    ((afterMessages params manager messages).processVote params ctx vote).2 = true := by
  have waiting : Awaits params vote key (afterMessages params manager messages) := by
    refine List.foldlRecOn messages _ awaits fun before holds message member =>
      awaits_processVote holds (enforced message member) ?_ (notObsolete message member)
    cases signed : isSigned params message with
    | false => exact notForged message member signed
    | true => exact fresh message member signed
  obtain ⟨unseen, unmarked, govobj, found, flags, unknown, never, notOlder⟩ := waiting
  have accepts : Accepts params ctx govobj vote key :=
    ⟨unknown, slot, notOlder, fun _ => by simpa [never] using late, valid⟩
  unfold CGovernanceManager.processVote
  rw [if_neg unseen, if_neg unmarked, found]
  rcases processVote_cases params ctx govobj vote with ⟨place, -, done⟩ | ⟨refused, -⟩
  · simp [flags, done]
  · exact absurd accepts (refused key)

def sampleManager : CGovernanceManager :=
  ⟨(∅ : StdMap.Map Uint256 VotedObject).insert 5 sampleObject, [], [], []⟩

theorem sampleManager_awaits :
    Awaits sampleGovernance (objectVote 1 [7]) (⟨1, 0⟩, 1) sampleManager :=
  ⟨by decide, by decide, sampleObject, rfl, rfl, rfl, rfl, by decide⟩

theorem signedVote_accepted_sample : ((afterMessages sampleGovernance sampleManager
      [(sampleContext true, objectVote 2 [8])]).processVote sampleGovernance (sampleContext true)
        (objectVote 1 [7])).2 = true :=
  signedVote_accepted _ _ _ _ (⟨1, 0⟩, 1) _ sampleManager_awaits (by decide)
    (by decide) (by decide) (by decide) (by decide) (by decide) (by decide +kernel)

theorem forgedVote_censors :
    isSigned sampleGovernance (sampleContext true, objectVote 1 [8]) = false ∧
      (objectVote 1 [7]).isValid sampleGovernance (sampleContext true) = true ∧
      (sampleManager.processVote sampleGovernance (sampleContext true)
        (objectVote 1 [7])).2 = true ∧
      ((afterMessages sampleGovernance sampleManager
        [(sampleContext true, objectVote 1 [8])]).processVote sampleGovernance (sampleContext true)
          (objectVote 1 [7])).2 = false :=
  ⟨by decide +kernel, by decide +kernel, by decide +kernel, by decide +kernel⟩

end

end Minerium
