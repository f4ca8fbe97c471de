import Minerium.GovernanceOrphanCore
import Minerium.GovernanceVotes

/-! Orphans of the governance over time. A masternode has at most one orphan vote for an object. -/

namespace Minerium

open List ObjectManager VotedObject

variable {params : GovernanceParams}

section

variable {ctx : ObjectContext} {state : ObjectManager} {origin : Uint256 → Int64 × Int64}

/-- `origin` says from whom and when an object was received. -/
def Overdue (origin : Uint256 → Int64 × Int64) (ctx : ObjectContext) (orphan : OrphanObject) :
    Prop :=
  (origin orphan.govobj.hash).2 + GOVERNANCE_ORPHAN_EXPIRATION_TIME < ctx.adjustedTime

inductive OrphansReached (params : GovernanceParams) :
    ObjectManager → (Uint256 → Int64 × Int64) → Prop
  | start (manager : CGovernanceManager) (origin : Uint256 → Int64 × Int64) :
      OrphansReached params ⟨manager, ∅, ∅⟩ origin
  | receive (ctx : ObjectContext) (peer : Int64) (govobj : VotedObject) (outpoint : COutPoint)
      {state : ObjectManager} {origin origin' : Uint256 → Int64 × Int64}
      (reached : OrphansReached params state origin)
      (stored : ∀ nHash, (state.mapMasternodeOrphanObjects.lookup nHash).isSome →
        origin' nHash = origin nHash)
      (fresh : (state.mapMasternodeOrphanObjects.lookup govobj.hash).isSome = false →
        origin' govobj.hash = (peer, ctx.adjustedTime)) :
      OrphansReached params (state.receiveObject params ctx peer govobj outpoint).1 origin'
  | check (ctx : ObjectContext) {state : ObjectManager} {origin : Uint256 → Int64 × Int64}
      (reached : OrphansReached params state origin) :
      OrphansReached params (state.checkMasternodeOrphanObjects params ctx).1 origin

def OriginsRecorded (origin : Uint256 → Int64 × Int64) (state : ObjectManager) : Prop :=
  ∀ nHash orphan, state.mapMasternodeOrphanObjects.lookup nHash = some orphan →
    orphan.govobj.hash = nHash ∧ orphan.info = expirationInfo (origin nHash).1
      ((origin nHash).2 + GOVERNANCE_ORPHAN_EXPIRATION_TIME).toInt32

theorem addObject_managed {govobj : VotedObject} {nHash : Uint256} :
    ((state.addObject params ctx govobj).manager.mapObjects.lookup nHash).isSome ↔
      (state.manager.mapObjects.lookup nHash).isSome ∨ govobj.hash = nHash := by
  unfold addObject CGovernanceManager.addGovernanceObject
  by_cases managed : (state.manager.mapObjects.lookup govobj.hash).isSome = true
  · rw [if_pos (by simp [managed])]
    exact ⟨.inl, fun either => either.elim id fun same => same ▸ managed⟩
  · rw [if_neg (by simp [managed])]
    have inserted (stored : VotedObject) :
        ((state.manager.mapObjects.insert govobj.hash stored).lookup nHash).isSome ↔
          (state.manager.mapObjects.lookup nHash).isSome ∨ govobj.hash = nHash := by
      rw [StdMap.lookup_insert_eq]
      split
      · simp [*]
      · simp [Ne.symm ‹_›]
    split
    · exact inserted _
    · rw [checkOrphanVotes_kept.1]
      exact inserted govobj

structure Visited (ctx : ObjectContext) (orphans : List OrphanObject)
    (before after : ObjectManager × List Int64) : Prop where
  managed : ∀ nHash, (after.1.manager.mapObjects.lookup nHash).isSome ↔
    (before.1.manager.mapObjects.lookup nHash).isSome ∨ ∃ orphan ∈ orphans,
      orphan.govobj.hash = nHash ∧ ctx.adjustedTime ≤ orphan.info.nExpirationTime ∧
        ctx.isValidLocally nHash = .valid
  penalised : ∀ peer, peer ∈ after.2 ↔ peer ∈ before.2 ∨ ∃ orphan ∈ orphans,
    ¬ ctx.adjustedTime ≤ orphan.info.nExpirationTime ∧ orphan.info.idFrom = peer
  left : ∀ nHash orphan, after.1.mapMasternodeOrphanObjects.lookup nHash = some orphan →
    before.1.mapMasternodeOrphanObjects.lookup nHash = some orphan

theorem dischargeOrphan_left {orphan other : OrphanObject} {nHash : Uint256}
    (found : (state.dischargeOrphan orphan).mapMasternodeOrphanObjects.lookup nHash = some other) :
    state.mapMasternodeOrphanObjects.lookup nHash = some other := by
  simp only [dischargeOrphan, StdMap.lookup_erase_eq] at found
  split at found
  · cases found
  · exact found

theorem checkOrphanObject_visited (before : ObjectManager × List Int64) (orphan : OrphanObject) :
    Visited ctx [orphan] before (checkOrphanObject params ctx before orphan) := by
  unfold checkOrphanObject
  dsimp only
  split
  · rename_i kept
    cases judged : ctx.isValidLocally orphan.govobj.hash with
    | valid =>
      refine ⟨fun nHash => ?_, by simp [kept], fun _ _ => dischargeOrphan_left⟩
      refine addObject_managed.trans (or_congr_right ?_)
      simp only [mem_singleton, exists_eq_left, kept, true_and]
      exact ⟨fun same => ⟨same, same ▸ judged⟩, And.left⟩
    | masternodeMissing =>
      refine ⟨fun nHash => ?_, by simp [kept], fun _ _ => id⟩
      simpa using fun same _ => by simp [← same, judged]
    | _ =>
      refine ⟨fun nHash => ?_, by simp [kept], fun _ _ => dischargeOrphan_left⟩
      simpa [dischargeOrphan] using fun same _ => by simp [← same, judged]
  · rename_i overdue
    refine ⟨by simp [dischargeOrphan, overdue], fun peer => ?_,
      fun _ _ => dischargeOrphan_left⟩
    rw [mem_cons, or_comm, eq_comm]
    simp only [mem_singleton, exists_eq_left, overdue, not_false_eq_true, true_and]

theorem foldl_visited {orphans : List OrphanObject} (before : ObjectManager × List Int64) :
    Visited ctx orphans before
      (orphans.foldl (checkOrphanObject params ctx) before) := by
  induction orphans generalizing before with
  | nil => exact ⟨by simp, by simp, fun _ _ => id⟩
  | cons orphan rest ih =>
    have first : Visited ctx [orphan] before (checkOrphanObject params ctx before orphan) :=
      checkOrphanObject_visited before orphan
    have later := ih (checkOrphanObject params ctx before orphan)
    refine ⟨fun nHash => ?_, fun peer => ?_, fun nHash other found =>
      first.left nHash other (later.left nHash other found)⟩
    · rw [foldl_cons, later.managed, first.managed, or_assoc]
      simp
    · rw [foldl_cons, later.penalised, first.penalised, or_assoc]
      simp

theorem OrphansReached.recorded (reached : OrphansReached params state origin) :
    OriginsRecorded origin state := by
  induction reached with
  | start manager origin => exact fun nHash orphan found => by simp at found
  | check ctx _ ih =>
    exact fun nHash orphan found => ih nHash orphan ((foldl_visited _).left nHash orphan found)
  | @receive ctx peer govobj outpoint state origin origin' _ stored fresh ih =>
    have kept : OriginsRecorded origin' state := by
      intro nHash orphan found
      rw [stored nHash (by simp [found])]
      exact ih nHash orphan found
    unfold receiveObject
    split
    · exact kept
    · rename_i unseen
      cases ctx.isValidLocally govobj.hash with
      | masternodeMissing =>
        dsimp only [storeOrphan]
        split
        · exact kept
        · intro nHash orphan found
          rw [StdMap.lookup_insert_eq] at found
          split at found
          · rename_i same
            obtain rfl := Option.some.inj found
            rw [same, fresh (by simp_all)]
            exact ⟨rfl, rfl⟩
          · exact kept nHash orphan found
      | _ => exact kept

variable (params ctx state origin)

/-- Objects in time that have become valid are managed after the check, and only peers that
sent an overdue object are penalised. -/
def OrphansWait : Prop :=
  (∀ orphan ∈ state.orphanObjects, ctx.isValidLocally orphan.govobj.hash = .valid →
    ¬ Overdue origin ctx orphan →
    ((state.checkMasternodeOrphanObjects params ctx).1.manager.mapObjects.lookup
      orphan.govobj.hash).isSome) ∧
  ∀ peer ∈ (state.checkMasternodeOrphanObjects params ctx).2, ∃ orphan ∈ state.orphanObjects,
    (origin orphan.govobj.hash).1 = peer ∧ Overdue origin ctx orphan

theorem orphanObjects_wait_iff (params : GovernanceParams) (ctx : ObjectContext)
    (state : ObjectManager) (origin : Uint256 → Int64 × Int64)
    (reached : OrphansReached params state origin) : OrphansWait params ctx state origin ↔
    ∀ orphan ∈ state.orphanObjects,
      (ctx.isValidLocally orphan.govobj.hash = .valid → ¬ Overdue origin ctx orphan →
        ctx.adjustedTime ≤ (origin orphan.govobj.hash).1 ∨
          (state.manager.mapObjects.lookup orphan.govobj.hash).isSome) ∧
      (¬ ctx.adjustedTime ≤ (origin orphan.govobj.hash).1 → ∃ other ∈ state.orphanObjects,
        (origin other.govobj.hash).1 = ((origin orphan.govobj.hash).2 +
          GOVERNANCE_ORPHAN_EXPIRATION_TIME).toInt32.toInt64 ∧ Overdue origin ctx other) := by
  have visited : Visited ctx state.orphanObjects (state, [])
      (state.checkMasternodeOrphanObjects params ctx) := foldl_visited _
  have info : ∀ orphan ∈ state.orphanObjects, orphan.info =
      expirationInfo (origin orphan.govobj.hash).1
        ((origin orphan.govobj.hash).2 + GOVERNANCE_ORPHAN_EXPIRATION_TIME).toInt32 := by
    intro orphan member
    obtain ⟨nHash, -, found⟩ := mem_filterMap.mp member
    obtain ⟨named, recorded⟩ := reached.recorded nHash orphan found
    rw [named, recorded]
  constructor
  · rintro ⟨added, penalised⟩ orphan member
    refine ⟨fun valid waiting => ?_, fun early => ?_⟩
    · rcases (visited.managed _).mp (added orphan member valid waiting) with
        managed | ⟨other, listed, same, kept, -⟩
      · exact .inr managed
      · rw [info other listed, same] at kept
        exact .inl kept
    · have recorded := info orphan member
      refine penalised _ ((visited.penalised _).mpr (.inr ⟨orphan, member, ?_, ?_⟩))
      · rwa [recorded]
      · rw [recorded, expirationInfo]
  · intro condition
    refine ⟨fun orphan member valid waiting => (visited.managed _).mpr ?_, fun peer listed => ?_⟩
    · rcases (condition orphan member).1 valid waiting with kept | managed
      · refine .inr ⟨orphan, member, rfl, ?_, valid⟩
        rwa [info orphan member]
      · exact .inl managed
    · rcases (visited.penalised peer).mp listed with none | ⟨orphan, member, early, same⟩
      · cases none
      · rw [info orphan member] at early same
        obtain ⟨other, listed, sent, overdue⟩ := (condition orphan member).2 early
        exact ⟨other, listed, sent.trans same, overdue⟩

def orphanContext (adjustedTime : Int64) (validity : LocalValidity) : ObjectContext :=
  { sampleContext true with
    adjustedTime := adjustedTime
    isValidLocally := fun _ => validity
    addNewTrigger := fun _ => true }

def orphanState (peer : Int64) : ObjectManager :=
  (receiveObject sampleGovernance (orphanContext 1000 .masternodeMissing)
    ⟨emptyManager, ∅, ∅⟩ peer sampleObject ⟨1, 0⟩).1

theorem orphanObjects_wait_iff_sample :
    OrphansWait sampleGovernance (orphanContext 1001 .valid) (orphanState 5000)
      fun _ => (5000, 1000) := by
  refine (orphanObjects_wait_iff _ _ _ _ (.receive _ _ _ _ (.start _ _) (fun _ _ => rfl)
    fun _ => rfl)).mpr fun orphan member => ⟨fun _ _ => .inl (by decide), fun early => ?_⟩
  exact absurd (by decide) early

theorem orphanObject_dropped : (orphanState 3).orphanObjects.map (·.govobj.hash) = [5] ∧
      let after := (orphanState 3).checkMasternodeOrphanObjects sampleGovernance
        (orphanContext 1001 .valid)
      (after.1.manager.mapObjects.lookup 5).isNone = true ∧ after.2 = [1600] :=
  ⟨by decide, by decide, by decide⟩

end

section

variable {ctx : GovernanceContext} {object current : VotedObject} {items : OrphanVotes COutPoint}
  {key : COutPoint} {item : COutPoint × CGovernanceVote × Int64}
  {value : CGovernanceVote × Int64}

theorem equivalent_always (a b : CGovernanceVote × Int64) : VoteTimePair.equivalent a b = true := by
  have never (vote other : CGovernanceVote) : vote.less other = false := by
    by_cases same : vote.nVoteOutcome = other.nVoteOutcome <;> simp [CGovernanceVote.less, same]
  simp only [VoteTimePair.equivalent, VoteTimePair.less, never, Bool.not_false, Bool.and_self]

def OneEach (items : OrphanVotes COutPoint) : Prop := (items.map Prod.fst).Nodup

theorem insert_eq : items.insert 0 key value =
    if key ∈ items.map Prod.fst then items else (key, value) :: items := by
  have unpruned : pruneLast 0 items = items := by
    cases items <;> rfl
  simp only [OrphanVotes.insert, equivalent_always, Bool.and_true, unpruned, any_eq_true,
    decide_eq_true_eq, mem_map]

theorem erase_eq (one : OneEach items) :
    items.erase key value = items.filter fun other => decide (other.1 ≠ key) := by
  simp only [OrphanVotes.erase, equivalent_always, Bool.and_true]
  induction items with
  | nil => rfl
  | cons first rest ih =>
    obtain ⟨apart, others⟩ := nodup_cons.mp one
    by_cases here : first.1 = key
    · rw [eraseP_cons_of_pos (by simpa using here), filter_cons_of_neg (by simp [here])]
      refine (filter_eq_self.mpr fun other member => ?_).symm
      rw [decide_eq_true_eq]
      exact fun same => apart (mem_map.mpr ⟨other, member, same.trans here.symm⟩)
    · rw [eraseP_cons_of_neg (by simp [here]), filter_cons_of_pos (by simp [here]), ih others]

theorem processVote_orphans {vote : CGovernanceVote} :
    (object.processVote params ctx vote).1.cmmapOrphanVotes = object.cmmapOrphanVotes ∨
      vote.masternodeOutpoint ∉ object.cmmapOrphanVotes.map Prod.fst ∧
        (object.processVote params ctx vote).1.cmmapOrphanVotes =
          (vote.masternodeOutpoint, vote, ctx.adjustedTime + GOVERNANCE_ORPHAN_EXPIRATION_TIME) ::
            object.cmmapOrphanVotes := by
  unfold processVote judgeVote
  dsimp only
  split_ifs
  · exact .inl rfl
  · rw [insert_eq]
    split_ifs with present
    · exact .inl rfl
    · exact .inr ⟨present, rfl⟩
  all_goals exact .inl rfl

/-- A vote of a masternode that is still unknown is removed exactly if it has expired. That it is
processed before changes nothing, since it is in its own way. -/
theorem checkOrphanVote_orphans (one : OneEach current.cmmapOrphanVotes)
    (member : item ∈ current.cmmapOrphanVotes) (keyed : item.2.1.masternodeOutpoint = item.1) :
    ∃ removed : Bool, (current.checkOrphanVote params ctx item).cmmapOrphanVotes =
        current.cmmapOrphanVotes.filter (fun other => !(removed && decide (other.1 = item.1))) ∧
      (ctx.getMasternodeInfo item.1 = none →
        removed = decide (item.2.2 < ctx.adjustedTime)) := by
  obtain ⟨key, vote, expiry⟩ := item
  have same : (current.processVote params ctx vote).1.cmmapOrphanVotes =
      current.cmmapOrphanVotes := by
    refine processVote_orphans.resolve_right fun fresh => fresh.1 (mem_map.mpr ?_)
    exact ⟨_, member, keyed.symm⟩
  have unknown : ctx.getMasternodeInfo key = none → (current.processVote params ctx vote).2 ≠
      .accepted := by
    intro missing
    have orphan : (ctx.getMasternodeInfo vote.masternodeOutpoint).isNone = true := by
      rw [show vote.masternodeOutpoint = key from keyed, missing]
      rfl
    rw [processVote, if_pos orphan]
    split_ifs <;> simp
  unfold checkOrphanVote
  dsimp only
  split_ifs with waits gone
  · refine ⟨false, by simp, fun _ => ?_⟩
    simp only [Bool.and_eq_true, Bool.not_eq_true'] at waits
    exact waits.1.symm
  · refine ⟨true, ?_, fun missing => ?_⟩
    · simp only [same, erase_eq one, Bool.true_and, decide_not]
    · simp only [Bool.or_eq_true, decide_eq_true_eq] at gone
      exact (decide_eq_true (gone.resolve_right (unknown missing))).symm
  · refine ⟨false, by simp [same], fun _ => ?_⟩
    simp only [Bool.or_eq_true, not_or] at gone
    exact (Bool.eq_false_iff.mpr gone.1).symm

section

variable {visited : OrphanVotes COutPoint} (one : OneEach current.cmmapOrphanVotes)
include one

theorem foldl_checkOrphanVote (apart : OneEach visited)
    (listed : ∀ item ∈ visited, item ∈ current.cmmapOrphanVotes ∧
      item.2.1.masternodeOutpoint = item.1) :
    let after := visited.foldl (checkOrphanVote params ctx) current
    OneEach after.cmmapOrphanVotes ∧ after.cmmapOrphanVotes ⊆ current.cmmapOrphanVotes ∧
      ∀ item, ctx.getMasternodeInfo item.1 = none → (item ∈ after.cmmapOrphanVotes ↔
        item ∈ current.cmmapOrphanVotes ∧ (item ∈ visited → ¬ item.2.2 < ctx.adjustedTime)) := by
  induction visited generalizing current with
  | nil => exact ⟨one, fun _ => id, by simp⟩
  | cons first rest ih =>
    obtain ⟨different, others⟩ := nodup_cons.mp apart
    obtain ⟨member, keyed⟩ := listed first mem_cons_self
    obtain ⟨removed, next, expires⟩ := checkOrphanVote_orphans one member keyed
    have kept (item : COutPoint × CGovernanceVote × Int64) : item ∈
        (current.checkOrphanVote params ctx first).cmmapOrphanVotes ↔
          item ∈ current.cmmapOrphanVotes ∧ (item.1 = first.1 → removed = false) := by
      rw [next, mem_filter]
      cases removed <;> simp
    have still : OneEach (current.checkOrphanVote params ctx first).cmmapOrphanVotes := by
      rw [next]
      exact one.sublist (filter_sublist.map _)
    obtain ⟨still, fewer, exactly⟩ := ih still others fun item later =>
      ⟨(kept item).mpr ⟨(listed item (mem_cons_of_mem _ later)).1, fun same =>
        absurd (mem_map.mpr ⟨item, later, same⟩) different⟩,
        (listed item (mem_cons_of_mem _ later)).2⟩
    refine ⟨still, fun item later => ((kept item).mp (fewer later)).1, fun item unknown => ?_⟩
    rw [foldl_cons, exactly item unknown, kept, and_assoc, mem_cons]
    refine and_congr_right fun stored => ?_
    have same : item.1 = first.1 ↔ item = first :=
      ⟨inj_on_of_nodup_map one stored member, congrArg Prod.fst⟩
    rw [same]
    constructor
    · rintro ⟨head, tail⟩ (rfl | later)
      · simpa [expires unknown] using head rfl
      · exact tail later
    · intro all
      refine ⟨?_, fun later => all (.inr later)⟩
      rintro rfl
      rw [expires unknown]
      exact decide_eq_false (all (.inl rfl))

end

inductive VoteEvent where
  | receive (ctx : GovernanceContext) (vote : CGovernanceVote)
  | check (ctx : GovernanceContext)

def VotedObject.event (params : GovernanceParams) (object : VotedObject) : VoteEvent → VotedObject
  | .receive ctx vote => (object.processVote params ctx vote).1
  | .check ctx => object.checkOrphanVotes params ctx

def VotedObject.afterEvents (params : GovernanceParams) (object : VotedObject)
    (events : List VoteEvent) : VotedObject :=
  Run.run (event params) object events

/-- The vote came at `ctx` when its masternode had no orphan vote, and is kept since. -/
def StoredAt (params : GovernanceParams) (object : VotedObject) (events : List VoteEvent)
    (item : COutPoint × CGovernanceVote × Int64) (ctx : GovernanceContext) : Prop :=
  item.2.2 = ctx.adjustedTime + GOVERNANCE_ORPHAN_EXPIRATION_TIME ∧
    ∃ before after, events = before ++ .receive ctx item.2.1 :: after ∧
      item.1 ∉ (object.afterEvents params before).cmmapOrphanVotes.map Prod.fst

theorem StoredAt.concat {events : List VoteEvent} {event : VoteEvent}
    (stored : StoredAt params object events item ctx) :
    StoredAt params object (events ++ [event]) item ctx := by
  obtain ⟨expiry, before, after, rfl, absent⟩ := stored
  exact ⟨expiry, before, after ++ [event], by simp, absent⟩

theorem afterEvents_orphans {events : List VoteEvent} (start : object.cmmapOrphanVotes = []) :
    OneEach (object.afterEvents params events).cmmapOrphanVotes ∧
      ∀ item ∈ (object.afterEvents params events).cmmapOrphanVotes,
        item.2.1.masternodeOutpoint = item.1 ∧ ∃ ctx, StoredAt params object events item ctx := by
  induction events using List.reverseRecOn with
  | nil =>
    rw [afterEvents, Run.run, foldl_nil, start]
    exact ⟨nodup_nil, by simp⟩
  | append_singleton events event ih =>
    obtain ⟨one, stored⟩ := ih
    have older (item : COutPoint × CGovernanceVote × Int64)
        (member : item ∈ (object.afterEvents params events).cmmapOrphanVotes) :
        item.2.1.masternodeOutpoint = item.1 ∧
          ∃ ctx, StoredAt params object (events ++ [event]) item ctx :=
      ⟨(stored item member).1, (stored item member).2.imp fun _ => .concat⟩
    rw [afterEvents, Run.run_concat, ← afterEvents]
    cases event with
    | receive ctx vote =>
      rcases @processVote_orphans params ctx (object.afterEvents params events) vote with
        same | ⟨absent, added⟩
      · rw [VotedObject.event, same]
        exact ⟨one, older⟩
      · rw [VotedObject.event, added]
        exact ⟨nodup_cons.mpr ⟨absent, one⟩,
          forall_mem_cons.mpr ⟨⟨rfl, ctx, rfl, events, [], rfl, absent⟩, older⟩⟩
    | check ctx =>
      obtain ⟨still, fewer, -⟩ := @foldl_checkOrphanVote params ctx _ _ one one fun item member =>
        ⟨member, (stored item member).1⟩
      exact ⟨still, fun item member => older item (fewer member)⟩

theorem orphanVotes_expire (params : GovernanceParams) (object : VotedObject)
    (events : List VoteEvent) (ctx : GovernanceContext)
    (item : COutPoint × CGovernanceVote × Int64) (start : object.cmmapOrphanVotes = [])
    (unknown : ctx.getMasternodeInfo item.1 = none)
    (inRange : ∀ event ∈ events, ∀ sent vote, event = .receive sent vote →
      sent.adjustedTime.toInt + GOVERNANCE_ORPHAN_EXPIRATION_TIME.toInt < 2 ^ 63) :
    item ∈ ((object.afterEvents params events).checkOrphanVotes params ctx).cmmapOrphanVotes ↔
      item ∈ (object.afterEvents params events).cmmapOrphanVotes ∧
        ∃ received, StoredAt params object events item received ∧
          ctx.adjustedTime.toInt - received.adjustedTime.toInt ≤
            GOVERNANCE_ORPHAN_EXPIRATION_TIME.toInt := by
  obtain ⟨one, stored⟩ := @afterEvents_orphans params object events start
  have expires (received : GovernanceContext)
      (storedAt : StoredAt params object events item received) :
      item.2.2 < ctx.adjustedTime ↔ ¬ ctx.adjustedTime.toInt - received.adjustedTime.toInt ≤
        GOVERNANCE_ORPHAN_EXPIRATION_TIME.toInt := by
    obtain ⟨expiry, before, after, split, -⟩ := storedAt
    have fits := inRange (.receive received item.2.1) (by rw [split]; simp) _ _ rfl
    have limit : GOVERNANCE_ORPHAN_EXPIRATION_TIME.toInt = 600 := rfl
    have lower := received.adjustedTime.le_toInt
    rw [expiry, MachineInt.lt_iff, MachineInt.toInt_add_of_range _ _ (by omega) fits]
    omega
  rw [checkOrphanVotes, (foldl_checkOrphanVote one one fun item member =>
    ⟨member, (stored item member).1⟩).2.2 item unknown]
  refine and_congr_right fun member => ?_
  constructor
  · intro current
    obtain ⟨received, storedAt⟩ := (stored item member).2
    refine ⟨received, storedAt, ?_⟩
    by_contra late
    exact current member ((expires received storedAt).mpr late)
  · rintro ⟨received, storedAt, timely⟩ - expired
    exact (expires received storedAt).mp expired timely

def orphanVote (n : Nat) (nVoteOutcome : Int32) : CGovernanceVote :=
  { objectVote nVoteOutcome [7] with masternodeOutpoint := ⟨BitVec.ofNat 256 n, 0⟩ }

def orphansAt (adjustedTime : Int64) : GovernanceContext :=
  { sampleContext false with adjustedTime := adjustedTime }

/-- The second vote of a masternode finds the first in its way. -/
def orphanEvents : List VoteEvent :=
  [.receive (orphansAt 9000) (orphanVote 2 1), .receive (orphansAt 9100) (orphanVote 2 2),
    .receive (orphansAt 9200) (orphanVote 3 1), .check (orphansAt 9300)]

theorem orphanVotes_expire_sample :
    (⟨3, 0⟩, orphanVote 3 1, 9800) ∈ ((sampleObject.afterEvents sampleGovernance
        orphanEvents).checkOrphanVotes sampleGovernance (orphansAt 9700)).cmmapOrphanVotes ∧
      (⟨2, 0⟩, orphanVote 2 1, 9600) ∉ ((sampleObject.afterEvents sampleGovernance
        orphanEvents).checkOrphanVotes sampleGovernance (orphansAt 9700)).cmmapOrphanVotes := by
  refine ⟨(orphanVotes_expire _ _ _ _ _ rfl rfl ?_).mpr ⟨by decide, orphansAt 9200,
    ⟨rfl, [_, _], [_], rfl, by decide⟩, by decide⟩, by decide⟩
  rintro event member sent vote rfl
  simp only [orphanEvents, mem_cons, VoteEvent.receive.injEq, reduceCtorEq, not_mem_nil,
    or_false] at member
  rcases member with ⟨rfl, -⟩ | ⟨rfl, -⟩ | ⟨rfl, -⟩ <;> decide

theorem orphanVote_kept_at_limit :
    (((sampleObject.afterEvents sampleGovernance orphanEvents).checkOrphanVotes sampleGovernance
      (orphansAt 9600)).cmmapOrphanVotes.map fun item => (item.2.1, item.2.2)) =
        [(orphanVote 3 1, 9800), (orphanVote 2 1, 9600)] ∧
      ¬ (9600 : Int64).toInt - (9000 : Int64).toInt < GOVERNANCE_ORPHAN_EXPIRATION_TIME.toInt :=
  ⟨by decide, by decide⟩

end

end Minerium
