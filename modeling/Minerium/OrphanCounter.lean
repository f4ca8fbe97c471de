import Minerium.GovernanceOrphans

/-! The counter of orphan objects: for each masternode outpoint the number of the stored objects
that name it. -/

namespace Minerium

open List ObjectManager StdMap

def orphansOf (objects : Map Uint256 OrphanObject) (masternodeOutpoint : COutPoint) : Nat :=
  objects.entries.countP (decide <| ·.2.masternodeOutpoint = masternodeOutpoint)

variable {params : GovernanceParams} {ctx : ObjectContext} {state : ObjectManager}
  {orphan : OrphanObject} {outpoint : COutPoint}

def counterEntry (number : Nat) : Option Int32 :=
  if number = 0 then none else some (.ofNat number)

structure Counted (state : ObjectManager) : Prop where
  keyed : ∀ nHash orphan, state.mapMasternodeOrphanObjects.lookup nHash = some orphan →
    orphan.govobj.hash = nHash
  counter : ∀ outpoint, state.mapMasternodeOrphanCounter.lookup outpoint =
    counterEntry (orphansOf state.mapMasternodeOrphanObjects outpoint)
  bounded : ∀ outpoint, orphansOf state.mapMasternodeOrphanObjects outpoint ≤ 10

theorem counterEntry_range {number : Nat} {count : Int32} (most : number ≤ 10)
    (entry : counterEntry number = some count) : 1 ≤ count.toInt ∧ count.toInt ≤ 10 := by
  have small : ∀ number ≤ 10, number ≠ 0 → 1 ≤ (Int32.ofNat number).toInt ∧
      (Int32.ofNat number).toInt ≤ 10 := by decide
  unfold counterEntry at entry
  split_ifs at entry with none
  obtain rfl := Option.some.inj entry
  exact small number most none

theorem counterEntry_full : ∀ number ≤ 10, 10 ≤ (counterEntry number).getD 0 →
    some ((counterEntry number).getD 0) = counterEntry number := by
  decide

theorem counterEntry_succ : ∀ number ≤ 10, ¬ 10 ≤ (counterEntry number).getD 0 →
    number + 1 ≤ 10 ∧ some ((counterEntry number).getD 0 + 1) = counterEntry (number + 1) := by
  decide

theorem counterEntry_pred : ∀ number < 10, (if (counterEntry (number + 1)).getD 0 - 1 = 0 then none
      else some ((counterEntry (number + 1)).getD 0 - 1)) = counterEntry number := by
  decide

theorem storeOrphan_counted (counted : Counted state) (peer : Int64) (govobj : VotedObject)
    (fresh : state.mapMasternodeOrphanObjects.lookup govobj.hash = none) :
    Counted (state.storeOrphan ctx peer govobj outpoint) := by
  have bound := counted.bounded outpoint
  unfold storeOrphan
  rw [counted.counter]
  dsimp only
  split
  · rename_i full
    refine ⟨counted.keyed, fun other => ?_, counted.bounded⟩
    rw [lookup_insert_eq]
    split
    · rename_i same
      rw [same]
      exact counterEntry_full _ bound full
    · exact counted.counter other
  · rename_i free
    obtain ⟨room, entry⟩ := counterEntry_succ _ bound free
    generalize expirationInfo peer _ = info
    have grown (other : COutPoint) : orphansOf
        (state.mapMasternodeOrphanObjects.insert govobj.hash ⟨govobj, outpoint, info⟩) other =
          orphansOf state.mapMasternodeOrphanObjects other + if outpoint = other then 1 else 0 := by
      rw [orphansOf, AList.entries_insert_of_notMem (AList.lookup_eq_none.mp fresh), countP_cons]
      simp [orphansOf]
    refine ⟨fun nHash orphan found => ?_, fun other => ?_, fun other => ?_⟩
    · rw [lookup_insert_eq] at found
      split at found
      · obtain rfl := Option.some.inj found
        exact ‹nHash = _›.symm
      · exact counted.keyed nHash orphan found
    · rw [lookup_insert_eq, grown]
      by_cases same : other = outpoint
      · rw [if_pos same, if_pos same.symm, same]
        exact entry
      · rw [if_neg same, if_neg (Ne.symm same)]
        exact counted.counter other
    · rw [grown]
      split
      · rename_i same
        rw [← same]
        exact room
      · exact counted.bounded other

theorem dischargeOrphan_counted (counted : Counted state)
    (found : state.mapMasternodeOrphanObjects.lookup orphan.govobj.hash = some orphan) :
    Counted (state.dischargeOrphan orphan) := by
  let place := orphan.masternodeOutpoint
  have shrunk (other : COutPoint) : orphansOf state.mapMasternodeOrphanObjects other =
      orphansOf (state.dischargeOrphan orphan).mapMasternodeOrphanObjects other +
        if place = other then 1 else 0 := by
    refine (countP_erase found _).trans ?_
    simp only [decide_eq_true_eq]
    rfl
  refine ⟨fun nHash other stored => counted.keyed _ _ (dischargeOrphan_left stored),
    fun other => ?_, fun other => ?_⟩
  · have most := counted.bounded place
    have before := counted.counter place
    rw [shrunk place, if_pos rfl] at before most
    have after : (state.dischargeOrphan orphan).mapMasternodeOrphanCounter.lookup other =
        if other = place then counterEntry (orphansOf
          (state.dischargeOrphan orphan).mapMasternodeOrphanObjects place)
        else state.mapMasternodeOrphanCounter.lookup other := by
      rw [← counterEntry_pred _ most, ← before]
      simp only [dischargeOrphan, place]
      split
      · exact lookup_erase_eq _ _ _
      · exact lookup_insert_eq _ _ _ _
    rw [after]
    split
    · rename_i same
      rw [same]
    · rename_i different
      rw [counted.counter, shrunk, if_neg (Ne.symm different), Nat.add_zero]
  · have number := shrunk other
    have most := counted.bounded other
    omega

theorem addObject_counted (govobj : VotedObject) (counted : Counted state) :
    Counted (state.addObject params ctx govobj) :=
  { counted with }

theorem Counted.found (counted : Counted state)
    (found : state.mapMasternodeOrphanObjects.lookup orphan.govobj.hash = some orphan) :
    (state.mapMasternodeOrphanCounter.lookup orphan.masternodeOutpoint).isSome := by
  have number := countP_erase found (decide <| ·.2.masternodeOutpoint = orphan.masternodeOutpoint)
  rw [counted.counter, counterEntry, orphansOf, number]
  simp

/-- In a sweep the orphans that are still to be visited are stored. -/
structure Sweeping (state : ObjectManager) (orphans : List OrphanObject) : Prop where
  counted : Counted state
  stored : ∀ orphan ∈ orphans,
    state.mapMasternodeOrphanObjects.lookup orphan.govobj.hash = some orphan
  distinct : orphans.Pairwise fun one other => one.govobj.hash ≠ other.govobj.hash

variable {visited : ObjectManager × List Int64} {orphans rest : List OrphanObject}

theorem checkOrphanObject_sweeping (sweeping : Sweeping visited.1 (orphan :: rest)) :
    Sweeping (checkOrphanObject params ctx visited orphan).1 rest := by
  obtain ⟨counted, stored, distinct⟩ := sweeping
  obtain ⟨here, others⟩ := forall_mem_cons.mp stored
  obtain ⟨apart, later⟩ := pairwise_cons.mp distinct
  have discharged (state : ObjectManager) (counted : Counted state)
      (same : state.mapMasternodeOrphanObjects = visited.1.mapMasternodeOrphanObjects) :
      Sweeping (state.dischargeOrphan orphan) rest := by
    refine ⟨dischargeOrphan_counted counted (same ▸ here), fun other member => ?_, later⟩
    exact (AList.lookup_erase_ne (Ne.symm (apart other member))).trans (same ▸ others other member)
  unfold checkOrphanObject
  dsimp only
  split
  · split
    · exact discharged _ (addObject_counted _ counted) rfl
    · exact ⟨counted, others, later⟩
    · exact discharged _ counted rfl
  · exact discharged _ counted rfl

theorem foldl_sweeping (sweeping : Sweeping visited.1 (orphans ++ rest)) :
    Sweeping (orphans.foldl (checkOrphanObject params ctx) visited).1 rest := by
  induction orphans generalizing visited with
  | nil => exact sweeping
  | cons orphan others ih => exact ih (checkOrphanObject_sweeping sweeping)

theorem Counted.sweeping (counted : Counted state) : Sweeping state state.orphanObjects := by
  refine ⟨counted, fun orphan member => ?_, ?_⟩
  · obtain ⟨nHash, -, found⟩ := mem_filterMap.mp member
    rwa [counted.keyed nHash orphan found]
  · refine pairwise_filterMap.mpr (Pairwise.imp ?_ nodup_sortedKeys)
    intro one other different orphan found second stored
    rwa [counted.keyed one orphan found, counted.keyed other second stored]

theorem event_counted (counted : Counted state) (event : ObjectEvent) :
    Counted (state.event params event) := by
  cases event with
  | sweep ctx =>
    refine (foldl_sweeping ?_ : Sweeping _ []).counted
    rw [append_nil]
    exact counted.sweeping
  | message ctx dropped peer govobj outpoint =>
    unfold event receiveObject
    dsimp only
    split
    · exact counted
    · split
      · exact counted
      · rename_i unseen
        cases ctx.isValidLocally govobj.hash with
        | valid => exact addObject_counted govobj counted
        | masternodeMissing => exact storeOrphan_counted counted peer govobj (by simp_all)
        | _ => exact counted

theorem orphanCounter_exact (params : GovernanceParams) (manager : CGovernanceManager)
    (events : List ObjectEvent) :
    let state := Run.run (event params) ⟨manager, ∅, ∅⟩ events
    (∀ outpoint, state.mapMasternodeOrphanCounter.lookup outpoint =
      counterEntry (orphansOf state.mapMasternodeOrphanObjects outpoint)) ∧
    (∀ outpoint count, state.mapMasternodeOrphanCounter.lookup outpoint = some count →
      1 ≤ count.toInt ∧ count.toInt ≤ 10) ∧
    ∀ ctx visited orphan rest, state.orphanObjects = visited ++ orphan :: rest →
      let reached := (visited.foldl (checkOrphanObject params ctx) (state, [])).1
      (reached.mapMasternodeOrphanCounter.lookup orphan.masternodeOutpoint).isSome := by
  intro state
  have kept (state : ObjectManager) (event : ObjectEvent) (counted : Counted state) :
      Counted (state.event params event) := event_counted counted event
  have counted : Counted state := Run.invariant_always kept
    ⟨fun _ _ found => (by cases found), fun _ => rfl, fun _ => Nat.zero_le _⟩ events
  refine ⟨counted.counter, fun outpoint count found => ?_, fun ctx visited orphan rest parts => ?_⟩
  · rw [counted.counter] at found
    exact counterEntry_range (counted.bounded outpoint) found
  · have sweeping := counted.sweeping
    rw [parts] at sweeping
    have reached := @foldl_sweeping params ctx (state, []) visited (orphan :: rest) sweeping
    exact reached.counted.found (reached.stored orphan mem_cons_self)

end Minerium
