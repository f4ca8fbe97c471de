import Minerium.AmountConservation

/-! Failed allocation transactions. -/

namespace Minerium

open SortedVector List

open Procedure (wp wp_bind wp_error wp_liftExcept wp_modify wp_mono wp_orStop wp_pure wp_reached
  wp_require)

variable {record theAssetAllocation payload : CAssetAllocation} {post : Unit → AssetState → Prop}
  {stopped : ServiceStop → AssetState → Prop} {condition : Bool}
  {middle before after first second third : AssetState} {tuple : CAssetAllocationTuple}

abbrev Holding := CAmount × List CRange

def holding (map : AllocationMap) (tuple : CAssetAllocationTuple) : Holding :=
  ((map.lookup tuple).map fun record => (record.nBalance, record.listAllocationInputs)).getD (0, [])

theorem holding_insert {map : AllocationMap} {other : CAssetAllocationTuple} :
    holding (map.insert tuple record) other =
      if other = tuple then (record.nBalance, record.listAllocationInputs)
      else holding map other := by
  rw [holding, FinmapTotal.lookup_insert_eq]
  split
  · rfl
  · rfl

theorem holding_eq {map other : AllocationMap}
    (balance : balanceAt map tuple = balanceAt other tuple)
    (ranges : rangesAt map tuple = rangesAt other tuple) :
    holding map tuple = holding other tuple := by
  have parts : ∀ table : AllocationMap, (holding table tuple).1.toInt = balanceAt table tuple ∧
      (holding table tuple).2 = rangesAt table tuple := by
    intro table
    rw [holding, balanceAt, rangesAt]
    cases table.lookup tuple with
    | none => exact ⟨rfl, rfl⟩
    | some record => exact ⟨rfl, rfl⟩
  refine Prod.ext (Int64.toInt_inj.mp ?_) ?_
  · rw [(parts map).1, (parts other).1, balance]
  · rw [(parts map).2, (parts other).2, ranges]

variable (mode : CheckMode) (state : AssetState) {δ : Type} {holder : Bytes}

def CheckMode.table : AllocationMap :=
  match mode with
  | .block => state.lastAllocations
  | .mempool _ => state.allocations

def isConflict (tuple : CAssetAllocationTuple) : Bool :=
  (tupleFind state.assetAllocationConflicts tuple).isSome

/-- Balances and ranges are as before, in the mempool the arrival times and conflicts too. -/
structure Unchanged (mode : CheckMode) (before after : AssetState) : Prop where
  holdings : ∀ tuple, holding (mode.table after) tuple = holding (mode.table before) tuple
  arrivalTimes : mode.fJustCheck = true → after.arrivalTimes = before.arrivalTimes
  conflicts : mode.fJustCheck = true →
    after.assetAllocationConflicts = before.assetAllocationConflicts

theorem Unchanged.refl : Unchanged mode state state := ⟨fun _ => rfl, fun _ => rfl, fun _ => rfl⟩

theorem Unchanged.symm {mode : CheckMode}
    (same : Unchanged mode before after) : Unchanged mode after before :=
  ⟨fun tuple => (same.holdings tuple).symm, fun isMempool => (same.arrivalTimes isMempool).symm,
    fun isMempool => (same.conflicts isMempool).symm⟩

theorem Unchanged.trans {mode : CheckMode}
    (one : Unchanged mode first second) (two : Unchanged mode second third) :
    Unchanged mode first third :=
  ⟨fun tuple => (two.holdings tuple).trans (one.holdings tuple),
    fun isMempool => (two.arrivalTimes isMempool).trans (one.arrivalTimes isMempool),
    fun isMempool => (two.conflicts isMempool).trans (one.conflicts isMempool)⟩

theorem HoldingsKept.unchanged (kept : HoldingsKept before after) : Unchanged .block before after :=
  ⟨fun tuple => holding_eq (kept.balance tuple) (kept.ranges tuple),
    Bool.noConfusion, Bool.noConfusion⟩

structure Prepared (mode : CheckMode) (before after : AssetState) : Prop where
  unchanged : Unchanged mode before after
  keyed : Keyed after
  conflicts : mode.fJustCheck = true → after = before

theorem Prepared.trans {mode : CheckMode}
    (one : Prepared mode first second) (two : Prepared mode second third) :
    Prepared mode first third :=
  ⟨one.unchanged.trans two.unchanged, two.keyed, fun isMempool =>
    (two.conflicts isMempool).trans (one.conflicts isMempool)⟩

section

variable (mode : CheckMode) (dbAsset : CAsset) (txHash : Uint256) (nHeight : Nat)

def revertedIn (state : AssetState) (tuple : CAssetAllocationTuple) : AssetState :=
  (revertIn mode tuple dbAsset txHash nHeight state).2

theorem revertIn_spec {state : AssetState} (keyed : Keyed state) :
    wp (revertIn mode tuple dbAsset txHash nHeight) (fun _ after => Prepared mode state after ∧
        after = revertedIn mode dbAsset txHash nHeight state tuple) (fun _ _ => False) state := by
  cases mode with
  | mempool now => exact ⟨⟨.refl _ state, keyed, fun _ => rfl⟩, rfl⟩
  | block =>
    refine wp_mono (wp_reached (revert_spec keyed tuple txHash nHeight)) ?_
      fun _ _ impossible => impossible.1
    rintro - after ⟨done, reached⟩
    exact ⟨⟨done.kept.unchanged, done.kept.keyed keyed, Bool.noConfusion⟩, reached⟩

variable {δ : Type} (accepted : δ → Bool) (stop : ServiceStop) (units : δ → CAmount)
  (vchAsset : Bytes)

def revertedReceivers (items : List (Bytes × δ)) (state : AssetState) : AssetState :=
  items.foldl (fun current entry =>
    revertedIn mode dbAsset txHash nHeight current ⟨vchAsset, entry.1⟩) state

theorem revertReceivers_spec {items : List (Bytes × δ)} {nTotal : CAmount} {state : AssetState}
    (keyed : Keyed state) :
    wp (revertReceivers mode accepted stop units dbAsset txHash nHeight vchAsset nTotal items)
      (fun total after => total = totalUnits units nTotal items ∧
        (∀ entry ∈ items, accepted entry.2 = true) ∧ Prepared mode state after ∧
        after = revertedReceivers mode dbAsset txHash nHeight vchAsset items state)
      (fun _ after => (¬ ∀ entry ∈ items, accepted entry.2 = true) ∧ Unchanged mode state after)
      state := by
  induction items generalizing nTotal state with
  | nil => exact ⟨rfl, forall_mem_nil _, ⟨.refl _ state, keyed, fun _ => rfl⟩, rfl⟩
  | cons entry rest ih =>
    obtain ⟨receiver, item⟩ := entry
    simp only [revertReceivers, wp_bind, wp_require]
    refine wp_mono (revertIn_spec mode dbAsset txHash nHeight keyed) ?_
      fun _ _ impossible => impossible.elim
    rintro - middle ⟨prepared, rfl⟩
    refine ⟨fun good => ?_, fun refused => ⟨fun every => ?_, prepared.unchanged⟩⟩
    · refine wp_mono (ih prepared.keyed) ?_ ?_
      · rintro total after ⟨rfl, others, later, rfl⟩
        exact ⟨rfl, forall_mem_cons.mpr ⟨good, others⟩, prepared.trans later, rfl⟩
      · rintro _ after ⟨bad, unchanged⟩
        exact ⟨fun every => bad (forall_mem_cons.mp every).2, prepared.unchanged.trans unchanged⟩
    · have first := (forall_mem_cons.mp every).1
      rw [show accepted item = true from first] at refused
      cases refused

end

section

variable {δ : Type} (gain : δ → Holding → Holding) (vchAsset : Bytes)

def entriesFor (passed : List (Bytes × δ)) (tuple : CAssetAllocationTuple) : List (Bytes × δ) :=
  passed.filter fun entry => decide (⟨vchAsset, entry.1⟩ = tuple)

def gained (passed : List (Bytes × δ)) (tuple : CAssetAllocationTuple) (start : Holding) :
    Holding :=
  (entriesFor vchAsset passed tuple).foldl (fun held entry => gain entry.2 held) start

theorem entriesFor_append {first second : List (Bytes × δ)} :
    entriesFor vchAsset (first ++ second) tuple =
      entriesFor vchAsset first tuple ++ entriesFor vchAsset second tuple :=
  filter_append first second

theorem gained_append {first second : List (Bytes × δ)} {start : Holding} :
    gained gain vchAsset (first ++ second) tuple start =
      gained gain vchAsset second tuple (gained gain vchAsset first tuple start) := by
  rw [gained, entriesFor_append, foldl_append, gained, gained]

end

/-- What the loop over the receivers has written and flagged, as far as it got. -/
structure Credited {δ : Type} (mode : CheckMode) (gain : δ → Holding → Holding) (vchAsset : Bytes)
    (passed : List (Bytes × δ)) (flagged : List CAssetAllocationTuple)
    (before after : AssetState) : Prop where
  stored : ∀ tuple, holding (mode.table after) tuple =
    if entriesFor vchAsset passed tuple = [] then holding (mode.table before) tuple
    else gained gain vchAsset passed tuple (holding before.allocations tuple)
  current : ∀ tuple, holding after.allocations tuple =
    gained gain vchAsset passed tuple (holding before.allocations tuple)
  arrivalTimes : mode.fJustCheck = true → after.arrivalTimes = before.arrivalTimes
  conflicts : mode.fJustCheck = true → after.assetAllocationConflicts =
    flagged.foldl tupleInsert before.assetAllocationConflicts

section

variable {δ : Type} {mode : CheckMode} {gain : δ → Holding → Holding} {vchAsset : Bytes}

theorem Credited.refl : Credited mode gain vchAsset [] [] state state :=
  ⟨fun _ => rfl, fun _ => rfl, fun _ => rfl, fun _ => rfl⟩

theorem Credited.trans {first second : List (Bytes × δ)}
    {flaggedFirst flaggedSecond : List CAssetAllocationTuple}
    (one : Credited mode gain vchAsset first flaggedFirst before middle)
    (two : Credited mode gain vchAsset second flaggedSecond middle after) :
    Credited mode gain vchAsset (first ++ second) (flaggedFirst ++ flaggedSecond) before after := by
  refine ⟨fun tuple => ?_, fun tuple => ?_, fun isMempool => ?_, fun isMempool => ?_⟩
  · rw [two.stored, one.stored, one.current, entriesFor_append, ← gained_append]
    by_cases untouched : entriesFor vchAsset second tuple = []
    · have same : gained gain vchAsset (first ++ second) tuple (holding before.allocations tuple) =
          gained gain vchAsset first tuple (holding before.allocations tuple) := by
        rw [gained, entriesFor_append, untouched, append_nil, gained]
      rw [if_pos untouched, untouched, append_nil, same]
    · rw [if_neg untouched, if_neg fun both => untouched (append_eq_nil_iff.mp both).2]
  · rw [two.current, one.current, gained_append]
  · exact (two.arrivalTimes isMempool).trans (one.arrivalTimes isMempool)
  · rw [two.conflicts isMempool, one.conflicts isMempool, foldl_append]

theorem Credited.unchanged_iff {passed : List (Bytes × δ)} {flagged : List CAssetAllocationTuple}
    (done : Credited mode gain vchAsset passed flagged before after) : Unchanged mode before after ↔
      (∀ entry ∈ passed, gained gain vchAsset passed ⟨vchAsset, entry.1⟩
          (holding before.allocations ⟨vchAsset, entry.1⟩) =
        holding (mode.table before) ⟨vchAsset, entry.1⟩) ∧
      (mode.fJustCheck = true → ∀ tuple ∈ flagged, isConflict before tuple = true) := by
  constructor
  · intro same
    refine ⟨fun entry member => ?_, fun isMempool => ?_⟩
    · have written : entriesFor vchAsset passed ⟨vchAsset, entry.1⟩ ≠ [] :=
        ne_nil_of_mem (mem_filter.mpr ⟨member, decide_eq_true rfl⟩)
      rw [← same.holdings, done.stored, if_neg written]
    · refine foldl_insert_eq_self.mp ?_
      exact (done.conflicts isMempool).symm.trans (same.conflicts isMempool)
  · rintro ⟨nothing, present⟩
    refine ⟨fun tuple => ?_, done.arrivalTimes, fun isMempool => ?_⟩
    · rw [done.stored]
      split
      · rfl
      · rename_i written
        obtain ⟨entry, member⟩ := exists_mem_of_ne_nil _ written
        obtain ⟨member, named⟩ := mem_filter.mp member
        rw [← of_decide_eq_true named]
        exact nothing entry member
    · exact (done.conflicts isMempool).trans (foldl_insert_eq_self.mpr (present isMempool))

end

def afterReceiver (record : CAssetAllocation) (state : AssetState) : AssetState :=
  match mode with
  | .block => afterWrite record state
  | .mempool _ =>
    { state with allocations := state.allocations.insert record.tuple record }

theorem wp_writeReceiverIn {state : AssetState} :
    wp (writeReceiverIn mode record) post stopped state ↔
      post () (afterReceiver mode record state) := by
  cases mode with
  | block => exact .rfl
  | mempool now =>
    rw [writeReceiverIn, writeUnconfirmed, wp_modify, afterReceiver,
      if_neg (by decide : ¬ INT64_MAX < INT64_MAX)]

def afterFlag (condition : Bool) (tuple : CAssetAllocationTuple) (state : AssetState) :
    AssetState :=
  if condition then
    { state with assetAllocationConflicts := tupleInsert state.assetAllocationConflicts tuple }
  else state

theorem wp_addConflictIf {state : AssetState} :
    wp (addConflictIf condition tuple) post stopped state ↔
      post () (afterFlag condition tuple state) := .rfl

section

variable {mode : CheckMode} {state : AssetState}

theorem afterReceiver_keyed (keyed : Keyed state) : Keyed (afterReceiver mode record state) := by
  cases mode with
  | block => exact keyed.afterWrite record
  | mempool now =>
    exact { keyed with allocations := keyed_insert keyed.allocations }

theorem afterReceiver_table : holding (mode.table (afterReceiver mode record state)) tuple =
      if tuple = record.tuple then (record.nBalance, record.listAllocationInputs)
      else holding (mode.table state) tuple := by
  cases mode with
  | block => exact holding_insert
  | mempool now => exact holding_insert

theorem afterReceiver_allocations : holding (afterReceiver mode record state).allocations tuple =
      if tuple = record.tuple then (record.nBalance, record.listAllocationInputs)
      else holding state.allocations tuple := by
  cases mode with
  | block => exact holding_insert
  | mempool now => exact holding_insert

theorem afterFlag_keyed (keyed : Keyed state) : Keyed (afterFlag condition tuple state) := by
  rw [afterFlag]
  split
  · exact { keyed with }
  · exact keyed

theorem afterFlag_allocations :
    (afterFlag condition tuple state).allocations = state.allocations := by
  rw [afterFlag]
  split <;> rfl

theorem afterFlag_table : mode.table (afterFlag condition tuple state) = mode.table state := by
  rw [afterFlag]
  cases mode with
  | block => split <;> rfl
  | mempool now => split <;> rfl

theorem receiver_spec (keyed : Keyed state) {asset : CAsset} {nHeight : Nat} :
    let record := (state.allocations.lookup tuple).getD (newAllocation tuple asset nHeight)
    record.tuple = tuple ∧
      (record.nBalance, record.listAllocationInputs) = holding state.allocations tuple := by
  rw [holding]
  cases found : state.allocations.lookup tuple with
  | none => exact ⟨rfl, rfl⟩
  | some record => exact ⟨keyed.allocations tuple record found, rfl⟩

theorem credited_one {gain : δ → Holding → Holding} {vchAsset receiver : Bytes}
    {item : δ} {bConflict : Bool} (named : record.tuple = ⟨vchAsset, receiver⟩)
    (held : (record.nBalance, record.listAllocationInputs) =
      gain item (holding state.allocations ⟨vchAsset, receiver⟩)) :
    Credited mode gain vchAsset [(receiver, item)]
      (if bConflict then [⟨vchAsset, receiver⟩] else []) state
      (afterReceiver mode record (afterFlag bConflict ⟨vchAsset, receiver⟩ state)) := by
  have one : ∀ tuple, entriesFor vchAsset [(receiver, item)] tuple =
      if tuple = ⟨vchAsset, receiver⟩ then [(receiver, item)] else [] := by
    intro tuple
    simp [entriesFor, filter_cons, eq_comm]
  refine ⟨fun tuple => ?_, fun tuple => ?_, fun _ => ?_, fun _ => ?_⟩
  · rw [afterReceiver_table, named, held, afterFlag_table, gained, one]
    by_cases same : tuple = ⟨vchAsset, receiver⟩
    · subst same
      simp
    · simp [same]
  · rw [afterReceiver_allocations, named, held, afterFlag_allocations, gained, one]
    by_cases same : tuple = ⟨vchAsset, receiver⟩
    · subst same
      simp
    · simp [same]
  · cases mode <;> cases bConflict <;> rfl
  · cases mode <;> cases bConflict <;> rfl

end

section

variable (sender : Bytes) (bBalanceOverrun : Bool)

/-- A sender that overruns its balance has its receivers written back as they were read. -/
def amountGain (amount : CAmount) (held : Holding) : Holding :=
  if bBalanceOverrun then held else (held.1 + amount, held.2)

def rangeGain (ranges : List CRange) (held : Holding) : Holding :=
  if bBalanceOverrun then held else (held.1 + rangeCount ranges, mergeRanges (held.2 ++ ranges))

/-- The entries before the one that fails, and the receivers that would be conflicts. -/
structure LoopStop (δ : Type) where
  passed : List (Bytes × δ)
  flagged : List Bytes

def amountStop : List (Bytes × CAmount) → LoopStop CAmount
  | [] => ⟨[], []⟩
  | (receiver, amount) :: rest =>
    if receiver = sender then ⟨[], []⟩
    else
      ⟨(receiver, amount) :: (amountStop rest).passed, receiver :: (amountStop rest).flagged⟩

/-- It also fails at ranges that the sender does not have after the subtractions before. -/
def rangeStop : List CRange → List (Bytes × List CRange) → LoopStop (List CRange)
  | _, [] => ⟨[], []⟩
  | dbInputs, (receiver, ranges) :: rest =>
    if receiver = sender then ⟨[], []⟩
    else if doesRangeContain dbInputs ranges = false then ⟨[], [receiver]⟩
    else
      let later := rangeStop
        (if bBalanceOverrun then dbInputs else (subtractRanges dbInputs ranges).arr) rest
      ⟨(receiver, ranges) :: later.passed, receiver :: later.flagged⟩

end

def LoopStop.conflicts {δ : Type} (stop : LoopStop δ) (bConflict : Bool) (vchAsset : Bytes) :
    List CAssetAllocationTuple :=
  if bConflict then stop.flagged.map fun receiver => ⟨vchAsset, receiver⟩ else []

section

variable {mode : CheckMode} {state : AssetState} {vchAsset : Bytes}
  (bBalanceOverrun bConflict : Bool)

section

variable {gain : δ → Holding → Holding}

theorem Credited.step {receiver : Bytes} {item : δ} {stop : LoopStop δ}
    (one : Credited mode gain vchAsset [(receiver, item)]
      (if bConflict then [⟨vchAsset, receiver⟩] else []) before middle)
    (rest : Credited mode gain vchAsset stop.passed (stop.conflicts bConflict vchAsset) middle
      after) :
    Credited mode gain vchAsset ((receiver, item) :: stop.passed)
      (LoopStop.conflicts ⟨(receiver, item) :: stop.passed, receiver :: stop.flagged⟩ bConflict
        vchAsset) before after := by
  have both := one.trans rest
  cases bConflict <;> exact both

theorem Credited.none :
    Credited mode gain vchAsset [] ((⟨[], []⟩ : LoopStop δ).conflicts bConflict vchAsset) state
      state := by
  cases bConflict <;> exact .refl state

theorem Credited.flag (condition : Bool) (tuple : CAssetAllocationTuple) :
    Credited mode gain vchAsset [] (if condition then [tuple] else []) state
      (afterFlag condition tuple state) := by
  refine ⟨fun tuple => ?_, fun tuple => ?_, fun _ => ?_, fun _ => ?_⟩
  · rw [afterFlag_table]
    rfl
  · rw [afterFlag_allocations]
    rfl
  · cases condition <;> rfl
  · cases condition <;> rfl

end

variable (dbAsset : CAsset) (txHash : Uint256) (nHeight : Nat)

theorem creditAmounts_failed {env : AssetEnv} {sender : CAssetAllocation}
    (named : sender.tuple = ⟨vchAsset, holder⟩) {amounts : List (Bytes × CAmount)}
    (keyed : Keyed state) :
    wp (creditAmounts mode env dbAsset txHash nHeight bBalanceOverrun bConflict sender amounts)
      (fun _ _ => True) (fun _ after => Credited mode (amountGain bBalanceOverrun) vchAsset
        (amountStop holder amounts).passed
        ((amountStop holder amounts).conflicts bConflict vchAsset) state after) state := by
  induction amounts generalizing sender state with
  | nil => exact trivial
  | cons entry rest ih =>
    obtain ⟨receiver, amount⟩ := entry
    obtain ⟨asset, self⟩ := CAssetAllocationTuple.mk.inj named
    simp only [creditAmounts, wp_bind, wp_require, wp_addConflictIf,
      wp_readAssetAllocation, wp_writeReceiverIn, afterFlag_allocations, asset, self]
    rw [amountStop]
    refine ⟨fun apart => ?_, fun same => ?_⟩
    · rw [if_neg (of_decide_eq_true apart)]
      obtain ⟨receives, held⟩ := receiver_spec keyed
      generalize (state.allocations.lookup ⟨vchAsset, receiver⟩).getD
        (newAllocation ⟨vchAsset, receiver⟩ dbAsset nHeight) = record at receives held ⊢
      refine wp_mono (ih ?_ (afterReceiver_keyed (afterFlag_keyed keyed)))
        (fun _ _ => id) fun _ after later => .step _ (credited_one ?_ ?_) later
      · cases bBalanceOverrun with
        | true => exact named
        | false => exact (accumulateIf_tuple env _ nHeight sender).trans named
      · cases bBalanceOverrun <;> simp [receives]
      · cases bBalanceOverrun <;> simp [← held, creditedBy, amountGain]
    · rw [if_pos (by simpa using same)]
      exact .none bConflict

theorem creditRanges_failed {send : RangeSend} {dbInputs : List CRange}
    (named : send.theAssetAllocation.tuple = ⟨vchAsset, holder⟩) (left : send.dbInputs = dbInputs)
    {inputs : List (Bytes × List CRange)} (keyed : Keyed state) :
    wp (creditRanges mode dbAsset txHash nHeight bBalanceOverrun bConflict send inputs)
      (fun _ _ => True) (fun _ after => Credited mode (rangeGain bBalanceOverrun) vchAsset
        (rangeStop holder bBalanceOverrun dbInputs inputs).passed
        ((rangeStop holder bBalanceOverrun dbInputs inputs).conflicts bConflict vchAsset)
        state after) state := by
  induction inputs generalizing send dbInputs state with
  | nil => exact trivial
  | cons entry rest ih =>
    obtain ⟨receiver, ranges⟩ := entry
    obtain ⟨asset, self⟩ := CAssetAllocationTuple.mk.inj named
    simp only [creditRanges, wp_bind, wp_require, wp_addConflictIf,
      wp_readAssetAllocation, wp_writeReceiverIn, afterFlag_allocations, asset, self, left]
    rw [rangeStop]
    refine ⟨fun apart => ?_, fun same => ?_⟩
    · rw [if_neg (of_decide_eq_true apart)]
      refine ⟨fun contained => ?_, fun missing => ?_⟩
      · rw [if_neg (ne_false_of_eq_true contained)]
        obtain ⟨receives, held⟩ := receiver_spec keyed
        generalize (state.allocations.lookup ⟨vchAsset, receiver⟩).getD
          (newAllocation ⟨vchAsset, receiver⟩ dbAsset nHeight) = record at receives held ⊢
        refine wp_mono (ih ?_ ?_ (afterReceiver_keyed (afterFlag_keyed keyed)))
          (fun _ _ => id) fun _ after later => .step _ (credited_one ?_ ?_) later
        · cases bBalanceOverrun with
          | true => exact named
          | false => rfl
        · cases bBalanceOverrun <;> rfl
        · cases bBalanceOverrun <;> exact receives
        · cases bBalanceOverrun <;> simp [← held, creditedBy, withRanges, rangeGain]
      · rw [if_pos missing]
        exact .flag bConflict ⟨vchAsset, receiver⟩
    · rw [if_pos (by simpa using same)]
      exact .none bConflict

end

/-- Nothing is credited if the sender overruns its balance; otherwise amounts may cancel. -/
def amountsGained (bBalanceOverrun : Bool) (entries : List (Bytes × CAmount)) (held : Holding) :
    Holding :=
  (held.1 + if bBalanceOverrun then 0 else (entries.map (·.2)).sum, held.2)

def rangesGained (bBalanceOverrun : Bool) (entries : List (Bytes × List CRange)) (held : Holding) :
    Holding :=
  entries.foldl (fun held entry => rangeGain bBalanceOverrun entry.2 held) held

theorem foldl_amountGain {bBalanceOverrun : Bool} {entries : List (Bytes × CAmount)}
    {held : Holding} :
    entries.foldl (fun held entry => amountGain bBalanceOverrun entry.2 held) held =
      amountsGained bBalanceOverrun entries held := by
  induction entries generalizing held with
  | nil => cases bBalanceOverrun <;> simp [amountsGained]
  | cons entry rest ih =>
    rw [foldl_cons, ih]
    cases bBalanceOverrun <;> simp [amountsGained, amountGain, Int64.add_assoc]

/-- Every receiver that the loop has come past has what it had, and in the mempool the conflicts it
has added were there. -/
structure LoopHarmless {δ : Type} (mode : CheckMode)
    (gains : Bool → List (Bytes × δ) → Holding → Holding) (sender : CAssetAllocationTuple)
    (bBalanceOverrun : Bool) (stop : LoopStop δ) (state prepared : AssetState) : Prop where
  receivers : ∀ entry ∈ stop.passed,
    gains bBalanceOverrun (entriesFor sender.vchAsset stop.passed ⟨sender.vchAsset, entry.1⟩)
        (holding prepared.allocations ⟨sender.vchAsset, entry.1⟩) =
      holding (mode.table state) ⟨sender.vchAsset, entry.1⟩
  overrun : mode.fJustCheck = true → bBalanceOverrun = true → isConflict state sender = true
  flagged : mode.fJustCheck = true → isConflict state sender = true →
    ∀ receiver ∈ stop.flagged, isConflict state ⟨sender.vchAsset, receiver⟩ = true

section

variable {mode : CheckMode} {state prepared : AssetState} {bBalanceOverrun : Bool}
  {sender : CAssetAllocationTuple}

theorem senderConflicts_iff {stop : LoopStop δ} :
    (∀ tuple ∈ (if bBalanceOverrun then [sender] else []) ++
        stop.conflicts (bBalanceOverrun || isConflict (afterFlag bBalanceOverrun sender state)
          sender) sender.vchAsset, isConflict state tuple = true) ↔
      (bBalanceOverrun = true → isConflict state sender = true) ∧
      (isConflict state sender = true → ∀ receiver ∈ stop.flagged,
        isConflict state ⟨sender.vchAsset, receiver⟩ = true) := by
  cases bBalanceOverrun with
  | true =>
    simp only [LoopStop.conflicts, Bool.true_or, if_true, singleton_append,
      forall_mem_cons, forall_mem_map, forall_const]
    constructor
    · exact fun present => ⟨present.1, fun _ => present.2⟩
    · exact fun present => ⟨present.1, present.2 present.1⟩
  | false =>
    have flag : afterFlag false sender state = state := rfl
    simp only [LoopStop.conflicts, flag, Bool.false_or, Bool.false_eq_true, if_false,
      nil_append, false_implies, true_and]
    cases isConflict state sender with
    | true => simp only [if_true, forall_mem_map, forall_const]
    | false => simp

theorem Credited.harmless_iff {gain : Bool → δ → Holding → Holding} {stop : LoopStop δ}
    {gains : Bool → List (Bytes × δ) → Holding → Holding} (ready : Prepared mode state prepared)
    (folds : ∀ {entries : List (Bytes × δ)} {held : Holding},
      entries.foldl (fun held entry => gain bBalanceOverrun entry.2 held) held =
        gains bBalanceOverrun entries held)
    (done : Credited mode (gain bBalanceOverrun) sender.vchAsset stop.passed (stop.conflicts
      (mode.fJustCheck && (bBalanceOverrun || isConflict (afterFlag (mode.fJustCheck &&
      bBalanceOverrun) sender prepared) sender)) sender.vchAsset) (afterFlag (mode.fJustCheck &&
      bBalanceOverrun) sender prepared) after) : Unchanged mode state after ↔
      LoopHarmless mode gains sender bBalanceOverrun stop state prepared := by
  have whole := (Credited.flag (mode.fJustCheck && bBalanceOverrun) sender).trans done
  have later : Unchanged mode state after ↔ Unchanged mode prepared after :=
    ⟨ready.unchanged.symm.trans, ready.unchanged.trans⟩
  rw [later, whole.unchanged_iff]
  simp only [nil_append, ready.unchanged.holdings, gained, folds]
  cases mode with
  | block =>
    constructor
    · exact fun same => ⟨same.1, Bool.noConfusion, Bool.noConfusion⟩
    · exact fun same => ⟨same.receivers, Bool.noConfusion⟩
  | mempool now =>
    obtain rfl := ready.conflicts rfl
    simp only [CheckMode.fJustCheck, Bool.true_and, forall_const, senderConflicts_iff]
    constructor
    · exact fun same => ⟨same.1, fun _ => same.2.1, fun _ => same.2.2⟩
    · exact fun same => ⟨same.receivers, same.overrun rfl, same.flagged rfl⟩

variable (dbAsset : CAsset) (dbAssetAllocation : CAssetAllocation) (txHash : Uint256)
  (nHeight : Nat)

/-- `middle` is the state after the sender's own revert. -/
def AmountsHarmless (mode : CheckMode) (sender : CAssetAllocationTuple)
    (amounts : List (Bytes × CAmount)) (state middle : AssetState) : Prop :=
  dbAsset.bUseInputRanges = false → (∀ entry ∈ amounts, isPositive entry.2 = true) →
    LoopHarmless mode amountsGained sender
      (decide (dbAssetAllocation.nBalance - totalUnits id 0 amounts < 0))
      (amountStop sender.vchAliasOrAddress amounts) state
      (revertedReceivers mode dbAsset txHash nHeight sender.vchAsset amounts middle)

def RangesHarmless (mode : CheckMode) (sender : CAssetAllocationTuple)
    (inputs : List (Bytes × List CRange)) (state middle : AssetState) : Prop :=
  let bBalanceOverrun := decide (dbAssetAllocation.nBalance - totalUnits rangeCount 0 inputs < 0)
  dbAsset.bUseInputRanges = true → (∀ entry ∈ inputs, isValidRanges entry.2 = true) →
    LoopHarmless mode rangesGained sender bBalanceOverrun
      (rangeStop sender.vchAliasOrAddress bBalanceOverrun dbAssetAllocation.listAllocationInputs
        inputs) state
      (revertedReceivers mode dbAsset txHash nHeight sender.vchAsset inputs middle)

theorem wp_senderConflicts {post : Bool → AssetState → Prop} :
    wp (senderConflicts mode bBalanceOverrun tuple) post stopped state ↔
      post (mode.fJustCheck && (bBalanceOverrun ||
          isConflict (afterFlag (mode.fJustCheck && bBalanceOverrun) tuple state) tuple))
        (afterFlag (mode.fJustCheck && bBalanceOverrun) tuple state) := .rfl

theorem writeSenderIn_passes {sender : CAssetAllocation} :
    wp (writeSenderIn mode txHash nHeight bBalanceOverrun sender) (fun _ _ => True)
      stopped state := by
  cases mode with
  | block => exact trivial
  | mempool now => exact trivial

theorem sendAmounts_failed {env : AssetEnv} (ready : Prepared mode state middle) :
    wp (sendAmounts mode env dbAsset dbAssetAllocation.nBalance txHash nHeight theAssetAllocation)
      (fun _ _ => True) (fun _ after => Unchanged mode state after ↔
        AmountsHarmless dbAsset dbAssetAllocation txHash nHeight mode theAssetAllocation.tuple
          theAssetAllocation.listSendingAllocationAmounts state middle) middle := by
  simp only [sendAmounts, wp_bind, wp_require]
  refine ⟨fun amountBased => ?_, fun ranges => iff_of_true ready.unchanged fun amountBased => ?_⟩
  · refine wp_mono (revertReceivers_spec mode dbAsset txHash nHeight _ _ _ _ ready.keyed) ?_ ?_
    · rintro total prepared ⟨rfl, positive, reverts, reached⟩
      rw [wp_senderConflicts]
      refine wp_mono (creditAmounts_failed _ _ dbAsset txHash nHeight rfl
        (afterFlag_keyed reverts.keyed)) (fun _ _ _ => writeSenderIn_passes _ _)
        fun _ after done => ?_
      have whole : Unchanged mode state after ↔ LoopHarmless mode amountsGained
          theAssetAllocation.tuple _ (amountStop theAssetAllocation.vchAliasOrAddress _) state
          prepared := Credited.harmless_iff (ready.trans reverts) foldl_amountGain done
      rw [whole, reached]
      exact ⟨fun harmless _ _ => harmless, fun harmless => harmless (by simpa using amountBased)
        positive⟩
    · rintro _ after ⟨refused, unchanged⟩
      exact iff_of_true (ready.unchanged.trans unchanged) fun _ positive => absurd positive refused
  · rw [amountBased] at ranges
    cases ranges

theorem sendRanges_failed (ready : Prepared mode state middle) :
    wp (sendRanges mode dbAsset dbAssetAllocation txHash nHeight theAssetAllocation)
      (fun _ _ => True) (fun _ after => Unchanged mode state after ↔
        RangesHarmless dbAsset dbAssetAllocation txHash nHeight mode theAssetAllocation.tuple
          theAssetAllocation.listSendingAllocationInputs state middle) middle := by
  simp only [sendRanges, wp_bind, wp_require]
  refine ⟨fun rangeBased => ?_, fun amounts => iff_of_true ready.unchanged fun rangeBased => ?_⟩
  · refine wp_mono (revertReceivers_spec mode dbAsset txHash nHeight _ _ _ _ ready.keyed) ?_ ?_
    · rintro total prepared ⟨rfl, valid, reverts, reached⟩
      rw [wp_senderConflicts]
      refine wp_mono (creditRanges_failed _ _ dbAsset txHash nHeight rfl rfl
        (afterFlag_keyed reverts.keyed)) (fun _ _ _ => writeSenderIn_passes _ _)
        fun _ after done => ?_
      have whole : Unchanged mode state after ↔ LoopHarmless mode rangesGained
          theAssetAllocation.tuple _ (rangeStop theAssetAllocation.vchAliasOrAddress _ _ _) state
          prepared := Credited.harmless_iff (ready.trans reverts) rfl done
      rw [whole, reached]
      exact ⟨fun harmless _ _ => harmless, fun harmless => harmless rangeBased valid⟩
    · rintro _ after ⟨refused, unchanged⟩
      exact iff_of_true (ready.unchanged.trans unchanged) fun _ valid => absurd valid refused
  · rw [rangeBased] at amounts
    cases amounts

end

section

variable (env : AssetEnv) (inputs : UtxoMap) (tx : CTransaction) (vchAlias : Bytes)

def holderSigned (holder claimed : Bytes) : Bool :=
  if vchAlias.isEmpty then decide (holder = claimed) && env.findAssetOwnerInTx inputs tx claimed
  else decide (holder = vchAlias)

theorem requireHolder_spec {state : AssetState} {claimed : Bytes}
    (value : holderSigned env inputs tx vchAlias holder claimed = true → post () state)
    (stops : holderSigned env inputs tx vchAlias holder claimed = false → ∀ e, stopped e state) :
    wp (requireHolder env inputs tx vchAlias holder claimed) post stopped state := by
  rw [holderSigned] at value stops
  rw [requireHolder]
  split
  · rename_i isAddress
    rw [if_pos isAddress] at value stops
    exact (wp_require _ _).mpr ⟨value, fun refused => stops refused _⟩
  · rename_i isAlias
    rw [if_neg isAlias] at value stops
    exact (wp_require _ _).mpr ⟨value, fun refused => stops refused _⟩

def sendAsset (payload : CAssetAllocation) (vchThisAlias : Bytes) (state : AssetState) :
    Option CAsset :=
  if vchAlias.isEmpty || !env.isValidAddress vchThisAlias then
    (state.allocations.lookup ⟨payload.vchAsset, vchThisAlias⟩).bind fun found =>
      if holderSigned env inputs tx vchAlias found.vchAliasOrAddress payload.vchAliasOrAddress then
        state.assets.lookup payload.vchAsset
      else none
  else none

def SendHarmless (mode : CheckMode) (nHeight : Nat) (payload : CAssetAllocation)
    (vchThisAlias : Bytes) (state : AssetState) : Prop :=
  let sender : CAssetAllocationTuple := ⟨payload.vchAsset, vchThisAlias⟩
  ∀ dbAsset ∈ sendAsset env inputs tx vchAlias payload vchThisAlias state,
    let middle := revertedIn mode dbAsset (env.txHash tx) nHeight state sender
    ∀ dbAssetAllocation ∈ middle.allocations.lookup sender,
      if payload.listSendingAllocationAmounts.isEmpty then
        RangesHarmless dbAsset dbAssetAllocation (env.txHash tx) nHeight mode sender
          payload.listSendingAllocationInputs state middle
      else
        AmountsHarmless dbAsset dbAssetAllocation (env.txHash tx) nHeight mode sender
          payload.listSendingAllocationAmounts state middle

variable {mode : CheckMode} {state : AssetState} (nHeight : Nat) {vchThisAlias : Bytes}

theorem wp_rereadIn {post : CAssetAllocation → AssetState → Prop} {found : CAssetAllocation}
    (here : mode.fJustCheck = true → middle.allocations.lookup tuple = some found)
    (value : ∀ record, middle.allocations.lookup tuple = some record → post record middle)
    (stops : middle.allocations.lookup tuple = none → ∀ e, stopped e middle) :
    wp (rereadIn mode tuple found) post stopped middle := by
  cases mode with
  | mempool now => exact value found (here rfl)
  | block =>
    simp only [rereadIn, wp_bind, wp_readAssetAllocation, wp_orStop]
    exact ⟨value, fun missing => stops missing _⟩

theorem SendHarmless.of_none
    (none : sendAsset env inputs tx vchAlias payload vchThisAlias state = none) :
    SendHarmless env inputs tx vchAlias mode nHeight payload vchThisAlias state := by
  intro dbAsset member
  rw [none] at member
  cases member

theorem sendAllocations_failed {dbAsset : CAsset} {db payload : CAssetAllocation}
    (ready : Prepared mode state middle) :
    wp (sendAllocations mode env dbAsset db (env.txHash tx) nHeight
        (senderRecord vchThisAlias db payload)) (fun _ _ => True)
      (fun _ after => Unchanged mode state after ↔
        if payload.listSendingAllocationAmounts.isEmpty then
          RangesHarmless dbAsset db (env.txHash tx) nHeight mode ⟨payload.vchAsset, vchThisAlias⟩
            payload.listSendingAllocationInputs state middle
        else
          AmountsHarmless dbAsset db (env.txHash tx) nHeight mode ⟨payload.vchAsset, vchThisAlias⟩
            payload.listSendingAllocationAmounts state middle) middle := by
  rw [sendAllocations]
  by_cases ranges : payload.listSendingAllocationAmounts.isEmpty = true
  · rw [if_pos ranges, if_neg (by simpa [senderRecord] using ranges)]
    split
    · exact sendRanges_failed dbAsset db (env.txHash tx) nHeight ready
    · exact writeSenderIn_passes _ _
  · rw [if_neg ranges, if_pos (by simpa [senderRecord] using ranges)]
    exact sendAmounts_failed dbAsset db (env.txHash tx) nHeight ready

theorem allocationSend_failed {payload : CAssetAllocation} (keyed : Keyed state) :
    wp (allocationSend mode env inputs tx vchAlias nHeight payload vchThisAlias) (fun _ _ => True)
      (fun _ after => Unchanged mode state after ↔
        SendHarmless env inputs tx vchAlias mode nHeight payload vchThisAlias state) state := by
  have same := Unchanged.refl mode state
  simp only [allocationSend, wp_bind, wp_require, wp_readAssetAllocation, wp_orStop, wp_readAsset]
  refine ⟨fun address => ⟨fun found lookup => requireHolder_spec _ _ _ _ ?_ ?_, ?_⟩, ?_⟩
  · intro signed
    have asset : sendAsset env inputs tx vchAlias payload vchThisAlias state =
        state.assets.lookup payload.vchAsset := by
      rw [sendAsset, if_pos address, lookup, Option.bind_some, if_pos signed]
    refine ⟨fun dbAsset foundAsset => ?_, fun missing => iff_of_true same ?_⟩
    · refine wp_mono (revertIn_spec mode dbAsset (env.txHash tx) nHeight keyed) ?_
        fun _ _ impossible => impossible.elim
      rintro - middle ⟨ready, reached⟩
      refine wp_rereadIn (fun isMempool => ?_) (fun db record => ?_) fun gone _ => ?_
      · rw [ready.conflicts isMempool]
        exact lookup
      · refine wp_mono (sendAllocations_failed env tx nHeight ready)
          (fun _ _ => id) fun _ after failed => ?_
        rw [failed]
        simp only [SendHarmless, asset, foundAsset, Option.mem_def, Option.some.injEq, forall_eq',
          ← reached, record]
      · refine iff_of_true ready.unchanged ?_
        simp only [SendHarmless, asset, foundAsset, Option.mem_def, Option.some.injEq, forall_eq',
          ← reached, gone, reduceCtorEq, false_implies, implies_true]
    · exact SendHarmless.of_none env inputs tx vchAlias nHeight (asset.trans missing)
  · intro unsigned _
    refine iff_of_true same (SendHarmless.of_none env inputs tx vchAlias nHeight ?_)
    rw [sendAsset, if_pos address, lookup, Option.bind_some, if_neg (ne_true_of_eq_false unsigned)]
  · intro missing
    refine iff_of_true same (SendHarmless.of_none env inputs tx vchAlias nHeight ?_)
    rw [sendAsset, if_pos address, missing, Option.bind_none]
  · intro address
    refine iff_of_true same (SendHarmless.of_none env inputs tx vchAlias nHeight ?_)
    rw [sendAsset, if_neg (ne_true_of_eq_false address)]

theorem collectInterestIn_failed (keyed : Keyed state) :
    wp (collectInterestIn mode env (env.txHash tx) nHeight tuple) (fun _ _ => True)
      (fun _ => Unchanged mode state) state := by
  have same := Unchanged.refl mode state
  cases mode with
  | mempool now =>
    simp only [collectInterestIn, checkInterest, wp_bind, wp_pure, wp_readAssetAllocation,
      wp_orStop, wp_readAsset, wp_require]
    exact ⟨fun _ _ => ⟨fun _ _ => ⟨fun _ => trivial, fun _ => same⟩, fun _ => same⟩,
      fun _ => same⟩
  | block =>
    simp only [collectInterestIn, collectInterest, checkInterest, wp_bind, wp_pure,
      wp_readAssetAllocation, wp_orStop, wp_readAsset, wp_require, wp_liftExcept, wp_writeAsset,
      wp_writeSender]
    refine ⟨fun _ _ => ⟨fun _ _ => ⟨fun _ => ?_, fun _ => same⟩, fun _ => same⟩, fun _ => same⟩
    refine wp_mono (revert_spec keyed tuple _ nHeight) ?_ fun _ _ impossible => impossible.elim
    rintro - middle done
    exact ⟨fun _ _ => ⟨fun _ _ => trivial, fun _ _ => done.kept.unchanged⟩,
      fun _ => done.kept.unchanged⟩

def CallHarmless (mode : CheckMode) (op : Nat) (vvchArgs : List Bytes) (vchHash : Bytes)
    (state : AssetState) : Prop :=
  op = OP_ASSET_ALLOCATION_SEND → ∀ payload ∈ env.unserializeAllocation tx,
    payloadErrorIn mode op vvchArgs vchHash payload = none →
      SendHarmless env inputs tx vchAlias mode nHeight payload
        (if vchAlias.isEmpty then payload.vchAliasOrAddress else vchAlias) state

theorem failedCall_unchanged_iff (mode : CheckMode) (op : Nat) (vvchArgs : List Bytes)
    (vchHash : Bytes) (keyed : Keyed state) {e : ServiceStop}
    (failed : (checkAssetAllocationInputsIn mode env inputs tx op vvchArgs vchHash vchAlias nHeight
      state).1 = .error e) : Unchanged mode state
        (checkAssetAllocationInputsIn mode env inputs tx op vvchArgs vchHash vchAlias nHeight
          state).2 ↔
      CallHarmless env inputs tx vchAlias nHeight mode op vvchArgs vchHash state := by
  have passes : wp (checkAssetAllocationInputsIn mode env inputs tx op vvchArgs vchHash
      vchAlias nHeight) (fun _ _ => True) (fun _ after => Unchanged mode state after ↔
        CallHarmless env inputs tx vchAlias nHeight mode op vvchArgs vchHash state) state := by
    have same := Unchanged.refl mode state
    rw [checkAssetAllocationInputsIn]
    split
    · exact trivial
    · simp only [wp_bind, wp_orStop]
      refine ⟨fun payload here => ?_, fun missing => iff_of_true same ?_⟩
      · rw [requirePayloadIn]
        split
        · rename_i refused
          refine iff_of_true same ?_
          rintro - other member accepted
          cases here.symm.trans member
          cases refused.symm.trans accepted
        rename_i accepted
        change wp (runAllocationOp _ _ _ _ _ _ _ _) _ _ _
        rw [runAllocationOp]
        split
        · rename_i collects
          refine wp_mono (collectInterestIn_failed env tx nHeight keyed) (fun _ _ => id)
            fun _ after unchanged => iff_of_true unchanged fun sends => ?_
          rw [collects] at sends
          exact absurd sends (by decide)
        · split
          · rename_i sends
            refine wp_mono (allocationSend_failed env inputs tx vchAlias nHeight keyed)
              (fun _ _ => id) fun _ after sent => ?_
            rw [sent]
            constructor
            · rintro harmless - other member -
              cases here.symm.trans member
              exact harmless
            · exact fun harmless => harmless sends payload here accepted
          · exact writeSenderIn_passes _ _
      · rintro - payload member
        cases missing.symm.trans member
  exact wp_error passes failed

end

def sampleCall (amounts : List (Bytes × CAmount)) : Except ServiceStop Unit × AssetState :=
  checkAssetAllocationInputsIn mode (samplePaying amounts) ∅ (sampleAssetTx 1)
    OP_ASSET_ALLOCATION_SEND [[0]] [0] [] 7 sampleTokens

theorem failedCall_unchanged_iff_sample : (sampleCall .block [([1], 1), ([2], 2)]).1 =
        .error (allocationError 1022 "Cannot send an asset allocation to yourself") ∧
      Unchanged .block sampleTokens (sampleCall .block [([1], 1), ([2], 2)]).2 := by
  have failed : (sampleCall .block [([1], 1), ([2], 2)]).1 =
      .error (allocationError 1022 "Cannot send an asset allocation to yourself") := by
    decide +kernel
  refine ⟨failed, (failedCall_unchanged_iff _ _ _ _ _ _ _ _ _ sampleTokens_keyed failed).mpr ?_⟩
  rintro - payload member -
  cases member
  rintro dbAsset - middle db - - -
  exact ⟨fun _ => nofun, Bool.noConfusion, Bool.noConfusion⟩

theorem failedCall_credits : (sampleCall .block [([2], 2), ([1], 1)]).1 =
        .error (allocationError 1022 "Cannot send an asset allocation to yourself") ∧
      holding sampleTokens.lastAllocations ⟨sampleAssetName, [2]⟩ = (0, []) ∧
      holding (sampleCall .block [([2], 2), ([1], 1)]).2.lastAllocations ⟨sampleAssetName, [2]⟩ =
        (2, []) ∧
      holding (sampleCall (.mempool 9) [([2], 2), ([1], 1)]).2.allocations
        ⟨sampleAssetName, [2]⟩ = (2, []) ∧
      (sampleCall (.mempool 9) [([1], 6)]).1 =
        .error (allocationError 1022 "Cannot send an asset allocation to yourself") ∧
      sampleTokens.assetAllocationConflicts = [] ∧
      (sampleCall (.mempool 9) [([1], 6)]).2.assetAllocationConflicts =
        [⟨sampleAssetName, [1]⟩] := by
  decide +kernel

end Minerium
