import Minerium.AssetCore
import Minerium.Lib.FinmapTotal

/-! The confirmed allocation records as a ledger. A revert changes nobody's balance or ranges. -/

namespace Minerium

open FinmapTotal SortedVector Option CAssetAllocationTuple

open Procedure (wp wp_bind wp_modify wp_mono wp_pure wp_read wp_require)

variable {vchAsset holder other : Bytes} {state : AssetState} {post : Unit → AssetState → Prop}
  {stopped : ServiceStop → AssetState → Prop} {asset : CAsset} {map : AllocationMap}
  {allocation : CAssetAllocation} {tuple : CAssetAllocationTuple}

abbrev AllocationMap := Finmap fun _ : CAssetAllocationTuple => CAssetAllocation

section

variable (vchAsset tuple)

def balanceWeight (allocation : CAssetAllocation) : Int :=
  if tuple.vchAsset = vchAsset then allocation.nBalance.toInt else 0

def allocationSum (map : AllocationMap) : Int :=
  total (balanceWeight vchAsset) map

end

section

variable (map tuple)

def balanceAt : Int :=
  ((map.lookup tuple).map fun allocation => allocation.nBalance.toInt).getD 0

def rangesAt : List CRange :=
  ((map.lookup tuple).map (·.listAllocationInputs)).getD []

end

theorem allocationSum_insert :
    allocationSum vchAsset (map.insert tuple allocation) = allocationSum vchAsset map +
      if tuple.vchAsset = vchAsset then allocation.nBalance.toInt - balanceAt map tuple else 0 := by
  rw [allocationSum, total_insert_eq, allocationSum, weightAt]
  by_cases same : tuple.vchAsset = vchAsset
  · cases found : map.lookup tuple with
    | none => simp [balanceWeight, same, balanceAt, found]
    | some old =>
      simp [balanceWeight, same, balanceAt, found]
      omega
  · cases found : map.lookup tuple with
    | none => simp [balanceWeight, same]
    | some old => simp [balanceWeight, same]

theorem balanceWeight_nonneg (nonneg : ∀ holder, 0 ≤ balanceAt map ⟨vchAsset, holder⟩) :
    ∀ tuple allocation, map.lookup tuple = some allocation →
      0 ≤ balanceWeight vchAsset tuple allocation := by
  rintro ⟨named, holder⟩ allocation found
  rw [balanceWeight]
  split
  · rename_i same
    have stored := nonneg holder
    rw [← show named = vchAsset from same, balanceAt, found] at stored
    exact stored
  · exact le_refl 0

theorem weightAt_balance : weightAt (balanceWeight vchAsset) map ⟨vchAsset, holder⟩ =
      balanceAt map ⟨vchAsset, holder⟩ := by
  rw [weightAt, balanceAt]
  cases map.lookup ⟨vchAsset, holder⟩ with
  | none => rfl
  | some allocation => simp [balanceWeight]

section

variable (nonneg : ∀ holder, 0 ≤ balanceAt map ⟨vchAsset, holder⟩)
include nonneg

theorem balanceAt_le_sum (holder : Bytes) :
    balanceAt map ⟨vchAsset, holder⟩ ≤ allocationSum vchAsset map := by
  rw [← weightAt_balance]
  exact weightAt_le_total (balanceWeight_nonneg nonneg) _

theorem balanceAt_add_le_sum (different : other ≠ holder) :
    balanceAt map ⟨vchAsset, holder⟩ + balanceAt map ⟨vchAsset, other⟩ ≤
      allocationSum vchAsset map := by
  rw [← weightAt_balance, ← weightAt_balance]
  refine weightAt_add_le_total (balanceWeight_nonneg nonneg) fun same => different ?_
  exact congrArg vchAliasOrAddress same

theorem allocationSum_nonneg : 0 ≤ allocationSum vchAsset map :=
  total_nonneg (balanceWeight_nonneg nonneg)

end

theorem balanceAt_insert {other : CAssetAllocationTuple} :
    balanceAt (map.insert tuple allocation) other =
      if other = tuple then allocation.nBalance.toInt else balanceAt map other := by
  rw [balanceAt, lookup_insert_eq]
  by_cases same : other = tuple
  · simp [same]
  · simp [same, balanceAt]

theorem rangesAt_insert {other : CAssetAllocationTuple} :
    rangesAt (map.insert tuple allocation) other =
      if other = tuple then allocation.listAllocationInputs else rangesAt map other := by
  rw [rangesAt, lookup_insert_eq]
  by_cases same : other = tuple
  · simp [same]
  · simp [same, rangesAt]

/-- Records are stored under their own names, and the reverted tuples are in order. -/
structure Keyed (state : AssetState) : Prop where
  assets : ∀ vchAsset asset, state.assets.lookup vchAsset = some asset → asset.vchAsset = vchAsset
  allocations : ∀ tuple allocation, state.allocations.lookup tuple = some allocation →
    allocation.tuple = tuple
  lastAllocations : ∀ tuple allocation, state.lastAllocations.lookup tuple = some allocation →
    allocation.tuple = tuple
  reverted : Sorted toString state.revertedAssetAllocations

section

variable (state tuple)

def Synced : Prop :=
  state.allocations.lookup tuple = state.lastAllocations.lookup tuple

def BalanceSynced : Prop :=
  balanceAt state.allocations tuple = balanceAt state.lastAllocations tuple

def isReverted : Prop :=
  (tupleFind state.revertedAssetAllocations tuple).isSome = true

end

theorem keyed_insert (keyed : ∀ tuple found, map.lookup tuple = some found → found.tuple = tuple) :
    ∀ tuple found, (map.insert allocation.tuple allocation).lookup tuple = some found →
      found.tuple = tuple := by
  intro tuple found lookup
  rw [lookup_insert_eq] at lookup
  split at lookup
  · rename_i same
    cases lookup
    exact same.symm
  · exact keyed tuple found lookup

section

variable (allocation)

def afterWrite (state : AssetState) : AssetState :=
  { state with
    allocations := state.allocations.insert allocation.tuple allocation
    lastAllocations := state.lastAllocations.insert allocation.tuple allocation }

theorem Keyed.afterWrite (keyed : Keyed state) (allocation : CAssetAllocation) :
    Keyed (afterWrite allocation state) :=
  ⟨keyed.assets, keyed_insert keyed.allocations, keyed_insert keyed.lastAllocations, keyed.reverted⟩

theorem Synced.afterWrite (synced : Synced state tuple)
    (allocation : CAssetAllocation) : Synced (afterWrite allocation state) tuple := by
  simp only [Synced, Minerium.afterWrite, lookup_insert_eq]
  split
  · rfl
  · exact synced

@[simp] theorem wp_writeAssetAllocation : wp (writeAssetAllocation allocation) post stopped state ↔
      post () (afterWrite allocation state) := .rfl

end

def totalUnits {δ : Type} (units : δ → CAmount) (nTotal : CAmount) (items : List (Bytes × δ)) :
    CAmount :=
  items.foldl (fun total entry => total + units entry.2) nTotal

theorem sumItems_eq {δ : Type} {accepted : δ → Bool} {stop : ServiceStop} {units : δ → CAmount}
    {nTotal : CAmount} {items : List (Bytes × δ)} :
    sumItems accepted stop units nTotal items =
      Procedure.require (items.all fun entry => accepted entry.2) stop >>= fun _ =>
        pure (totalUnits units nTotal items) := by
  induction items generalizing nTotal with
  | nil => rfl
  | cons entry rest ih =>
    obtain ⟨receiver, item⟩ := entry
    rw [sumItems, ih, List.all_cons]
    cases accepted item <;> rfl

/-- In a block no receiver is made a conflict. -/
theorem addConflictIf_false {tuple : CAssetAllocationTuple} :
    addConflictIf false tuple = pure () := rfl

theorem senderConflicts_block {bBalanceOverrun : Bool} {tuple : CAssetAllocationTuple} :
    senderConflicts .block bBalanceOverrun tuple = pure false := rfl

@[simp] theorem wp_writeSender (txHash : Uint256) (nHeight : Nat) (bBalanceOverrun : Bool)
    (allocation : CAssetAllocation) :
    wp (writeSender txHash nHeight bBalanceOverrun allocation) post stopped state ↔
      post () (afterWrite (stamped txHash nHeight bBalanceOverrun allocation) state) := .rfl

section

variable (txHash : Uint256) (nHeight : Nat) (bBalanceOverrun : Bool) (allocation : CAssetAllocation)

@[simp] theorem stamped_tuple :
    (stamped txHash nHeight bBalanceOverrun allocation).tuple = allocation.tuple := by
  cases bBalanceOverrun <;> rfl

@[simp] theorem stamped_nBalance :
    (stamped txHash nHeight bBalanceOverrun allocation).nBalance = allocation.nBalance := by
  cases bBalanceOverrun <;> rfl

@[simp] theorem stamped_listAllocationInputs :
    (stamped txHash nHeight bBalanceOverrun allocation).listAllocationInputs =
      allocation.listAllocationInputs := by
  cases bBalanceOverrun <;> rfl

end

section

variable (env : AssetEnv) (condition : Bool) (nHeight : Nat) (allocation : CAssetAllocation)

theorem accumulateIf_eq : ∃ balance rate, accumulateIf env condition nHeight allocation =
    { allocation with
      nAccumulatedBalanceSinceLastInterestClaim := balance
      fAccumulatedInterestSinceLastInterestClaim := rate } := by
  cases condition with
  | false => exact ⟨_, _, rfl⟩
  | true =>
    simp only [accumulateIf, if_true, accumulateInterestSinceLastClaim]
    split
    · exact ⟨_, _, rfl⟩
    · exact ⟨_, _, rfl⟩

@[simp] theorem accumulateIf_tuple :
    (accumulateIf env condition nHeight allocation).tuple = allocation.tuple := by
  obtain ⟨balance, rate, same⟩ := accumulateIf_eq env condition nHeight allocation
  rw [same]
  rfl

@[simp] theorem accumulateIf_nBalance :
    (accumulateIf env condition nHeight allocation).nBalance = allocation.nBalance := by
  obtain ⟨balance, rate, same⟩ := accumulateIf_eq env condition nHeight allocation
  rw [same]

@[simp] theorem accumulateIf_listAllocationInputs :
    (accumulateIf env condition nHeight allocation).listAllocationInputs =
      allocation.listAllocationInputs := by
  obtain ⟨balance, rate, same⟩ := accumulateIf_eq env condition nHeight allocation
  rw [same]

@[simp] theorem creditedBy_tuple (txHash : Uint256) (fInterestRate : Float32Bits)
    (vchMemo : Bytes) (amount : CAmount) :
    (creditedBy txHash nHeight fInterestRate vchMemo amount allocation).tuple =
      allocation.tuple := rfl

end

@[simp] theorem wp_readAssetAllocation {post : Option CAssetAllocation → AssetState → Prop}
    (tuple : CAssetAllocationTuple) : wp (readAssetAllocation tuple) post stopped state ↔
      post (state.allocations.lookup tuple) state := .rfl

@[simp] theorem wp_readAsset {post : Option CAsset → AssetState → Prop} (vchAsset : Bytes) :
    wp (readAsset vchAsset) post stopped state ↔ post (state.assets.lookup vchAsset) state := .rfl

def afterWriteAsset (asset : CAsset) (state : AssetState) : AssetState :=
  { state with assets := state.assets.insert asset.vchAsset asset }

@[simp] theorem wp_writeAsset (asset : CAsset) : wp (writeAsset asset) post stopped state ↔
      post () (afterWriteAsset asset state) := .rfl

section

variable {env : AssetEnv} {inputs : UtxoMap} {tx : CTransaction} {signer owner user1 : Bytes}

section

variable (env inputs tx signer owner user1)

def ownerSigns : Bool :=
  if signer.isEmpty then env.findAssetOwnerInTx inputs tx user1 else decide (owner = signer)

end

theorem wp_requireAssetOwner {text : String} :
    wp (requireAssetOwner env inputs tx signer owner user1 text) post stopped state ↔
      (ownerSigns env inputs tx signer owner user1 = true → post () state) ∧
        (ownerSigns env inputs tx signer owner user1 = false →
          stopped (assetError 1015 text) state) := by
  rw [requireAssetOwner, ownerSigns]
  split
  · exact wp_require _ _
  · exact wp_require _ _

theorem wp_requireAssetSender {claimed : Bytes}
    (value : ownerSigns env inputs tx signer owner user1 = true → post () state)
    (stops : ∀ e, stopped e state) :
    wp (requireAssetSender env inputs tx signer owner claimed user1) post stopped state := by
  rw [ownerSigns] at value
  simp only [requireAssetSender]
  split
  · rename_i empty
    rw [if_pos empty] at value
    refine (wp_require _ _).mpr ⟨fun signed => value ?_, fun _ => stops _⟩
    exact ((Bool.and_eq_true _ _).mp signed).2
  · rename_i nonempty
    rw [if_neg nonempty] at value
    exact (wp_require _ _).mpr ⟨value, fun _ => stops _⟩

end

theorem Keyed.afterWriteAsset (keyed : Keyed state) (asset : CAsset) :
    Keyed (afterWriteAsset asset state) := by
  refine ⟨?_, keyed.allocations, keyed.lastAllocations, keyed.reverted⟩
  intro vchAsset found lookup
  simp only [Minerium.afterWriteAsset, lookup_insert_eq] at lookup
  split at lookup
  · rename_i same
    cases lookup
    exact same.symm
  · exact keyed.assets vchAsset found lookup

/-- A record may have been written, but every holder has its confirmed balance and ranges. -/
structure HoldingsKept (before after : AssetState) : Prop where
  assets : after.assets = before.assets
  keyed : Keyed before → Keyed after
  balance : ∀ tuple, balanceAt after.lastAllocations tuple = balanceAt before.lastAllocations tuple
  ranges : ∀ tuple, rangesAt after.lastAllocations tuple = rangesAt before.lastAllocations tuple
  sum : ∀ vchAsset, allocationSum vchAsset after.lastAllocations =
    allocationSum vchAsset before.lastAllocations
  synced : ∀ tuple, Synced before tuple → Synced after tuple

theorem HoldingsKept.refl (state : AssetState) : HoldingsKept state state :=
  ⟨rfl, id, fun _ => rfl, fun _ => rfl, fun _ => rfl, fun _ => id⟩

theorem HoldingsKept.trans {first second third : AssetState}
    (one : HoldingsKept first second) (two : HoldingsKept second third) :
    HoldingsKept first third :=
  ⟨two.assets.trans one.assets, two.keyed ∘ one.keyed,
    fun tuple => (two.balance tuple).trans (one.balance tuple),
    fun tuple => (two.ranges tuple).trans (one.ranges tuple),
    fun vchAsset => (two.sum vchAsset).trans (one.sum vchAsset),
    fun tuple => two.synced tuple ∘ one.synced tuple⟩

theorem holdingsKept_write
    (balance : allocation.nBalance.toInt = balanceAt state.lastAllocations allocation.tuple)
    (ranges : allocation.listAllocationInputs = rangesAt state.lastAllocations allocation.tuple) :
    HoldingsKept state (afterWrite allocation state) := by
  refine ⟨rfl, fun keyed => keyed.afterWrite allocation, ?_, ?_, ?_,
    fun tuple synced => synced.afterWrite allocation⟩
  · intro tuple
    rw [afterWrite, balanceAt_insert]
    split
    · rename_i same
      rw [same, balance]
    · rfl
  · intro tuple
    rw [afterWrite, rangesAt_insert]
    split
    · rename_i same
      rw [same, ranges]
    · rfl
  · intro vchAsset
    rw [afterWrite, allocationSum_insert, balance]
    split <;> omega

section

variable (state tuple)

/-- What a revert of `tuple` does.  Tuples with the same text count as reverted too. -/
structure Reverted (before after : AssetState) : Prop where
  kept : HoldingsKept before after
  synced : (isReverted before tuple → Synced before tuple) → Synced after tuple
  stays : ∀ record, before.lastAllocations.lookup tuple = some record →
    after.lastAllocations.lookup tuple = some record
  other : ∀ other, other ≠ tuple →
    after.allocations.lookup other = before.allocations.lookup other ∧
      after.lastAllocations.lookup other = before.lastAllocations.lookup other
  marks : ∀ other, isReverted after other ↔
    tuple.toString = other.toString ∨ isReverted before other

/-- The record holds what is confirmed for the holder. -/
@[mk_iff] structure RecordOf (record : CAssetAllocation) : Prop where
  named : record.tuple = tuple
  balance : record.nBalance.toInt = balanceAt state.lastAllocations tuple
  ranges : record.listAllocationInputs = rangesAt state.lastAllocations tuple

end

theorem lastOrNew_spec (keyed : Keyed state) (tuple : CAssetAllocationTuple) (asset : CAsset)
    (nHeight : Nat) : RecordOf state tuple
      ((state.lastAllocations.lookup tuple).getD (newAllocation tuple asset nHeight)) := by
  rw [recordOf_iff, balanceAt, rangesAt]
  cases found : state.lastAllocations.lookup tuple with
  | none => exact ⟨rfl, rfl, rfl⟩
  | some allocation => exact ⟨keyed.lastAllocations tuple allocation found, rfl, rfl⟩

theorem revertOnce_spec (keyed : Keyed state) (tuple : CAssetAllocationTuple) (nHeight : Nat) :
    wp (revertOnce tuple asset nHeight) (fun _ => Reverted tuple state)
      (fun _ _ => False) state := by
  obtain ⟨named, balance, ranges⟩ := lastOrNew_spec keyed tuple asset nHeight
  simp only [revertOnce, readLastAssetAllocation, markReverted, wp_bind,
    wp_read, wp_writeAssetAllocation, wp_modify]
  generalize read : (state.lastAllocations.lookup tuple).getD (newAllocation tuple asset nHeight) =
    allocation at named balance ranges
  subst named
  have marks := find_insert_isSome keyed.reverted allocation.tuple
  have kept := holdingsKept_write balance ranges
  refine ⟨⟨rfl, fun _ => ?_, kept.balance, kept.ranges, kept.sum, kept.synced⟩, fun _ => ?_, ?_,
    ?_, marks⟩
  · exact ⟨keyed.assets, keyed_insert keyed.allocations, keyed_insert keyed.lastAllocations,
      (insert_keys keyed.reverted).1⟩
  · simp only [Synced, afterWrite, lookup_insert_eq, if_true]
  · intro record found
    rw [found] at read
    simp only [afterWrite, lookup_insert_eq, if_true]
    exact congrArg some read.symm
  · intro other different
    simp only [afterWrite, lookup_insert_eq, if_neg different]
    exact ⟨trivial, trivial⟩

theorem revert_spec (keyed : Keyed state) (tuple : CAssetAllocationTuple) (txHash : Uint256)
    (nHeight : Nat) : wp (revertAssetAllocation tuple asset txHash nHeight)
      (fun _ => Reverted tuple state) (fun _ _ => False) state := by
  simp only [revertAssetAllocation, eraseISArrivalTime, wp_bind, wp_modify, wp_read]
  generalize (if ((state.arrivalTimes.lookup tuple).getD ∅).erase txHash = ∅ then _ else _) =
    arrivalTimes
  have keyed' : Keyed { state with arrivalTimes := arrivalTimes } := { keyed with }
  have same : HoldingsKept state { state with arrivalTimes := arrivalTimes } :=
    ⟨rfl, fun _ => keyed', fun _ => rfl, fun _ => rfl, fun _ => rfl, fun _ => id⟩
  cases reverted : (tupleFind state.revertedAssetAllocations tuple).isSome with
  | true =>
    simp only [revertUnless, if_true, wp_pure]
    refine ⟨same, fun synced => synced reverted, fun _ => id, fun other _ => ⟨rfl, rfl⟩,
      fun other => ?_⟩
    constructor
    · exact .inr
    · rintro (text | before)
      · have there := (find_isSome_iff keyed.reverted).mp reverted
        rw [text] at there
        exact (find_isSome_iff keyed.reverted).mpr there
      · exact before
  | false =>
    simp only [revertUnless, Bool.false_eq_true, if_false]
    refine wp_mono (revertOnce_spec keyed' tuple nHeight) ?_ (fun _ _ => id)
    rintro - after done
    exact { done with kept := same.trans done.kept }

theorem Reverted.trusted {before after : AssetState}
    (done : Reverted ⟨vchAsset, holder⟩ before after)
    (first : isReverted before ⟨vchAsset, holder⟩ → Synced before ⟨vchAsset, holder⟩)
    (second : isReverted before ⟨vchAsset, other⟩ → Synced before ⟨vchAsset, other⟩) :
    isReverted after ⟨vchAsset, other⟩ → Synced after ⟨vchAsset, other⟩ := by
  intro marked
  rcases (done.marks _).mp marked with text | marked
  · obtain rfl := (List.cons.inj (List.append_cancel_left text)).2
    exact done.synced first
  · exact done.kept.synced _ (second marked)

/-- A tuple goes by its text, in which a dash stands between two names that may have dashes. -/
theorem tupleFind_inserted_iff (inserted : List CAssetAllocationTuple)
    (tuple : CAssetAllocationTuple) :
    ((tupleFind (inserted.foldl tupleInsert []) tuple).isSome = true ↔ tuple ∈ inserted) ↔
      ∀ other ∈ inserted, other.toString = tuple.toString → tuple ∈ inserted := by
  obtain ⟨sorted, keys⟩ := @foldl_insert_keys _ _ _ _ _ _ _ toString inserted [] .nil
  have found : (tupleFind (inserted.foldl tupleInsert []) tuple).isSome = true ↔
      ∃ other ∈ inserted, other.toString = tuple.toString := by
    refine (find_isSome_iff sorted).trans ((keys _).trans ?_)
    simp
  rw [found]
  constructor
  · exact fun faithful other member text => faithful.mp ⟨other, member, text⟩
  · intro inside
    refine ⟨?_, fun member => ⟨tuple, member, rfl⟩⟩
    rintro ⟨other, member, text⟩
    exact inside other member text

theorem dashedAsset_found : (tupleFind ([⟨[0x61, 0x2d, 0x62], [0x63]⟩].foldl tupleInsert [])
        ⟨[0x61], [0x62, 0x2d, 0x63]⟩).isSome = true ∧
      (⟨[0x61], [0x62, 0x2d, 0x63]⟩ : CAssetAllocationTuple) ∉ [⟨[0x61, 0x2d, 0x62], [0x63]⟩] := by
  decide

end Minerium
