import Minerium.Allocation

/-! Sends by amounts: the first loop over the receivers reverts them and adds up, the second credits
them. -/

namespace Minerium

open MachineInt List Option

open Procedure (wp wp_bind wp_mono wp_orStop wp_pure wp_require)

variable {amounts rest : List (Bytes × CAmount)}
  {holder vchAsset receiver vchThisAlias vchAlias claimed : Bytes} {nTotal amount balance : CAmount}
  {state before middle after : AssetState} {record sender payload : CAssetAllocation}
  {post : Unit → AssetState → Prop} {stopped : ServiceStop → AssetState → Prop} {theAsset : CAsset}
  {env : AssetEnv} {inputs : UtxoMap} {tx : CTransaction} {tuple : CAssetAllocationTuple}
  {entry : Bytes × CAmount}

section

variable (amounts)

def exactTotal : Int :=
  (amounts.map fun entry => entry.2.toInt).sum

@[simp] theorem exactTotal_nil : exactTotal [] = 0 := rfl

@[simp] theorem exactTotal_cons (entry : Bytes × CAmount) (rest : List (Bytes × CAmount)) :
    exactTotal (entry :: rest) = entry.2.toInt + exactTotal rest := by
  simp [exactTotal]

def Positive : Prop := ∀ entry ∈ amounts, 0 < entry.2.toInt

end

theorem exactTotal_nonneg (positive : Positive amounts) : 0 ≤ exactTotal amounts := by
  induction amounts with
  | nil => simp
  | cons entry rest ih =>
    have first := positive entry mem_cons_self
    have others := ih fun other member => positive other (mem_cons_of_mem _ member)
    rw [exactTotal_cons]
    omega

def creditTo (holder : Bytes) (amounts : List (Bytes × CAmount)) : Int :=
  exactTotal (amounts.filter fun entry => decide (entry.1 = holder))

theorem creditTo_cons : creditTo holder (entry :: rest) =
      (if entry.1 = holder then entry.2.toInt else 0) + creditTo holder rest := by
  by_cases same : entry.1 = holder
  · simp [creditTo, same]
  · simp [creditTo, same]

theorem creditTo_nonneg (positive : Positive amounts) (holder : Bytes) :
    0 ≤ creditTo holder amounts :=
  exactTotal_nonneg fun entry member => positive entry (mem_of_mem_filter member)

theorem creditTo_le_total (positive : Positive amounts) (holder : Bytes) :
    creditTo holder amounts ≤ exactTotal amounts := by
  induction amounts with
  | nil => simp [creditTo]
  | cons entry rest ih =>
    obtain ⟨amountPositive, restPositive⟩ := forall_mem_cons.mp positive
    have others := ih restPositive
    rw [creditTo_cons, exactTotal_cons]
    split <;> omega

theorem creditTo_eq_zero (absent : ∀ entry ∈ amounts, entry.1 ≠ holder) :
    creditTo holder amounts = 0 := by
  have none : amounts.filter (fun entry => decide (entry.1 = holder)) = [] := by
    simpa using absent
  rw [creditTo, none, exactTotal_nil]

theorem totalUnits_exact {nTotal : CAmount} (positive : Positive amounts) (start : 0 ≤ nTotal.toInt)
    (bounded : nTotal.toInt + exactTotal amounts < 2 ^ 63) :
    (totalUnits id nTotal amounts).toInt = nTotal.toInt + exactTotal amounts := by
  induction amounts generalizing nTotal with
  | nil => simp [totalUnits]
  | cons entry rest ih =>
    obtain ⟨first, others⟩ := forall_mem_cons.mp positive
    have restNonneg := exactTotal_nonneg others
    simp only [exactTotal_cons] at bounded ⊢
    have exactAdd : (nTotal + entry.2).toInt = nTotal.toInt + entry.2.toInt :=
      toInt_add_of_range _ _ (by omega) (by omega)
    change (totalUnits id (nTotal + entry.2) rest).toInt = _
    rw [ih others (by omega) (by omega), exactAdd]
    omega

theorem positive_iff : decide (0 < amount) = true ↔ 0 < amount.toInt := by
  rw [decide_eq_true_eq, lt_iff]
  exact .rfl

structure AmountsReverted (vchAsset : Bytes) (amounts : List (Bytes × CAmount))
    (nTotal total : CAmount) (before after : AssetState) : Prop where
  kept : HoldingsKept before after
  positive : Positive amounts
  synced : ∀ entry ∈ amounts, Synced after ⟨vchAsset, entry.1⟩
  total : total = totalUnits id nTotal amounts

variable {dbAsset : CAsset} {txHash : Uint256}

section

variable {nHeight : Nat}

theorem revertAmountReceivers_spec (keyed : Keyed state)
    (trusted : ∀ entry ∈ amounts, isReverted state ⟨vchAsset, entry.1⟩ →
      Synced state ⟨vchAsset, entry.1⟩) :
    wp (revertAmountReceivers .block dbAsset txHash nHeight vchAsset nTotal amounts)
      (fun total => AmountsReverted vchAsset amounts nTotal total state)
      (fun _ => HoldingsKept state) state := by
  induction amounts generalizing nTotal state with
  | nil =>
    simp only [revertAmountReceivers, revertReceivers, wp_pure]
    exact ⟨.refl state, forall_mem_nil _, forall_mem_nil _, rfl⟩
  | cons entry rest ih =>
    obtain ⟨receiver, amount⟩ := entry
    simp only [revertAmountReceivers, revertReceivers, revertIn, isPositive, id, wp_bind,
      wp_require]
    refine wp_mono (revert_spec keyed ⟨vchAsset, receiver⟩ txHash nHeight) ?_
      (fun _ _ impossible => impossible.elim)
    rintro - middle done
    have first := trusted (receiver, amount) mem_cons_self
    refine ⟨fun positive => ?_, fun _ => done.kept⟩
    refine wp_mono (ih (done.kept.keyed keyed) fun other member =>
      done.trusted first (trusted other (mem_cons_of_mem _ member))) ?_
      (fun _ after kept => done.kept.trans kept)
    intro total after others
    have amountPositive := positive_iff.mp positive
    exact ⟨done.kept.trans others.kept, forall_mem_cons.mpr ⟨amountPositive, others.positive⟩,
      forall_mem_cons.mpr ⟨others.kept.synced _ (done.synced first), others.synced⟩, others.total⟩

def Funded (map : AllocationMap) (vchAsset : Bytes) (amounts : List (Bytes × CAmount)) : Prop :=
  ∀ entry ∈ amounts, balanceAt map ⟨vchAsset, entry.1⟩ + creditTo entry.1 amounts < 2 ^ 63

structure AmountsCredited (vchAsset : Bytes) (amounts : List (Bytes × CAmount))
    (before after : AssetState) : Prop where
  assets : after.assets = before.assets
  keyed : Keyed after
  balance : ∀ tuple, balanceAt after.lastAllocations tuple =
    balanceAt before.lastAllocations tuple +
      if tuple.vchAsset = vchAsset then creditTo tuple.vchAliasOrAddress amounts else 0
  ranges : ∀ tuple, tuple.vchAsset ≠ vchAsset →
    rangesAt after.lastAllocations tuple = rangesAt before.lastAllocations tuple
  sum : ∀ other, allocationSum other after.lastAllocations =
    allocationSum other before.lastAllocations +
      if other = vchAsset then exactTotal amounts else 0
  synced : ∀ tuple, Synced before tuple → Synced after tuple

theorem AmountsCredited.nil (keyed : Keyed state) : AmountsCredited vchAsset [] state state := by
  refine ⟨rfl, keyed, ?_, fun _ _ => rfl, ?_, fun _ => id⟩
  · intro tuple
    simp [creditTo]
  · intro other
    simp

theorem credit_spec (keyed : Keyed state) (named : record.tuple = ⟨vchAsset, holder⟩)
    (balance : record.nBalance.toInt =
      balanceAt state.lastAllocations ⟨vchAsset, holder⟩ + amount.toInt) :
    AmountsCredited vchAsset [(holder, amount)] state (afterWrite record state) := by
  refine ⟨rfl, keyed.afterWrite record, ?_, ?_, ?_, fun tuple synced => synced.afterWrite record⟩
  · intro tuple
    rw [afterWrite, balanceAt_insert, named]
    by_cases same : tuple = ⟨vchAsset, holder⟩
    · subst same
      simp [creditTo, balance]
    · have apart : tuple.vchAsset = vchAsset → holder ≠ tuple.vchAliasOrAddress := by
        rintro rfl rfl
        exact same rfl
      rw [if_neg same]
      split
      · rename_i sameAsset
        simp [creditTo, apart sameAsset]
      · omega
  · intro tuple different
    rw [afterWrite, rangesAt_insert, named, if_neg]
    rintro rfl
    exact different rfl
  · intro other
    rw [afterWrite, allocationSum_insert, named, balance]
    by_cases same : vchAsset = other
    · simp [same]
    · simp [same, Ne.symm same]

theorem AmountsCredited.cons (one : AmountsCredited vchAsset [entry] before middle)
    (others : AmountsCredited vchAsset rest middle after) :
    AmountsCredited vchAsset (entry :: rest) before after := by
  refine ⟨others.assets.trans one.assets, others.keyed, ?_, ?_, ?_,
    fun tuple => others.synced tuple ∘ one.synced tuple⟩
  · intro tuple
    rw [others.balance, one.balance, creditTo_cons, creditTo_cons]
    split
    · simp only [creditTo, filter_nil, exactTotal_nil]
      omega
    · omega
  · intro tuple different
    rw [others.ranges tuple different, one.ranges tuple different]
  · intro other
    rw [others.sum, one.sum]
    simp only [exactTotal_cons, exactTotal_nil]
    split <;> omega

theorem Funded.tail (funded : Funded before.lastAllocations vchAsset (entry :: rest))
    (one : AmountsCredited vchAsset [entry] before middle) :
    Funded middle.lastAllocations vchAsset rest := by
  intro other member
  have start := funded other (mem_cons_of_mem _ member)
  rw [creditTo_cons] at start
  rw [one.balance, creditTo_cons]
  simp only [if_true]
  simp only [creditTo, filter_nil, exactTotal_nil] at start ⊢
  by_cases same : entry.1 = other.1
  · rw [if_pos same] at start ⊢
    omega
  · rw [if_neg same] at start ⊢
    omega

theorem Funded.head {map : AllocationMap}
    (funded : Funded map vchAsset ((receiver, amount) :: rest)) (restPositive : Positive rest) :
    balanceAt map ⟨vchAsset, receiver⟩ + amount.toInt < 2 ^ 63 := by
  have fits := funded (receiver, amount) mem_cons_self
  have restCredit := creditTo_nonneg restPositive receiver
  rw [creditTo_cons, if_pos rfl] at fits
  simp only at fits
  omega

theorem Synced.balanceSynced (synced : Synced state tuple) : BalanceSynced state tuple := by
  rw [BalanceSynced, balanceAt, synced, balanceAt]

theorem BalanceSynced.afterWrite (synced : BalanceSynced state tuple)
    (record : CAssetAllocation) : BalanceSynced (afterWrite record state) tuple := by
  rw [BalanceSynced, Minerium.afterWrite, balanceAt_insert, balanceAt_insert]
  split
  · rfl
  · exact synced

structure Payable (vchAsset : Bytes) (balance : CAmount) (amounts : List (Bytes × CAmount))
    (state : AssetState) : Prop where
  keyed : Keyed state
  synced : ∀ entry ∈ amounts, BalanceSynced state ⟨vchAsset, entry.1⟩
  positive : Positive amounts
  funded : Funded state.lastAllocations vchAsset amounts
  covered : exactTotal amounts ≤ balance.toInt

theorem Payable.step (payable : Payable vchAsset balance ((receiver, amount) :: rest) state)
    (named : record.tuple = ⟨vchAsset, receiver⟩)
    (current : record.nBalance.toInt = balanceAt state.allocations ⟨vchAsset, receiver⟩)
    {condition : Bool} {nHeight : Nat} {fInterestRate : Float32Bits} {vchMemo : Bytes} :
    let next := afterWrite (creditedBy txHash nHeight fInterestRate vchMemo amount
      (accumulateIf env condition nHeight record)) state
    AmountsCredited vchAsset [(receiver, amount)] state next ∧
      Payable vchAsset (balance - amount) rest next ∧
      (balance - amount).toInt = balance.toInt - amount.toInt := by
  obtain ⟨amountPositive, restPositive⟩ := forall_mem_cons.mp payable.positive
  obtain ⟨here, others⟩ := forall_mem_cons.mp payable.synced
  have held : record.nBalance.toInt = balanceAt state.lastAllocations ⟨vchAsset, receiver⟩ :=
    current.trans here
  have covered := payable.covered
  simp only [exactTotal_cons] at covered amountPositive
  have lower := record.nBalance.le_toInt
  have fits := payable.funded.head restPositive
  have added : (record.nBalance + amount).toInt = record.nBalance.toInt + amount.toInt :=
    toInt_add_of_range _ _ (by omega) (by omega)
  have restNonneg := exactTotal_nonneg restPositive
  have bound := balance.toInt_lt
  have taken : (balance - amount).toInt = balance.toInt - amount.toInt :=
    toInt_sub_of_range _ _ (by omega) (by omega)
  intro next
  have one : AmountsCredited vchAsset [(receiver, amount)] state next := by
    refine credit_spec payable.keyed ?_ ?_
    · rw [creditedBy_tuple, accumulateIf_tuple, named]
    · rw [creditedBy, accumulateIf_nBalance, added, held]
  exact ⟨one, ⟨one.keyed, fun other member => (others other member).afterWrite _, restPositive,
    payable.funded.tail one, by omega⟩, taken⟩

theorem currentOrNew_held (keyed : Keyed state) (asset : CAsset) (nHeight : Nat) :
    let record := (state.allocations.lookup tuple).getD (newAllocation tuple asset nHeight)
    record.tuple = tuple ∧ record.nBalance.toInt = balanceAt state.allocations tuple := by
  rw [balanceAt]
  cases found : state.allocations.lookup tuple with
  | none => exact ⟨rfl, rfl⟩
  | some current => exact ⟨keyed.allocations tuple current found, rfl⟩

theorem currentOrNew_spec (keyed : Keyed state)
    (synced : Synced state tuple) (asset : CAsset) (nHeight : Nat) : RecordOf state tuple
      ((state.allocations.lookup tuple).getD (newAllocation tuple asset nHeight)) := by
  rw [synced]
  exact lastOrNew_spec keyed tuple asset nHeight

theorem creditAmounts_overrun (keyed : Keyed state)
    (synced : ∀ entry ∈ amounts, Synced state ⟨sender.vchAsset, entry.1⟩) :
    wp (creditAmounts .block env dbAsset txHash nHeight true false sender amounts)
      (fun sender' after => sender' = sender ∧ HoldingsKept state after)
      (fun _ => HoldingsKept state) state := by
  induction amounts generalizing state with
  | nil => exact ⟨rfl, .refl state⟩
  | cons entry rest ih =>
    obtain ⟨receiver, amount⟩ := entry
    obtain ⟨here, others⟩ := forall_mem_cons.mp synced
    obtain ⟨named, balance, ranges⟩ := currentOrNew_spec keyed here dbAsset nHeight
    simp only [creditAmounts, addConflictIf_false, writeReceiverIn, wp_bind, wp_pure, wp_require,
      wp_readAssetAllocation, if_true, wp_writeAssetAllocation]
    refine ⟨fun _ => ?_, fun _ => .refl state⟩
    generalize (state.allocations.lookup ⟨sender.vchAsset, receiver⟩).getD
      (newAllocation ⟨sender.vchAsset, receiver⟩ dbAsset nHeight) = record
      at named balance ranges
    have kept : HoldingsKept state (afterWrite record state) :=
      holdingsKept_write (by rw [balance, named]) (by rw [ranges, named])
    refine wp_mono
      (ih (keyed.afterWrite record) fun other member => (others other member).afterWrite record)
      ?_ (fun _ _ => kept.trans)
    rintro sender' after ⟨same, rest⟩
    exact ⟨same, kept.trans rest⟩

structure Debited (amount : Int) (before after : CAssetAllocation) : Prop where
  named : after.tuple = before.tuple
  balance : after.nBalance.toInt = before.nBalance.toInt - amount
  ranges : after.listAllocationInputs = before.listAllocationInputs

theorem creditAmounts_spec (payable : Payable sender.vchAsset sender.nBalance amounts state) :
    wp (creditAmounts .block env dbAsset txHash nHeight false false sender amounts)
      (fun sender' after => Debited (exactTotal amounts) sender sender' ∧
        AmountsCredited sender.vchAsset amounts state after ∧
        ∀ entry ∈ amounts, entry.1 ≠ sender.vchAliasOrAddress)
      (fun _ _ => ∃ entry ∈ amounts, entry.1 = sender.vchAliasOrAddress) state := by
  induction amounts generalizing sender state with
  | nil => exact ⟨⟨rfl, by simp, rfl⟩, .nil payable.keyed, forall_mem_nil _⟩
  | cons entry rest ih =>
    obtain ⟨receiver, amount⟩ := entry
    simp only [creditAmounts, addConflictIf_false, writeReceiverIn, wp_bind, wp_pure, wp_require,
      wp_readAssetAllocation, Bool.false_eq_true, if_false, wp_writeAssetAllocation]
    refine ⟨fun apart => ?_, fun self => ⟨_, mem_cons_self, by simpa using self⟩⟩
    obtain ⟨named, held⟩ := currentOrNew_held payable.keyed dbAsset nHeight
    obtain ⟨one, later, taken⟩ := payable.step named held
    obtain ⟨balance', rate', accumulated⟩ :=
      accumulateIf_eq env (floatPositive dbAsset.fInterestRate) nHeight sender
    rw [accumulated]
    refine wp_mono (ih later) ?_ ?_
    · rintro sender' after ⟨debited, credited, notSelf⟩
      have remaining := debited.balance
      change _ = (sender.nBalance - amount).toInt - _ at remaining
      refine ⟨⟨debited.named, ?_, debited.ranges⟩, one.cons credited,
        forall_mem_cons.mpr ⟨of_decide_eq_true apart, notSelf⟩⟩
      simp only [exactTotal_cons]
      omega
    · rintro _ after ⟨other, member, self⟩
      exact ⟨other, mem_cons_of_mem _ member, self⟩

/-- Value has moved between the holders of one asset, and nowhere else. -/
structure BalancesKept (vchAsset : Bytes) (before after : AssetState) : Prop where
  assets : after.assets = before.assets
  keyed : Keyed after
  nonneg : ∀ holder, 0 ≤ balanceAt before.lastAllocations ⟨vchAsset, holder⟩ →
    0 ≤ balanceAt after.lastAllocations ⟨vchAsset, holder⟩
  sum : ∀ other, allocationSum other after.lastAllocations =
    allocationSum other before.lastAllocations
  balance : ∀ tuple, tuple.vchAsset ≠ vchAsset →
    balanceAt after.lastAllocations tuple = balanceAt before.lastAllocations tuple
  ranges : ∀ tuple, tuple.vchAsset ≠ vchAsset →
    rangesAt after.lastAllocations tuple = rangesAt before.lastAllocations tuple
  synced : ∀ tuple, Synced before tuple → Synced after tuple

theorem HoldingsKept.balancesKept (kept : HoldingsKept before middle)
    (moved : BalancesKept vchAsset middle after) : BalancesKept vchAsset before after :=
  ⟨moved.assets.trans kept.assets, moved.keyed,
    fun holder nonneg => moved.nonneg holder (by rwa [kept.balance]),
    fun other => (moved.sum other).trans (kept.sum other),
    fun tuple different => (moved.balance tuple different).trans (kept.balance tuple),
    fun tuple different => (moved.ranges tuple different).trans (kept.ranges tuple),
    fun tuple => moved.synced tuple ∘ kept.synced tuple⟩

theorem writeSender_spec (credited : AmountsCredited vchAsset amounts before state)
    (positive : Positive amounts) (owned : record.tuple.vchAsset = vchAsset)
    (senderNonneg : 0 ≤ balanceAt before.lastAllocations record.tuple → 0 ≤ record.nBalance.toInt)
    (balance : record.nBalance.toInt =
      balanceAt state.lastAllocations record.tuple - exactTotal amounts) :
    BalancesKept vchAsset before (afterWrite record state) := by
  have elsewhere : ∀ tuple : CAssetAllocationTuple, tuple.vchAsset ≠ vchAsset →
      tuple ≠ record.tuple := by
    rintro _ different rfl
    exact different owned
  refine ⟨credited.assets, credited.keyed.afterWrite record, ?_, ?_, ?_, ?_,
    fun tuple synced => (credited.synced tuple synced).afterWrite record⟩
  · intro holder nonneg
    rw [afterWrite, balanceAt_insert]
    split
    · rename_i same
      exact senderNonneg (same ▸ nonneg)
    · rw [credited.balance, if_pos rfl]
      exact Int.add_nonneg nonneg (creditTo_nonneg positive holder)
  · intro other
    rw [afterWrite, allocationSum_insert, credited.sum, owned, balance]
    by_cases same : vchAsset = other
    · rw [if_pos same, if_pos same.symm]
      omega
    · rw [if_neg same, if_neg (Ne.symm same)]
      omega
  · intro tuple different
    rw [afterWrite, balanceAt_insert, if_neg (elsewhere tuple different), credited.balance,
      if_neg different]
    omega
  · intro tuple different
    rw [afterWrite, rangesAt_insert, if_neg (elsewhere tuple different),
      credited.ranges tuple different]

theorem HoldingsKept.credited (kept : HoldingsKept before after) (keyed : Keyed before) :
    AmountsCredited vchAsset [] before after := by
  refine ⟨kept.assets, kept.keyed keyed, ?_, fun tuple _ => kept.ranges tuple, ?_, kept.synced⟩
  · intro tuple
    simp [creditTo, kept.balance]
  · intro other
    simp [kept.sum]

/-- The total does not wrap, and no receiver's balance does when the sender has the total. -/
structure Sendable (map : AllocationMap) (vchAsset : Bytes) (balance : Int)
    (amounts : List (Bytes × CAmount)) : Prop where
  bounded : Positive amounts → exactTotal amounts < 2 ^ 63
  fits : Positive amounts → exactTotal amounts ≤ balance → ∀ entry ∈ amounts,
    balanceAt map ⟨vchAsset, entry.1⟩ + creditTo entry.1 amounts < 2 ^ 63

theorem Sendable.kept {balance : Int}
    (sendable : Sendable before.lastAllocations vchAsset balance amounts)
    (kept : HoldingsKept before after) :
    Sendable after.lastAllocations vchAsset balance amounts := by
  refine ⟨sendable.bounded, fun positive covered entry member => ?_⟩
  rw [kept.balance]
  exact sendable.fits positive covered entry member

/-- A sender in debt is not so far in debt that paying the total would leave 64 bits. -/
def Payer (balance : Int) (amounts : List (Bytes × CAmount)) : Prop :=
  Positive amounts → -2 ^ 63 ≤ balance - exactTotal amounts

theorem overrun_iff {total : CAmount} (within : -2 ^ 63 ≤ balance.toInt - total.toInt)
    (totalNonneg : 0 ≤ total.toInt) :
    decide (balance - total < 0) = true ↔ balance.toInt < total.toInt := by
  have balanceBound := balance.toInt_lt
  have exactSub : (balance - total).toInt = balance.toInt - total.toInt :=
    toInt_sub_of_range _ _ (by omega) (by omega)
  rw [decide_eq_true_eq, lt_iff, exactSub]
  change _ < (0 : Int) ↔ _
  omega

theorem sendAmounts_spec (env : AssetEnv) (dbAsset : CAsset) (txHash : Uint256) (nHeight : Nat)
    (sender : CAssetAllocation) (keyed : Keyed state)
    (balance : sender.nBalance.toInt = balanceAt state.lastAllocations sender.tuple)
    (trusted : ∀ entry ∈ sender.listSendingAllocationAmounts, isReverted state ⟨sender.vchAsset,
      entry.1⟩ → Synced state ⟨sender.vchAsset, entry.1⟩)
    (payer : Payer sender.nBalance.toInt sender.listSendingAllocationAmounts)
    (sendable : Sendable state.lastAllocations sender.vchAsset sender.nBalance.toInt
      sender.listSendingAllocationAmounts) :
    wp (sendAmounts .block env dbAsset sender.nBalance txHash nHeight sender)
      (fun _ => BalancesKept sender.vchAsset state)
      (fun _ after => HoldingsKept state after ∨
        ∃ entry ∈ sender.listSendingAllocationAmounts, entry.1 = sender.vchAliasOrAddress)
      state := by
  simp only [sendAmounts, senderConflicts_block, writeSenderIn, wp_bind, wp_pure, wp_require]
  refine ⟨fun _ => ?_, fun _ => .inl (.refl state)⟩
  refine wp_mono (revertAmountReceivers_spec keyed trusted) ?_ (fun _ _ => .inl)
  intro nTotal middle reverted
  have totalNonneg := exactTotal_nonneg reverted.positive
  have zero : (0 : CAmount).toInt = 0 := rfl
  have total : nTotal.toInt = exactTotal sender.listSendingAllocationAmounts := by
    have bounded := sendable.bounded reverted.positive
    rw [reverted.total, totalUnits_exact reverted.positive (by omega) (by omega)]
    omega
  have keyedMiddle := reverted.kept.keyed keyed
  have sendableMiddle := sendable.kept reverted.kept
  have balanceMiddle : sender.nBalance.toInt = balanceAt middle.lastAllocations sender.tuple := by
    rw [reverted.kept.balance, balance]
  have overrun := overrun_iff (total ▸ payer reverted.positive) (total ▸ totalNonneg)
  cases overruns : decide (sender.nBalance - nTotal < 0) with
  | true =>
    refine wp_mono (creditAmounts_overrun keyedMiddle
      reverted.synced) ?_ (fun _ after kept => .inl (reverted.kept.trans kept))
    rintro sender' after ⟨rfl, kept⟩
    rw [wp_writeSender]
    refine reverted.kept.balancesKept (writeSender_spec (kept.credited keyedMiddle)
      (forall_mem_nil _) ?_ ?_ ?_)
    · rw [stamped_tuple]
      rfl
    · rw [stamped_nBalance, stamped_tuple, balanceMiddle]
      exact id
    · rw [stamped_nBalance, stamped_tuple, kept.balance, balanceMiddle]
      simp
  | false =>
    have covered : exactTotal sender.listSendingAllocationAmounts ≤ sender.nBalance.toInt := by
      rw [overruns, total] at overrun
      simpa using overrun
    refine wp_mono (creditAmounts_spec ⟨keyedMiddle,
      fun entry member => (reverted.synced entry member).balanceSynced, reverted.positive,
      sendableMiddle.fits reverted.positive covered, covered⟩) ?_ (fun _ _ => .inr)
    rintro sender' after ⟨debited, credited, notSelf⟩
    have unpaid : creditTo sender.vchAliasOrAddress sender.listSendingAllocationAmounts = 0 :=
      creditTo_eq_zero notSelf
    rw [wp_writeSender]
    refine reverted.kept.balancesKept (writeSender_spec credited reverted.positive ?_ ?_ ?_)
    · rw [stamped_tuple, debited.named]
      rfl
    · rw [stamped_nBalance, debited.balance]
      omega
    · rw [stamped_nBalance, stamped_tuple, debited.named, credited.balance, ← balanceMiddle,
        debited.balance]
      simp only [CAssetAllocation.tuple, if_true, unpaid]
      omega

theorem wp_requireHolder (value : post () state) (stops : ∀ e, stopped e state) :
    wp (requireHolder env inputs tx vchAlias holder claimed) post stopped state := by
  rw [requireHolder]
  split
  · exact (wp_require _ _).mpr ⟨fun _ => value, fun _ => stops _⟩
  · exact (wp_require _ _).mpr ⟨fun _ => value, fun _ => stops _⟩

theorem allocationSend_wp (keyed : Keyed state)
    (trusted : isReverted state ⟨payload.vchAsset, vchThisAlias⟩ →
      Synced state ⟨payload.vchAsset, vchThisAlias⟩)
    (stops : ∀ e after, HoldingsKept state after → stopped e after)
    (sends : ∀ dbAsset db middle, state.assets.lookup payload.vchAsset = some dbAsset →
      Reverted ⟨payload.vchAsset, vchThisAlias⟩ state middle →
      middle.lastAllocations.lookup ⟨payload.vchAsset, vchThisAlias⟩ = some db →
      wp (sendAllocations .block env dbAsset db (env.txHash tx) nHeight
        (senderRecord vchThisAlias db payload)) post stopped middle) :
    wp (allocationSend .block env inputs tx vchAlias nHeight payload vchThisAlias) post stopped
      state := by
  have unchanged := fun e => stops e state (.refl state)
  simp only [allocationSend, revertIn, rereadIn, wp_bind, wp_require, wp_readAssetAllocation,
    wp_orStop, wp_readAsset]
  refine ⟨fun _ => ⟨fun _ _ => ?_, fun _ => unchanged _⟩, fun _ => unchanged _⟩
  refine wp_requireHolder ⟨fun dbAsset found => ?_, fun _ => unchanged _⟩ unchanged
  refine wp_mono (revert_spec keyed _ (env.txHash tx) nHeight) ?_
    (fun _ _ impossible => impossible.elim)
  rintro - middle done
  refine ⟨fun db lookup => ?_, fun _ => stops _ _ done.kept⟩
  rw [done.synced trusted] at lookup
  exact sends dbAsset db middle found done lookup

end

section

variable (env : AssetEnv) (inputs : UtxoMap) (tx : CTransaction) (vchAlias : Bytes) (nHeight : Nat)
  (keyed : Keyed state)
  (payer : Payer (balanceAt state.lastAllocations ⟨payload.vchAsset, vchThisAlias⟩)
    payload.listSendingAllocationAmounts)
  (sendable : Sendable state.lastAllocations payload.vchAsset (balanceAt state.lastAllocations
    ⟨payload.vchAsset, vchThisAlias⟩) payload.listSendingAllocationAmounts)
include keyed payer sendable

theorem allocationSend_amounts (byAmounts : payload.listSendingAllocationAmounts ≠ [])
    (trustedSender : isReverted state ⟨payload.vchAsset, vchThisAlias⟩ →
      Synced state ⟨payload.vchAsset, vchThisAlias⟩)
    (trusted : ∀ entry ∈ payload.listSendingAllocationAmounts, isReverted state ⟨payload.vchAsset,
      entry.1⟩ → Synced state ⟨payload.vchAsset, entry.1⟩) :
    wp (allocationSend .block env inputs tx vchAlias nHeight payload vchThisAlias)
      (fun _ => BalancesKept payload.vchAsset state)
      (fun _ after => HoldingsKept state after ∨
        ∃ entry ∈ payload.listSendingAllocationAmounts, entry.1 = vchThisAlias) state := by
  refine allocationSend_wp keyed trustedSender (fun _ _ => .inl) ?_
  intro dbAsset db middle _ done lookup
  have balance : db.nBalance.toInt =
      balanceAt middle.lastAllocations ⟨payload.vchAsset, vchThisAlias⟩ := by
    rw [balanceAt, lookup]
    rfl
  have amounts :
      (!(senderRecord vchThisAlias db payload).listSendingAllocationAmounts.isEmpty) = true := by
    simpa [senderRecord] using byAmounts
  have sendableMiddle := sendable.kept done.kept
  rw [← done.kept.balance, ← balance] at sendableMiddle payer
  have sent := sendAmounts_spec env dbAsset (env.txHash tx) nHeight
    (senderRecord vchThisAlias db payload) (done.kept.keyed keyed) balance
    (fun entry member => done.trusted trustedSender (trusted entry member)) payer sendableMiddle
  rw [sendAllocations, if_pos amounts]
  refine wp_mono sent (fun _ _ => done.kept.balancesKept) ?_
  rintro _ after (kept | self)
  · exact .inl (done.kept.trans kept)
  · exact .inr self

theorem allocationSend_amountBased
    (amountBased : ∀ dbAsset, state.assets.lookup payload.vchAsset = some dbAsset →
      dbAsset.bUseInputRanges = false)
    (synced : ∀ holder, Synced state ⟨payload.vchAsset, holder⟩) :
    wp (allocationSend .block env inputs tx vchAlias nHeight payload vchThisAlias)
      (fun _ => BalancesKept payload.vchAsset state)
      (fun _ after => HoldingsKept state after ∨
        ∃ entry ∈ payload.listSendingAllocationAmounts, entry.1 = vchThisAlias) state := by
  by_cases byAmounts : payload.listSendingAllocationAmounts = []
  · refine allocationSend_wp keyed (fun _ => synced _) (fun _ _ => .inl) ?_
    intro dbAsset db middle found done lookup
    have balance : db.nBalance.toInt =
        balanceAt middle.lastAllocations ⟨payload.vchAsset, vchThisAlias⟩ := by
      rw [balanceAt, lookup]
      rfl
    have noAmounts :
        ¬(!(senderRecord vchThisAlias db payload).listSendingAllocationAmounts.isEmpty) = true := by
      simp [senderRecord, byAmounts]
    rw [sendAllocations, if_neg noAmounts]
    split
    · simp only [sendRanges, wp_bind, wp_require, amountBased dbAsset found]
      exact ⟨fun impossible => absurd impossible Bool.false_ne_true, fun _ => .inl done.kept⟩
    · rw [writeSenderIn, wp_writeSender]
      refine done.kept.balancesKept
        (writeSender_spec (.nil (done.kept.keyed keyed)) (forall_mem_nil _) ?_ ?_ ?_)
      · rw [stamped_tuple]
        rfl
      · rw [stamped_nBalance]
        change _ → 0 ≤ db.nBalance.toInt
        rw [balance]
        exact id
      · rw [stamped_nBalance, stamped_tuple]
        change db.nBalance.toInt = _
        rw [balance]
        simp [senderRecord, CAssetAllocation.tuple]
  · exact allocationSend_amounts env inputs tx vchAlias nHeight keyed payer sendable byAmounts
      (fun _ => synced _) fun _ _ _ => synced _

end

theorem sumAmounts_spec :
    wp (sumAmounts nTotal amounts) (fun total after => after = state ∧ Positive amounts ∧
        total = totalUnits id nTotal amounts)
      (fun _ after => after = state) state := by
  rw [sumAmounts, sumItems_eq, wp_bind, wp_require]
  exact ⟨fun positive => ⟨rfl, fun entry member => positive_iff.mp (all_eq_true.mp positive entry
    member), rfl⟩, fun _ => rfl⟩

structure AssetDebited (amount : Int) (before after : CAsset) : Prop where
  fields : after = { before with nBalance := after.nBalance }
  balance : after.nBalance.toInt = before.nBalance.toInt - amount

theorem receiverOrNew_held (keyed : Keyed state) (asset : CAsset) (nHeight : Nat) :
    let record := receiverOrNew tuple asset nHeight (state.allocations.lookup tuple)
    record.tuple = tuple ∧ record.nBalance.toInt = balanceAt state.allocations tuple := by
  rw [balanceAt]
  cases found : state.allocations.lookup tuple with
  | none => exact ⟨rfl, rfl⟩
  | some record =>
    have named := keyed.allocations tuple record found
    simp only [receiverOrNew, getD_some, map_some]
    split
    · exact ⟨rfl, rfl⟩
    · exact ⟨named, rfl⟩

variable {nHeight : Nat}

theorem assetCreditAmounts_spec {vchMemo : Bytes}
    (payable : Payable vchAsset theAsset.nBalance amounts state) :
    wp (assetCreditAmounts env txHash nHeight vchAsset vchMemo theAsset amounts)
      (fun theAsset' after => AssetDebited (exactTotal amounts) theAsset theAsset' ∧
        AmountsCredited vchAsset amounts state after) (fun _ _ => False) state := by
  induction amounts generalizing theAsset state with
  | nil => exact ⟨⟨rfl, by simp⟩, .nil payable.keyed⟩
  | cons entry rest ih =>
    obtain ⟨receiver, amount⟩ := entry
    simp only [assetCreditAmounts, wp_bind, wp_readAssetAllocation, wp_writeAssetAllocation]
    obtain ⟨named, held⟩ := receiverOrNew_held payable.keyed theAsset nHeight
    obtain ⟨one, later, taken⟩ := payable.step named held
    refine wp_mono (ih later) ?_ (fun _ _ => id)
    rintro theAsset' after ⟨debited, credited⟩
    have remaining := debited.balance
    change _ = (theAsset.nBalance - amount).toInt - _ at remaining
    refine ⟨⟨debited.fields, ?_⟩, one.cons credited⟩
    simp only [exactTotal_cons]
    omega

theorem assetSend_wp (stops : ∀ e, stopped e state)
    (sends : ∀ dbAsset, state.assets.lookup payload.vchAsset = some dbAsset →
      wp (assetSendTo env (env.txHash tx) nHeight payload dbAsset)
        (fun theAsset after => post () (afterWriteAsset { theAsset with
          nHeight := UInt32.ofNat nHeight, txHash := env.txHash tx } after)) stopped state) :
    wp (assetSend env inputs tx vchAlias nHeight payload) post stopped state := by
  simp only [assetSend, requireFoundAsset, wp_bind, wp_readAsset, wp_orStop,
    wp_require, wp_writeAsset]
  refine ⟨fun dbAsset found => ⟨fun _ => ?_, fun _ => stops _⟩, fun _ => stops _⟩
  exact wp_requireAssetSender (fun _ => sends dbAsset found) stops

structure AssetSent (vchAsset : Bytes) (amounts : List (Bytes × CAmount))
    (before after : AssetState) (dbAsset theAsset : CAsset) : Prop where
  found : before.assets.lookup vchAsset = some dbAsset
  amountBased : dbAsset.bUseInputRanges = false
  positive : Positive amounts
  fields : theAsset = { dbAsset with
    nBalance := theAsset.nBalance, nHeight := theAsset.nHeight, txHash := theAsset.txHash }
  balance : theAsset.nBalance.toInt = dbAsset.nBalance.toInt - exactTotal amounts
  nonneg : 0 ≤ theAsset.nBalance.toInt
  credited : ∃ middle, AmountsCredited vchAsset amounts before middle ∧
    after = afterWriteAsset theAsset middle

theorem AssetSent.named (keyed : Keyed before)
    (sent : AssetSent vchAsset amounts before after dbAsset theAsset) :
    theAsset.vchAsset = vchAsset := by
  have same : theAsset.vchAsset = dbAsset.vchAsset := by rw [sent.fields]
  exact same.trans (keyed.assets _ _ sent.found)

theorem assetSend_amounts (keyed : Keyed state)
    (byAmounts : payload.listSendingAllocationAmounts ≠ [])
    (synced : ∀ entry ∈ payload.listSendingAllocationAmounts,
      BalanceSynced state ⟨payload.vchAsset, entry.1⟩)
    (sendable : ∀ dbAsset, state.assets.lookup payload.vchAsset = some dbAsset →
      Sendable state.lastAllocations payload.vchAsset dbAsset.nBalance.toInt
        payload.listSendingAllocationAmounts) :
    wp (assetSend env inputs tx vchAlias nHeight payload)
      (fun _ after => ∃ dbAsset theAsset, AssetSent payload.vchAsset
        payload.listSendingAllocationAmounts state after dbAsset theAsset)
      (fun _ after => after = state) state := by
  refine assetSend_wp (fun _ => rfl) ?_
  intro dbAsset found
  have amounts : (!payload.listSendingAllocationAmounts.isEmpty) = true := by
    simpa using byAmounts
  have sendableHere := sendable dbAsset found
  rw [assetSendTo, if_pos amounts]
  simp only [assetSendAmounts, wp_bind, wp_require]
  refine ⟨fun amountBased => ?_, fun _ => trivial⟩
  refine wp_mono sumAmounts_spec ?_ (fun _ _ => id)
  rintro _ _ ⟨rfl, positive, rfl⟩
  refine ⟨fun enough => ?_, fun _ => rfl⟩
  have zero : (0 : CAmount).toInt = 0 := rfl
  have bounded := sendableHere.bounded positive
  have covered : exactTotal payload.listSendingAllocationAmounts ≤ dbAsset.nBalance.toInt := by
    have exact := @totalUnits_exact _ 0 positive (by omega) (by omega)
    have within := (le_iff _ _).mp (of_decide_eq_true enough)
    omega
  refine wp_mono (assetCreditAmounts_spec ⟨keyed, synced, positive,
    sendableHere.fits positive covered, covered⟩) ?_ (fun _ _ impossible => impossible.elim)
  rintro theAsset after ⟨debited, credited⟩
  refine ⟨dbAsset, { theAsset with nHeight := UInt32.ofNat nHeight, txHash := env.txHash tx },
    found, by simpa using amountBased, positive, ?_, debited.balance, ?_, after, credited, rfl⟩
  · conv_lhs => rw [debited.fields]
  · change 0 ≤ theAsset.nBalance.toInt
    rw [debited.balance]
    omega

end Minerium
