import Minerium.AmountConservation
import Minerium.Confinement
import Minerium.Lib.TimeLine

/-! The interest accumulator of one holder. -/

namespace Minerium

open FinmapTotal TimeLine

open Procedure (wp wp_always wp_bind wp_mono wp_pure wp_require)

def debitedBy (env : AssetEnv) (interest : Bool) (nHeight : Nat) (bBalanceOverrun : Bool)
    (sender : CAssetAllocation) (entry : Bytes × CAmount) : CAssetAllocation :=
  let accrued := accumulateIf env interest nHeight sender
  if bBalanceOverrun then sender else { accrued with nBalance := accrued.nBalance - entry.2 }

/-- What a transaction of an asset does to the record of one holder. -/
inductive HolderEvent where
  | receipt (dbAsset : CAsset) (txHash : Uint256) (nHeight : Nat) (vchMemo : Bytes)
      (amount : CAmount)
  | send (dbAsset : CAsset) (txHash : Uint256) (nHeight : Nat) (amounts : List (Bytes × CAmount))

namespace HolderEvent

def nHeight : HolderEvent → Nat
  | receipt _ _ nHeight _ _ => nHeight
  | send _ _ nHeight _ => nHeight

def dbAsset : HolderEvent → CAsset
  | receipt dbAsset _ _ _ _ => dbAsset
  | send dbAsset _ _ _ => dbAsset

/-- A send without receivers stamps the record without comparing the balance. -/
def overruns (nBalance : CAmount) (amounts : List (Bytes × CAmount)) : Bool :=
  !amounts.isEmpty && decide (nBalance - totalUnits id 0 amounts < 0)

def apply (env : AssetEnv) (record : CAssetAllocation) : HolderEvent → CAssetAllocation
  | receipt dbAsset txHash nHeight vchMemo amount =>
    creditedBy txHash nHeight dbAsset.fInterestRate vchMemo amount
      (accumulateIf env (floatPositive dbAsset.fInterestRate) nHeight record)
  | send dbAsset txHash nHeight amounts =>
    let bBalanceOverrun := overruns record.nBalance amounts
    stamped txHash nHeight bBalanceOverrun (amounts.foldl
      (debitedBy env (floatPositive dbAsset.fInterestRate) nHeight bBalanceOverrun) record)

end HolderEvent

open HolderEvent (apply overruns)

variable {amounts : List (Bytes × CAmount)} {event : HolderEvent}

section

variable (env : AssetEnv) (dbAsset : CAsset) (txHash : Uint256) (nHeight : Nat)

theorem creditAmounts_returns {bBalanceOverrun : Bool} (sender : CAssetAllocation)
    (state : AssetState) :
    wp (creditAmounts .block env dbAsset txHash nHeight bBalanceOverrun false sender amounts)
      (fun sender' _ => sender' = amounts.foldl
        (debitedBy env (floatPositive dbAsset.fInterestRate) nHeight bBalanceOverrun) sender)
      (fun _ _ => True) state := by
  induction amounts generalizing sender state with
  | nil => rfl
  | cons entry rest ih =>
    simp only [creditAmounts, addConflictIf_false, writeReceiverIn, wp_bind, wp_pure, wp_require,
      wp_readAssetAllocation, wp_writeAssetAllocation]
    exact ⟨fun _ => ih _ _, fun _ => trivial⟩

theorem revertAmountReceivers_returns {vchAsset : Bytes} (nTotal : CAmount) (state : AssetState) :
    wp (revertAmountReceivers .block dbAsset txHash nHeight vchAsset nTotal amounts)
      (fun total _ => total = totalUnits id nTotal amounts) (fun _ _ => True) state := by
  induction amounts generalizing nTotal state with
  | nil => rfl
  | cons entry rest ih =>
    simp only [revertAmountReceivers, revertReceivers, wp_bind, wp_require]
    exact wp_always (fun _ _ => ⟨fun _ => ih _ _, fun _ => trivial⟩) fun _ _ => trivial

theorem sendAmounts_stores {sender : CAssetAllocation}
    (named : sender.listSendingAllocationAmounts ≠ []) (state : AssetState) :
    wp (sendAmounts .block env dbAsset sender.nBalance txHash nHeight sender)
      (fun _ after => ∃ written, after.allocations.lookup written.tuple = some written ∧
        written = apply env sender
          (.send dbAsset txHash nHeight sender.listSendingAllocationAmounts))
      (fun _ _ => True) state := by
  simp only [sendAmounts, senderConflicts_block, writeSenderIn, wp_bind, wp_pure, wp_require]
  refine ⟨fun _ => ?_, fun _ => trivial⟩
  refine wp_mono (revertAmountReceivers_returns dbAsset txHash nHeight 0 state) ?_ fun _ _ => id
  rintro nTotal reverted rfl
  refine wp_mono (creditAmounts_returns env dbAsset txHash nHeight sender reverted) ?_ fun _ _ => id
  rintro sender' credited rfl
  rw [wp_writeSender]
  refine ⟨_, (lookup_insert_eq ..).trans (if_pos rfl), ?_⟩
  have nonempty : sender.listSendingAllocationAmounts.isEmpty = false := by simpa using named
  simp only [apply, overruns, nonempty, Bool.not_false, Bool.true_and]

def receiptsOf (vchMemo holder : Bytes) (amounts : List (Bytes × CAmount)) : List HolderEvent :=
  (amounts.filter fun entry => entry.1 = holder).map fun entry =>
    .receipt dbAsset txHash nHeight vchMemo entry.2

theorem creditAmounts_stores {sender record : CAssetAllocation} {holder : Bytes}
    (amounts : List (Bytes × CAmount)) {state : AssetState} (keyed : Keyed state)
    (found : state.allocations.lookup ⟨sender.vchAsset, holder⟩ = some record) :
    wp (creditAmounts .block env dbAsset txHash nHeight false false sender amounts)
      (fun _ after => after.allocations.lookup ⟨sender.vchAsset, holder⟩ =
        some (Run.run (apply env) record
          (receiptsOf dbAsset txHash nHeight sender.vchMemo holder amounts)))
      (fun _ _ => True) state := by
  induction amounts generalizing sender record state with
  | nil => exact found
  | cons entry rest ih =>
    simp only [creditAmounts, addConflictIf_false, writeReceiverIn, wp_bind, wp_pure, wp_require,
      wp_readAssetAllocation, wp_writeAssetAllocation, Bool.false_eq_true, if_false]
    refine ⟨fun _ => ?_, fun _ => trivial⟩
    obtain ⟨balance, rate, same⟩ :=
      accumulateIf_eq env (floatPositive dbAsset.fInterestRate) nHeight sender
    rw [same]
    have receiver := foundOrNew_tuple ⟨sender.vchAsset, entry.1⟩ dbAsset nHeight
      (keyed.allocations ⟨sender.vchAsset, entry.1⟩)
    by_cases here : entry.1 = holder
    · subst here
      rw [found, Option.getD_some] at receiver ⊢
      have events : receiptsOf dbAsset txHash nHeight sender.vchMemo entry.1 (entry :: rest) =
          .receipt dbAsset txHash nHeight sender.vchMemo entry.2 ::
            receiptsOf dbAsset txHash nHeight sender.vchMemo entry.1 rest := by
        simp [receiptsOf]
      rw [events]
      refine ih (keyed.afterWrite _) ?_
      refine (lookup_insert_eq ..).trans (if_pos ?_)
      rw [creditedBy_tuple, accumulateIf_tuple, receiver]
    · have events : receiptsOf dbAsset txHash nHeight sender.vchMemo holder (entry :: rest) =
          receiptsOf dbAsset txHash nHeight sender.vchMemo holder rest := by
        simp [receiptsOf, here]
      rw [events]
      refine ih (keyed.afterWrite _) ?_
      refine (lookup_insert_eq ..).trans ((if_neg ?_).trans found)
      rw [creditedBy_tuple, accumulateIf_tuple, receiver]
      exact fun same => here (congrArg CAssetAllocationTuple.vchAliasOrAddress same).symm

end

section

variable {env : AssetEnv} {value : Float64Bits → Int} {nHeight : Nat} {record : CAssetAllocation}

def holderAccount (value : Float64Bits → Int) : Account CAssetAllocation where
  due nHeight record := value record.nAccumulatedBalanceSinceLastInterestClaim +
    record.nBalance.toInt * (nHeight - record.nHeight.toNat)
  balance record := record.nBalance.toInt
  grows _ _ _ := by ring

section

variable (env value record)

structure PaysInterest (event : HolderEvent) : Prop where
  height : event.nHeight < 2 ^ 31
  positive : floatPositive event.dbAsset.fInterestRate = true
  exact : record.nHeight.toNat < event.nHeight →
    value (env.accumulateBalance record.nAccumulatedBalanceSinceLastInterestClaim record.nBalance
      (blocksSinceLastUpdate record event.nHeight)) = (holderAccount value).due event.nHeight record

/-- A send has one receiver, or is in the block of the last update, or overruns the balance. -/
def SettlesOnce : HolderEvent → Prop
  | .receipt .. => True
  | .send _ _ nHeight amounts => amounts.length = 1 ∨ record.nHeight.toNat = nHeight ∨
      overruns record.nBalance amounts = true

end

theorem stampedHeight (bounded : nHeight < 2 ^ 31) : (UInt32.ofNat nHeight).toNat = nHeight :=
  UInt32.toNat_ofNat_of_lt' (lt_trans bounded (by decide))

theorem blocksSinceLastUpdate_toInt (bounded : nHeight < 2 ^ 31)
    (past : record.nHeight.toNat ≤ nHeight) :
    (blocksSinceLastUpdate record nHeight).toInt = nHeight - record.nHeight.toNat := by
  have given := stampedHeight bounded
  have elapsed : (UInt32.ofNat nHeight - record.nHeight).toNat =
      nHeight - record.nHeight.toNat := by
    rw [UInt32.toNat_sub_of_le, given]
    rw [UInt32.le_iff_toNat_le, given]
    exact past
  have small : 2 * (UInt32.ofNat nHeight - record.nHeight).toBitVec.toNat < 2 ^ 32 := by
    rw [UInt32.toNat_toBitVec, elapsed]
    omega
  change (UInt32.ofNat nHeight - record.nHeight).toBitVec.toInt = _
  rw [BitVec.toInt_eq_toNat_of_lt small, UInt32.toNat_toBitVec, elapsed]
  omega

theorem accumulate_idle (bounded : nHeight < 2 ^ 31) (current : record.nHeight.toNat = nHeight) :
    accumulateIf env true nHeight record = record := by
  have blocks := blocksSinceLastUpdate_toInt bounded current.le
  rw [accumulateIf, if_pos rfl, accumulateInterestSinceLastClaim, if_pos]
  rw [Int32.le_iff_toInt_le, blocks, current]
  simp

theorem accumulate_due (pays : PaysInterest env value record event)
    (past : record.nHeight.toNat ≤ event.nHeight) :
    value (accumulateIf env true event.nHeight record).nAccumulatedBalanceSinceLastInterestClaim =
      (holderAccount value).due event.nHeight record := by
  rcases past.lt_or_eq with earlier | current
  · have blocks := blocksSinceLastUpdate_toInt pays.height past
    rw [accumulateIf, if_pos rfl, accumulateInterestSinceLastClaim, if_neg]
    · exact pays.exact earlier
    · rw [Int32.le_iff_toInt_le, blocks]
      simp only [Int32.toInt_zero]
      omega
  · rw [accumulate_idle pays.height current, holderAccount]
    simp only [current, sub_self, mul_zero, add_zero]

theorem foldl_debitedBy_overrun {interest : Bool} :
    amounts.foldl (debitedBy env interest nHeight true) record = record := by
  induction amounts with
  | nil => rfl
  | cons entry rest ih => exact ih

theorem foldl_debitedBy_current (bounded : nHeight < 2 ^ 31)
    (current : record.nHeight.toNat = nHeight) : (amounts.foldl (debitedBy env true nHeight false)
        record).nAccumulatedBalanceSinceLastInterestClaim =
      record.nAccumulatedBalanceSinceLastInterestClaim := by
  induction amounts generalizing record with
  | nil => rfl
  | cons entry rest ih =>
    have debited : debitedBy env true nHeight false record entry =
        { record with nBalance := record.nBalance - entry.2 } := by
      simp only [debitedBy, accumulate_idle bounded current, Bool.false_eq_true, if_false]
    rw [List.foldl_cons, debited]
    exact ih current

theorem due_of_stamped {after : CAssetAllocation} (stamp : after.nHeight.toNat = nHeight) :
    (holderAccount value).due nHeight after =
      value after.nAccumulatedBalanceSinceLastInterestClaim := by
  simp only [holderAccount, stamp, sub_self, mul_zero, add_zero]

theorem settles_event (pays : PaysInterest env value record event)
    (once : SettlesOnce record event) (past : record.nHeight.toNat ≤ event.nHeight) :
    Settles (apply env) HolderEvent.nHeight (holderAccount value) record event ∧
      (event.apply env record).nHeight.toNat ≤ event.nHeight := by
  have due := accumulate_due pays past
  have stamp := stampedHeight pays.height
  have positive := pays.positive
  rw [Settles]
  cases event with
  | receipt dbAsset txHash nHeight vchMemo amount =>
    simp only [HolderEvent.dbAsset] at positive
    simp only [apply, positive]
    exact ⟨(due_of_stamped stamp).trans due, stamp.le⟩
  | send dbAsset txHash nHeight amounts =>
    simp only [HolderEvent.dbAsset] at positive
    simp only [SettlesOnce] at once
    simp only [apply, positive]
    cases overrun : overruns record.nBalance amounts with
    | true =>
      rw [foldl_debitedBy_overrun]
      exact ⟨rfl, past⟩
    | false =>
      refine ⟨(due_of_stamped stamp).trans ?_, stamp.le⟩
      change value (amounts.foldl (debitedBy env true nHeight false)
        record).nAccumulatedBalanceSinceLastInterestClaim = _
      rcases once with single | current | impossible
      · obtain ⟨entry, rfl⟩ := List.length_eq_one_iff.mp single
        exact due
      · have bounded : nHeight < 2 ^ 31 := pays.height
        rw [foldl_debitedBy_current bounded current]
        exact (due_of_stamped current).symm
      · rw [overrun] at impossible
        cases impossible

theorem settles_run {events : List HolderEvent} {first last : Nat}
    (ordered : TimeLine.Ordered HolderEvent.nHeight first last events)
    (past : record.nHeight.toNat ≤ first)
    (pays : Run.Permitted (apply env) (PaysInterest env value) record events)
    (once : Run.Permitted (apply env) SettlesOnce record events) :
    Run.Permitted (apply env) (Settles (apply env)
      HolderEvent.nHeight (holderAccount value)) record events := by
  induction events generalizing record first with
  | nil => trivial
  | cons event rest ih =>
    obtain ⟨settles, stamped⟩ := settles_event pays.1 once.1 (past.trans ordered.1)
    exact ⟨settles, ih ordered.2 stamped pays.2 once.2⟩

end

theorem accumulated_eq_integral {env : AssetEnv} {value : Float64Bits → Int}
    {claimed : CAssetAllocation} {events : List HolderEvent} {now : Nat}
    (fresh : value claimed.nAccumulatedBalanceSinceLastInterestClaim = 0)
    (ordered : TimeLine.Ordered HolderEvent.nHeight claimed.nHeight.toNat now events)
    (pays : Run.Permitted (apply env) (PaysInterest env value) claimed events)
    (once : Run.Permitted (apply env) SettlesOnce claimed events) :
    let record := Run.run (apply env) claimed events
    value record.nAccumulatedBalanceSinceLastInterestClaim +
        record.nBalance.toInt * (now - record.nHeight.toNat) =
      ∑ block ∈ Finset.Ico claimed.nHeight.toNat now, (Run.run (apply env) claimed
        (upTo HolderEvent.nHeight block events)).nBalance.toInt := by
  have sum := due_eq_sum ordered (settles_run ordered le_rfl pays once)
  rw [due_of_stamped rfl, fresh, zero_add] at sum
  exact sum

def sampleInterestEnv : AssetEnv :=
  { sampleAssetEnv (fun _ => none) (fun _ => none) with
    accumulateBalance := fun total nBalance blocks =>
      total + UInt64.ofNat (nBalance.toInt * blocks.toInt).toNat }

def sampleInterestAsset : CAsset := { CAsset.null with fInterestRate := 0x3d4ccccd }

def sampleHolder : CAssetAllocation :=
  { CAssetAllocation.null with nHeight := 10, nLastInterestClaimHeight := 10, nBalance := 100 }

def sampleValue (total : Float64Bits) : Int := total.toNat

theorem sendAmounts_stores_sample :
    wp (sendAmounts .block sampleInterestEnv sampleInterestAsset 5 1 20 (samplePayment [([2], 2)]))
      (fun _ after => ∃ written, after.allocations.lookup written.tuple = some written ∧
        written = apply sampleInterestEnv (samplePayment [([2], 2)])
          (.send sampleInterestAsset 1 20 [([2], 2)])) (fun _ _ => True) sampleTokens :=
  sendAmounts_stores _ _ _ _ (List.cons_ne_nil _ _) _

theorem creditAmounts_stores_sample :
    wp (creditAmounts .block sampleInterestEnv sampleInterestAsset 1 20 false false
        { sampleAllocation with vchAliasOrAddress := [2] } [([1], 2), ([3], 1)])
      (fun _ after => after.allocations.lookup sampleAllocation.tuple = some
        (apply sampleInterestEnv sampleAllocation
          (.receipt sampleInterestAsset 1 20 [] 2))) (fun _ _ => True) sampleTokens :=
  creditAmounts_stores _ _ _ _ _ sampleTokens_keyed Finmap.lookup_singleton_eq

theorem accumulated_eq_integral_sample :
    let events : List HolderEvent := [.receipt sampleInterestAsset 1 15 [] 50,
      .send sampleInterestAsset 2 20 [([1], 30)]]
    let record := Run.run (apply sampleInterestEnv) sampleHolder events
    sampleValue record.nAccumulatedBalanceSinceLastInterestClaim +
        record.nBalance.toInt * ((25 : Nat) - record.nHeight.toNat) =
      ∑ block ∈ Finset.Ico sampleHolder.nHeight.toNat 25,
        (Run.run (apply sampleInterestEnv) sampleHolder
          (upTo HolderEvent.nHeight block events)).nBalance.toInt := by
  refine accumulated_eq_integral rfl ?_ ?_ ?_
  · exact ⟨by decide, by decide, Nat.le_of_ble_eq_true rfl⟩
  · exact ⟨⟨by decide, by decide, fun _ => by decide⟩,
      ⟨by decide, by decide, fun _ => by decide⟩, trivial⟩
  · exact ⟨trivial, .inl rfl, trivial⟩

theorem twoReceivers_accumulated_twice :
    let events : List HolderEvent := [.send sampleInterestAsset 1 20 [([1], 10), ([2], 10)]]
    let record := Run.run (apply sampleInterestEnv) sampleHolder events
    (sampleValue sampleHolder.nAccumulatedBalanceSinceLastInterestClaim = 0 ∧
      TimeLine.Ordered HolderEvent.nHeight sampleHolder.nHeight.toNat 20 events ∧
      Run.Permitted (apply sampleInterestEnv)
        (PaysInterest sampleInterestEnv sampleValue) sampleHolder events) ∧
    sampleValue record.nAccumulatedBalanceSinceLastInterestClaim +
        record.nBalance.toInt * ((20 : Nat) - record.nHeight.toNat) = 1900 ∧
    ∑ block ∈ Finset.Ico sampleHolder.nHeight.toNat 20,
        (Run.run (apply sampleInterestEnv) sampleHolder
          (upTo HolderEvent.nHeight block events)).nBalance.toInt = 1000 := by
  refine ⟨⟨rfl, ⟨by decide, le_refl 20⟩, ⟨by decide, by decide, fun _ => by decide⟩,
    trivial⟩, by decide, by decide⟩

end Minerium
