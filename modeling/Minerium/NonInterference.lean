import Minerium.AllocationOps
import Minerium.AmountConservation
import Minerium.AssetAuthority
import Minerium.Lib.TwoRuns

/-! Two nodes that differ only in their unconfirmed allocations connect the same block. -/

namespace Minerium

open FinmapTotal SortedVector List Set Procedure

variable {vchAsset vchAlias vchMemo : Bytes} {amounts : List (Bytes × CAmount)}
  {inputs : List (Bytes × List CRange)} {payload allocation sender db : CAssetAllocation} {op : Nat}
  {condition bBalanceOverrun : Bool} {asset theAsset : CAsset} {env : AssetEnv}
  {tuples : Set CAssetAllocationTuple} {tuple : CAssetAllocationTuple} (dbAsset : CAsset)
  (txHash : Uint256) (nHeight : Nat) (stop : ServiceStop) {node : ServiceNode}

def SameRecord (s t : AssetState) (tuple : CAssetAllocationTuple) : Prop :=
  s.allocations.lookup tuple = t.allocations.lookup tuple

instance (s t : AssetState) : Decidable (SameRecord s t tuple) :=
  inferInstanceAs (Decidable (_ = _))

/-- The two nodes before the block, and the tuples that the block reverts.  A tuple counts as
reverted by its text. -/
structure Comparison where
  first : AssetState
  second : AssetState
  reverts : Set CAssetAllocationTuple
  distinct : ∀ tuple ∈ reverts, ∀ other ∈ reverts, tuple.toString = other.toString →
    tuple = other ∨ SameRecord first second other

/-- The two nodes in the middle of the block.  On the settled tuples they agree. -/
structure Alike (c : Comparison) (settled : Set CAssetAllocationTuple) (s t : AssetState) :
    Prop where
  assets : s.assets = t.assets
  lastAllocations : s.lastAllocations = t.lastAllocations
  reverted : s.revertedAssetAllocations = t.revertedAssetAllocations
  keyed : Keyed s
  keyedSecond : Keyed t
  origin : ∀ tuple, SameRecord s t tuple ∨
    s.allocations.lookup tuple = c.first.allocations.lookup tuple ∧
      t.allocations.lookup tuple = c.second.allocations.lookup tuple
  trusted : ∀ tuple ∈ c.reverts, isReverted s tuple → SameRecord s t tuple
  settled : ∀ tuple ∈ settled, SameRecord s t tuple

section

variable {c : Comparison} {settled : Set CAssetAllocationTuple} {s t : AssetState}

theorem Alike.weaken {fewer : Set CAssetAllocationTuple} (alike : Alike c settled s t)
    (subset : fewer ⊆ settled) : Alike c fewer s t :=
  { alike with settled := fun tuple member => alike.settled tuple (subset member) }

theorem Alike.of_first (alike : Alike c settled s t)
    (same : SameRecord c.first c.second tuple) : SameRecord s t tuple := by
  rcases alike.origin tuple with here | ⟨one, two⟩
  · exact here
  · rw [SameRecord, one, two]
    exact same

theorem sameRecord_afterWrite (same : tuple = allocation.tuple ∨ SameRecord s t tuple) :
    SameRecord (afterWrite allocation s) (afterWrite allocation t) tuple := by
  simp only [SameRecord, afterWrite, lookup_insert_eq]
  split
  · rfl
  · rename_i different
    exact same.resolve_left different

variable (alike : Alike c settled s t)
include alike

theorem Alike.write (allocation : CAssetAllocation) :
    Alike c (insert allocation.tuple settled) (afterWrite allocation s)
      (afterWrite allocation t) where
  assets := alike.assets
  lastAllocations := congrArg (·.insert allocation.tuple allocation) alike.lastAllocations
  reverted := alike.reverted
  keyed := alike.keyed.afterWrite allocation
  keyedSecond := alike.keyedSecond.afterWrite allocation
  origin := by
    intro tuple
    by_cases written : tuple = allocation.tuple
    · exact .inl (sameRecord_afterWrite (.inl written))
    · rcases alike.origin tuple with same | origins
      · exact .inl (sameRecord_afterWrite (.inr same))
      · simp only [afterWrite, lookup_insert_eq, if_neg written]
        exact .inr origins
  trusted := fun tuple member marked =>
    sameRecord_afterWrite (.inr (alike.trusted tuple member marked))
  settled := by
    rintro tuple (written | member)
    · exact sameRecord_afterWrite (.inl written)
    · exact sameRecord_afterWrite (.inr (alike.settled tuple member))

theorem Alike.writeAsset (asset : CAsset) :
    Alike c settled (afterWriteAsset asset s) (afterWriteAsset asset t) :=
  { alike with
    assets := congrArg (·.insert asset.vchAsset asset) alike.assets
    keyed := alike.keyed.afterWriteAsset asset
    keyedSecond := alike.keyedSecond.afterWriteAsset asset }

theorem Alike.erase (times timesSecond : Finmap fun _ : CAssetAllocationTuple => ArrivalTimesMap) :
    Alike c settled { s with arrivalTimes := times } { t with arrivalTimes := timesSecond } :=
  { alike with keyed := { alike.keyed with }, keyedSecond := { alike.keyedSecond with } }

theorem Alike.mark (reverts : tuple ∈ c.reverts)
    (here : tuple ∈ settled) (conflicts conflictsSecond : TupleVector) : Alike c settled { s with
        revertedAssetAllocations := tupleInsert s.revertedAssetAllocations tuple
        assetAllocationConflicts := conflicts } { t with
        revertedAssetAllocations := tupleInsert t.revertedAssetAllocations tuple
        assetAllocationConflicts := conflictsSecond } where
  assets := alike.assets
  lastAllocations := alike.lastAllocations
  reverted := congrArg (tupleInsert · tuple) alike.reverted
  keyed := { alike.keyed with reverted := (insert_keys alike.keyed.reverted).1 }
  keyedSecond := { alike.keyedSecond with reverted := (insert_keys alike.keyedSecond.reverted).1 }
  origin := alike.origin
  trusted := by
    intro other member marked
    rcases (find_insert_isSome alike.keyed.reverted tuple other).mp marked with text | before
    · rcases c.distinct tuple reverts other member text with rfl | same
      · exact alike.settled _ here
      · exact alike.of_first same
    · exact alike.trusted other member before
  settled := alike.settled

end

abbrev Agrees {α : Type} (c : Comparison) (before : Set CAssetAllocationTuple)
    (m : AssetProcedure α) (after : Set CAssetAllocationTuple) : Prop :=
  Procedure.Agrees (Alike c before) m (Alike c after) (Alike c ∅)

section

variable {c : Comparison} {settled : Set CAssetAllocationTuple} {tx : CTransaction}

theorem agrees_stops (s t : AssetState) (alike : Alike c settled s t) :
  Alike c ∅ s t := alike.weaken (empty_subset settled)

theorem agrees_require : Agrees c settled (.require condition stop) settled :=
  .require condition stop agrees_stops

variable {α : Type} {after : Set CAssetAllocationTuple}

theorem agrees_passes {stop : ServiceStop} {m : AssetProcedure α}
    (agrees : condition = true → Agrees c settled m after) :
    Agrees c settled (.require condition stop >>= fun _ => m) after := by
  cases condition with
  | true => exact agrees rfl
  | false => exact .stop stop agrees_stops

theorem agrees_requires {stop : ServiceStop} {m : AssetProcedure α}
    (agrees : Agrees c settled m after) :
    Agrees c settled (.require condition stop >>= fun _ => m) after :=
  agrees_passes fun _ => agrees

theorem agrees_orStop (found : Option α) : Agrees c settled (.orStop stop found) settled :=
  .orStop stop found agrees_stops

theorem agrees_write : Agrees c settled (writeAssetAllocation allocation) settled :=
  .modify fun _ _ alike => (alike.write allocation).weaken (subset_insert _ settled)

theorem agrees_writeSender :
    Agrees c settled (writeSender txHash nHeight bBalanceOverrun sender) settled :=
  agrees_write

theorem agrees_writeAsset : Agrees c settled (writeAsset asset) settled :=
  .modify fun _ _ alike => alike.writeAsset asset

theorem agrees_readAsset : Agrees c settled (readAsset vchAsset) settled :=
  .read fun _ _ alike => by rw [alike.assets]

theorem agrees_readAssetAllocation (here : tuple ∈ settled) :
    Agrees c settled (readAssetAllocation tuple) settled :=
  .read fun _ _ alike => alike.settled tuple here

theorem agrees_revertOnce (reverts : tuple ∈ c.reverts)
    {nHeight : Nat} : Agrees c settled (revertOnce tuple asset nHeight) (insert tuple settled) := by
  refine .read_bind (fun s t alike => by rw [alike.lastAllocations]) fun s t alike => ?_
  refine .bind (.modify fun _ _ alike => alike.write _) fun _ => ?_
  rw [(lastOrNew_spec alike.keyed tuple asset nHeight).1]
  exact .modify fun _ _ here => here.mark reverts (mem_insert tuple settled) _ _

theorem agrees_revert (reverts : tuple ∈ c.reverts) (txHash : Uint256) (nHeight : Nat) :
    Agrees c settled (revertAssetAllocation tuple asset txHash nHeight) (insert tuple settled) := by
  refine .bind (.modify fun _ _ alike => alike.erase _ _) fun _ => ?_
  refine .read_known (fun s t alike => ?_) fun reverted => ?_
  · simp only [alike.reverted]
  · cases reverted with
    | true =>
      rintro s t ⟨alike, marked⟩
      refine ⟨rfl, { alike with settled := ?_ }⟩
      rintro other (rfl | member)
      · exact alike.trusted _ reverts marked
      · exact alike.settled other member
    | false => exact (agrees_revertOnce reverts).mono (fun _ _ => And.left) fun _ _ => id

def receiverTuples {δ : Type} (vchAsset : Bytes) (items : List (Bytes × δ)) :
    Set CAssetAllocationTuple :=
  {tuple | ∃ entry ∈ items, tuple = ⟨vchAsset, entry.1⟩}

variable {δ : Type}

theorem receiverTuples_cons (entry : Bytes × δ) (rest : List (Bytes × δ)) :
    receiverTuples vchAsset (entry :: rest) =
      insert ⟨vchAsset, entry.1⟩ (receiverTuples vchAsset rest) := by
  ext tuple
  simp [receiverTuples]

theorem agrees_revertReceivers {accepted : δ → Bool} {stop : ServiceStop}
    {units : δ → CAmount} {dbAsset : CAsset} {txHash : Uint256} {nHeight : Nat}
    {items : List (Bytes × δ)} (nTotal : CAmount)
    (reverts : receiverTuples vchAsset items ⊆ c.reverts) :
    Agrees c settled (revertReceivers .block accepted stop units dbAsset txHash nHeight vchAsset
      nTotal items) (receiverTuples vchAsset items ∪ settled) := by
  induction items generalizing nTotal settled with
  | nil =>
    refine (Procedure.Agrees.pure nTotal).mono (fun _ _ => id) fun _ _ alike => alike.weaken ?_
    rintro tuple (⟨entry, member, -⟩ | here)
    · cases member
    · exact here
  | cons entry rest ih =>
    rw [receiverTuples_cons] at reverts ⊢
    obtain ⟨first, others⟩ := insert_subset_iff.mp reverts
    refine .bind (agrees_revert first txHash nHeight) fun _ => ?_
    refine agrees_requires ?_
    refine (ih _ others).mono (fun _ _ => id) fun _ _ alike => alike.weaken ?_
    rintro tuple ((rfl | member) | here)
    · exact .inr (mem_insert _ _)
    · exact .inl member
    · exact .inr (mem_insert_of_mem _ here)

theorem agrees_creditAmounts
    (named : sender.vchAsset = vchAsset) (here : receiverTuples vchAsset amounts ⊆ settled) :
    Agrees c settled (creditAmounts .block env dbAsset txHash nHeight bBalanceOverrun false sender
      amounts) settled := by
  induction amounts generalizing sender with
  | nil => exact .pure sender
  | cons entry rest ih =>
    rw [receiverTuples_cons] at here
    obtain ⟨first, others⟩ := insert_subset_iff.mp here
    simp only [creditAmounts, addConflictIf_false, pure_bind, writeReceiverIn, named]
    refine agrees_requires ?_
    refine .bind (agrees_readAssetAllocation first) fun found => ?_
    refine .bind agrees_write fun _ => ih ?_ others
    cases bBalanceOverrun with
    | true => exact named
    | false =>
      exact (congrArg CAssetAllocationTuple.vchAsset
        (accumulateIf_tuple env _ nHeight sender)).trans named

theorem agrees_creditRanges {send : RangeSend} (named : send.theAssetAllocation.vchAsset = vchAsset)
    (here : receiverTuples vchAsset inputs ⊆ settled) :
    Agrees c settled (creditRanges .block dbAsset txHash nHeight bBalanceOverrun false send inputs)
      settled := by
  induction inputs generalizing send with
  | nil => exact .pure send
  | cons entry rest ih =>
    rw [receiverTuples_cons] at here
    obtain ⟨first, others⟩ := insert_subset_iff.mp here
    simp only [creditRanges, addConflictIf_false, pure_bind, writeReceiverIn, named]
    refine agrees_requires ?_
    refine agrees_requires ?_
    refine .bind (agrees_readAssetAllocation first) fun found => ?_
    refine .bind agrees_write fun _ => ih ?_ others
    cases bBalanceOverrun with
    | true => exact named
    | false => rfl

theorem agrees_none {m : AssetProcedure α}
    (agrees : Agrees c settled m after) : Agrees c settled m ∅ :=
  agrees.mono (fun _ _ => id) agrees_stops

theorem agrees_sendAmounts {dbBalance : CAmount} {txHash : Uint256} {nHeight : Nat}
    (reverts : receiverTuples sender.vchAsset sender.listSendingAllocationAmounts ⊆ c.reverts) :
    Agrees c settled (sendAmounts .block env dbAsset dbBalance txHash nHeight sender) ∅ := by
  simp only [sendAmounts, senderConflicts_block, pure_bind]
  refine agrees_requires ?_
  refine .bind (agrees_revertReceivers _ reverts) fun nTotal => ?_
  refine .bind (agrees_creditAmounts dbAsset txHash nHeight rfl subset_union_left) fun last => ?_
  exact agrees_none (agrees_writeSender _ _)

theorem agrees_sendRanges
    (reverts : receiverTuples sender.vchAsset sender.listSendingAllocationInputs ⊆ c.reverts) :
    Agrees c settled (sendRanges .block dbAsset db txHash nHeight sender) ∅ := by
  simp only [sendRanges, senderConflicts_block, pure_bind]
  refine agrees_requires ?_
  refine .bind (agrees_revertReceivers _ reverts) fun nTotal => ?_
  refine .bind (agrees_creditRanges dbAsset txHash nHeight rfl subset_union_left) fun last => ?_
  exact agrees_none (agrees_writeSender _ _)

def payloadReceivers (payload : CAssetAllocation) : List CAssetAllocationTuple :=
  (receiversOf payload).map fun receiver => ⟨payload.vchAsset, receiver⟩

theorem receiverTuples_subset {items : List (Bytes × δ)}
    (named : receiversOf payload = items.map (·.1))
    (all : ∀ tuple ∈ payloadReceivers payload, tuple ∈ tuples) :
    receiverTuples payload.vchAsset items ⊆ tuples := by
  rintro _ ⟨entry, member, rfl⟩
  refine all _ (mem_map_of_mem ?_)
  rw [named]
  exact mem_map_of_mem member

theorem agrees_sendAllocations (reverts : ∀ tuple ∈ payloadReceivers sender, tuple ∈ c.reverts) :
    Agrees c settled (sendAllocations .block env dbAsset db txHash nHeight sender) ∅ := by
  refine .ite (fun byAmounts => ?_) fun byRanges => ?_
  · exact agrees_sendAmounts _ (receiverTuples_subset (if_neg (by simpa using byAmounts)) reverts)
  · refine .ite (fun _ => ?_) fun _ => agrees_none (agrees_writeSender _ _)
    exact agrees_sendRanges _ _ _ (receiverTuples_subset (if_pos (by simpa using byRanges)) reverts)

def SamePresence (first second : AssetState) (tuple : CAssetAllocationTuple) : Prop :=
  (first.allocations.lookup tuple).isSome = (second.allocations.lookup tuple).isSome

instance (first second : AssetState) : Decidable (SamePresence first second tuple) :=
  inferInstanceAs (Decidable (_ = _))

theorem Alike.reads {s t : AssetState} (alike : Alike c settled s t)
    (present : SamePresence c.first c.second tuple) :
    s.allocations.lookup tuple = none ∧ t.allocations.lookup tuple = none ∨
      ∃ one two, s.allocations.lookup tuple = some one ∧ t.allocations.lookup tuple = some two ∧
        one.tuple = tuple ∧ two.tuple = tuple := by
  have same : SamePresence s t tuple := by
    rcases alike.origin tuple with here | ⟨first, second⟩
    · rw [SamePresence, here]
    · rw [SamePresence, first, second]
      exact present
  rw [SamePresence] at same
  cases one : s.allocations.lookup tuple with
  | none =>
    cases two : t.allocations.lookup tuple with
    | none => exact .inl ⟨rfl, rfl⟩
    | some record =>
      rw [one, two] at same
      cases same
  | some first =>
    cases two : t.allocations.lookup tuple with
    | none =>
      rw [one, two] at same
      cases same
    | some second =>
      exact .inr ⟨first, second, rfl, rfl, alike.keyed.allocations tuple first one,
        alike.keyedSecond.allocations tuple second two⟩

theorem agrees_allocationSend {inputs : UtxoMap} {nHeight : Nat} {vchThisAlias : Bytes}
    (present : (vchAlias.isEmpty || !env.isValidAddress vchThisAlias) = true →
      SamePresence c.first c.second ⟨payload.vchAsset, vchThisAlias⟩)
    (sender : ⟨payload.vchAsset, vchThisAlias⟩ ∈ c.reverts)
    (reverts : ∀ tuple ∈ payloadReceivers payload, tuple ∈ c.reverts) :
    Agrees c ∅ (allocationSend .block env inputs tx vchAlias nHeight payload vchThisAlias) ∅ := by
  simp only [allocationSend, rereadIn, bind_assoc]
  refine agrees_passes fun spendable => ?_
  refine .read_bind (fun s t alike => ?_) fun _ _ _ => ?_
  · rcases alike.reads (present spendable) with
      ⟨one, two⟩ | ⟨first, second, one, two, named, namedSecond⟩
    · simp only [one, two]
    · have holder : first.vchAliasOrAddress = second.vchAliasOrAddress :=
        congrArg CAssetAllocationTuple.vchAliasOrAddress (named.trans namedSecond.symm)
      simp only [one, two, orStop_some_bind, holder]
  · refine .bind (agrees_orStop _ _) fun db => ?_
    refine .bind (m := requireHolder _ _ _ _ _ _)
      (.ite (fun _ => agrees_require _) fun _ => agrees_require _) fun _ => ?_
    refine .bind agrees_readAsset fun asset => ?_
    refine .bind (agrees_orStop _ _) fun dbAsset => ?_
    refine .bind (agrees_revert sender _ _) fun _ => ?_
    refine .bind (agrees_readAssetAllocation (mem_insert _ _)) fun _ => ?_
    refine .bind (agrees_orStop _ _) fun db => ?_
    exact agrees_sendAllocations _ _ _ reverts

def SameRates (first second : AssetState) (tuple : CAssetAllocationTuple) : Prop :=
  (first.allocations.lookup tuple).map (floatNotPositive ·.fInterestRate) =
    (second.allocations.lookup tuple).map (floatNotPositive ·.fInterestRate)

instance (first second : AssetState) : Decidable (SameRates first second tuple) :=
  inferInstanceAs (Decidable (_ = _))

theorem SameRates.present {first second : AssetState}
    (same : SameRates first second tuple) : SamePresence first second tuple := by
  have presence := congrArg Option.isSome same
  rwa [Option.isSome_map, Option.isSome_map] at presence

theorem agrees_collectInterest
    (rates : SameRates c.first c.second tuple) (reverts : tuple ∈ c.reverts) :
    Agrees c ∅ (collectInterest env txHash nHeight tuple) ∅ := by
  simp only [collectInterest, checkInterest, bind_assoc, pure_bind]
  refine .read_bind (fun s t alike => ?_) fun _ _ _ => ?_
  · rcases alike.reads rates.present with ⟨one, two⟩ | ⟨first, second, one, two, named, namedSecond⟩
    · simp only [one, two]
    · have asset : first.vchAsset = second.vchAsset :=
        congrArg CAssetAllocationTuple.vchAsset (named.trans namedSecond.symm)
      have rate : floatNotPositive first.fInterestRate = floatNotPositive second.fInterestRate := by
        have same : SameRates s t tuple := by
          rcases alike.origin tuple with here | ⟨origin, originSecond⟩
          · rw [SameRates, here]
          · rw [SameRates, origin, originSecond]
            exact rates
        rw [SameRates, one, two] at same
        exact Option.some.inj same
      simp only [one, two, orStop_some_bind, asset, rate]
  · refine .bind (agrees_orStop _ _) fun db => ?_
    refine .bind agrees_readAsset fun asset => ?_
    refine .bind (agrees_orStop _ _) fun dbAsset => ?_
    refine agrees_requires ?_
    refine .bind (agrees_revert reverts _ _) fun _ => ?_
    refine .bind (agrees_readAssetAllocation (mem_insert _ _)) fun _ => ?_
    refine .bind (agrees_orStop _ _) fun db => ?_
    refine .bind (.liftExcept _ agrees_stops) fun result => ?_
    refine .bind agrees_writeAsset fun _ => ?_
    exact agrees_none (agrees_writeSender _ _)

theorem agrees_requireFoundAsset : Agrees c settled (requireFoundAsset vchAsset) settled :=
  .bind agrees_readAsset fun _ => agrees_orStop _ _

theorem agrees_requireAssetOwner {inputs : UtxoMap} {owner user1 : Bytes} {text : String} :
    Agrees c settled (requireAssetOwner env inputs tx vchAlias owner user1 text) settled :=
  .ite (fun _ => agrees_require _) fun _ => agrees_require _

theorem agrees_runAssetOp {inputs : UtxoMap} {nHeight : Nat} :
    Agrees c settled (runAssetOp env inputs tx op vchAlias nHeight theAsset) settled := by
  refine .ite (fun _ => ?_) fun _ => .ite (fun _ => ?_) fun _ => ?_
  · refine .bind agrees_readAsset fun found => ?_
    refine .bind agrees_requireAssetOwner fun _ => ?_
    exact agrees_requires agrees_writeAsset
  · refine .bind agrees_requireFoundAsset fun dbAsset => ?_
    refine .bind agrees_requireAssetOwner fun _ => ?_
    refine .bind (m := requireIf _ _) (.ite (fun _ => ?_) fun _ => .pure ()) fun _ => ?_
    · exact agrees_requires <| agrees_requires <| agrees_require _
    refine .bind (agrees_orStop _ _) fun inRange => ?_
    refine agrees_requires ?_
    refine agrees_requires ?_
    exact agrees_requires agrees_writeAsset
  · exact .bind agrees_requireFoundAsset fun _ => agrees_writeAsset

theorem agrees_assetCreditAmounts (theAsset : CAsset)
    (here : receiverTuples vchAsset amounts ⊆ settled) :
    Agrees c settled (assetCreditAmounts env txHash nHeight vchAsset vchMemo theAsset amounts)
      settled := by
  induction amounts generalizing theAsset with
  | nil => exact .pure theAsset
  | cons entry rest ih =>
    rw [receiverTuples_cons] at here
    obtain ⟨first, others⟩ := insert_subset_iff.mp here
    refine .bind (agrees_readAssetAllocation first) fun found => ?_
    exact .bind agrees_write fun _ => ih _ others

theorem agrees_assetCreditRanges (dbInputs : List CRange)
    (theAsset : CAsset) (here : receiverTuples vchAsset inputs ⊆ settled) : Agrees c settled
      (assetCreditRanges txHash nHeight vchAsset vchMemo dbInputs theAsset inputs) settled := by
  induction inputs generalizing dbInputs theAsset with
  | nil => exact .pure theAsset
  | cons entry rest ih =>
    rw [receiverTuples_cons] at here
    obtain ⟨first, others⟩ := insert_subset_iff.mp here
    refine agrees_requires ?_
    refine .bind (agrees_readAssetAllocation first) fun found => ?_
    exact .bind agrees_write fun _ => ih _ _ others

/-- The checks of the sent amounts or ranges, which come before a receiver is read. -/
def sendsHeld (payload : CAssetAllocation) (dbAsset : CAsset) : Bool :=
  if payload.listSendingAllocationAmounts.isEmpty then
    dbAsset.bUseInputRanges && payload.listSendingAllocationInputs.all (isValidRanges ·.2) &&
      decide (totalUnits rangeCount 0 payload.listSendingAllocationInputs ≤ dbAsset.nBalance)
  else
    !dbAsset.bUseInputRanges && payload.listSendingAllocationAmounts.all (isPositive ·.2) &&
      decide (totalUnits id 0 payload.listSendingAllocationAmounts ≤ dbAsset.nBalance)

def senderSigns (env : AssetEnv) (inputs : UtxoMap) (tx : CTransaction) (vchAlias : Bytes)
    (payload : CAssetAllocation) (dbAsset : CAsset) : Bool :=
  let user1 := assetUser dbAsset (if vchAlias.isEmpty then payload.vchAliasOrAddress else vchAlias)
  (vchAlias.isEmpty || !env.isValidAddress user1) &&
    if vchAlias.isEmpty then
      decide (dbAsset.vchAliasOrAddress = payload.vchAliasOrAddress) &&
        env.findAssetOwnerInTx inputs tx user1
    else decide (dbAsset.vchAliasOrAddress = vchAlias)

theorem agrees_assetSendTo {dbAsset : CAsset}
    (here : sendsHeld payload dbAsset = true → ∀ tuple ∈ payloadReceivers payload,
      tuple ∈ settled) :
    Agrees c settled (assetSendTo env txHash nHeight payload dbAsset) settled := by
  refine .ite (fun byAmounts => ?_) fun byRanges =>
    Procedure.Agrees.ite (fun _ => ?_) fun _ => .pure dbAsset
  · rw [Bool.not_eq_true'] at byAmounts
    simp only [assetSendAmounts, sumAmounts, sumItems_eq, bind_assoc, pure_bind]
    refine agrees_passes fun notRanges => agrees_passes fun positive =>
      agrees_passes fun enough => agrees_assetCreditAmounts _ _ _ ?_
    refine receiverTuples_subset (if_neg (by simp [byAmounts])) (here ?_)
    simp only [sendsHeld, byAmounts, notRanges, positive, enough, Bool.false_eq_true, if_false,
      Bool.and_self]
  · rw [Bool.not_eq_true', Bool.not_eq_false] at byRanges
    simp only [assetSendRanges, sumRanges, sumItems_eq, bind_assoc, pure_bind]
    refine agrees_passes fun isRanges => agrees_passes fun counted =>
      agrees_passes fun enough => agrees_assetCreditRanges _ _ _ _ ?_
    refine receiverTuples_subset (if_pos byRanges) (here ?_)
    simp only [sendsHeld, byRanges, isRanges, counted, enough, if_true, Bool.and_self]

theorem agrees_requireAssetSender {inputs : UtxoMap} {owner claimed user1 : Bytes}
    {m : AssetProcedure α} (agrees : (if vchAlias.isEmpty then
      decide (owner = claimed) && env.findAssetOwnerInTx inputs tx user1
      else decide (owner = vchAlias)) = true → Agrees c settled m after) :
    Agrees c settled (requireAssetSender env inputs tx vchAlias owner claimed user1 >>= fun _ => m)
      after := by
  rw [requireAssetSender]
  split at agrees
  · rw [if_pos ‹_›]
    exact agrees_passes agrees
  · rw [if_neg ‹_›]
    exact agrees_passes agrees

theorem agrees_assetSend (env : AssetEnv) (inputs : UtxoMap) (tx : CTransaction)
    (vchAlias : Bytes) (nHeight : Nat) (payload : CAssetAllocation) {found : Option CAsset}
    (here : ∀ dbAsset ∈ found, senderSigns env inputs tx vchAlias payload dbAsset = true →
      sendsHeld payload dbAsset = true → ∀ tuple ∈ payloadReceivers payload, tuple ∈ settled) :
    Procedure.Agrees (fun s t => Alike c settled s t ∧ s.assets.lookup payload.vchAsset = found)
      (assetSend env inputs tx vchAlias nHeight payload) (Alike c settled) (Alike c ∅) := by
  rw [assetSend, requireFoundAsset, bind_assoc]
  refine .read_known (fun s t related => by rw [related.1.assets]) fun asset => ?_
  cases asset with
  | none => exact .stop _ fun s t related => agrees_stops s t related.1.1
  | some dbAsset =>
    rw [orStop_some_bind]
    rintro s t ⟨⟨alike, known⟩, read⟩
    have passes := here dbAsset (known.symm.trans read)
    refine (?_ : Agrees c settled _ settled) s t alike
    refine agrees_passes fun spendable => ?_
    refine agrees_requireAssetSender fun signed => ?_
    have passes := passes (Bool.and_eq_true_iff.mpr ⟨spendable, signed⟩)
    exact .bind (agrees_assetSendTo _ _ passes) fun _ => agrees_writeAsset

end

section

variable (ctx : BlockContext) (tx : CTransaction)

def tokenCall : ServiceCall :=
  if tx.nVersion = MINERIUM_TX_VERSION then serviceCall tx else .none

def txReverts : List CAssetAllocationTuple :=
  match tokenCall tx with
  | .allocation op =>
    match ctx.env.assetEnv.unserializeAllocation tx with
    | none => []
    | some payload =>
      if op = OP_ASSET_COLLECT_INTEREST then [allocationHolder ctx tx payload]
      else if op = OP_ASSET_ALLOCATION_SEND then
        allocationHolder ctx tx payload :: payloadReceivers payload
      else []
  | _ => []

section

variable (vtx : List CTransaction) (first second : AssetState)

/-- They agree on what is read without a revert: whether the sender has a record, the interest rate
of a holder that collects, and the receivers of an asset's own send that passes its checks. -/
def TxAgrees (assets : Finmap fun _ : Bytes => CAsset) (tx : CTransaction) : Prop :=
  let vchAlias := signingAlias ctx.inputs tx
  match tokenCall tx with
  | .allocation op => ∀ payload ∈ ctx.env.assetEnv.unserializeAllocation tx,
      (op = OP_ASSET_ALLOCATION_SEND →
        (vchAlias.isEmpty || !ctx.env.assetEnv.isValidAddress vchAlias) = true →
        SamePresence first second (allocationHolder ctx tx payload)) ∧
      (op = OP_ASSET_COLLECT_INTEREST → SameRates first second (allocationHolder ctx tx payload))
  | .asset op => op = OP_ASSET_SEND → ∀ payload ∈ ctx.env.assetEnv.unserializeAllocation tx,
      ∀ dbAsset ∈ assets.lookup payload.vchAsset,
        senderSigns ctx.env.assetEnv ctx.inputs tx vchAlias payload dbAsset = true →
        sendsHeld payload dbAsset = true →
        ∀ tuple ∈ payloadReceivers payload, SameRecord first second tuple
  | _ => True

def blockReverts : List CAssetAllocationTuple :=
  (processedVtx ctx vtx).flatMap (txReverts ctx)

end

@[mk_iff]
structure BlockAgrees (vtx : List CTransaction) (first second : ServiceState) : Prop where
  reads : ∀ visit ∈ serviceVisits ctx vtx first,
    TxAgrees ctx first.tokens second.tokens visit.1.tokens.assets visit.2
  texts : ∀ tuple ∈ blockReverts ctx vtx, ∀ other ∈ blockReverts ctx vtx,
    tuple.toString = other.toString → tuple = other ∨ SameRecord first.tokens second.tokens other

instance (first second : AssetState) (assets : Finmap fun _ : Bytes => CAsset)
    (tx : CTransaction) : Decidable (TxAgrees ctx first second assets tx) := by
  unfold TxAgrees
  cases tokenCall tx <;> infer_instance

instance (vtx : List CTransaction) (first second : ServiceState) :
    Decidable (BlockAgrees ctx vtx first second) :=
  decidable_of_iff _ (blockAgrees_iff ..).symm

variable {ctx} {c : Comparison} {tx : CTransaction}

theorem agrees_allocation {assets : Finmap fun _ : Bytes => CAsset}
    (call : tokenCall tx = .allocation op) (reads : TxAgrees ctx c.first c.second assets tx)
    (reverts : ∀ tuple ∈ txReverts ctx tx, tuple ∈ c.reverts) :
    Agrees c ∅ (checkAssetAllocationInputs ctx.env.assetEnv ctx.inputs tx op
      (signingAlias ctx.inputs tx) ctx.nHeight) ∅ := by
  simp only [TxAgrees, txReverts, call] at reads reverts
  refine .ite (fun _ => .pure ()) fun _ => ?_
  cases decoded : ctx.env.assetEnv.unserializeAllocation tx with
  | none => exact .stop _ agrees_stops
  | some payload =>
    obtain ⟨sends, collects⟩ := reads payload decoded
    rw [decoded] at reverts
    simp only [orStop_some_bind]
    refine .ite (fun isCollect => ?_) fun notCollect =>
      Procedure.Agrees.ite (fun isSend => ?_) fun _ => agrees_writeSender _ _
    · simp only [isCollect, if_true] at reverts
      exact agrees_collectInterest _ _ (collects isCollect) (reverts _ mem_cons_self)
    · simp only [if_neg notCollect, if_pos isSend] at reverts
      obtain ⟨sender, receivers⟩ := forall_mem_cons.mp reverts
      refine agrees_allocationSend (fun spendable => sends isSend ?_) sender receivers
      split at spendable
      · rename_i byAddress
        rw [byAddress, Bool.true_or]
      · exact spendable

theorem agrees_asset {assets : Finmap fun _ : Bytes => CAsset} (call : tokenCall tx = .asset op)
    (reads : TxAgrees ctx c.first c.second assets tx) :
    Procedure.Agrees (fun s t => Alike c ∅ s t ∧ s.assets = assets) (checkAssetInputs
      ctx.env.assetEnv ctx.inputs tx op (signingAlias ctx.inputs tx) ctx.nHeight) (Alike c ∅)
      (Alike c ∅) := by
  simp only [TxAgrees, call] at reads
  refine .ite (fun _ => (Procedure.Agrees.pure ()).mono (fun _ _ => id) fun _ _ => And.left)
    fun _ => Procedure.Agrees.ite (fun isSend => ?_) fun _ => ?_
  · cases decoded : ctx.env.assetEnv.unserializeAllocation tx with
    | none => exact .stop _ fun _ _ related => related.1
    | some payload =>
      refine (@agrees_assetSend c {tuple | SameRecord c.first c.second tuple}
        ctx.env.assetEnv ctx.inputs tx (signingAlias ctx.inputs tx) ctx.nHeight payload _
        (reads isSend payload decoded)).mono ?_ agrees_stops
      rintro s t ⟨alike, rfl⟩
      exact ⟨{ alike with settled := fun _ => alike.of_first }, rfl⟩
  · refine Procedure.Agrees.mono (?_ : Agrees c ∅ _ ∅) (fun _ _ => And.left) fun _ _ => id
    exact .bind (agrees_orStop _ _) fun _ => agrees_runAssetOp

structure ServicesAlike (c : Comparison) (s t : ServiceState) : Prop where
  aliases : s.aliases = t.aliases
  certs : s.certs = t.certs
  offers : s.offers = t.offers
  escrows : s.escrows = t.escrows
  tokens : Alike c ∅ s.tokens t.tokens

def StepsAlike (c : Comparison) (one two : Bool × ServiceState) : Prop :=
  one.1 = two.1 ∧ ServicesAlike c one.2 two.2

theorem checkAlias_alike (tx : CTransaction) {s t : ServiceState} (alike : ServicesAlike c s t) :
    StepsAlike c (checkAlias ctx tx s) (checkAlias ctx tx t) := by
  rw [checkAlias, checkAlias, alike.aliases]
  cases aliasInput ctx.inputs tx with
  | none => exact ⟨rfl, alike⟩
  | some input => exact ⟨rfl, { alike with aliases := rfl }⟩

theorem tokens_alike {s t : ServiceState} (alike : ServicesAlike c s t)
    {before : AssetState → AssetState → Prop} {m : AssetProcedure Unit}
    (agrees : Procedure.Agrees before m (Alike c ∅) (Alike c ∅))
    (starts : before s.tokens t.tokens) :
    StepsAlike c (goesOnToken (m s.tokens).1, { s with tokens := (m s.tokens).2 })
      (goesOnToken (m t.tokens).1, { t with tokens := (m t.tokens).2 }) := by
  obtain ⟨same, tokens⟩ := Procedure.Agrees.final agrees starts
  exact ⟨congrArg goesOnToken same, { alike with tokens }⟩

theorem runService_alike (version : tx.nVersion = MINERIUM_TX_VERSION) {s t : ServiceState}
    (reads : TxAgrees ctx c.first c.second s.tokens.assets tx)
    (reverts : ∀ tuple ∈ txReverts ctx tx, tuple ∈ c.reverts) (alike : ServicesAlike c s t) :
    StepsAlike c (runService ctx tx s) (runService ctx tx t) := by
  have isCall : tokenCall tx = serviceCall tx := if_pos version
  simp only [runService]
  cases call : serviceCall tx with
  | allocation op =>
    exact tokens_alike alike (agrees_allocation (isCall.trans call) reads reverts) alike.tokens
  | asset op =>
    exact tokens_alike alike (agrees_asset (isCall.trans call) reads) ⟨alike.tokens, rfl⟩
  | none => exact ⟨rfl, alike⟩
  | offer op =>
    simp only [runOffer, alike.aliases, alike.offers]
    split
    · exact ⟨rfl, ⟨rfl, alike.certs, rfl, alike.escrows, alike.tokens⟩⟩
    · exact ⟨rfl, alike⟩
  | cert op =>
    simp only [runCert, alike.aliases, alike.certs]
    split
    · exact ⟨rfl, ⟨rfl, rfl, alike.offers, alike.escrows, alike.tokens⟩⟩
    · exact ⟨rfl, alike⟩
  | escrow op =>
    simp only [runEscrow, alike.aliases, alike.offers, alike.escrows]
    split
    · exact ⟨rfl, ⟨rfl, alike.certs, rfl, rfl, alike.tokens⟩⟩
    · exact ⟨rfl, alike⟩

theorem serviceTx_alike {s t : ServiceState}
    (reads : TxAgrees ctx c.first c.second s.tokens.assets tx)
    (reverts : ∀ tuple ∈ txReverts ctx tx, tuple ∈ c.reverts) (alike : ServicesAlike c s t) :
    StepsAlike c (serviceTx ctx tx s) (serviceTx ctx tx t) := by
  rw [serviceTx, serviceTx]
  split
  · rename_i version
    obtain ⟨same, checked⟩ := @checkAlias_alike ctx c tx s t alike
    simp only [same]
    split
    · refine runService_alike version ?_ reverts checked
      rwa [checkAlias_tokens]
    · exact ⟨rfl, checked⟩
  · exact ⟨rfl, alike⟩

structure SameConfirmed (first second : ServiceState) : Prop where
  aliases : first.aliases = second.aliases
  certs : first.certs = second.certs
  offers : first.offers = second.offers
  escrows : first.escrows = second.escrows
  assets : first.tokens.assets = second.tokens.assets
  lastAllocations : first.tokens.lastAllocations = second.tokens.lastAllocations

end

def sampleSharedPayload (receiver : Bytes) (amount : CAmount) : CAssetAllocation :=
  { CAssetAllocation.null with
    vchAsset := sampleOwnedName
    vchAliasOrAddress := [0x61]
    listSendingAllocationAmounts := [(receiver, amount)] }

def sampleSharedEnv : ServiceEnv :=
  sampleServiceEnv fun
    | 0 => some (.alias (sampleAliasRecord [0x61]))
    | 1 => some (.asset (sampleOwned [0x61]))
    | 2 => some (.allocation (sampleSharedPayload [0x61] 3))
    | 3 => some (.allocation (sampleSharedPayload [0x62] 2))
    | _ => none

def samplePending (state : ServiceState) (keyed : Keyed state.tokens) : Unconfirmed :=
  let paid : CAssetAllocation :=
    { CAssetAllocation.null with
      vchAsset := sampleOwnedName, vchAliasOrAddress := [0x62], nBalance := 7 }
  { certs := state.certs.certs
    certTimes := state.certs.arrivalTimes
    offers := state.offers.offers
    offerTimes := state.offers.arrivalTimes
    allocations := state.tokens.allocations.insert paid.tuple paid
    allocationTimes := state.tokens.arrivalTimes
    assetAllocationConflicts := state.tokens.assetAllocationConflicts
    keyed := keyed_insert keyed.allocations }

def sampleUnconfirmed (actions : List NodeAction) : ServiceNode :=
  let node := sampleNode sampleSharedEnv actions
  node.step sampleSharedEnv
    (.mempool (samplePending node.services (@reached_keyed sampleSharedEnv _ ⟨0, actions, rfl⟩)))

def sampleShared : List NodeAction :=
  [sampleAliases 100 [[0x61]], sampleSigned 200 [0x61] .asset 1 1]

def sampleSharedPaid : List NodeAction := sampleShared ++ [sampleSigned 300 [0x61] .asset 4 2]

def sampleSharedBalance (node : ServiceNode) (block : ServiceBlock) : Int :=
  balanceAt (connectServices (node.context sampleSharedEnv block) block.vtx
    node.services).tokens.lastAllocations ⟨sampleOwnedName, [0x62]⟩

theorem sampleUnconfirmed_same {actions : List NodeAction} :
    SameConfirmed (sampleNode sampleSharedEnv actions).services
      (sampleUnconfirmed actions).services :=
  ⟨rfl, rfl, rfl, rfl, rfl, rfl⟩

theorem sampleUnconfirmed_keyed {actions : List NodeAction} :
    Keyed (sampleUnconfirmed actions).services.tokens := by
  have keyed := @reached_keyed sampleSharedEnv _ ⟨0, actions, rfl⟩
  exact { keyed with allocations := keyed_insert keyed.allocations }

end Minerium
