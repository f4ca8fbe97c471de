import Minerium.Allocation

/-! An asset or allocation transaction writes records of the asset it names and of no other. -/

namespace Minerium

open FinmapTotal Procedure List

open Procedure (Frame Keeps)

variable {amounts : List (Bytes × CAmount)} {inputs : List (Bytes × List CRange)}
  {sender allocation allocation' payload : CAssetAllocation} {vchAsset vchAlias : Bytes}
  {asset asset' theAsset : CAsset} {env : AssetEnv} {tx : CTransaction} {op : Nat}
  {found : Option CAssetAllocation}

section

variable (payload)

def IsReceiver (holder : Bytes) : Prop :=
  holder ∈ payload.listSendingAllocationAmounts.map (·.1) ∨
    holder ∈ payload.listSendingAllocationInputs.map (·.1)

structure Sends (sender : Bytes) (tuple : CAssetAllocationTuple) :
    Prop where
  asset : tuple.vchAsset = payload.vchAsset
  holder : tuple.vchAliasOrAddress = sender ∨ IsReceiver payload tuple.vchAliasOrAddress

end

section

variable (vchAsset) (writable : CAssetAllocationTuple → Prop) (F : Frame AssetState)

def OfAsset (tuple : CAssetAllocationTuple) : Prop := tuple.vchAsset = vchAsset

/-- A frame that the writes of an allocation transaction to `writable` records keep. -/
structure KeptByWrites : Prop where
  keyed : ∀ state, F.good state → Keyed state
  write : ∀ allocation : CAssetAllocation, writable allocation.tuple →
    Keeps F (writeAssetAllocation allocation) fun _ => True
  arrival : ∀ tuple txid, writable tuple → Keeps F (eraseISArrivalTime tuple txid) fun _ => True
  mark : ∀ tuple, writable tuple → Keeps F (markReverted tuple) fun _ => True

structure KeptByAssetWrites : Prop extends KeptByWrites writable F where
  writeAsset : ∀ asset : CAsset, asset.vchAsset = vchAsset →
    Keeps F (writeAsset asset) fun _ => True

end

section

variable {writable : CAssetAllocationTuple → Prop} {F : Frame AssetState}
  (kept : KeptByWrites writable F) {tuple : CAssetAllocationTuple}
include kept

theorem keeps_readAssetAllocation (tuple : CAssetAllocationTuple) :
    Keeps F (readAssetAllocation tuple) fun found =>
      ∀ allocation, found = some allocation → allocation.tuple = tuple :=
  Keeps.read fun state good allocation found =>
    (kept.keyed state good).allocations tuple allocation found

theorem keeps_readLastAssetAllocation : Keeps F (readLastAssetAllocation tuple) fun found =>
      ∀ allocation, found = some allocation → allocation.tuple = tuple :=
  Keeps.read fun state good allocation found =>
    (kept.keyed state good).lastAllocations tuple allocation found

theorem keeps_readAsset (name : Bytes) :
    Keeps F (readAsset name) fun found => ∀ asset, found = some asset → asset.vchAsset = name :=
  Keeps.read fun state good asset found => (kept.keyed state good).assets name asset found

theorem keeps_requireFoundAsset {name : Bytes} :
    Keeps F (requireFoundAsset name) fun asset => asset.vchAsset = name := by
  refine .bind (keeps_readAsset kept name) fun found stored => ?_
  exact (Keeps.orStop _ _).mono fun asset => stored asset

omit kept in
theorem foundOrNew_tuple (tuple : CAssetAllocationTuple) (asset : CAsset) (nHeight : Nat)
    (stored : ∀ allocation, found = some allocation → allocation.tuple = tuple) :
    (found.getD (newAllocation tuple asset nHeight)).tuple = tuple := by
  cases found with
  | none => rfl
  | some allocation => exact stored allocation rfl

theorem keeps_revertAssetAllocation (named : writable tuple)
    (asset : CAsset) (txHash : Uint256) (nHeight : Nat) :
    Keeps F (revertAssetAllocation tuple asset txHash nHeight) fun _ => True := by
  refine .bind (kept.arrival tuple txHash named) fun _ _ => ?_
  refine .bind (.readAny) fun reverted _ => ?_
  refine .ite (fun _ => .pure trivial) fun _ => ?_
  refine .bind (keeps_readLastAssetAllocation kept) fun last stored => ?_
  refine .bind (kept.write _ ?_) fun _ _ => kept.mark tuple named
  rw [foundOrNew_tuple tuple asset nHeight stored]
  exact named

variable {dbAsset : CAsset} {txHash : Uint256} {nHeight : Nat}

theorem keeps_revertReceivers {δ : Type} {accepted : δ → Bool} {stop : ServiceStop}
    {units : δ → CAmount} (nTotal : CAmount) {items : List (Bytes × δ)}
    (named : ∀ receiver ∈ items.map (·.1), writable ⟨vchAsset, receiver⟩) :
    Keeps F (revertReceivers .block accepted stop units dbAsset txHash nHeight vchAsset nTotal
      items) fun _ => True := by
  induction items generalizing nTotal with
  | nil => exact .pure trivial
  | cons entry rest ih =>
    obtain ⟨first, others⟩ := forall_mem_cons.mp named
    exact .bind (keeps_revertAssetAllocation kept first dbAsset txHash nHeight) fun _ _ =>
      .requires (ih _ others)

theorem keeps_credit (named : writable tuple)
    {credited : Option CAssetAllocation → CAssetAllocation}
    (same : ∀ found, (∀ allocation, found = some allocation → allocation.tuple = tuple) →
      (credited found).tuple = tuple)
    {α : Type} {next : AssetProcedure α} {result : α → Prop} (rest : Keeps F next result) :
    Keeps F (readAssetAllocation tuple >>= fun found =>
      writeAssetAllocation (credited found) >>= fun _ => next) result := by
  refine .bind (keeps_readAssetAllocation kept tuple) fun found stored => ?_
  refine .bind (kept.write _ ?_) fun _ _ => rest
  rw [same found stored]
  exact named

theorem keeps_creditAmounts
    {bBalanceOverrun : Bool} {owner : CAssetAllocationTuple} (owned : sender.tuple = owner)
    (named : ∀ receiver ∈ amounts.map (·.1), writable ⟨owner.vchAsset, receiver⟩) :
    Keeps F (creditAmounts .block env dbAsset txHash nHeight bBalanceOverrun false sender amounts)
      fun sender' => sender'.tuple = owner := by
  induction amounts generalizing sender with
  | nil => exact .pure owned
  | cons entry rest ih =>
    subst owned
    obtain ⟨first, others⟩ := forall_mem_cons.mp named
    simp only [creditAmounts, addConflictIf_false, pure_bind, writeReceiverIn]
    refine .requires (keeps_credit kept first (fun found stored => ?_) (ih ?_ others))
    · have receiver := foundOrNew_tuple _ dbAsset nHeight stored
      split
      · exact receiver
      · exact (accumulateIf_tuple ..).trans receiver
    · split
      · rfl
      · exact accumulateIf_tuple ..

section

variable (dbAsset txHash nHeight) (bBalanceOverrun : Bool)

theorem keeps_creditRanges {send : RangeSend} {owner : CAssetAllocationTuple}
    (owned : send.theAssetAllocation.tuple = owner) {inputs : List (Bytes × List CRange)}
    (named : ∀ receiver ∈ inputs.map (·.1), writable ⟨owner.vchAsset, receiver⟩) :
    Keeps F (creditRanges .block dbAsset txHash nHeight bBalanceOverrun false send inputs)
      fun send' => send'.theAssetAllocation.tuple = owner := by
  induction inputs generalizing send with
  | nil => exact .pure owned
  | cons entry rest ih =>
    subst owned
    obtain ⟨first, others⟩ := forall_mem_cons.mp named
    simp only [creditRanges, addConflictIf_false, pure_bind, writeReceiverIn]
    refine .requires <| .requires <| keeps_credit kept first (fun found stored => ?_) (ih ?_ others)
    · have receiver := foundOrNew_tuple _ dbAsset nHeight stored
      split
      · exact receiver
      · exact receiver
    · split
      · rfl
      · rfl

theorem keeps_writeSender (named : writable sender.tuple) :
    Keeps F (writeSender txHash nHeight bBalanceOverrun sender) fun _ => True := by
  refine kept.write _ ?_
  rw [stamped_tuple]
  exact named

end

theorem keeps_sendAllocations {dbAssetAllocation : CAssetAllocation}
    (named : ∀ tuple, Sends sender sender.vchAliasOrAddress tuple → writable tuple) :
    Keeps F (sendAllocations .block env dbAsset dbAssetAllocation txHash nHeight sender)
      fun _ => True := by
  have own : writable sender.tuple := named _ ⟨rfl, .inl rfl⟩
  refine .ite (fun _ => ?_) fun _ => .ite (fun _ => ?_) fun _ =>
    keeps_writeSender kept txHash nHeight false own
  · have receivers : ∀ receiver ∈ sender.listSendingAllocationAmounts.map (·.1),
        writable ⟨sender.vchAsset, receiver⟩ :=
      fun receiver member => named _ ⟨rfl, .inr (.inl member)⟩
    simp only [sendAmounts, senderConflicts_block, pure_bind]
    refine .requires ?_
    refine .bind (keeps_revertReceivers kept _ receivers) fun _ _ => ?_
    refine .bind (keeps_creditAmounts kept rfl receivers) fun sender' owned => ?_
    exact keeps_writeSender kept txHash nHeight _ (owned ▸ own)
  · have receivers : ∀ receiver ∈ sender.listSendingAllocationInputs.map (·.1),
        writable ⟨sender.vchAsset, receiver⟩ :=
      fun receiver member => named _ ⟨rfl, .inr (.inr member)⟩
    simp only [sendRanges, senderConflicts_block, pure_bind]
    refine .requires ?_
    refine .bind (keeps_revertReceivers kept _ receivers) fun _ _ => ?_
    refine .bind (@keeps_creditRanges writable F kept dbAsset txHash nHeight _
      ⟨sender, dbAssetAllocation.listAllocationInputs, []⟩ _ rfl _ receivers)
      fun send owned => ?_
    refine keeps_writeSender kept txHash nHeight _ ?_
    change writable send.theAssetAllocation.tuple
    rw [owned]
    exact own

theorem keeps_allocationSend (env : AssetEnv) (inputs : UtxoMap) (tx : CTransaction)
    (vchAlias : Bytes) (nHeight : Nat) {payload : CAssetAllocation} {vchThisAlias : Bytes}
    (named : ∀ tuple, Sends payload vchThisAlias tuple → writable tuple) :
    Keeps F (allocationSend .block env inputs tx vchAlias nHeight payload vchThisAlias)
      fun _ => True := by
  simp only [allocationSend, rereadIn, bind_assoc]
  refine .requires ?_
  refine .bind (.readAny) fun _ _ => ?_
  refine .bind (.orStop _ _) fun _ _ => ?_
  refine .bind (.ite (fun _ => .requireAny) fun _ => .requireAny) fun _ _ => ?_
  refine .bind (.readAny) fun _ _ => ?_
  refine .bind (.orStop _ _) fun dbAsset _ => ?_
  refine .bind (keeps_revertAssetAllocation kept (named _ ⟨rfl, .inl rfl⟩) dbAsset _ nHeight)
    fun _ _ => ?_
  refine .bind (.readAny) fun _ _ => ?_
  refine .bind (.orStop _ _) fun db _ => ?_
  exact keeps_sendAllocations kept fun tuple sends => named tuple ⟨sends.asset, sends.holder⟩

end

/-- Everything outside one asset is as before. -/
structure Confined (vchAsset : Bytes) (before after : AssetState) : Prop where
  assets : ∀ other, other ≠ vchAsset → after.assets.lookup other = before.assets.lookup other
  records : ∀ tuple, tuple.vchAsset ≠ vchAsset →
    after.lastAllocations.lookup tuple = before.lastAllocations.lookup tuple
  sum : ∀ other, other ≠ vchAsset →
    allocationSum other after.lastAllocations = allocationSum other before.lastAllocations
  synced : ∀ tuple, Synced before tuple → Synced after tuple

def confined (vchAsset : Bytes) : Frame AssetState where
  good := Keyed
  rel := Confined vchAsset
  refl _ := ⟨fun _ _ => rfl, fun _ _ => rfl, fun _ _ => rfl, fun _ => id⟩
  trans one two :=
    ⟨fun other different => (two.assets other different).trans (one.assets other different),
      fun tuple different => (two.records tuple different).trans (one.records tuple different),
      fun other different => (two.sum other different).trans (one.sum other different),
      fun tuple => two.synced tuple ∘ one.synced tuple⟩

theorem confined_afterWrite (owned : allocation.vchAsset = vchAsset) {state : AssetState} :
    Confined vchAsset state (afterWrite allocation state) := by
  refine ⟨fun _ _ => rfl, ?_, ?_, fun tuple synced => synced.afterWrite allocation⟩
  · intro tuple different
    rw [afterWrite, lookup_insert_eq, if_neg]
    rintro rfl
    exact different owned
  · intro other different
    rw [afterWrite, allocationSum_insert, if_neg]
    · omega
    · rintro rfl
      exact different owned

def sameAssets : Frame AssetState where
  good := Keyed
  rel before after := after.assets = before.assets
  refl _ := rfl
  trans one two := two.trans one

theorem sameAssets_kept (writable : CAssetAllocationTuple → Prop) :
    KeptByWrites writable sameAssets := by
  refine ⟨fun _ => id, ?_, ?_, ?_⟩
  · intro allocation _
    exact .modify fun state keyed => ⟨keyed.afterWrite allocation, rfl⟩
  · intro tuple txid _
    exact .modify fun state keyed => ⟨{ keyed with }, rfl⟩
  · intro tuple _
    exact .modify fun state keyed =>
      ⟨{ keyed with reverted := (SortedVector.insert_keys keyed.reverted).1 }, rfl⟩

theorem confined_kept : KeptByWrites (OfAsset vchAsset) (confined vchAsset) := by
  refine ⟨fun _ => id, ?_, ?_, ?_⟩
  · intro allocation owned
    exact .modify fun state keyed => ⟨keyed.afterWrite allocation, confined_afterWrite owned⟩
  · intro tuple txid _
    exact .modify fun state keyed =>
      ⟨{ keyed with }, fun _ _ => rfl, fun _ _ => rfl, fun _ _ => rfl, fun _ => id⟩
  · intro tuple _
    exact .modify fun state keyed =>
      ⟨{ keyed with reverted := (SortedVector.insert_keys keyed.reverted).1 },
        fun _ _ => rfl, fun _ _ => rfl, fun _ _ => rfl, fun _ => id⟩

theorem confined_writeAsset (named : asset.vchAsset = vchAsset) :
    Keeps (confined vchAsset) (writeAsset asset) fun _ => True := by
  refine .modify fun state keyed =>
    ⟨keyed.afterWriteAsset asset, ?_, fun _ _ => rfl, fun _ _ => rfl, fun _ => id⟩
  intro other different
  rw [lookup_insert_eq, if_neg]
  rw [named]
  exact different

structure InterestPaid (env : AssetEnv) (asset : CAsset) (allocation : CAssetAllocation)
    (nHeight : Nat) (asset' : CAsset) (allocation' : CAssetAllocation)
    (nMaxSupply nInterest : CAmount) : Prop where
  maxSupply : ((valueFromAssetAmount asset.nMaxSupply asset.nPrecision.toNat
    asset.bUseInputRanges).bind fun value =>
      assetAmountFromValue value asset.nPrecision.toNat asset.bUseInputRanges) = some nMaxSupply
  computed : 0 < (getAssetAllocationInterest env allocation nHeight).2
  capped : nInterest =
    if nMaxSupply < (getAssetAllocationInterest env allocation nHeight).2 + asset.nTotalSupply
    then nMaxSupply - asset.nTotalSupply
    else (getAssetAllocationInterest env allocation nHeight).2
  positive : 0 < nInterest
  supply : asset' = { asset with nTotalSupply := asset.nTotalSupply + nInterest }
  named : allocation'.tuple = allocation.tuple
  balance : allocation'.nBalance = allocation.nBalance + nInterest
  ranges : allocation'.listAllocationInputs = allocation.listAllocationInputs

variable {nHeight : Nat}

theorem InterestPaid.assetNamed {nMaxSupply nInterest : CAmount}
    (paid : InterestPaid env asset allocation nHeight asset' allocation' nMaxSupply nInterest) :
    asset'.vchAsset = asset.vchAsset := by
  rw [paid.supply]

theorem getInterest_fields (env : AssetEnv) (allocation : CAssetAllocation) (nHeight : Nat) :
    (getAssetAllocationInterest env allocation nHeight).1 =
      accumulateIf env true nHeight allocation := by
  rw [accumulateIf, if_pos rfl, getAssetAllocationInterest]
  generalize accumulateInterestSinceLastClaim env allocation nHeight = accumulated
  obtain ⟨record, changed⟩ := accumulated
  cases changed with
  | false => rfl
  | true => simp only [apply_ite Prod.fst, ite_self]

theorem applyInterest_spec (applied : applyAssetAllocationInterest env asset allocation nHeight =
      some (.ok (asset', allocation'))) :
    ∃ nMaxSupply nInterest, InterestPaid env asset allocation nHeight asset' allocation'
      nMaxSupply nInterest := by
  have record := getInterest_fields env allocation nHeight
  rw [applyAssetAllocationInterest] at applied
  generalize computed : getAssetAllocationInterest env allocation nHeight = interest at applied
  obtain ⟨accumulated, raw⟩ := interest
  rw [computed] at record
  simp only at applied record
  split at applied
  · cases applied
  · rename_i positive
    simp only [Option.bind_eq_bind, Option.bind_eq_some_iff] at applied
    obtain ⟨value, text, nMaxSupply, parsed, applied⟩ := applied
    generalize capped : (if nMaxSupply < raw + asset.nTotalSupply
      then nMaxSupply - asset.nTotalSupply else raw) = nInterest at applied
    split at applied
    · cases applied
    · rename_i capPositive
      cases applied
      subst record
      refine ⟨nMaxSupply, nInterest, ?_, ?_, ?_, ?_, rfl, ?_, ?_, ?_⟩
      · rw [text]
        exact parsed
      · rw [computed]
        exact Int64.not_le.mp positive
      · rw [computed, capped]
      · exact Int64.not_le.mp capPositive
      · exact accumulateIf_tuple ..
      · exact congrArg (· + nInterest) (accumulateIf_nBalance ..)
      · exact accumulateIf_listAllocationInputs ..

theorem liftInterest_eq_ok {outcome : Option (Except String (CAsset × CAssetAllocation))}
    {result : CAsset × CAssetAllocation} (lifted : liftInterest outcome = .ok result) :
    outcome = some (.ok result) := by
  rcases outcome with _ | outcome
  · cases lifted
  · cases outcome with
    | error text => cases lifted
    | ok value =>
      cases lifted
      rfl

theorem confined_keptAsset : KeptByAssetWrites vchAsset (OfAsset vchAsset) (confined vchAsset) :=
  ⟨confined_kept, fun _ => confined_writeAsset⟩

section

variable {writable : CAssetAllocationTuple → Prop} {F : Frame AssetState}

theorem keeps_collectInterest {tuple : CAssetAllocationTuple}
    (keptAsset : KeptByAssetWrites tuple.vchAsset writable F) (env : AssetEnv) (txHash : Uint256)
    (nHeight : Nat) (named : writable tuple) :
    Keeps F (collectInterest env txHash nHeight tuple) fun _ => True := by
  have kept := keptAsset.toKeptByWrites
  simp only [collectInterest, checkInterest, bind_assoc, pure_bind]
  refine .bind (keeps_readAssetAllocation kept tuple) fun found stored => ?_
  refine .bind (.orStop _ _) fun db here => ?_
  refine .bind (keeps_readAsset kept db.vchAsset) fun asset storedAsset => ?_
  refine .bind (.orStop _ _) fun dbAsset hereAsset => ?_
  have namedAsset := (storedAsset dbAsset hereAsset).trans
    (congrArg CAssetAllocationTuple.vchAsset (stored db here))
  refine .requires ?_
  refine .bind (keeps_revertAssetAllocation kept named dbAsset txHash nHeight) fun _ _ => ?_
  refine .bind (keeps_readAssetAllocation kept tuple) fun found storedAgain => ?_
  refine .bind (.orStop _ _) fun db hereAgain => ?_
  refine .bind (.liftExcept _) fun result applied => ?_
  obtain ⟨asset', allocation'⟩ := result
  obtain ⟨nMaxSupply, nInterest, paid⟩ := applyInterest_spec (liftInterest_eq_ok applied)
  refine .bind (keptAsset.writeAsset _ ?_) fun _ _ => keeps_writeSender kept txHash nHeight _ ?_
  · exact paid.assetNamed.trans namedAsset
  · rw [paid.named, storedAgain db hereAgain]
    exact named

theorem keeps_runAllocationOp (keptAsset : KeptByAssetWrites payload.vchAsset writable F)
    {inputs : UtxoMap}
    (named : ∀ tuple, Sends payload (if vchAlias.isEmpty then payload.vchAliasOrAddress else
      vchAlias) tuple → writable tuple) (own : writable payload.tuple) :
    Keeps F (runAllocationOp .block env inputs tx op vchAlias nHeight payload) fun _ => True := by
  have kept := keptAsset.toKeptByWrites
  refine .ite (fun _ => ?_) fun _ => .ite (fun _ => ?_) fun _ => ?_
  · exact @keeps_collectInterest writable F
      ⟨payload.vchAsset, if vchAlias.isEmpty then payload.vchAliasOrAddress else vchAlias⟩
      keptAsset env _ nHeight (named _ ⟨rfl, .inl rfl⟩)
  · exact keeps_allocationSend kept env inputs tx vchAlias nHeight named
  · exact keeps_writeSender kept _ nHeight false own

theorem keeps_runAssetOp (keptAsset : KeptByAssetWrites theAsset.vchAsset writable F)
    {inputs : UtxoMap} :
    Keeps F (runAssetOp env inputs tx op vchAlias nHeight theAsset) fun _ => True := by
  have kept := keptAsset.toKeptByWrites
  refine .ite (fun _ => ?_) fun _ => .ite (fun _ => ?_) fun _ => ?_
  · refine .bind (.readAny) fun _ _ => ?_
    refine .bind (.ite (fun _ => .requireAny) fun _ => .requireAny) fun _ _ => ?_
    exact .requires <| keptAsset.writeAsset _ (by rfl)
  · refine .bind (keeps_requireFoundAsset kept) fun dbAsset _ => ?_
    refine .bind (.ite (fun _ => .requireAny) fun _ => .requireAny) fun _ _ => ?_
    refine .bind (.ite (fun _ => .requires <| .requires .requireAny) fun _ => .pure trivial)
      fun _ _ => ?_
    refine .bind (.orStop _ _) fun _ _ => ?_
    refine .requires ?_
    refine .requires ?_
    exact .requires <| keptAsset.writeAsset _ (by rfl)
  · exact .bind (keeps_requireFoundAsset kept) fun dbAsset _ => keptAsset.writeAsset _ (by rfl)

theorem receiverOrNew_tuple (tuple : CAssetAllocationTuple) (asset : CAsset) (nHeight : Nat)
    (stored : ∀ allocation, found = some allocation → allocation.tuple = tuple) :
    (receiverOrNew tuple asset nHeight found).tuple = tuple := by
  simp only [receiverOrNew]
  split
  · rfl
  · rename_i present
    cases found with
    | none => exact absurd rfl present
    | some allocation => exact stored allocation rfl

variable {txHash : Uint256}

theorem keeps_assetCreditAmounts (kept : KeptByWrites writable F)
    {vchMemo : Bytes} (theAsset : CAsset)
    (named : ∀ receiver ∈ amounts.map (·.1), writable ⟨vchAsset, receiver⟩) :
    Keeps F (assetCreditAmounts env txHash nHeight vchAsset vchMemo theAsset amounts)
      fun theAsset' => theAsset' = { theAsset with nBalance := theAsset'.nBalance } := by
  induction amounts generalizing theAsset with
  | nil => exact .pure rfl
  | cons entry rest ih =>
    obtain ⟨first, others⟩ := forall_mem_cons.mp named
    refine keeps_credit kept first (fun found stored => ?_) ?_
    · exact (accumulateIf_tuple ..).trans (receiverOrNew_tuple _ theAsset nHeight stored)
    · exact ih _ others

theorem keeps_assetCreditRanges (kept : KeptByWrites writable F)
    {vchMemo : Bytes} (dbInputs : List CRange) (theAsset : CAsset)
    (named : ∀ receiver ∈ inputs.map (·.1), writable ⟨vchAsset, receiver⟩) :
    Keeps F (assetCreditRanges txHash nHeight vchAsset vchMemo dbInputs theAsset inputs)
      fun theAsset' => theAsset' = { theAsset with
        nBalance := theAsset'.nBalance
        listAllocationInputs := theAsset'.listAllocationInputs } := by
  induction inputs generalizing dbInputs theAsset with
  | nil => exact .pure rfl
  | cons entry rest ih =>
    obtain ⟨first, others⟩ := forall_mem_cons.mp named
    refine .requires <| keeps_credit kept first (fun found stored => ?_) ?_
    · exact foundOrNew_tuple _ theAsset nHeight stored
    · exact ih _ _ others

theorem keeps_assetSendTo (kept : KeptByWrites writable F)
    (named : ∀ receiver, IsReceiver payload receiver → writable ⟨payload.vchAsset, receiver⟩)
    {dbAsset : CAsset} : Keeps F (assetSendTo env txHash nHeight payload dbAsset) fun theAsset =>
      theAsset = { dbAsset with
        nBalance := theAsset.nBalance
        listAllocationInputs := theAsset.listAllocationInputs } := by
  refine .ite (fun _ => ?_) fun _ => .ite (fun _ => ?_) fun _ => .pure rfl
  · simp only [assetSendAmounts, sumAmounts, sumItems_eq, bind_assoc, pure_bind]
    refine .requires <| .requires <| .requires ?_
    refine (keeps_assetCreditAmounts kept _ fun receiver member =>
      named receiver (.inl member)).mono fun theAsset fields => ?_
    rw [fields]
  · simp only [assetSendRanges, sumRanges, sumItems_eq, bind_assoc, pure_bind]
    refine .requires <| .requires <| .requires ?_
    exact keeps_assetCreditRanges kept _ _ fun receiver member => named receiver (.inr member)

theorem keeps_assetSend (keptAsset : KeptByAssetWrites payload.vchAsset writable F)
    {inputs : UtxoMap}
    (named : ∀ receiver, IsReceiver payload receiver → writable ⟨payload.vchAsset, receiver⟩) :
    Keeps F (assetSend env inputs tx vchAlias nHeight payload) fun _ => True := by
  have kept := keptAsset.toKeptByWrites
  refine .bind (keeps_requireFoundAsset kept) fun dbAsset stored => ?_
  refine .requires ?_
  refine .bind (.ite (fun _ => .requireAny) fun _ => .requireAny) fun _ _ => ?_
  refine .bind (keeps_assetSendTo kept named) fun theAsset fields => ?_
  refine keptAsset.writeAsset _ ?_
  rw [fields]
  exact stored

end

end Minerium
