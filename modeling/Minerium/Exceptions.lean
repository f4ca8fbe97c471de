import Minerium.ServiceStops

/-! Which calls of `CheckMineriumInputs` end with a verdict, in the mempool and on a block. -/

namespace Minerium

open Verdict

inductive ServiceCheck where
  | mempool (ctx : MempoolContext) (tx : CTransaction)
  | block (ctx : BlockContext) (fLoaded fJustCheck flushed : Bool) (vtx : List CTransaction)

def ServiceCheck.verdict (check : ServiceCheck) (state : ServiceState) : Verdict :=
  match check with
  | .mempool ctx tx => (mempoolVerdict ctx tx state).1
  | .block ctx fLoaded fJustCheck flushed vtx =>
    (blockVerdict ctx fLoaded fJustCheck flushed vtx state).1

def Verdict.isReturned : Verdict → Bool
  | .accepted => true
  | .rejected _ => true
  | .exception _ => false

section

variable (ctx : BlockContext) (tx : CTransaction)

variable (op : Nat) (passes : COffer → Prop) (state : ServiceState)

/-- A linked offer that is activated keeps to the terms of its parent. -/
def QuietOffer : Prop :=
  op ≠ OP_OFFER_UPDATE →
    ∀ payload, ctx.env.offerEnv.unserializeOffer tx = some payload → passes payload →
    ∀ linkOffer owner, Resale state.offers state.aliases ctx.chain (signingAlias ctx.inputs tx)
        payload linkOffer owner →
      ResaleAllowed (signingAlias ctx.inputs tx) payload linkOffer owner

def QuietUpdate : Prop :=
  tx.isCoinBase = false → op = OP_ASSET_UPDATE →
    ∀ payload, ctx.env.assetEnv.unserializeAsset tx = some payload →
    ∀ dbAsset, UpdateJudged ctx.env.assetEnv ctx.inputs tx (signingAlias ctx.inputs tx)
        state.tokens payload dbAsset → HasPrecision dbAsset

def QuietCollection : Prop :=
  tx.isCoinBase = false → op = OP_ASSET_COLLECT_INTEREST →
    ∀ payload, ctx.env.assetEnv.unserializeAllocation tx = some payload →
    ∀ db dbAsset record, InterestJudged ctx.env.assetEnv (ctx.env.txHash tx) ctx.nHeight
        ⟨payload.vchAsset, if (signingAlias ctx.inputs tx).isEmpty then payload.vchAliasOrAddress
          else signingAlias ctx.inputs tx⟩ state.tokens db dbAsset record →
      SupplyReadable dbAsset

def QuietService : Prop :=
  match serviceCall tx with
  | .allocation op => QuietCollection ctx tx op state
  | .offer op =>
    (aliasInput ctx.inputs tx).isSome = true →
      QuietOffer ctx tx op (fun _ => tx.isCoinBase = false) state
  | .asset op => QuietUpdate ctx tx op state
  | _ => True

def QuietTx : Prop :=
  tx.nVersion = MINERIUM_TX_VERSION → (checkAlias ctx tx state).1 = true →
    QuietService ctx tx (checkAlias ctx tx state).2

def QuietActivation (ctx : MempoolContext) (tx : CTransaction) (op : Nat) : Prop :=
  op = OP_ASSET_ACTIVATE → ∀ payload, ctx.env.assetEnv.unserializeAsset tx = some payload →
      activationPasses ctx tx (argsOf (decodeAssetTx tx)) payload → HasPrecision payload

def QuietUnconfirmed (ctx : MempoolContext) (tx : CTransaction) (state : ServiceState) : Prop :=
  match serviceCall tx with
  | .offer op =>
    (aliasInput ctx.inputs tx).isSome = true →
      QuietOffer ctx.toBlockContext tx op (offerPasses ctx tx op (argsOf (decodeOfferTx tx))) state
  | .asset op => QuietActivation ctx tx op
  | _ => True

def ServiceCheck.Quiet (check : ServiceCheck) (state : ServiceState) : Prop :=
  match check with
  | .mempool ctx tx =>
    ctx.fLoaded = true → ctx.catchingUp = false → tx.nVersion = MINERIUM_TX_VERSION →
      (aliasInput ctx.inputs tx).bind (checkAliasMempool ctx state.aliases tx) = none →
      QuietUnconfirmed ctx tx state
  | .block ctx fLoaded fJustCheck _ vtx =>
    fLoaded = true → fJustCheck = false →
      ∀ visit ∈ serviceVisits ctx vtx state, QuietTx ctx visit.2 visit.1

end

section

variable (ctx : BlockContext) (tx : CTransaction) {state : ServiceState} {vtx : List CTransaction}
  {op : Nat}

theorem aliasThrows_eq_none : aliasThrows ctx tx state = none := by
  rw [aliasThrows]
  cases aliasInput ctx.inputs tx with
  | none => rfl
  | some input =>
    rw [Option.bind_some, thrown_eq_none_iff]
    exact checkAliasInputs_stopsOnly _ _ _ _

theorem offerThrows_eq_none_iff : offerThrows ctx tx op state = none ↔
      QuietOffer ctx tx op (fun _ => tx.isCoinBase = false) state := by
  rw [offerThrows, checkOfferInputs_quiet_iff]
  constructor
  · intro quiet notUpdate payload decoded plain
    exact quiet plain notUpdate payload decoded
  · intro quiet plain notUpdate payload decoded
    exact quiet notUpdate payload decoded plain

theorem checkAssetAllocationInputsIn_block {env : AssetEnv} (inputs : UtxoMap)
    (vvchArgs : List Bytes) (vchHash : Bytes) {vchAlias : Bytes} {nHeight : Nat} :
    checkAssetAllocationInputsIn .block env inputs tx op vvchArgs vchHash vchAlias nHeight =
      checkAssetAllocationInputs env inputs tx op vchAlias nHeight := by
  simp only [checkAssetAllocationInputsIn, checkAssetAllocationInputs, CheckMode.fJustCheck,
    requirePayloadIn, payloadErrorIn, Procedure.pure_bind, Bool.not_false, Bool.and_true,
    Bool.false_eq_true, if_false]

theorem allocationThrows_eq_none_iff :
    allocationThrows ctx tx op state = none ↔ QuietCollection ctx tx op state := by
  rw [allocationThrows, ← checkAssetAllocationInputsIn_block tx ctx.inputs [] [],
    checkAllocationIn_quiet_iff]
  exact ⟨fun quiet => quiet rfl, fun quiet _ => quiet⟩

theorem serviceException_eq_none_iff :
    serviceException ctx tx state = none ↔ QuietService ctx tx state := by
  rw [serviceException, QuietService]
  cases serviceCall tx with
  | allocation op => exact allocationThrows_eq_none_iff ctx tx
  | offer op =>
    cases (aliasInput ctx.inputs tx).isSome with
    | false => simp
    | true => simpa using offerThrows_eq_none_iff ctx tx
  | cert op =>
    have quiet : certThrows ctx tx op state = none :=
      thrown_eq_none_iff.mpr (checkCertInputs_stopsOnly _)
    simp [quiet]
  | escrow op =>
    have quiet : escrowThrows ctx tx op state = none :=
      thrown_eq_none_iff.mpr (checkEscrowInputs_stopsOnly _)
    simp [quiet]
  | asset op => exact checkAssetInputs_quiet_iff _ _
  | none => simp

theorem txException_eq_none_iff : txException ctx tx state = none ↔ QuietTx ctx tx state := by
  rw [txException, QuietTx, aliasThrows_eq_none]
  split
  · rename_i isService
    rw [Option.none_or]
    cases (checkAlias ctx tx state).1 with
    | false => simp
    | true => simpa [isService] using serviceException_eq_none_iff ctx tx
  · rename_i notService
    simp [notService]

theorem blockException_eq_none_iff : blockException ctx vtx state = none ↔
      ∀ visit ∈ serviceVisits ctx vtx state, QuietTx ctx visit.2 visit.1 := by
  rw [blockException, List.findSome?_eq_none_iff]
  simp only [txException_eq_none_iff]

theorem blockVerdict_returned_iff {fLoaded fJustCheck flushed : Bool} :
    (blockVerdict ctx fLoaded fJustCheck flushed vtx state).1.isReturned = true ↔
      (fLoaded = true → fJustCheck = false →
        ∀ visit ∈ serviceVisits ctx vtx state, QuietTx ctx visit.2 visit.1) := by
  rw [← blockException_eq_none_iff, blockVerdict]
  cases fLoaded with
  | false => simp [isReturned]
  | true =>
    cases fJustCheck with
    | true => simp [isReturned]
    | false =>
      cases blockException ctx vtx state with
      | some what => simp [isReturned]
      | none =>
        cases flushed with
        | true => simp [isReturned]
        | false => simp [isReturned]

end

section

theorem ofCheck_returned_iff {α : Type} {outcome : Except CheckStop α} :
    (ofCheck outcome).isReturned = true ↔ thrown outcome = none := by
  cases outcome with
  | ok value => simp [ofCheck, isReturned, thrown]
  | error stop => cases stop <;> simp [ofCheck, isReturned, thrown]

theorem ofToken_returned_iff {α : Type} {outcome : Except ServiceStop α} :
    (ofToken outcome).isReturned = true ↔ thrownToken outcome = none := by
  cases outcome with
  | ok value => simp [ofToken, isReturned, thrownToken]
  | error stop => cases stop <;> simp [ofToken, isReturned, thrownToken]

variable (ctx : MempoolContext) (tx : CTransaction) {state : ServiceState}

theorem serviceVerdict_returned_iff :
    (serviceVerdict ctx tx state).1.isReturned = true ↔ QuietUnconfirmed ctx tx state := by
  rw [serviceVerdict, QuietUnconfirmed]
  cases serviceCall tx with
  | allocation op =>
    have quiet : (allocationVerdict ctx tx op state).1.isReturned = true := by
      rw [allocationVerdict, ofToken_returned_iff, checkAllocationIn_quiet_iff]
      intro isBlock
      cases isBlock
    simp [quiet]
  | offer op =>
    have verdict : (offerVerdict ctx tx op state).1.isReturned = true ↔
        QuietOffer ctx.toBlockContext tx op (offerPasses ctx tx op (argsOf (decodeOfferTx tx)))
          state := by
      rw [offerVerdict, ofCheck_returned_iff, checkOfferMempool_quiet_iff]
      exact Iff.rfl
    cases (aliasInput ctx.inputs tx).isSome with
    | false => simp [isReturned]
    | true => simpa using verdict
  | cert op =>
    have quiet : (certVerdict ctx tx op state).1.isReturned = true := by
      rw [certVerdict, ofCheck_returned_iff, thrown_eq_none_iff]
      exact checkCertMempool_stopsOnly _
    cases (aliasInput ctx.inputs tx).isSome with
    | false => simp [isReturned]
    | true => simp [quiet]
  | escrow op =>
    have quiet : (escrowVerdict ctx tx op state).1.isReturned = true := by
      rw [escrowVerdict, ofCheck_returned_iff, thrown_eq_none_iff]
      exact checkEscrowMempool_stopsOnly _
    cases (aliasInput ctx.inputs tx).isSome with
    | false => simp [isReturned]
    | true => simp [quiet]
  | asset op =>
    change (assetVerdict ctx tx op state).1.isReturned = true ↔ QuietActivation ctx tx op
    rw [assetVerdict, ofToken_returned_iff, checkAssetMempool_quiet_iff]
    exact Iff.rfl
  | none => simp [isReturned]

theorem mempoolVerdict_returned_iff : (mempoolVerdict ctx tx state).1.isReturned = true ↔
      (ctx.fLoaded = true → ctx.catchingUp = false → tx.nVersion = MINERIUM_TX_VERSION →
        (aliasInput ctx.inputs tx).bind (checkAliasMempool ctx state.aliases tx) = none →
        QuietUnconfirmed ctx tx state) := by
  rw [mempoolVerdict]
  split
  · rename_i passed
    simp only [isReturned, true_iff]
    intro loaded ready isService
    simp [loaded, ready, isService] at passed
  · rename_i checked
    simp only [Bool.or_eq_true, Bool.not_eq_true', decide_eq_true_eq, not_or, Bool.not_eq_false,
      Bool.not_eq_true, ne_eq, not_not] at checked
    obtain ⟨⟨loaded, ready⟩, isService⟩ := checked
    simp only [loaded, ready, isService, true_implies]
    cases named : (aliasInput ctx.inputs tx).bind (checkAliasMempool ctx state.aliases tx) with
    | none => simpa using serviceVerdict_returned_iff ctx tx
    | some stop =>
      obtain ⟨input, -, stopped⟩ := Option.bind_eq_some_iff.mp named
      have message := checkAliasMempool_message stopped
      cases stop with
      | refused text => simp [ofCheck, isReturned]
      | failed text => simp [ofCheck, isReturned]
      | exception what => exact message.elim

end

section

def sampleLister : Bytes := [0x61, 0x61, 0x61]
def sampleReseller : Bytes := [0x62, 0x62, 0x62]

def sampleResold : COffer :=
  { COffer.null with
    vchOffer := [0x70], vchAlias := sampleReseller, vchLinkOffer := [0x6f], fPrice := floatOne
    paymentOptions := 1, offerType := 1 }

def sampleResaleEnv : ServiceEnv :=
  sampleServiceEnv fun
    | 0 => some (.alias (sampleAliasRecord sampleLister))
    | 1 => some (.alias (sampleAliasRecord sampleReseller))
    | 2 => some (.offer (sampleOfferOf sampleLister))
    | 3 => some (.offer sampleResold)
    | 4 => some (.asset
        { CAsset.null with
          vchAsset := [0x78], vchSymbol := [0x58], vchAliasOrAddress := sampleReseller
          sCategory := assetCategory, nBalance := 1, nMaxSupply := 1, nPrecision := 9 })
    | _ => none

def sampleResaleNode : ServiceNode :=
  sampleNode sampleResaleEnv
    [sampleAliases 100 [sampleLister, sampleReseller], sampleSigned 200 sampleLister .offer 1 2]

variable (service : Service)

variable (payload : UInt8)

def sampleResellerBlock : ServiceBlock :=
  sampleSignedBlock 300 sampleReseller service 1 payload

def sampleResellerBlockCheck : ServiceCheck :=
  .block (sampleResaleNode.context sampleResaleEnv (sampleResellerBlock service payload)) true
    false true (sampleResellerBlock service payload).vtx

def sampleResellerMempoolCheck : ServiceCheck :=
  .mempool
    { sampleResaleNode.context sampleResaleEnv (sampleResellerBlock service payload) with
      encodeBase58 := fun _ => [0x51], now := 0, fLoaded := true, catchingUp := false }
    (sampleServiceTx 300 0 [sampleScript service 1 [[payload]]] payload)

end

end Minerium
