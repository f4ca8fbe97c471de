import Minerium.AmountText
import Minerium.AssetOps
import Minerium.Lib.Stops
import Minerium.MempoolCheckCore
import Minerium.OfferOwnership

/-! How the checks of the services end. Aliases, certificates and escrows only ever end with a
message. -/

namespace Minerium

open List Option

open Procedure (FailsOnly StopsOnly wp wp_bind wp_liftExcept wp_modify wp_orStop wp_pure wp_read
  wp_require)

variable {theAlias : CAliasIndex} {tx : CTransaction} {op : Nat}
  {vchName vchGUID vchAlias vchHash party signer vchAsset vchMemo : Bytes} {inputs : UtxoMap}
  {vvchArgs : List Bytes} {ctx : MempoolContext} {aliases : AliasState} {theCert : CCert}
  {theEscrow : CEscrow} {offers state : OfferState} {payload : COffer}
  {post : Unit → AssetState → Prop} {tokens : AssetState} {amounts : List (Bytes × CAmount)}
  {stopped : ServiceStop → AssetState → Prop} {stop : CheckStop} {α : Type} {asset : CAsset}

def CheckStop.IsMessage : CheckStop → Prop
  | .refused _ => True
  | .failed _ => True
  | .exception _ => False

def ServiceStop.IsMessage : ServiceStop → Prop
  | .errorMessage _ => True
  | .exception _ => False

abbrev Quiet {σ α : Type} (m : Procedure σ CheckStop α) : Prop := StopsOnly CheckStop.IsMessage m

abbrev QuietToken {σ α : Type} (m : Procedure σ ServiceStop α) : Prop :=
  StopsOnly ServiceStop.IsMessage m

abbrev QuietCheck {α : Type} (x : Except CheckStop α) : Prop := FailsOnly CheckStop.IsMessage x

theorem thrown_eq_none_iff {σ α : Type} {m : Procedure σ CheckStop α} {s : σ} :
    thrown (m s).1 = none ↔
      wp m (fun _ _ => True) (fun stop _ => stop.IsMessage) s := by
  rw [wp]
  generalize m s = outcome
  obtain ⟨result, after⟩ := outcome
  cases result with
  | ok value => simp [thrown]
  | error stop => cases stop <;> simp [thrown, CheckStop.IsMessage]

theorem thrownToken_eq_none_iff {σ α : Type} {m : Procedure σ ServiceStop α} {s : σ} :
    thrownToken (m s).1 = none ↔
      wp m (fun _ _ => True) (fun stop _ => stop.IsMessage) s := by
  rw [wp]
  generalize m s = outcome
  obtain ⟨result, after⟩ := outcome
  cases result with
  | ok value => simp [thrownToken]
  | error stop => cases stop <;> simp [thrownToken, ServiceStop.IsMessage]

theorem forall_message {checks : List (Bool × CheckStop)}
    (all : (checks.all fun check => thrown (.error check.2 : Except _ Unit) == none) = true) :
    ∀ check ∈ checks, check.2.IsMessage := by
  rintro ⟨holds, stop⟩ member
  have quiet := all_eq_true.mp all _ member
  cases stop with
  | refused text => trivial
  | failed text => trivial
  | exception what => cases quiet

theorem forall_messageToken {checks : List (Bool × ServiceStop)}
    (all : (checks.all fun check => thrownToken (.error check.2 : Except _ Unit) == none) = true) :
    ∀ check ∈ checks, check.2.IsMessage := by
  rintro ⟨holds, stop⟩ member
  have quiet := all_eq_true.mp all _ member
  cases stop with
  | errorMessage text => trivial
  | exception what => cases quiet

theorem forall_mem_ite {p : α → Prop} {condition : Prop} [Decidable condition]
    {xs ys : List α} (yes : ∀ x ∈ xs, p x) (no : ∀ x ∈ ys, p x) :
    ∀ x ∈ if condition then xs else ys, p x := by
  split
  · exact yes
  · exact no

section

variable {σ ε : Type} {allowed : ε → Prop}

variable {checks : List (Bool × ε)}

theorem wp_refuseFirst {post : Unit → σ → Prop} {stopped : ε → σ → Prop} {s : σ} :
    wp (refuseFirst checks) post stopped s ↔ (firstRefusal checks = none → post () s) ∧
        (∀ stop, firstRefusal checks = some stop → stopped stop s) := by
  rw [refuseFirst]
  cases firstRefusal checks with
  | none => simp
  | some stop => simp

theorem firstRefusal_mem {stop : ε}
    (refused : firstRefusal checks = some stop) : (true, stop) ∈ checks := by
  obtain ⟨⟨holds, same⟩, found, rfl⟩ := map_eq_some_iff.mp refused
  have decided : holds = true := by simpa using List.find?_some found
  rw [← decided]
  exact mem_of_find?_eq_some found

theorem refuseFirst_stopsOnly (messages : ∀ check ∈ checks, allowed check.2) :
    StopsOnly allowed (refuseFirst checks : Procedure σ ε Unit) := by
  intro s
  rw [wp_refuseFirst]
  exact ⟨fun _ => trivial, fun stop refused => messages _ (firstRefusal_mem refused)⟩

end

section

variable (env : AliasEnv) (chain : ActiveChain) (nHeight : Nat)

theorem payExpiry_failsOnly {output : CTxOut} :
    QuietCheck (payExpiry env chain nHeight output theAlias) := by
  rw [payExpiry]
  extract_lets now nTimeExpiry lasts fYears fee
  exact .ite (.ite (.error trivial) (.ok _)) (.ok _)

theorem storeAlias_stopsOnly : Quiet (storeAlias env tx nHeight theAlias) :=
  .requires trivial <| .modify _

theorem runAliasOp_stopsOnly {found : Option CAliasIndex} :
    Quiet (runAliasOp env chain tx op nHeight vchName vchGUID found theAlias) := by
  rw [runAliasOp]
  refine .ite (.ite (.pure _) ?_) ?_
  · exact .bind (.read _) fun edit => .bind (.modify _) fun _ =>
      .bind (storeAlias_stopsOnly env nHeight) fun _ => .pure _
  · exact .requires trivial <| .bind (.read _) fun _ =>
      .requires trivial <|
        .bind (.ite (.pure _) (storeAlias_stopsOnly env nHeight)) fun _ => .pure _

theorem checkAliasInputs_stopsOnly :
    Quiet (checkAliasInputs env chain inputs tx op vvchArgs nHeight) := by
  unfold checkAliasInputs
  refine .ite (.pure _) ?_
  split
  · exact .requires trivial <| .requires trivial <|
      .bind (.read _) fun found => .requires trivial <|
        .bind (.liftExcept (payExpiry_failsOnly env chain nHeight)) fun theAlias =>
          runAliasOp_stopsOnly env chain nHeight
  · exact .pure _

theorem aliasOpChecks_messages :
    ∀ check ∈ aliasOpChecks ctx aliases tx op vchName vchGUID theAlias, check.2.IsMessage := by
  rw [aliasOpChecks]
  exact forall_mem_ite (forall_message rfl)
    (forall_mem_ite (forall_message rfl) (forall_message rfl))

theorem checkAliasMempool_message {ctx : MempoolContext} {aliases : AliasState}
    {tx : CTransaction} {input : AliasInput}
    (stopped : checkAliasMempool ctx aliases tx input = some stop) : stop.IsMessage := by
  unfold checkAliasMempool at stopped
  split at stopped
  · exact forall_mem_append.mpr ⟨forall_message rfl, aliasOpChecks_messages⟩ _
      (firstRefusal_mem stopped)
  · cases stopped

end

section

variable {write : CCert → CertState → CertState} {env : CertEnv} {chain : ActiveChain}
  {nHeight : Nat}

theorem requireAccess_stopsOnly {dbCert firstCert : CCert} :
    Quiet (requireAccess aliases chain op dbCert firstCert theCert) :=
  .ite (.bind (.orStop trivial _) fun _ => .requires trivial <| .require _ trivial)
    (.ite (.require _ trivial) (.pure _))

theorem certChange_stopsOnly :
    Quiet (certChange write env aliases chain tx op vchAlias nHeight theCert) :=
  .bind (.read _) fun _ => .bind (.orStop trivial _) fun _ =>
    .requires trivial <| .bind (.read _) fun _ =>
      .bind (.orStop trivial _) fun _ =>
        .bind requireAccess_stopsOnly fun _ => .requires trivial <| .modify _

theorem checkCertInputs_stopsOnly :
    Quiet (checkCertInputs env aliases chain tx op vchAlias nHeight) := by
  refine .ite (.pure _) (.bind (.orStop trivial _) fun theCert => .bind (.modify _) fun _ => ?_)
  refine .ite ?_ ?_
  · exact .requires trivial <| .modify _
  · exact certChange_stopsOnly

theorem certChecks_messages :
    ∀ check ∈ certChecks op vvchArgs vchHash theCert, check.2.IsMessage := by
  rw [certChecks]
  refine forall_mem_append.mpr ⟨forall_message rfl, ?_⟩
  iterate 3 refine forall_mem_ite (forall_message rfl) ?_
  exact forall_message rfl

theorem checkCertMempool_stopsOnly :
    Quiet (checkCertMempool ctx aliases tx op vvchArgs vchAlias) := by
  refine .bind (.orStop trivial _) fun theCert =>
    .bind (refuseFirst_stopsOnly certChecks_messages) fun _ => ?_
  refine .ite ?_ certChange_stopsOnly
  exact .requires trivial <| .bind (.read _) fun _ =>
    .requires trivial <| .bind (.read _) fun _ => .modify _

end

section

open Procedure (FailsOnly StopsOnly)

theorem refuseIf_failsOnly {condition : Bool} (message : stop.IsMessage) :
    QuietCheck (refuseIf condition stop) :=
  .ite (.error message) (.ok _)

theorem refuses {condition : Bool} {code : Nat} {text : String}
    {x : Except CheckStop α} (next : QuietCheck x) :
    QuietCheck (refuseIf condition (escrowError code text) >>= fun _ => x) :=
  .bind (refuseIf_failsOnly trivial) fun _ => next

theorem orRefuse_failsOnly {found : Option α}
    (message : stop.IsMessage) : QuietCheck (orRefuse stop found) := by
  cases found with
  | none => exact .error message
  | some value => exact .ok value

theorem checkIfLinked_failsOnly {ctx : EscrowContext} {check : Except CheckStop Unit}
    (fails : QuietCheck check) : QuietCheck (checkIfLinked ctx check) :=
  .ite (.ok _) fails

theorem bidEscrow_failsOnly {ctx : EscrowContext} : QuietCheck (bidEscrow ctx theEscrow) := by
  have linked : QuietCheck (checkLinkedBid ctx) :=
    .bind (orRefuse_failsOnly trivial) fun _ => refuses <|
      refuses <| refuses <| refuseIf_failsOnly trivial
  exact refuses <| refuses <| refuses <| refuses <| refuses <| refuses <| refuses <| refuses <|
          .bind (checkIfLinked_failsOnly linked) fun _ => .ok _

theorem handOver_failsOnly {kind : Handover} {ctx : EscrowContext} :
    QuietCheck (handOver kind party ctx theEscrow) := by
  have linked : QuietCheck (checkLinkedHandover ctx kind) :=
    .bind (orRefuse_failsOnly trivial) fun _ => refuseIf_failsOnly trivial
  exact refuses <| .bind (checkIfLinked_failsOnly linked) fun _ => refuses <|
      refuses <| refuses <| refuses <| .ok _

theorem claimEscrow_failsOnly {before : Nat} {notBefore notSigned : CheckStop} {ctx : EscrowContext}
    (early : notBefore.IsMessage) (unsigned : notSigned.IsMessage) :
    QuietCheck (claimEscrow op before party notBefore notSigned ctx theEscrow) :=
  .bind (refuseIf_failsOnly early) fun _ => .bind (refuseIf_failsOnly unsigned) fun _ => .ok _

theorem feedbackEscrow_failsOnly {ctx : EscrowContext} :
    QuietCheck (feedbackEscrow ctx theEscrow) :=
  refuses <| refuses <| refuses <| refuses <| refuses <| refuses <| refuses <| .ok _

theorem changedEscrow_failsOnly {ctx : EscrowContext} :
    QuietCheck (changedEscrow ctx op theEscrow) := by
  refine .ite bidEscrow_failsOnly (.ite ?_ (.ite ?_ (.ite ?_ (.ite ?_ (.ite ?_
    (.ite ?_ (.ite feedbackEscrow_failsOnly (.ok _))))))))
  · exact refuses <| refuses <| refuses <| .ok _
  · exact refuses <| refuses <| refuses <| .ok _
  · exact handOver_failsOnly
  · exact claimEscrow_failsOnly trivial trivial
  · exact handOver_failsOnly
  · exact claimEscrow_failsOnly trivial trivial

theorem activatedEscrow_failsOnly {ctx : EscrowContext} :
    QuietCheck (activatedEscrow ctx theEscrow) := by
  have linked : ∀ escrow, QuietCheck (checkLinkedPurchase ctx escrow) :=
    fun escrow => .bind (orRefuse_failsOnly trivial) fun _ =>
      refuses <| refuses <| refuseIf_failsOnly trivial
  exact refuses <| refuses <| refuses <| refuses <|
      refuses <| .bind (checkIfLinked_failsOnly (linked _)) fun _ => .ok _

theorem runEscrowOp_stopsOnly {ctx : EscrowContext} {nHeight : Nat} :
    Quiet (runEscrowOp ctx tx op nHeight theEscrow) := by
  refine .ite ?_ ?_
  · refine .bind (.liftExcept activatedEscrow_failsOnly) fun activated =>
      .bind (.ite (.pure _) ?_) fun _ => .bind (.modify _) fun _ => .pure _
    exact .bind (.read _) fun _ => .requires trivial <| .bind (.modify _) fun _ =>
      .require _ trivial
  · exact .bind (.liftExcept changedEscrow_failsOnly) fun _ => .bind (.modify _) fun _ => .pure _

theorem checkEscrowInputs_stopsOnly {env : EscrowEnv} {chain : ActiveChain}
    {vvchAliasArgs : List Bytes} {nHeight : Nat} :
    Quiet (checkEscrowInputs env aliases offers chain tx op vvchAliasArgs nHeight) := by
  have parties : ∀ payload, QuietCheck (requireParties aliases chain op payload) :=
    fun payload => .ite (refuses <| refuses <| refuseIf_failsOnly trivial) (.ok _)
  exact .ite (.pure _) (.bind (.orStop trivial _) fun payload =>
    .bind (.liftExcept (parties payload)) fun _ => .bind (.read _) fun _ =>
      .bind (.read _) fun _ => .requires trivial <|
        .bind (.orStop trivial _) fun _ => runEscrowOp_stopsOnly)

theorem escrowChecks_messages :
    ∀ check ∈ escrowChecks op vvchArgs vchHash theEscrow, check.2.IsMessage := by
  rw [escrowChecks]
  refine forall_mem_append.mpr ⟨forall_message rfl, ?_⟩
  iterate 9 refine forall_mem_ite (forall_message rfl) ?_
  exact forall_message rfl

theorem checkEscrowMempool_stopsOnly : Quiet (checkEscrowMempool ctx tx op vvchArgs) :=
  .bind (.orStop trivial _) fun _ => refuseFirst_stopsOnly escrowChecks_messages

end

section

open Procedure (StopsOnly)

variable (write : COffer → OfferState → OfferState) (env : OfferEnv)

structure Resale (offers : OfferState) (aliases : AliasState) (chain : ActiveChain)
    (signer : Bytes) (payload linkOffer : COffer) (owner : CAliasIndex) : Prop where
  signed : payload.vchAlias = signer
  fresh : offers.lastOffers.lookup payload.vchOffer = none
  linked : payload.vchLinkOffer ≠ []
  parent : offers.getOffer aliases chain payload.vchLinkOffer = some linkOffer
  parentOwner : aliases.getAlias chain linkOffer.vchAlias = some owner

/-- The seller is an affiliate of the parent's owner and asks for more than the discount; the parent
is for sale and itself no resale. -/
structure ResaleAllowed (signer : Bytes) (payload linkOffer : COffer) (owner : CAliasIndex) :
    Prop where
  affiliate : ∃ entry, getLinkEntryByHash owner.offerWhitelist signer = some entry ∧
    -(entry.nDiscountPct.toNat : Int) < payload.nCommission.toInt
  root : linkOffer.vchLinkOffer = []
  notWanted : isWanted linkOffer.sCategory = false

variable {chain : ActiveChain} {nHeight : Nat}

theorem linkToParent_quiet_iff : wp (linkToParent aliases chain signer payload) (fun _ _ => True)
        (fun stop _ => stop.IsMessage) state ↔
      ∀ linkOffer owner, state.getOffer aliases chain payload.vchLinkOffer = some linkOffer →
        aliases.getAlias chain linkOffer.vchAlias = some owner →
        ResaleAllowed signer payload linkOffer owner := by
  simp only [linkToParent, requireAffiliate, wp_bind, wp_read, wp_orStop, wp_require, wp_pure]
  constructor
  · rintro ⟨parentFound, -⟩ linkOffer owner parent parentOwner
    obtain ⟨isAffiliate, mustBeAffiliate⟩ := (parentFound linkOffer parent).1 owner parentOwner
    cases listed : getLinkEntryByHash owner.offerWhitelist signer with
    | none => exact (mustBeAffiliate listed).elim
    | some entry =>
      obtain ⟨dearer, mustBeDearer⟩ := isAffiliate entry listed
      cases price : decide (-(entry.nDiscountPct.toNat : Int) < payload.nCommission.toInt) with
      | false => exact (mustBeDearer price).elim
      | true =>
        obtain ⟨isRoot, mustBeRoot⟩ := dearer price
        cases root : linkOffer.vchLinkOffer.isEmpty with
        | false => exact (mustBeRoot root).elim
        | true =>
          cases wanted : isWanted linkOffer.sCategory with
          | true => exact ((isRoot root).2 (by rw [wanted]; rfl)).elim
          | false => exact ⟨⟨entry, listed, of_decide_eq_true price⟩, isEmpty_iff.mp root, wanted⟩
  · intro allowed
    refine ⟨fun linkOffer parent => ⟨fun owner parentOwner => ?_, fun _ => trivial⟩,
      fun _ => trivial⟩
    obtain ⟨⟨entry, listed, dearer⟩, root, notWanted⟩ := allowed linkOffer owner parent parentOwner
    refine ⟨fun other found => ?_, fun missing => ?_⟩
    · rw [listed] at found
      cases found
      simp [dearer, root, notWanted]
    · rw [listed] at missing
      cases missing

theorem offerUpdate_stopsOnly :
    Quiet (offerUpdate write env aliases chain tx signer nHeight payload) := by
  have auction : ∀ dbOffer theOffer, Quiet (requireAuction chain dbOffer theOffer) :=
    fun dbOffer theOffer => .ite (.requires trivial <| .requires trivial <| .requires trivial <|
        .require _ trivial) (.pure _)
  have linked : ∀ theOffer, Quiet (refreshLinked aliases chain theOffer) :=
    fun theOffer => .ite (.pure _) (.bind (.read _) fun _ => .bind (.orStop trivial _) fun _ =>
      .pure _)
  exact .bind (.read _) fun _ => .bind (.orStop trivial _) fun dbOffer =>
    .requires trivial <| .bind (auction dbOffer _) fun _ => .bind (linked _) fun _ => .modify _

theorem offerActivate_quiet_iff :
    wp (offerActivate write env aliases chain tx signer nHeight payload)
        (fun _ _ => True) (fun stop _ => stop.IsMessage) state ↔
      ∀ linkOffer owner, Resale state aliases chain signer payload linkOffer owner →
        ResaleAllowed signer payload linkOffer owner := by
  simp only [offerActivate, wp_bind, wp_read, wp_require, wp_modify]
  have missing : state.lastOffers.lookup payload.vchOffer = none →
      (state.getOffer aliases chain payload.vchOffer).isNone = true := by
    intro fresh
    rw [OfferState.getOffer, fresh]
    rfl
  constructor
  · rintro ⟨isSigned, -⟩ linkOffer owner resale
    have linking := (isSigned (decide_eq_true resale.signed)).1 (missing resale.fresh)
    have own : clearIfStored payload (state.lastOffers.lookup payload.vchOffer) = payload := by
      rw [resale.fresh]
      rfl
    rw [own, linkIfNamed, if_neg (by simpa using resale.linked), linkToParent_quiet_iff] at linking
    exact linking linkOffer owner resale.parent resale.parentOwner
  · intro allowed
    refine ⟨fun signed => ⟨fun _ => ?_, fun _ => trivial⟩, fun _ => trivial⟩
    cases stored : state.lastOffers.lookup payload.vchOffer with
    | some dbOffer => exact trivial
    | none =>
      change wp (linkIfNamed aliases chain signer payload) _ _ state
      rw [linkIfNamed]
      split
      · trivial
      · rename_i named
        rw [linkToParent_quiet_iff]
        intro linkOffer owner parent parentOwner
        exact allowed linkOffer owner ⟨of_decide_eq_true signed, stored, by simpa using named,
          parent, parentOwner⟩

theorem runOfferOp_quiet_iff : wp (runOfferOp write env aliases chain tx op signer nHeight payload)
        (fun _ _ => True) (fun stop _ => stop.IsMessage) state ↔
      (op ≠ OP_OFFER_UPDATE →
        ∀ linkOffer owner, Resale state aliases chain signer payload linkOffer owner →
          ResaleAllowed signer payload linkOffer owner) := by
  rw [runOfferOp]
  split
  · rename_i isUpdate
    refine ⟨fun _ notUpdate => absurd isUpdate notUpdate, fun _ => ?_⟩
    exact offerUpdate_stopsOnly write env state
  · rename_i notUpdate
    rw [offerActivate_quiet_iff]
    exact ⟨fun allowed _ => allowed, fun allowed => allowed notUpdate⟩

theorem resale_revert_iff {name : Bytes} {chain : ActiveChain} {linkOffer : COffer}
    {owner : CAliasIndex} :
    Resale (revertOffer name offers) aliases chain signer payload linkOffer owner ↔
      Resale offers aliases chain signer payload linkOffer owner := by
  have same := revertOffer_lastOffers name offers
  have parent := getOffer_congr aliases chain (same payload.vchLinkOffer)
  constructor
  · intro resale
    exact { resale with
      fresh := (same _).symm.trans resale.fresh, parent := parent.symm.trans resale.parent }
  · intro resale
    exact { resale with
      fresh := (same _).trans resale.fresh, parent := parent.trans resale.parent }

theorem checkOfferInputs_quiet_iff :
    thrown (checkOfferInputs env aliases chain tx op signer nHeight offers).1 = none ↔
      (tx.isCoinBase = false → op ≠ OP_OFFER_UPDATE →
        ∀ payload, env.unserializeOffer tx = some payload →
        ∀ linkOffer owner, Resale offers aliases chain signer payload linkOffer owner →
          ResaleAllowed signer payload linkOffer owner) := by
  rw [thrown_eq_none_iff, checkOfferInputs]
  cases tx.isCoinBase with
  | true => simp
  | false =>
    simp only [Bool.false_eq_true, if_false, wp_bind, wp_orStop, wp_modify, runOfferOp_quiet_iff,
      resale_revert_iff, true_implies]
    constructor
    · rintro ⟨quiet, -⟩ notUpdate payload decoded
      exact quiet payload decoded notUpdate
    · intro quiet
      exact ⟨fun payload decoded notUpdate => quiet notUpdate payload decoded, fun _ => trivial⟩

theorem offerChecks_messages {nTime : UInt64} :
    ∀ check ∈ offerChecks nTime op vvchArgs vchHash payload, check.2.IsMessage := by
  have auction : ∀ check ∈ auctionChecks nTime payload, check.2.IsMessage := by
    rw [auctionChecks]
    split <;> exact forall_message rfl
  rw [offerChecks]
  refine forall_mem_append.mpr ⟨forall_message rfl, ?_⟩
  rw [offerOpChecks]
  split
  · rw [offerActivateChecks]
    exact forall_mem_append.mpr ⟨forall_message rfl, auction⟩
  · split <;> exact forall_message rfl

def offerPasses (ctx : MempoolContext) (tx : CTransaction) (op : Nat) (vvchArgs : List Bytes)
    (payload : COffer) : Prop :=
  firstRefusal (offerChecks ctx.chain.medianTimePast.toUInt64 op vvchArgs (dataHash ctx.env tx)
    payload) = none

theorem checkOfferMempool_quiet_iff :
    thrown (checkOfferMempool ctx aliases tx op vvchArgs signer offers).1 = none ↔
      (op ≠ OP_OFFER_UPDATE → ∀ payload, ctx.env.offerEnv.unserializeOffer tx = some payload →
        offerPasses ctx tx op vvchArgs payload →
        ∀ linkOffer owner, Resale offers aliases ctx.chain signer payload linkOffer owner →
          ResaleAllowed signer payload linkOffer owner) := by
  rw [thrown_eq_none_iff, checkOfferMempool]
  simp only [wp_bind, wp_orStop, wp_refuseFirst, runOfferOp_quiet_iff]
  constructor
  · rintro ⟨quiet, -⟩ notUpdate payload decoded passes
    exact (quiet payload decoded).1 passes notUpdate
  · intro quiet
    refine ⟨fun payload decoded => ⟨fun passes notUpdate =>
      quiet notUpdate payload decoded passes, fun stop refused => ?_⟩, fun _ => trivial⟩
    exact offerChecks_messages _ (firstRefusal_mem refused)

end

section

open Procedure (StopsOnly)

variable (env : AssetEnv) (nTotal : CAmount) (txHash : Uint256) (nHeight : Nat)

def HasPrecision (asset : CAsset) : Prop :=
  asset.bUseInputRanges = true ∨ asset.nPrecision.toNat ≤ 8

theorem assetRange_eq_none_iff {amount : CAmount} :
    assetRange amount asset.nPrecision.toNat asset.bUseInputRanges = none ↔
      ¬HasPrecision asset := by
  rw [assetRange, HasPrecision]
  cases asset.bUseInputRanges with
  | true => simp
  | false => simp

structure UpdateJudged (env : AssetEnv) (inputs : UtxoMap) (tx : CTransaction) (signer : Bytes)
    (tokens : AssetState) (payload dbAsset : CAsset) : Prop where
  found : tokens.assets.lookup payload.vchAsset = some dbAsset
  signed : ownerSigns env inputs tx signer dbAsset.vchAliasOrAddress
    (assetUser dbAsset (if signer.isEmpty then payload.vchAliasOrAddress else signer)) = true
  ranges : payload.listAllocationInputs ≠ [] → dbAsset.bUseInputRanges = true ∧
    startsBefore payload.listAllocationInputs dbAsset.nTotalSupply = none ∧
    validateRangesAndGetCount payload.listAllocationInputs ≠ 0

theorem assetUpdate_quiet_iff {payload : CAsset} :
    wp (assetUpdate env inputs tx signer nHeight payload) (fun _ _ => True)
        (fun stop _ => stop.IsMessage) tokens ↔
      ∀ dbAsset, UpdateJudged env inputs tx signer tokens payload dbAsset →
        HasPrecision dbAsset := by
  have message : ∀ (amount : CAmount) (dbAsset : CAsset), (∀ inRange,
      assetRange amount dbAsset.nPrecision.toNat dbAsset.bUseInputRanges = some inRange → True) ∧
      (assetRange amount dbAsset.nPrecision.toNat dbAsset.bUseInputRanges = none →
        precisionException.IsMessage) ↔ HasPrecision dbAsset := by
    intro amount dbAsset
    rw [assetRange_eq_none_iff]
    simp [precisionException, ServiceStop.IsMessage]
  simp only [assetUpdate, requireFoundAsset]
  rw [wp_bind, wp_bind]
  simp only [wp_readAsset, wp_orStop]
  constructor
  · rintro ⟨checked, -⟩ dbAsset judged
    have afterFound := checked dbAsset judged.found
    rw [wp_bind, wp_requireAssetOwner] at afterFound
    have afterSigned := afterFound.1 judged.signed
    rw [wp_bind] at afterSigned
    have afterRanges := (wp_newRanges fun _ _ => trivial).mp afterSigned judged.ranges
    rw [wp_bind, wp_orStop] at afterRanges
    exact (message _ dbAsset).mp ⟨fun _ _ => trivial, afterRanges.2⟩
  · intro precise
    refine ⟨fun dbAsset found => ?_, fun _ => trivial⟩
    rw [wp_bind, wp_requireAssetOwner]
    refine ⟨fun signed => ?_, fun _ => trivial⟩
    rw [wp_bind]
    refine (wp_newRanges fun _ _ => trivial).mpr fun ranges => ?_
    rw [wp_bind, wp_orStop]
    have readable := (message (increased dbAsset payload).nTotalSupply dbAsset).mpr
      (precise dbAsset ⟨found, signed, ranges⟩)
    refine ⟨fun inRange _ => ?_, readable.2⟩
    exact StopsOnly.bind (.require _ trivial) (fun _ => .requires trivial <|
      .requires trivial <| .modify _) tokens

theorem assetCreditAmounts_stopsOnly (theAsset : CAsset) :
    QuietToken (assetCreditAmounts env txHash nHeight vchAsset vchMemo theAsset amounts) := by
  induction amounts generalizing theAsset with
  | nil => exact .pure _
  | cons first rest ih => exact .bind (.read _) fun _ => .bind (.modify _) fun _ => ih _

theorem assetCreditRanges_stopsOnly (dbInputs : List CRange)
    (theAsset : CAsset) {inputs : List (Bytes × List CRange)} :
    QuietToken (assetCreditRanges txHash nHeight vchAsset vchMemo dbInputs theAsset inputs) := by
  induction inputs generalizing dbInputs theAsset with
  | nil => exact .pure _
  | cons first rest ih =>
    exact .requires trivial <| .bind (.read _) fun _ => .bind (.modify _) fun _ => ih _ _

theorem assetSend_stopsOnly {payload : CAssetAllocation} :
    QuietToken (assetSend env inputs tx signer nHeight payload) := by
  have sends : ∀ dbAsset, QuietToken (assetSendTo env (env.txHash tx) nHeight payload dbAsset) := by
    intro dbAsset
    refine .ite ?_ (.ite ?_ (.pure _))
    · rw [assetSendAmounts, sumAmounts, sumItems_eq]
      exact .requires trivial <| .bind (.requires trivial <| .pure _) fun _ =>
        .requires trivial <| assetCreditAmounts_stopsOnly env _ _ _
    · rw [assetSendRanges, sumRanges, sumItems_eq]
      exact .requires trivial <| .bind (.requires trivial <| .pure _) fun _ =>
        .requires trivial <| assetCreditRanges_stopsOnly _ _ _ _
  exact .bind (.bind (.read _) fun _ => .orStop trivial _) fun dbAsset =>
    .requires trivial <| .bind (.ite (.require _ trivial) (.require _ trivial)) fun _ =>
        .bind (sends dbAsset) fun _ => .modify _

theorem assetActivate_stopsOnly {payload : CAsset} :
    QuietToken (assetActivate env inputs tx signer nHeight payload) :=
  .bind (.read _) fun _ => .bind (.ite (.require _ trivial) (.require _ trivial)) fun _ =>
    .requires trivial <| .modify _

theorem assetTransfer_stopsOnly {payload : CAsset} :
    QuietToken (assetTransfer env tx nHeight payload) :=
  .bind (.bind (.read _) fun _ => .orStop trivial _) fun _ => .modify _

theorem checkAssetInputs_quiet_iff :
    thrownToken (checkAssetInputs env inputs tx op signer nHeight tokens).1 = none ↔
      (tx.isCoinBase = false → op = OP_ASSET_UPDATE →
        ∀ payload, env.unserializeAsset tx = some payload →
        ∀ dbAsset, UpdateJudged env inputs tx signer tokens payload dbAsset →
          HasPrecision dbAsset) := by
  rw [thrownToken_eq_none_iff, checkAssetInputs]
  cases tx.isCoinBase with
  | true => simp
  | false =>
    rw [if_neg (by decide)]
    by_cases isUpdate : op = OP_ASSET_UPDATE
    · subst isUpdate
      rw [if_neg (by decide), wp_bind, wp_orStop]
      simp only [runAssetOp, if_neg (show ¬OP_ASSET_UPDATE = OP_ASSET_ACTIVATE by decide),
        if_true, assetUpdate_quiet_iff, true_implies]
      exact ⟨fun quiet => quiet.1, fun quiet => ⟨quiet, fun _ => trivial⟩⟩
    · refine ⟨fun _ _ updated => absurd updated isUpdate, fun _ => ?_⟩
      split
      · exact StopsOnly.bind (.orStop trivial _)
          (fun payload => assetSend_stopsOnly env nHeight) tokens
      · refine StopsOnly.bind (.orStop trivial _) (fun payload => ?_) tokens
        rw [runAssetOp, if_neg isUpdate]
        exact .ite (assetActivate_stopsOnly env nHeight) (assetTransfer_stopsOnly env nHeight)

def activationPasses (ctx : MempoolContext) (tx : CTransaction) (vvchArgs : List Bytes)
    (payload : CAsset) : Prop :=
  firstRefusal (assetArgChecks vvchArgs (dataHash ctx.env tx) ++ assetSizeChecks payload ++
    assetActivateChecks payload) = none

theorem firstRefusal_append {ε : Type} {checks others : List (Bool × ε)} :
    firstRefusal (checks ++ others) = (firstRefusal checks).or (firstRefusal others) := by
  rw [firstRefusal, firstRefusal, firstRefusal, List.find?_append]
  cases checks.find? (·.1) with
  | none => rfl
  | some check => rfl

theorem assetSupplyChecks_quiet_iff {payload : CAsset} :
    (∀ stop, firstRefusal (assetSupplyChecks ctx payload) = some stop → stop.IsMessage) ↔
      HasPrecision payload := by
  have isNone : ∀ amount,
      (assetRange amount payload.nPrecision.toNat payload.bUseInputRanges).isNone = true ↔
        ¬HasPrecision payload := by
    intro amount
    rw [isNone_iff_eq_none, assetRange_eq_none_iff]
  constructor
  · intro messages
    by_contra imprecise
    have first : firstRefusal (assetSupplyChecks ctx payload) = some precisionException := by
      rw [assetSupplyChecks, firstRefusal, List.find?_cons_of_pos]
      · rfl
      · exact (isNone payload.nBalance).mpr imprecise
    exact messages _ first
  · intro precise stop refused
    have notNone : ∀ amount,
        (assetRange amount payload.nPrecision.toNat payload.bUseInputRanges).isNone = false := by
      intro amount
      rw [Bool.eq_false_iff, ne_eq, isNone]
      exact not_not_intro precise
    have member := firstRefusal_mem refused
    simp only [assetSupplyChecks, notNone, Bool.and_false, mem_cons, Prod.mk.injEq,
      Bool.true_eq_false, false_and, false_or, not_mem_nil, or_false] at member
    rcases member with ⟨-, rfl⟩ | ⟨-, rfl⟩ | ⟨-, rfl⟩ | ⟨-, rfl⟩ | ⟨-, rfl⟩ <;> trivial

theorem checkAssetMempool_quiet_iff :
    thrownToken (checkAssetMempool ctx tx op vvchArgs tokens).1 = none ↔
      (op = OP_ASSET_ACTIVATE → ∀ payload, ctx.env.assetEnv.unserializeAsset tx = some payload →
        activationPasses ctx tx vvchArgs payload → HasPrecision payload) := by
  rw [thrownToken_eq_none_iff, checkAssetMempool]
  by_cases isActivation : op = OP_ASSET_ACTIVATE
  · subst isActivation
    rw [if_neg (by decide), wp_bind, wp_orStop]
    simp only [wp_refuseFirst, assetOpChecks, if_true, implies_true, true_and, true_implies,
      ← append_assoc]
    constructor
    · rintro ⟨quiet, -⟩ payload decoded passes
      rw [← assetSupplyChecks_quiet_iff]
      intro stop refused
      refine quiet payload decoded stop ?_
      rw [firstRefusal_append, passes, none_or, refused]
    · intro quiet
      refine ⟨fun payload decoded stop refused => ?_, fun _ => trivial⟩
      rw [firstRefusal_append] at refused
      cases early : firstRefusal (assetArgChecks vvchArgs (dataHash ctx.env tx) ++
          assetSizeChecks payload ++ assetActivateChecks payload) with
      | none =>
        rw [early, none_or] at refused
        exact assetSupplyChecks_quiet_iff.mpr (quiet payload decoded early) stop refused
      | some other =>
        rw [early, some_or] at refused
        cases refused
        exact forall_messageToken rfl _ (firstRefusal_mem early)
  · refine ⟨fun _ activated => absurd activated isActivation, fun _ => ?_⟩
    split
    · exact StopsOnly.bind (.orStop trivial _)
        (fun payload => refuseFirst_stopsOnly (forall_messageToken rfl)) tokens
    · refine StopsOnly.bind (.orStop trivial _) (fun payload => refuseFirst_stopsOnly ?_) tokens
      rw [assetOpChecks, if_neg isActivation]
      split_ifs <;> exact forall_messageToken rfl

end

section

open Procedure (StopsOnly)

variable (mode : CheckMode) (env : AssetEnv)

variable {tuple : CAssetAllocationTuple} {txHash : Uint256} {bBalanceOverrun : Bool}

theorem revertAssetAllocation_stopsOnly {asset : CAsset} {nHeight : Nat} :
    QuietToken (revertAssetAllocation tuple asset txHash nHeight) :=
  .bind (.modify _) fun _ => .bind (.read _) fun _ =>
    .ite (.pure _) (.bind (.read _) fun _ => .bind (.modify _) fun _ => .modify _)

theorem revertIn_stopsOnly (tuple : CAssetAllocationTuple) (asset : CAsset) (txHash : Uint256)
    (nHeight : Nat) : QuietToken (revertIn mode tuple asset txHash nHeight) := by
  cases mode with
  | block => exact revertAssetAllocation_stopsOnly
  | mempool now => exact .pure _

theorem writeReceiverIn_stopsOnly (allocation : CAssetAllocation) :
    QuietToken (writeReceiverIn mode allocation) := by
  cases mode with
  | block => exact .modify _
  | mempool now => exact .modify _

theorem writeSenderIn_stopsOnly {nHeight : Nat} {allocation : CAssetAllocation} :
    QuietToken (writeSenderIn mode txHash nHeight bBalanceOverrun allocation) := by
  cases mode with
  | block => exact .modify _
  | mempool now => exact .modify _

variable {dbAsset : CAsset}

theorem revertReceivers_stopsOnly {δ : Type} {accepted : δ → Bool} {stop : ServiceStop}
    (message : stop.IsMessage) {units : δ → CAmount} {nHeight : Nat} {vchAsset : Bytes}
    (nTotal : CAmount) {items : List (Bytes × δ)} :
    QuietToken (revertReceivers mode accepted stop units dbAsset txHash nHeight vchAsset nTotal
        items) := by
  induction items generalizing nTotal with
  | nil => exact .pure _
  | cons first rest ih =>
    exact .bind (revertIn_stopsOnly mode _ dbAsset txHash nHeight) fun _ =>
      .bind (.require _ message) fun _ => ih _

variable {nHeight : Nat} {bConflict : Bool}

theorem creditAmounts_stopsOnly (sender : CAssetAllocation) {amounts : List (Bytes × CAmount)} :
    QuietToken (creditAmounts mode env dbAsset txHash nHeight bBalanceOverrun bConflict sender
        amounts) := by
  induction amounts generalizing sender with
  | nil => exact .pure _
  | cons first rest ih =>
    exact .requires trivial <| .bind (.modify _) fun _ => .bind (.read _) fun _ =>
      .bind (writeReceiverIn_stopsOnly mode _) fun _ => ih _

theorem creditRanges_stopsOnly (send : RangeSend) {inputs : List (Bytes × List CRange)} : QuietToken
      (creditRanges mode dbAsset txHash nHeight bBalanceOverrun bConflict send inputs) := by
  induction inputs generalizing send with
  | nil => exact .pure _
  | cons first rest ih =>
    exact .requires trivial <| .bind (.modify _) fun _ =>
      .requires trivial <| .bind (.read _) fun _ =>
        .bind (writeReceiverIn_stopsOnly mode _) fun _ => ih _

theorem sendAllocations_stopsOnly {db : CAssetAllocation} {nHeight : Nat}
    {sender : CAssetAllocation} :
    QuietToken (sendAllocations mode env dbAsset db txHash nHeight sender) := by
  refine .ite ?_ (.ite ?_ (writeSenderIn_stopsOnly mode))
  · exact .requires trivial <| .bind (revertReceivers_stopsOnly mode (by trivial) _) fun _ =>
        .bind (.bind (.modify _) fun _ => .read _) fun _ =>
          .bind (creditAmounts_stopsOnly mode env _) fun _ => writeSenderIn_stopsOnly mode
  · exact .requires trivial <| .bind (revertReceivers_stopsOnly mode (by trivial) _) fun _ =>
        .bind (.bind (.modify _) fun _ => .read _) fun _ =>
          .bind (creditRanges_stopsOnly mode _) fun _ => writeSenderIn_stopsOnly mode

theorem allocationSend_stopsOnly {inputs : UtxoMap} {tx : CTransaction} {signer : Bytes}
    {nHeight : Nat} {payload : CAssetAllocation} {vchThisAlias : Bytes} :
    QuietToken (allocationSend mode env inputs tx signer nHeight payload vchThisAlias) := by
  have reread : ∀ tuple found, QuietToken (rereadIn mode tuple found) := by
    intro tuple found
    cases mode with
    | block => exact .bind (.read _) fun _ => .orStop trivial _
    | mempool now => exact .pure _
  exact .requires trivial <| .bind (.read _) fun _ =>
    .bind (.orStop trivial _) fun db =>
      .bind (.ite (.require _ trivial) (.require _ trivial)) fun _ => .bind (.read _) fun _ =>
        .bind (.orStop trivial _) fun dbAsset =>
          .bind (revertIn_stopsOnly mode _ dbAsset _ nHeight) fun _ =>
            .bind (reread _ db) fun found => sendAllocations_stopsOnly mode env

def SupplyReadable (asset : CAsset) : Prop :=
  HasPrecision asset ∧ amountInRange asset.nMaxSupply asset.bUseInputRanges = true

theorem applyInterest_eq_none_iff {record : CAssetAllocation} {nHeight : Nat} :
    applyAssetAllocationInterest env asset record nHeight = none ↔
      ¬(getAssetAllocationInterest env record nHeight).2 ≤ 0 ∧ ¬SupplyReadable asset := by
  have readable := amount_readable_iff asset.nMaxSupply asset.nPrecision.toNat asset.bUseInputRanges
  rw [applyAssetAllocationInterest]
  generalize getAssetAllocationInterest env record nHeight = earned
  obtain ⟨accumulated, nInterest⟩ := earned
  by_cases nothing : nInterest ≤ 0
  · simp [nothing]
  · simp only [nothing, if_false, not_false_eq_true, true_and, SupplyReadable, HasPrecision,
      ← readable, bind_eq_bind]
    cases valueFromAssetAmount asset.nMaxSupply asset.nPrecision.toNat asset.bUseInputRanges with
    | none => simp
    | some value =>
      rw [bind_some, bind_some]
      cases assetAmountFromValue value asset.nPrecision.toNat asset.bUseInputRanges with
      | none => simp
      | some nMaxSupply =>
        rw [bind_some]
        simp only [isSome_some, not_true_eq_false, iff_false]
        split_ifs <;> simp

structure InterestJudged (txHash : Uint256) (nHeight : Nat) (tuple : CAssetAllocationTuple)
    (tokens : AssetState) (db : CAssetAllocation) (dbAsset : CAsset) (record : CAssetAllocation) :
    Prop where
  found : tokens.allocations.lookup tuple = some db
  asset : tokens.assets.lookup db.vchAsset = some dbAsset
  rates : floatNotPositive dbAsset.fInterestRate = false ∧ floatNotPositive db.fInterestRate = false
  reverted : (revertAssetAllocation tuple dbAsset txHash nHeight tokens).2.allocations.lookup
    tuple = some record
  interest : ¬(getAssetAllocationInterest env record nHeight).2 ≤ 0

theorem wp_revertAssetAllocation_iff :
    wp (revertAssetAllocation tuple asset txHash nHeight) post stopped tokens ↔
      post () (revertAssetAllocation tuple asset txHash nHeight tokens).2 := by
  have ends : (revertAssetAllocation tuple asset txHash nHeight tokens).1 = .ok () := by
    change ((do
      let reverted ← Procedure.read fun state : AssetState =>
        (tupleFind state.revertedAssetAllocations tuple).isSome
      revertUnless reverted tuple asset nHeight : AssetProcedure Unit) _).1 = .ok ()
    change (revertUnless _ tuple asset nHeight _).1 = .ok ()
    rw [revertUnless]
    split <;> rfl
  rw [wp]
  generalize revertAssetAllocation tuple asset txHash nHeight tokens = outcome at ends
  obtain ⟨result, after⟩ := outcome
  cases ends
  exact .rfl

theorem liftInterest_message_iff {outcome : Option (Except String (CAsset × CAssetAllocation))} :
    (∀ stop, liftInterest outcome = .error stop → stop.IsMessage) ↔ outcome ≠ none := by
  cases outcome with
  | none => simp [liftInterest, amountException, ServiceStop.IsMessage]
  | some applied =>
    cases applied with
    | error text => simp [liftInterest, allocationError, ServiceStop.IsMessage]
    | ok result => simp [liftInterest]

theorem collectInterest_quiet_iff : wp (collectInterest env txHash nHeight tuple) (fun _ _ => True)
        (fun stop _ => stop.IsMessage) tokens ↔
      ∀ db dbAsset record, InterestJudged env txHash nHeight tuple tokens db dbAsset record →
        SupplyReadable dbAsset := by
  simp only [collectInterest, checkInterest, wp_bind, wp_pure, wp_readAssetAllocation, wp_orStop,
    wp_readAsset, wp_require, wp_revertAssetAllocation_iff, wp_liftExcept,
    wp_writeAsset, wp_writeSender, implies_true, true_and, liftInterest_message_iff, ne_eq,
    applyInterest_eq_none_iff, not_and_or, not_not]
  constructor
  · rintro ⟨checked, -⟩ db dbAsset record judged
    have afterRates := ((checked db judged.found).1 dbAsset judged.asset).1
      (by rw [judged.rates.1, judged.rates.2]; rfl)
    exact (afterRates.1 record judged.reverted).resolve_left judged.interest
  · intro readable
    refine ⟨fun db found => ⟨fun dbAsset asset => ⟨fun rates => ⟨fun record reverted => ?_,
      fun _ => trivial⟩, fun _ => trivial⟩, fun _ => trivial⟩, fun _ => trivial⟩
    by_cases nothing : (getAssetAllocationInterest env record nHeight).2 ≤ 0
    · exact .inl nothing
    · refine .inr (readable db dbAsset record ⟨found, asset, ?_, reverted, nothing⟩)
      simpa using rates

theorem checkAllocationIn_quiet_iff :
    thrownToken (checkAssetAllocationInputsIn mode env inputs tx op vvchArgs vchHash signer nHeight
        tokens).1 = none ↔
      (mode = .block → tx.isCoinBase = false → op = OP_ASSET_COLLECT_INTEREST →
        ∀ payload, env.unserializeAllocation tx = some payload →
        ∀ db dbAsset record, InterestJudged env (env.txHash tx) nHeight ⟨payload.vchAsset,
            if signer.isEmpty then payload.vchAliasOrAddress else signer⟩ tokens db dbAsset record →
          SupplyReadable dbAsset) := by
  have checks : ∀ payload,
      QuietToken (requirePayloadIn mode op vvchArgs vchHash payload) := by
    intro payload state
    rw [requirePayloadIn]
    split <;> trivial
  have others : ∀ payload, (mode = .block → op ≠ OP_ASSET_COLLECT_INTEREST) →
      QuietToken (runAllocationOp mode env inputs tx op signer nHeight payload) := by
    intro payload notCollected
    rw [runAllocationOp]
    split
    · rename_i collected
      cases mode with
      | block => exact absurd collected (notCollected rfl)
      | mempool now =>
        exact .bind (.bind (.read _) fun _ => .bind (.orStop trivial _) fun _ => .bind (.read _)
          fun _ => .bind (.orStop trivial _) fun _ => .bind (.require _ trivial) fun _ => .pure _)
          fun _ => .pure _
    · exact .ite (allocationSend_stopsOnly mode env) (writeSenderIn_stopsOnly mode)
  rw [thrownToken_eq_none_iff, checkAssetAllocationInputsIn]
  by_cases collected : mode = .block ∧ op = OP_ASSET_COLLECT_INTEREST
  · obtain ⟨rfl, rfl⟩ := collected
    cases tx.isCoinBase with
    | true => simp [CheckMode.fJustCheck]
    | false =>
      have noChecks : ∀ payload,
          requirePayloadIn .block OP_ASSET_COLLECT_INTEREST vvchArgs vchHash payload =
            pure () := fun _ => rfl
      simp only [Bool.false_and, Bool.false_eq_true, if_false, wp_bind,
        wp_orStop, noChecks, wp_pure, runAllocationOp, if_true,
        collectInterestIn, collectInterest_quiet_iff, true_implies]
      exact ⟨fun quiet => quiet.1, fun quiet => ⟨quiet, fun _ => trivial⟩⟩
  · refine ⟨fun _ isBlock _ isCollected => absurd ⟨isBlock, isCollected⟩ collected, fun _ => ?_⟩
    refine StopsOnly.ite (.pure _) (.bind (.orStop trivial _) fun payload =>
      .bind (checks payload) fun _ => others payload ?_) tokens
    exact fun isBlock isCollected => collected ⟨isBlock, isCollected⟩

end

end Minerium
