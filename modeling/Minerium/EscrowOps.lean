import Minerium.EscrowCore
import Minerium.Lib.ExceptBind

/-! What an operation may change in a stored escrow: `EscrowChange` has one case for each operation.
-/

namespace Minerium

open ExceptBind

open Procedure (wp wp_bind wp_final wp_liftExcept wp_modify wp_mono wp_orStop wp_pure wp_read
  wp_require)

variable {party : Bytes} {state : EscrowState} {escrow : CEscrow}

theorem refuseIf_eq_ok {condition : Bool} {stop : CheckStop} {value : Unit} :
    refuseIf condition stop = .ok value ↔ condition = false := by
  cases condition with
  | false => simp [refuseIf]
  | true => simp [refuseIf]

inductive EscrowChange (ctx : EscrowContext) (before : CEscrow) : Nat → CEscrow → Prop
  | bid (active : before.op = .ofNat OP_ESCROW_ACTIVATE)
      (signed : ctx.signer = before.vchBuyerAlias)
      (amount : before.nAmountOrBidPerUnit < ctx.serialized.nAmountOrBidPerUnit)
      (price : floatLe ctx.serialized.fBidPerUnit before.fBidPerUnit = false) :
      EscrowChange ctx before OP_ESCROW_BID { before with
        fBidPerUnit := ctx.serialized.fBidPerUnit
        nAmountOrBidPerUnit := ctx.serialized.nAmountOrBidPerUnit }
  | shipping (active : before.op = .ofNat OP_ESCROW_ACTIVATE ∨ before.op = .ofNat OP_ESCROW_RELEASE)
      (signed : ctx.signer = before.vchBuyerAlias)
      (more : before.nShipping < ctx.serialized.nShipping) :
      EscrowChange ctx before OP_ESCROW_ADD_SHIPPING
        { before with nShipping := ctx.serialized.nShipping }
  | acknowledged (active : before.op = .ofNat OP_ESCROW_ACTIVATE)
      (signed : ctx.signer = before.vchSellerAlias)
      (enough : exceedsQty before.nQty
        (((ctx.getOffer ctx.dbOffer.vchOffer).map (·.nQty)).getD ctx.dbOffer.nQty) = false) :
      EscrowChange ctx before OP_ESCROW_ACKNOWLEDGE { before with bPaymentAck := true }
  | refunded (open' : before.op = .ofNat OP_ESCROW_ACTIVATE ∨
        before.op = .ofNat OP_ESCROW_REFUND ∨ before.op = .ofNat OP_ESCROW_RELEASE)
      (signed : ctx.signer = before.vchSellerAlias ∨ ctx.signer = before.vchArbiterAlias) :
      EscrowChange ctx before OP_ESCROW_REFUND
        { before with role := ctx.serialized.role, op := .ofNat OP_ESCROW_REFUND }
  | released (open' : before.op = .ofNat OP_ESCROW_ACTIVATE ∨
        before.op = .ofNat OP_ESCROW_REFUND ∨ before.op = .ofNat OP_ESCROW_RELEASE)
      (signed : ctx.signer = before.vchBuyerAlias ∨ ctx.signer = before.vchArbiterAlias) :
      EscrowChange ctx before OP_ESCROW_RELEASE
        { before with role := ctx.serialized.role, op := .ofNat OP_ESCROW_RELEASE }
  | refundClaimed (refunded : before.op = .ofNat OP_ESCROW_REFUND)
      (signed : ctx.signer = before.vchBuyerAlias) (redeemTxId : Uint256) :
      EscrowChange ctx before OP_ESCROW_REFUND_COMPLETE
        { before with redeemTxId, op := .ofNat OP_ESCROW_REFUND_COMPLETE }
  | releaseClaimed (released : before.op = .ofNat OP_ESCROW_RELEASE)
      (signed : ctx.signer = before.vchSellerAlias) (redeemTxId : Uint256) :
      EscrowChange ctx before OP_ESCROW_RELEASE_COMPLETE
        { before with redeemTxId, op := .ofNat OP_ESCROW_RELEASE_COMPLETE }
  | same (op : Nat) : EscrowChange ctx before op before

theorem EscrowChange.named {ctx : EscrowContext} {before after : CEscrow} {op : Nat}
    (change : EscrowChange ctx before op after) : after.vchEscrow = before.vchEscrow := by
  cases change with
  | bid => rfl
  | shipping => rfl
  | acknowledged => rfl
  | refunded => rfl
  | released => rfl
  | refundClaimed => rfl
  | releaseClaimed => rfl
  | same => rfl

section

variable {ctx : EscrowContext} {before after : CEscrow}

theorem bidEscrow_spec (done : bidEscrow ctx before = .ok after) :
    EscrowChange ctx before OP_ESCROW_BID after := by
  simp only [bidEscrow, bind_eq_ok, refuseIf_eq_ok, pure_eq_ok,
    decide_eq_false_iff_not, not_not, Bool.or_eq_false_iff, exists_const] at done
  obtain ⟨active, signed, ⟨amount, price⟩, -, -, -, -, -, -, -, rfl⟩ := done
  exact .bid active signed (by simpa using amount) price

theorem addShipping_spec (done : addShipping ctx before = .ok after) :
    EscrowChange ctx before OP_ESCROW_ADD_SHIPPING after := by
  simp only [addShipping, bind_eq_ok, refuseIf_eq_ok, pure_eq_ok,
    decide_eq_false_iff_not, not_not, Bool.and_eq_false_iff, exists_const] at done
  obtain ⟨active, more, signed, rfl⟩ := done
  exact .shipping active signed (by simpa using more)

theorem acknowledgeEscrow_spec (done : acknowledgeEscrow ctx before = .ok after) :
    EscrowChange ctx before OP_ESCROW_ACKNOWLEDGE after := by
  simp only [acknowledgeEscrow, bind_eq_ok, refuseIf_eq_ok, pure_eq_ok,
    decide_eq_false_iff_not, not_not, exists_const] at done
  obtain ⟨active, signed, enough, rfl⟩ := done
  exact .acknowledged active signed enough

theorem handOver_spec {kind : Handover} (done : handOver kind party ctx before = .ok after) :
    (before.op = .ofNat OP_ESCROW_ACTIVATE ∨ before.op = .ofNat OP_ESCROW_REFUND ∨
        before.op = .ofNat OP_ESCROW_RELEASE) ∧
      (ctx.signer = party ∨ ctx.signer = before.vchArbiterAlias) ∧
      after = { before with role := ctx.serialized.role, op := .ofNat kind.op } := by
  simp only [handOver, bind_eq_ok, refuseIf_eq_ok, pure_eq_ok,
    decide_eq_false_iff_not, not_not, Bool.and_eq_false_iff, exists_const] at done
  obtain ⟨status, -, -, -, -, -, signed, rfl⟩ := done
  exact ⟨or_assoc.mp status, signed, rfl⟩

theorem claimEscrow_spec {op previous : Nat} {notBefore notSigned : CheckStop}
    (done : claimEscrow op previous party notBefore notSigned ctx before = .ok after) :
    before.op = .ofNat previous ∧ ctx.signer = party ∧
      ∃ redeemTxId, after = { before with redeemTxId, op := .ofNat op } := by
  simp only [claimEscrow, bind_eq_ok, refuseIf_eq_ok, pure_eq_ok,
    decide_eq_false_iff_not, not_not, exists_const] at done
  obtain ⟨status, signed, rfl⟩ := done
  exact ⟨status, signed, _, rfl⟩

theorem feedbackEscrow_spec (done : feedbackEscrow ctx before = .ok after) : after = before := by
  simp only [feedbackEscrow, bind_eq_ok, refuseIf_eq_ok, pure_eq_ok, exists_const] at done
  obtain ⟨-, -, -, -, -, -, -, same⟩ := done
  exact same.symm

theorem activatedEscrow_spec {begun : CEscrow} (done : activatedEscrow ctx begun = .ok after) :
    after = { begun with
        nQty := if begun.nQty = 0 then 1 else begun.nQty
        vchOffer := ctx.dbOffer.vchOffer, op := .ofNat OP_ESCROW_ACTIVATE } ∧
      exceedsQty after.nQty ctx.dbOffer.nQty = false := by
  simp only [activatedEscrow, bind_eq_ok, pure_eq_ok, refuseIf_eq_ok, exists_const] at done
  obtain ⟨-, -, -, -, enough, _, -, rfl⟩ := done
  exact ⟨rfl, enough⟩

theorem changedEscrow_spec {op : Nat} (done : changedEscrow ctx op before = .ok after) :
    EscrowChange ctx before op after := by
  simp only [changedEscrow] at done
  split at done
  · rename_i isBid
    exact isBid ▸ bidEscrow_spec done
  split at done
  · rename_i isShipping
    exact isShipping ▸ addShipping_spec done
  split at done
  · rename_i isAcknowledge
    exact isAcknowledge ▸ acknowledgeEscrow_spec done
  split at done
  · rename_i isRefund
    obtain ⟨status, signed, rfl⟩ := handOver_spec done
    exact isRefund ▸ .refunded status signed
  split at done
  · rename_i isComplete
    obtain ⟨status, signed, redeemTxId, rfl⟩ := claimEscrow_spec done
    exact isComplete ▸ .refundClaimed status signed redeemTxId
  split at done
  · rename_i isRelease
    obtain ⟨status, signed, rfl⟩ := handOver_spec done
    exact isRelease ▸ .released status signed
  split at done
  · rename_i isComplete
    obtain ⟨status, signed, redeemTxId, rfl⟩ := claimEscrow_spec done
    exact isComplete ▸ .releaseClaimed status signed redeemTxId
  split at done
  · cases feedbackEscrow_spec done
    exact .same op
  · cases done
    exact .same op

end

inductive EscrowEffect (env : EscrowEnv) (aliases : AliasState) (offers : OfferState)
    (chain : ActiveChain) (tx : CTransaction) (op : Nat) (vvchAliasArgs : List Bytes)
    (nHeight : Nat) (before : EscrowState) : Table CEscrow.vchEscrow → Prop
  | none : EscrowEffect env aliases offers chain tx op vvchAliasArgs nHeight before before.escrows
  | changed (payload stored after : CEscrow) (dbOffer : COffer)
      (decoded : env.unserializeEscrow tx = some payload) (notActivate : op ≠ OP_ESCROW_ACTIVATE)
      (found : before.escrows.lookup payload.vchEscrow = some stored)
      (offered : offers.getOffer aliases chain stored.vchOffer = some dbOffer)
      (change : EscrowChange ⟨env, aliases, offers, chain, dbOffer, vvchAliasArgs.headD [],
        withWitness vvchAliasArgs payload⟩
        (withScriptSigs (withWitness vvchAliasArgs payload) stored) op after) :
      EscrowEffect env aliases offers chain tx op vvchAliasArgs nHeight before
        (before.escrows.write (stampedEscrow env tx nHeight after))
  | activated (payload start after : CEscrow) (dbOffer : COffer)
      (decoded : env.unserializeEscrow tx = some payload) (isActivate : op = OP_ESCROW_ACTIVATE)
      (begins : start = startingEscrow (withWitness vvchAliasArgs payload)
        (before.escrows.lookup payload.vchEscrow)
        (before.getEscrow aliases chain payload.vchEscrow))
      (offered : offers.getOffer aliases chain start.vchOffer = some dbOffer)
      (done : activatedEscrow ⟨env, aliases, offers, chain, dbOffer, vvchAliasArgs.headD [],
        withWitness vvchAliasArgs payload⟩ start = .ok after) :
      EscrowEffect env aliases offers chain tx op vvchAliasArgs nHeight before
        (before.escrows.write (stampedEscrow env tx nHeight after))

theorem getEscrow_eq_some {aliases : AliasState} {chain : ActiveChain} {vchEscrow : Bytes}
    (found : state.getEscrow aliases chain vchEscrow = some escrow) :
    state.escrows.lookup vchEscrow = some escrow :=
  (Option.filter_eq_some_iff.mp found).1

theorem startingEscrow_of_found {serialized : CEscrow} {stored found : Option CEscrow}
    (same : found = some escrow) (there : stored = some escrow) :
    startingEscrow serialized stored found = escrow := by
  rw [same, there, startingEscrow, Option.getD_some]

theorem payIfExternal_spec {post : EscrowState → Prop} {errorMessage : String} (kept : post state)
    (paid : post { state with extTxIds := escrow.extTxId :: state.extTxIds }) :
    wp (payIfExternal escrow errorMessage) (fun _ => post) (fun _ => post) state := by
  rw [payIfExternal]
  split
  · exact kept
  · simp only [payExternal, wp_bind, wp_read, wp_require, wp_modify]
    have either : ∀ pays : Bool, post (if pays then { state with
        extTxIds := escrow.extTxId :: state.extTxIds } else state) := by
      intro pays
      cases pays with
      | true => exact paid
      | false => exact kept
    exact ⟨fun _ => ⟨fun _ => either _, fun _ => either _⟩, fun _ => kept⟩

section

variable (env : EscrowEnv) (aliases : AliasState) (offers : OfferState) (chain : ActiveChain)
  (tx : CTransaction) (op : Nat) (vvchAliasArgs : List Bytes) (nHeight : Nat)

theorem checkEscrowInputs_spec (state : EscrowState) :
    EscrowEffect env aliases offers chain tx op vvchAliasArgs nHeight state
      (checkEscrowInputs env aliases offers chain tx op vvchAliasArgs nHeight state).2.escrows := by
  refine @wp_final EscrowState CheckStop String _ _ (fun after => EscrowEffect env aliases
    offers chain tx op vvchAliasArgs nHeight state after.escrows) ?_
  rw [checkEscrowInputs]
  split
  · exact .none
  simp only [wp_bind, wp_orStop, wp_liftExcept, wp_read, wp_require]
  refine ⟨fun payload decoded => ⟨fun _ _ => ⟨fun known => ⟨fun dbOffer offered => ?_,
    fun _ => .none⟩, fun _ => .none⟩, fun _ _ => .none⟩, fun _ => .none⟩
  rw [runEscrowOp]
  split
  · rename_i isActivate
    subst isActivate
    simp only [escrowActivate, writeEscrow, wp_bind, wp_liftExcept, wp_modify, wp_pure]
    refine ⟨fun after done => ?_, fun _ _ => .none⟩
    refine wp_mono (@payIfExternal_spec state after (·.escrows = state.escrows) _ rfl rfl) ?_ ?_
    · intro _ paid same
      rw [same]
      exact .activated payload _ after dbOffer decoded rfl rfl offered done
    · intro _ paid same
      rw [same]
      exact .none
  · rename_i notActivate
    rw [decide_eq_false notActivate, Bool.or_false, Option.isSome_iff_exists] at known
    obtain ⟨stored, found⟩ := known
    have there := getEscrow_eq_some found
    rw [startingEscrow_of_found found there] at offered ⊢
    simp only [escrowChange, writeEscrow, wp_bind, wp_liftExcept, wp_modify, wp_pure]
    refine ⟨fun after done => ?_, fun _ _ => .none⟩
    exact .changed payload stored after dbOffer decoded notActivate there offered
      (changedEscrow_spec done)

end

end Minerium
