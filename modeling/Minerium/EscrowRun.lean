import Minerium.EscrowOps
import Minerium.ServiceRun

/-! Escrows over runs: a completed escrow is final, and every change of an open one is allowed by
the table of roles. -/

namespace Minerium

open UInt32

variable {state : ServiceState} {tx : CTransaction} {signed : Bytes → Bool} {ctx : BlockContext}
  {vchEscrow : Bytes}

section

variable (escrow : CEscrow)

def CEscrow.settled : CEscrow :=
  { escrow with scriptSigs := [], txHash := 0, nHeight := 0 }

def CEscrow.isComplete : Bool :=
  decide (escrow.op = ofNat OP_ESCROW_RELEASE_COMPLETE) ||
    decide (escrow.op = ofNat OP_ESCROW_REFUND_COMPLETE)

/-- The parties, the offer, the quantity, the fees, the redeem script and the way of payment. -/
def CEscrow.terms : CEscrow :=
  { escrow.settled with
    redeemTxId := 0, op := 0, bPaymentAck := false, nShipping := 0, nAmountOrBidPerUnit := 0
    fBidPerUnit := 0, role := 0 }

inductive Party where
  | buyer
  | seller
  | arbiter
deriving DecidableEq

def Party.name : Party → Bytes
  | .buyer => escrow.vchBuyerAlias
  | .seller => escrow.vchSellerAlias
  | .arbiter => escrow.vchArbiterAlias

end

def isOpen (op : UInt32) : Bool :=
  decide (op = ofNat OP_ESCROW_ACTIVATE) || decide (op = ofNat OP_ESCROW_REFUND) ||
    decide (op = ofNat OP_ESCROW_RELEASE)

/-- Which party may move an escrow from one status to another. -/
def roleTable (before after : UInt32) : Party → Bool
  | .buyer =>
    isOpen before && decide (after = ofNat OP_ESCROW_RELEASE) ||
      decide (before = ofNat OP_ESCROW_REFUND) && decide (after = ofNat OP_ESCROW_REFUND_COMPLETE)
  | .seller =>
    isOpen before && decide (after = ofNat OP_ESCROW_REFUND) ||
      decide (before = ofNat OP_ESCROW_RELEASE) && decide (after = ofNat OP_ESCROW_RELEASE_COMPLETE)
  | .arbiter =>
    isOpen before && (decide (after = ofNat OP_ESCROW_RELEASE) ||
      decide (after = ofNat OP_ESCROW_REFUND))

structure LegalStep (signed : Bytes → Bool) (before after : CEscrow) : Prop where
  terms : after.terms = before.terms
  shipping : before.nShipping ≤ after.nShipping
  bid : (after.nAmountOrBidPerUnit, after.fBidPerUnit) ≠
      (before.nAmountOrBidPerUnit, before.fBidPerUnit) →
    before.nAmountOrBidPerUnit < after.nAmountOrBidPerUnit ∧
      floatLt before.fBidPerUnit after.fBidPerUnit = true
  acknowledged : before.bPaymentAck = true → after.bPaymentAck = true
  status : after.op ≠ before.op →
    ∃ party : Party, signed (party.name before) = true ∧ roleTable before.op after.op party = true

section

variable {ctx : EscrowContext} {before after : CEscrow} {op : Nat}

theorem EscrowChange.open_or_same (change : EscrowChange ctx before op after) :
    isOpen before.op = true ∨ after = before := by
  cases change with
  | bid active => exact .inl (by rw [active]; rfl)
  | shipping active =>
    rcases active with active | released
    · exact .inl (by rw [active]; rfl)
    · exact .inl (by rw [released]; rfl)
  | acknowledged active => exact .inl (by rw [active]; rfl)
  | refunded status => exact .inl (by simpa [isOpen, or_assoc] using status)
  | released status => exact .inl (by simpa [isOpen, or_assoc] using status)
  | refundClaimed refunded => exact .inl (by rw [refunded]; rfl)
  | releaseClaimed released => exact .inl (by rw [released]; rfl)
  | same => exact .inr rfl

theorem EscrowChange.of_complete (change : EscrowChange ctx before op after)
    (complete : before.isComplete = true) : after = before := by
  rcases change.open_or_same with active | same
  · simp only [CEscrow.isComplete, Bool.or_eq_true, decide_eq_true_eq] at complete
    rcases complete with complete | complete
    · rw [complete] at active
      exact absurd active (by decide)
    · rw [complete] at active
      exact absurd active (by decide)
  · exact same

theorem floatLt_of_not_floatLe {x y : Float32Bits} (number : floatIsNaN x = false)
    (number' : floatIsNaN y = false) (more : floatLe y x = false) : floatLt x y = true := by
  simp only [floatLe, floatLt, number, number', Bool.not_false, Bool.true_and,
    decide_eq_false_iff_not, decide_eq_true_eq] at more ⊢
  omega

theorem EscrowChange.legal (change : EscrowChange ctx before op after)
    (number : floatIsNaN before.fBidPerUnit = false)
    (bidNumber : op = OP_ESCROW_BID → floatIsNaN ctx.serialized.fBidPerUnit = false)
    (signs : signed ctx.signer = true) : LegalStep signed before after := by
  have atLeast : before.nShipping ≤ before.nShipping := Int64.le_refl _
  have signedBy : ∀ name, ctx.signer = name → signed name = true := fun _ same => same ▸ signs
  cases change with
  | bid active signer amount price =>
    refine ⟨rfl, atLeast, fun _ => ⟨amount, ?_⟩, id, absurd rfl⟩
    exact floatLt_of_not_floatLe number (bidNumber rfl) price
  | shipping active signer more =>
    exact ⟨rfl, Int64.le_of_lt more, absurd rfl, id, absurd rfl⟩
  | acknowledged active signer enough =>
    exact ⟨rfl, atLeast, absurd rfl, fun _ => rfl, absurd rfl⟩
  | refunded status signer =>
    refine ⟨rfl, atLeast, absurd rfl, id, fun _ => ?_⟩
    have active : isOpen before.op = true := by simpa [isOpen, or_assoc] using status
    rcases signer with seller | arbiter
    · exact ⟨.seller, signedBy _ seller, by simp [roleTable, active]⟩
    · exact ⟨.arbiter, signedBy _ arbiter, by simp [roleTable, active]⟩
  | released status signer =>
    refine ⟨rfl, atLeast, absurd rfl, id, fun _ => ?_⟩
    have active : isOpen before.op = true := by simpa [isOpen, or_assoc] using status
    rcases signer with buyer | arbiter
    · exact ⟨.buyer, signedBy _ buyer, by simp [roleTable, active]⟩
    · exact ⟨.arbiter, signedBy _ arbiter, by simp [roleTable, active]⟩
  | refundClaimed refunded signer redeemTxId =>
    refine ⟨rfl, atLeast, absurd rfl, id, fun _ => ?_⟩
    exact ⟨.buyer, signedBy _ signer, by simp [roleTable, refunded]⟩
  | releaseClaimed released signer redeemTxId =>
    refine ⟨rfl, atLeast, absurd rfl, id, fun _ => ?_⟩
    exact ⟨.seller, signedBy _ signer, by simp [roleTable, released]⟩
  | same => exact ⟨rfl, atLeast, absurd rfl, id, absurd rfl⟩

end

/-- An activation of an escrow that has expired is stored under the empty GUID. -/
def ActivatesOther (vchEscrow : Bytes) (ctx : BlockContext) (state : ServiceState)
    (tx : CTransaction) : Prop :=
  serviceCall tx = .escrow OP_ESCROW_ACTIVATE →
    ∀ payload ∈ ctx.env.escrowEnv.unserializeEscrow tx, payload.vchEscrow ≠ vchEscrow ∧
      (vchEscrow = [] → state.escrows.escrows.lookup payload.vchEscrow = none)

instance (vchEscrow : Bytes) (ctx : BlockContext) :
    Decidable (ActivatesOther vchEscrow ctx state tx) :=
  inferInstanceAs (Decidable (_ → ∀ payload ∈ ctx.env.escrowEnv.unserializeEscrow tx, _))

inductive EscrowStep (ctx : BlockContext) (state : ServiceState) (tx : CTransaction)
    (stored : CEscrow) : CEscrow → Prop
  | kept : EscrowStep ctx state tx stored stored
  | changed (aliases : AliasState) (dbOffer : COffer) (payload after : CEscrow) (op : Nat)
      (args : List Bytes) (called : serviceCall tx = .escrow op)
      (signed : (aliasInput ctx.inputs tx).isSome = true)
      (decoded : ctx.env.escrowEnv.unserializeEscrow tx = some payload)
      (offered : state.offers.getOffer aliases ctx.chain stored.vchOffer = some dbOffer)
      (change : EscrowChange ⟨ctx.env.escrowEnv, aliases, state.offers, ctx.chain, dbOffer,
        signingAlias ctx.inputs tx, withWitness args payload⟩
        (withScriptSigs (withWitness args payload) stored) op after) :
      EscrowStep ctx state tx stored (stampedEscrow ctx.env.escrowEnv tx ctx.nHeight after)

theorem serviceTx_escrowStep {stored : CEscrow} (other : ActivatesOther vchEscrow ctx state tx)
    (found : state.escrows.escrows.lookup vchEscrow = some stored) :
    ∃ after, (serviceTx ctx tx state).2.escrows.escrows.lookup vchEscrow = some after ∧
      EscrowStep ctx state tx stored after := by
  rcases (serviceTx_step ctx tx state).escrows with same | ⟨op, called, signed, -, ran⟩
  · exact ⟨stored, by rw [same, found], .kept⟩
  · rw [ran]
    have effect := checkEscrowInputs_spec ctx.env.escrowEnv (serviceTx ctx tx state).2.aliases
      state.offers ctx.chain tx op (((aliasInput ctx.inputs tx).map (·.vvchAliasArgs)).getD [])
      ctx.nHeight state.escrows
    revert effect
    generalize (checkEscrowInputs _ _ _ _ _ _ _ _ _).2.escrows = escrows
    intro effect
    cases effect with
    | none => exact ⟨stored, found, .kept⟩
    | changed payload record after dbOffer decoded notActivate there offered change =>
      have recordNamed : record.vchEscrow = payload.vchEscrow := Table.key_of_lookup there
      have named : after.vchEscrow = payload.vchEscrow := change.named.trans recordNamed
      rw [Table.lookup_write]
      split
      · rename_i same
        cases found.symm.trans ((congrArg _ (same.trans named)).trans there)
        rw [headD_aliasArgs] at change
        exact ⟨_, rfl, .changed _ dbOffer payload after op _ called signed decoded offered change⟩
      · exact ⟨stored, found, .kept⟩
    | activated payload start after dbOffer decoded isActivate begins offered done =>
      obtain ⟨different, whenEmpty⟩ := other (isActivate ▸ called) payload decoded
      have begun := congrArg CEscrow.vchEscrow begins
      obtain ⟨rfl, -⟩ := activatedEscrow_spec done
      rw [Table.lookup_write, if_neg]
      · exact ⟨stored, found, .kept⟩
      · intro same
        have named := same.trans begun
        cases looked : state.escrows.escrows.lookup payload.vchEscrow with
        | none =>
          rw [looked] at named
          exact different named.symm
        | some escrow =>
          rw [looked] at named
          cases live : state.escrows.getEscrow (serviceTx ctx tx state).2.aliases ctx.chain
              payload.vchEscrow with
          | none =>
            rw [live] at named
            cases looked.symm.trans (whenEmpty named)
          | some record =>
            rw [live] at named
            have key : record.vchEscrow = payload.vchEscrow :=
              Table.key_of_lookup (getEscrow_eq_some live)
            exact different (named.trans key).symm

theorem completeEscrow_final (env : ServiceEnv) {node : ServiceNode} {vchEscrow : Bytes}
    {escrow : CEscrow} (found : node.services.escrows.escrows.lookup vchEscrow = some escrow)
    (complete : escrow.isComplete = true) {actions : List NodeAction}
    (allowed : Run.Permitted (.step env) (EveryVisit env (ActivatesOther vchEscrow)) node actions) :
    ∃ after, (Run.run (.step env) node actions).services.escrows.escrows.lookup
      vchEscrow = some after ∧ after.settled = escrow.settled := by
  refine @services_invariant env (ActivatesOther vchEscrow) (fun state => ∃ after,
    state.escrows.escrows.lookup vchEscrow = some after ∧ after.settled = escrow.settled)
    ?_ (fun _ holds => holds) (fun _ _ holds => holds) _ ⟨escrow, found, rfl⟩ _ allowed
  rintro ctx state tx ⟨stored, there, same⟩ other
  obtain ⟨after, lookup, step⟩ := serviceTx_escrowStep other there
  refine ⟨after, lookup, ?_⟩
  cases step with
  | kept => exact same
  | changed aliases dbOffer payload after op args called signed decoded offered change =>
    have stillComplete : stored.isComplete = true := by
      have status : stored.settled.op = escrow.settled.op := congrArg CEscrow.op same
      rw [CEscrow.isComplete, show stored.op = escrow.op from status]
      exact complete
    cases change.of_complete stillComplete
    exact same

def sampleBuyer : Bytes := [0x62]
def sampleSeller : Bytes := [0x73]
def sampleArbiter : Bytes := [0x61]
def sampleOfferName : Bytes := [0x6f]
def sampleEscrowName : Bytes := [0x65]

def sampleOffer : COffer :=
  { COffer.null with
    vchOffer := sampleOfferName, vchAlias := sampleSeller, nQty := 10
    offerType := OFFERTYPE_AUCTION ||| OFFERTYPE_BUYNOW }

def sampleEscrow : CEscrow :=
  { CEscrow.null with
    vchEscrow := sampleEscrowName, vchBuyerAlias := sampleBuyer, vchSellerAlias := sampleSeller
    vchArbiterAlias := sampleArbiter, vchOffer := sampleOfferName, nQty := 1
    nPaymentOption := PAYMENTOPTION_MINR, nAmountOrBidPerUnit := 100, fBidPerUnit := 0x3f800000 }

def sampleMarketPayload (bids : List CEscrow) : UInt8 → Option SamplePayload
  | 0 => some (.alias (sampleAliasRecord sampleBuyer))
  | 1 => some (.alias (sampleAliasRecord sampleSeller))
  | 2 => some (.alias (sampleAliasRecord sampleArbiter))
  | 3 => some (.offer sampleOffer)
  | 4 => some (.escrow sampleEscrow)
  | byte => (bids[byte.toNat - 5]?).map .escrow

def sampleMarketEnv (bids : List CEscrow) : ServiceEnv :=
  sampleServiceEnv (sampleMarketPayload bids)

def sampleMarket : List NodeAction :=
  [sampleAliases 100 [sampleBuyer, sampleSeller, sampleArbiter],
    sampleSigned 200 sampleSeller .offer 1 3, sampleSigned 300 sampleBuyer .escrow 1 4]

def sampleSale : List NodeAction :=
  sampleMarket ++ [sampleSigned 400 sampleBuyer .escrow 2 4, sampleSigned 500 sampleSeller .escrow
    5 4]

def sampleStored (bids : List CEscrow) (actions : List NodeAction) : CEscrow :=
  ((sampleNode (sampleMarketEnv bids) actions).services.escrows.escrows.lookup
    sampleEscrowName).getD CEscrow.null

theorem completeEscrow_final_sample :
    ∃ after, (Run.run (.step (sampleMarketEnv [])) (sampleNode (sampleMarketEnv []) sampleSale)
        [sampleSigned 600 sampleArbiter .escrow 3 4]).services.escrows.escrows.lookup
      sampleEscrowName = some after ∧ after.settled = (sampleStored [] sampleSale).settled :=
  completeEscrow_final (sampleMarketEnv []) (by decide) (by decide) (by decide)

theorem activation_reopens_escrow :
    (sampleStored [] sampleSale).op = ofNat OP_ESCROW_RELEASE_COMPLETE ∧
      (sampleStored [] (sampleSale ++ [sampleSigned 600 sampleBuyer .escrow 1 4])).op =
        ofNat OP_ESCROW_ACTIVATE := by
  decide

/-- It is no further activation, a bid is a number, and the alias that signs an escrow is spent. -/
@[mk_iff]
structure BidsNumbers (vchEscrow : Bytes) (ctx : BlockContext) (state : ServiceState)
    (tx : CTransaction) : Prop where
  other : ActivatesOther vchEscrow ctx state tx
  number : serviceCall tx = .escrow OP_ESCROW_BID →
    ∀ payload ∈ ctx.env.escrowEnv.unserializeEscrow tx, floatIsNaN payload.fBidPerUnit = false
  spent : (serviceCall tx).entry.map Prod.fst = some .escrow → AliasSpent ctx.inputs tx

instance (vchEscrow : Bytes) (ctx : BlockContext) :
    Decidable (BidsNumbers vchEscrow ctx state tx) :=
  decidable_of_iff _ (bidsNumbers_iff ..).symm

theorem EscrowStep.legal {before after : CEscrow}
    (step : EscrowStep ctx state tx before after) (permitted : BidsNumbers vchEscrow ctx state tx)
    (number : floatIsNaN before.fBidPerUnit = false) :
    LegalStep (spendsAlias ctx.inputs tx) before after := by
  cases step with
  | kept =>
    exact ⟨rfl, Int64.le_refl _, absurd rfl, id, absurd rfl⟩
  | changed aliases dbOffer payload after op args called signed decoded offered change =>
    have legal := change.legal number (fun isBid => permitted.number (isBid ▸ called) payload
      decoded)
      (spends_signingAlias signed (permitted.spent (by rw [called]; rfl)))
    exact { legal with }

theorem LegalStep.number {before after : CEscrow}
    (legal : LegalStep signed before after) (number : floatIsNaN before.fBidPerUnit = false) :
    floatIsNaN after.fBidPerUnit = false := by
  by_cases moved : after.fBidPerUnit = before.fBidPerUnit
  · rw [moved]
    exact number
  · have larger := (legal.bid fun same => moved (congrArg Prod.snd same)).2
    simp only [floatLt, Bool.and_eq_true, Bool.not_eq_true'] at larger
    exact larger.1.2

section

variable {env : ServiceEnv} {vchEscrow : Bytes} {escrow : CEscrow}

def EscrowHeld (vchEscrow : Bytes) (escrow : CEscrow) (state : ServiceState) : Prop :=
  ∃ stored, state.escrows.escrows.lookup vchEscrow = some stored ∧ stored.terms = escrow.terms ∧
    floatIsNaN stored.fBidPerUnit = false

section

variable (held : EscrowHeld vchEscrow escrow state) (permitted : BidsNumbers vchEscrow ctx state tx)
include held permitted

theorem escrowHeld_step : ∃ before after, state.escrows.escrows.lookup vchEscrow = some before ∧
      (serviceTx ctx tx state).2.escrows.escrows.lookup vchEscrow = some after ∧
      before.terms = escrow.terms ∧ floatIsNaN after.fBidPerUnit = false ∧
      LegalStep (spendsAlias ctx.inputs tx) before after := by
  obtain ⟨before, there, same, number⟩ := held
  obtain ⟨after, lookup, step⟩ := serviceTx_escrowStep permitted.other there
  have legal := step.legal permitted number
  exact ⟨before, after, there, lookup, same, legal.number number, legal⟩

theorem escrowHeld_kept : EscrowHeld vchEscrow escrow (serviceTx ctx tx state).2 := by
  obtain ⟨before, after, -, lookup, same, number, legal⟩ := escrowHeld_step held permitted
  exact ⟨after, lookup, legal.terms.trans same, number⟩

end

theorem escrow_steps_legal {node : ServiceNode}
    (found : node.services.escrows.escrows.lookup vchEscrow = some escrow)
    (number : floatIsNaN escrow.fBidPerUnit = false) {actions : List NodeAction}
    (allowed : Run.Permitted (.step env) (EveryVisit env (BidsNumbers vchEscrow))
      node actions) {block : ServiceBlock}
    (next : EveryVisit env (BidsNumbers vchEscrow) (Run.run (.step env) node actions)
      (.connect block)) : ∀ visit ∈ (Run.run (.step env) node actions).visits env block,
      ∃ before after, visit.1.escrows.escrows.lookup vchEscrow = some before ∧
        ((Run.run (.step env) node actions).afterVisit env block
          visit).escrows.escrows.lookup vchEscrow = some after ∧
        before.terms = escrow.terms ∧
        LegalStep (spendsAlias block.inputs visit.2) before after := by
  have held : EscrowHeld vchEscrow escrow (Run.run (.step env) node actions).services :=
    services_invariant (fun _ _ _ => escrowHeld_kept) (fun _ holds => holds)
      (fun _ _ holds => holds) ⟨escrow, found, rfl, number⟩ allowed
  intro visit visited
  have now : EscrowHeld vchEscrow escrow visit.1 := by
    refine (Loop.invariant (EscrowHeld vchEscrow escrow) ?_ ?_).2 visit visited
    · exact held
    · exact fun later seen holds => escrowHeld_kept holds (next later seen)
  obtain ⟨before, after, there, lookup, same, -, legal⟩ := escrowHeld_step now (next visit visited)
  exact ⟨before, after, there, lookup, same, legal⟩

end

def sampleBid (nAmountOrBidPerUnit : CAmount) (fBidPerUnit : Float32Bits) : CEscrow :=
  { sampleEscrow with nAmountOrBidPerUnit, fBidPerUnit }

def sampleBidEnv : ServiceEnv := sampleMarketEnv [sampleBid 200 0x40000000]

def sampleAcknowledged : ServiceNode :=
  Run.run (.step sampleBidEnv) (sampleNode sampleBidEnv sampleMarket)
    [sampleSigned 400 sampleSeller .escrow 7 4]

theorem escrow_steps_legal_sample : let block := sampleSignedBlock 500 sampleBuyer .escrow 6 5
    (sampleAcknowledged.visits sampleBidEnv block).length = 2 ∧
      ∀ visit ∈ sampleAcknowledged.visits sampleBidEnv block,
        ∃ before after, visit.1.escrows.escrows.lookup sampleEscrowName = some before ∧
          (sampleAcknowledged.afterVisit sampleBidEnv block visit).escrows.escrows.lookup
            sampleEscrowName = some after ∧
          before.terms = (sampleStored [sampleBid 200 0x40000000] sampleMarket).terms ∧
          LegalStep (spendsAlias block.inputs visit.2) before after :=
  ⟨by decide, escrow_steps_legal (by decide) (by decide)
    (by decide : Run.Permitted (.step sampleBidEnv)
      (EveryVisit sampleBidEnv (BidsNumbers sampleEscrowName)) (sampleNode sampleBidEnv
        sampleMarket)
      [sampleSigned 400 sampleSeller .escrow 7 4]) (by decide)⟩

theorem bids_fall_after_nan :
    (sampleStored [sampleBid 200 0x7fc00000, sampleBid 300 0x3f000000] sampleMarket).fBidPerUnit =
        0x3f800000 ∧
      (sampleStored [sampleBid 200 0x7fc00000, sampleBid 300 0x3f000000] (sampleMarket ++
        [sampleSigned 400 sampleBuyer .escrow 6 5])).fBidPerUnit = 0x7fc00000 ∧
      (sampleStored [sampleBid 200 0x7fc00000, sampleBid 300 0x3f000000] (sampleMarket ++
        [sampleSigned 400 sampleBuyer .escrow 6 5,
          sampleSigned 500 sampleBuyer .escrow 6 6])).fBidPerUnit = 0x3f000000 ∧
      floatLt 0x3f000000 0x3f800000 = true := by
  decide

end Minerium
