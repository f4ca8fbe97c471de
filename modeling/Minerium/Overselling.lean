import Minerium.EscrowRun
import Minerium.OfferOwnership

/-! The quantity of an offer and of the escrows for it. -/

namespace Minerium

open FinmapTotal ServiceState

variable {vchEscrow signer : Bytes} {escrow stored : CEscrow} {quantity : UInt32}

section

variable (start : EscrowState) (vchOffer : Bytes)

def isSale (vchEscrow : Bytes) (escrow : CEscrow) : Bool :=
  (start.escrows.lookup vchEscrow).isNone && decide (escrow.vchOffer = vchOffer)

def soldBy (vchEscrow : Bytes) (escrow : CEscrow) : Int :=
  if isSale start vchOffer vchEscrow escrow && escrow.bPaymentAck then escrow.nQty.toNat else 0

def soldQty (state : EscrowState) : Int :=
  total (soldBy start vchOffer) state.escrows.map

end

section

variable {start : EscrowState} {vchOffer : Bytes}

theorem soldBy_nonneg : 0 ≤ soldBy start vchOffer vchEscrow escrow := by
  rw [soldBy]
  split
  · exact Int.natCast_nonneg _
  · exact le_refl 0

theorem soldBy_le {bound : Int} (nonneg : 0 ≤ bound)
    (fits : isSale start vchOffer vchEscrow escrow = true → escrow.bPaymentAck = true →
      (escrow.nQty.toNat : Int) ≤ bound) : soldBy start vchOffer vchEscrow escrow ≤ bound := by
  rw [soldBy]
  split
  · rename_i sold
    rw [Bool.and_eq_true] at sold
    exact fits sold.1 sold.2
  · exact nonneg

def soldAt (start : EscrowState) (vchOffer : Bytes) (state : EscrowState) (vchEscrow : Bytes) :
    Int := weightAt (soldBy start vchOffer) state.escrows.map vchEscrow

theorem soldAt_of_lookup {state : EscrowState}
    (found : state.escrows.lookup vchEscrow = some escrow) :
    soldAt start vchOffer state vchEscrow = soldBy start vchOffer vchEscrow escrow := by
  rw [soldAt, weightAt, show state.escrows.map.lookup vchEscrow = some escrow from found]
  rfl

theorem soldAt_nonneg (state : EscrowState) (vchEscrow : Bytes) :
    0 ≤ soldAt start vchOffer state vchEscrow := by
  rw [soldAt, weightAt]
  cases state.escrows.map.lookup vchEscrow with
  | none => exact le_refl 0
  | some escrow => exact soldBy_nonneg

end

section

variable (start : EscrowState) (vchOffer : Bytes) (nQty : Int32)

/-- The offer has the quantity `nQty`, and no sale since `start` counts yet. -/
def Unsold (state : ServiceState) : Prop :=
  (state.offers.lastOffers.lookup vchOffer).map (·.nQty) = some nQty ∧
    soldQty start vchOffer state.escrows = 0

/-- A sale that the transaction makes count, by an acknowledgement or an activation with the flag
set, is the first. -/
@[mk_iff]
structure FirstSale (ctx : BlockContext) (state : ServiceState) (tx : CTransaction) : Prop where
  acknowledge : serviceCall tx = .escrow OP_ESCROW_ACKNOWLEDGE →
    ∀ payload ∈ ctx.env.escrowEnv.unserializeEscrow tx,
      ∀ stored ∈ state.escrows.escrows.lookup payload.vchEscrow,
        isSale start vchOffer payload.vchEscrow stored = true → stored.bPaymentAck = false →
        Unsold start vchOffer nQty state
  activate : serviceCall tx = .escrow OP_ESCROW_ACTIVATE →
    ∀ payload ∈ ctx.env.escrowEnv.unserializeEscrow tx,
      state.escrows.escrows.lookup payload.vchEscrow = none →
      isSale start vchOffer payload.vchEscrow payload = true → payload.bPaymentAck = true →
      Unsold start vchOffer nQty state

end

instance (nQty : Int32) (state : ServiceState) : Decidable (Unsold start vchOffer nQty state) :=
  inferInstanceAs (Decidable (_ ∧ _))

instance (nQty : Int32) (state : ServiceState) (ctx : BlockContext) (tx : CTransaction) :
    Decidable (FirstSale start vchOffer nQty ctx state tx) :=
  decidable_of_iff _ (firstSale_iff ..).symm

structure NotOversold (start : EscrowState) (vchOffer : Bytes) (nQty : Int32)
    (state : EscrowState) : Prop where
  positive : ∀ vchEscrow escrow, state.escrows.lookup vchEscrow = some escrow →
    start.escrows.lookup vchEscrow = none → escrow.nQty ≠ 0
  sold : soldQty start vchOffer state ≤ nQty.toInt

section

variable {start state : EscrowState} {vchOffer : Bytes} {nQty : Int32}

theorem NotOversold.write (holds : NotOversold start vchOffer nQty state) (record : CEscrow)
    (positive : start.escrows.lookup record.vchEscrow = none → record.nQty ≠ 0)
    (fits : soldBy start vchOffer record.vchEscrow record ≤ soldAt start vchOffer state
      record.vchEscrow ∨ soldQty start vchOffer state + soldBy start vchOffer record.vchEscrow
      record ≤ nQty.toInt) (extTxIds : List Uint256) :
    NotOversold start vchOffer nQty ⟨state.escrows.write record, extTxIds⟩ := by
  refine ⟨fun vchEscrow escrow found fresh => ?_, ?_⟩
  · rw [Table.lookup_write] at found
    split at found
    · rename_i same
      cases found
      exact positive (same ▸ fresh)
    · exact holds.positive vchEscrow escrow found fresh
  · have summed := total_insert_eq (soldBy start vchOffer) state.escrows.map record.vchEscrow record
    have before := holds.sold
    have old := @soldAt_nonneg start vchOffer state record.vchEscrow
    simp only [soldQty, soldAt] at before old fits ⊢
    change total _ (state.escrows.map.insert record.vchEscrow record) ≤ _
    omega

theorem qty_le_of_not_exceeds (finite : 0 ≤ nQty.toInt)
    (enough : exceedsQty quantity nQty = false) : (quantity.toNat : Int) ≤ nQty.toInt := by
  have limited : nQty ≠ -1 := by
    rintro rfl
    exact absurd finite (by decide)
  rw [exceedsQty, decide_eq_true limited, Bool.true_and, decide_eq_false_iff_not,
    UInt32.lt_iff_toNat_lt] at enough
  have unsigned : nQty.toUInt32.toNat = nQty.toBitVec.toNat := rfl
  have signed : nQty.toInt = nQty.toBitVec.toInt := rfl
  have cases := BitVec.toInt_eq_toNat_cond nQty.toBitVec
  rw [signed] at finite ⊢
  split at cases
  · omega
  · omega

end

theorem EscrowChange.sale {ctx : EscrowContext} {before after : CEscrow} {op : Nat}
    (change : EscrowChange ctx before op after) :
    after.vchEscrow = before.vchEscrow ∧ after.vchOffer = before.vchOffer ∧
      after.nQty = before.nQty ∧
      (after.bPaymentAck = before.bPaymentAck ∨ op = OP_ESCROW_ACKNOWLEDGE ∧ exceedsQty before.nQty
          (((ctx.getOffer ctx.dbOffer.vchOffer).map (·.nQty)).getD ctx.dbOffer.nQty) = false) := by
  cases change with
  | acknowledged active signed enough => exact ⟨rfl, rfl, rfl, .inr ⟨rfl, enough⟩⟩
  | bid | shipping | refunded | released | refundClaimed | releaseClaimed | same =>
    exact ⟨rfl, rfl, rfl, .inl rfl⟩

section

variable {start : EscrowState} {vchOffer : Bytes} {nQty : Int32} {state : ServiceState}
  {ctx : BlockContext} {tx : CTransaction} {aliases : AliasState} {args : List Bytes}
  {payload : CEscrow} {dbOffer : COffer}

theorem isSale_eq_true : isSale start vchOffer vchEscrow escrow = true ↔
      start.escrows.lookup vchEscrow = none ∧ escrow.vchOffer = vchOffer := by
  rw [isSale, Bool.and_eq_true, Option.isNone_iff_eq_none, decide_eq_true_eq]

theorem Unsold.qty (unsold : Unsold start vchOffer nQty state)
    (offered : state.offers.getOffer aliases ctx.chain vchOffer = some dbOffer) :
    dbOffer.nQty = nQty := by
  have found := unsold.1
  rw [getOffer_eq_some offered] at found
  exact Option.some.inj found

theorem changed_notOversold (finite : 0 ≤ nQty.toInt)
    (holds : NotOversold start vchOffer nQty state.escrows)
    (first : FirstSale start vchOffer nQty ctx state tx) {op : Nat}
    (called : serviceCall tx = .escrow op)
    (decoded : ctx.env.escrowEnv.unserializeEscrow tx = some payload) {after : CEscrow}
    (found : state.escrows.escrows.lookup payload.vchEscrow = some stored)
    (offered : state.offers.getOffer aliases ctx.chain stored.vchOffer = some dbOffer)
    (change : EscrowChange ⟨ctx.env.escrowEnv, aliases, state.offers, ctx.chain, dbOffer, signer,
      withWitness args payload⟩ (withScriptSigs (withWitness args payload) stored) op after)
    (extTxIds : List Uint256) : NotOversold start vchOffer nQty ⟨state.escrows.escrows.write
      (stampedEscrow ctx.env.escrowEnv tx ctx.nHeight after), extTxIds⟩ := by
  obtain ⟨named, sameOffer, sameQty, acknowledged⟩ := change.sale
  have key : after.vchEscrow = payload.vchEscrow :=
    named.trans (Table.key_of_lookup found : stored.vchEscrow = payload.vchEscrow)
  have qty : after.nQty = stored.nQty := sameQty
  have sale : ∀ vchEscrow, isSale start vchOffer vchEscrow
      (stampedEscrow ctx.env.escrowEnv tx ctx.nHeight after) =
        isSale start vchOffer vchEscrow stored := by
    intro vchEscrow
    rw [isSale, isSale]
    exact congrArg (fun name => _ && decide (name = vchOffer)) sameOffer
  refine holds.write _ (fun fresh => ?_) ?_ extTxIds
  · rw [show (stampedEscrow ctx.env.escrowEnv tx ctx.nHeight after).nQty = stored.nQty from qty]
    exact holds.positive _ stored found (key ▸ fresh)
  · rw [show (stampedEscrow ctx.env.escrowEnv tx ctx.nHeight after).vchEscrow =
      payload.vchEscrow from key, soldAt_of_lookup found]
    by_cases isNew : isSale start vchOffer payload.vchEscrow stored = true ∧
        stored.bPaymentAck = false
    · obtain ⟨isNamed, unacknowledged⟩ := isNew
      rcases acknowledged with sameAck | ⟨isAcknowledge, enough⟩
      · refine .inl (soldBy_le soldBy_nonneg fun _ ack => ?_)
        cases ack.symm.trans (sameAck.trans unacknowledged)
      · have forOffer : stored.vchOffer = vchOffer := (isSale_eq_true.mp isNamed).2
        have same : dbOffer.vchOffer = stored.vchOffer :=
          Table.key_of_lookup (getOffer_eq_some offered)
        have unsold := first.acknowledge (isAcknowledge ▸ called) payload decoded stored found
          isNamed unacknowledged
        rw [EscrowContext.getOffer, same, offered, Option.map_some, Option.getD_some,
          unsold.qty (forOffer ▸ offered)] at enough
        have checked : (stored.nQty.toNat : Int) ≤ nQty.toInt := qty_le_of_not_exceeds finite enough
        have none := unsold.2
        have atMost : soldBy start vchOffer payload.vchEscrow
            (stampedEscrow ctx.env.escrowEnv tx ctx.nHeight after) ≤ stored.nQty.toNat :=
          soldBy_le (Int.natCast_nonneg _) fun _ _ => le_of_eq (congrArg _ (congrArg _ qty))
        exact .inr (by omega)
    · refine .inl (soldBy_le soldBy_nonneg fun isRecord _ => ?_)
      rw [sale] at isRecord
      have already : stored.bPaymentAck = true := by
        by_contra unacknowledged
        exact isNew ⟨isRecord, Bool.eq_false_iff.mpr unacknowledged⟩
      rw [soldBy, isRecord, already]
      exact le_of_eq (congrArg _ (congrArg _ qty))

variable (finite : 0 ≤ nQty.toInt) (holds : NotOversold start vchOffer nQty state.escrows)
  (first : FirstSale start vchOffer nQty ctx state tx)
include finite holds first

theorem begun_fits (called : serviceCall tx = .escrow OP_ESCROW_ACTIVATE)
    (decoded : ctx.env.escrowEnv.unserializeEscrow tx = some payload) {begun record : CEscrow}
    (begins : begun = startingEscrow (withWitness args payload) (state.escrows.escrows.lookup
      payload.vchEscrow) (state.escrows.getEscrow aliases ctx.chain payload.vchEscrow))
    (offered : state.offers.getOffer aliases ctx.chain begun.vchOffer = some dbOffer)
    (key : record.vchEscrow = begun.vchEscrow) (offer : record.vchOffer = begun.vchOffer)
    (ack : record.bPaymentAck = begun.bPaymentAck)
    (qty : record.nQty = if begun.nQty = 0 then 1 else begun.nQty)
    (enough : exceedsQty record.nQty dbOffer.nQty = false) :
    soldBy start vchOffer record.vchEscrow record ≤
        soldAt start vchOffer state.escrows record.vchEscrow ∨
      soldQty start vchOffer state.escrows + soldBy start vchOffer record.vchEscrow record ≤
        nQty.toInt := by
  cases stored : state.escrows.escrows.lookup payload.vchEscrow with
  | none =>
    have isPayload : begun = withWitness args payload := by rw [begins, stored, startingEscrow]
    have recordKey : record.vchEscrow = payload.vchEscrow := by rw [key, isPayload]; rfl
    have recordOffer : record.vchOffer = payload.vchOffer := by rw [offer, isPayload]; rfl
    have recordAck : record.bPaymentAck = payload.bPaymentAck := by rw [ack, isPayload]; rfl
    by_cases counted : isSale start vchOffer payload.vchEscrow payload = true ∧
        payload.bPaymentAck = true
    · have forOffer : begun.vchOffer = vchOffer :=
        offer.symm.trans (recordOffer.trans (isSale_eq_true.mp counted.1).2)
      have unsold := first.activate called payload decoded stored counted.1 counted.2
      rw [unsold.qty (forOffer ▸ offered)] at enough
      have checked := qty_le_of_not_exceeds finite enough
      have none := unsold.2
      have atMost : soldBy start vchOffer record.vchEscrow record ≤ record.nQty.toNat :=
        soldBy_le (Int.natCast_nonneg _) fun _ _ => le_refl _
      exact .inr (by omega)
    · refine .inl (soldBy_le (soldAt_nonneg _ _) fun isRecord acknowledged => absurd ?_ counted)
      obtain ⟨fresh, forOffer⟩ := isSale_eq_true.mp isRecord
      exact ⟨isSale_eq_true.mpr ⟨recordKey ▸ fresh, recordOffer ▸ forOffer⟩,
        recordAck ▸ acknowledged⟩
  | some escrow =>
    have storedKey : escrow.vchEscrow = payload.vchEscrow := Table.key_of_lookup stored
    cases found : state.escrows.getEscrow aliases ctx.chain payload.vchEscrow with
    | none =>
      have isNull : begun = .null := by rw [begins, stored, found]; rfl
      refine .inl (soldBy_le (soldAt_nonneg _ _) fun _ acknowledged => ?_)
      rw [ack, isNull] at acknowledged
      cases acknowledged
    | some again =>
      cases stored.symm.trans (getEscrow_eq_some found)
      have isStored : begun = escrow := by rw [begins, startingEscrow_of_found found stored]
      have recordKey : record.vchEscrow = payload.vchEscrow := by rw [key, isStored, storedKey]
      rw [recordKey, soldAt_of_lookup stored]
      refine .inl (soldBy_le soldBy_nonneg fun isRecord acknowledged => ?_)
      obtain ⟨fresh, forOffer⟩ := isSale_eq_true.mp isRecord
      have positive := holds.positive _ escrow stored fresh
      rw [qty, isStored, if_neg positive, soldBy,
        isSale_eq_true.mpr ⟨fresh, isStored ▸ offer ▸ forOffer⟩,
        ← isStored, ← ack, acknowledged]
      exact le_refl _

theorem serviceTx_notOversold :
    NotOversold start vchOffer nQty (serviceTx ctx tx state).2.escrows := by
  rcases (serviceTx_step ctx tx state).escrows with same | ⟨op, called, signed, -, ran⟩
  · rw [same]
    exact holds
  · have effect := checkEscrowInputs_spec ctx.env.escrowEnv (serviceTx ctx tx state).2.aliases
      state.offers ctx.chain tx op (((aliasInput ctx.inputs tx).map (·.vvchAliasArgs)).getD [])
      ctx.nHeight state.escrows
    rw [← ran] at effect
    generalize (serviceTx ctx tx state).2.escrows = after at effect
    obtain ⟨escrows, extTxIds⟩ := after
    cases effect with
    | none => exact ⟨holds.positive, holds.sold⟩
    | changed payload stored after dbOffer decoded notActivate found offered change =>
      exact changed_notOversold finite holds first called decoded found offered change extTxIds
    | activated payload begun after dbOffer decoded isActivate begins offered done =>
      obtain ⟨rfl, enough⟩ := activatedEscrow_spec done
      have named : dbOffer.vchOffer = begun.vchOffer :=
        Table.key_of_lookup (getOffer_eq_some offered)
      refine holds.write _ (fun _ => ?_) ?_ extTxIds
      · simp only [stampedEscrow]
        split
        · decide
        · assumption
      · exact begun_fits finite holds first (isActivate ▸ called) decoded begins offered rfl named
          rfl rfl enough

end

theorem not_oversold (env : ServiceEnv) {node : ServiceNode} {vchOffer : Bytes} {nQty : Int32}
    (finite : 0 ≤ nQty.toInt) {actions : List NodeAction}
    (first : Run.Permitted (.step env)
      (EveryVisit env (FirstSale node.services.escrows vchOffer nQty)) node actions) :
    soldQty node.services.escrows vchOffer (Run.run (.step env) node actions).services.escrows ≤
      nQty.toInt := by
  refine NotOversold.sold (@services_invariant env _
    (fun state => NotOversold node.services.escrows vchOffer nQty state.escrows)
    (fun _ _ _ holds first => serviceTx_notOversold finite holds first) (fun _ holds => holds)
    (fun _ _ holds => holds) _ ?_ _ first)
  refine ⟨fun vchEscrow escrow found fresh => ?_, ?_⟩
  · cases found.symm.trans fresh
  · rw [soldQty, total_eq_zero]
    · exact finite
    · intro vchEscrow escrow found
      have there : node.services.escrows.escrows.lookup vchEscrow = some escrow := found
      rw [soldBy, isSale, there]
      rfl

def sampleBulk (vchEscrow : Bytes) : CEscrow :=
  { sampleEscrow with vchEscrow := vchEscrow, nQty := 10 }

def sampleBulkEnv : ServiceEnv := sampleMarketEnv [sampleBulk [0x65], sampleBulk [0x66]]

def sampleBulkNode : ServiceNode :=
  sampleNode sampleBulkEnv [sampleAliases 100 [sampleBuyer, sampleSeller, sampleArbiter],
      sampleSigned 200 sampleSeller .offer 1 3]

def sampleSales : List NodeAction :=
  [sampleSigned 300 sampleBuyer .escrow 1 5, sampleSigned 400 sampleSeller .escrow 7 5,
    sampleSigned 500 sampleBuyer .escrow 1 6, sampleSigned 600 sampleSeller .escrow 7 6]

theorem not_oversold_sample :
    soldQty sampleBulkNode.services.escrows sampleOfferName (Run.run (.step sampleBulkEnv)
      sampleBulkNode (sampleSales.take 3)).services.escrows ≤ (10 : Int32).toInt :=
  not_oversold sampleBulkEnv (by decide) (by decide : Run.Permitted (.step sampleBulkEnv)
    (EveryVisit sampleBulkEnv (FirstSale sampleBulkNode.services.escrows sampleOfferName 10))
    sampleBulkNode (sampleSales.take 3))

theorem offer_oversold :
    (sampleBulkNode.services.offers.lastOffers.lookup sampleOfferName).map (·.nQty) = some 10 ∧
      ((Run.run (.step sampleBulkEnv) sampleBulkNode
        sampleSales).services.offers.lastOffers.lookup sampleOfferName).map (·.nQty) = some 10 ∧
      soldQty sampleBulkNode.services.escrows sampleOfferName
        (Run.run (.step sampleBulkEnv) sampleBulkNode sampleSales).services.escrows = 20 := by
  decide

end Minerium
