import Minerium.ServiceRun

/-! Who owns an offer and what it may link to. A link is set once, at the activation. -/

namespace Minerium

open Procedure (wp wp_bind wp_final wp_modify wp_orStop wp_pure wp_read wp_require)

variable {post : COffer → OfferState → Prop} {stopped : CheckStop → OfferState → Prop}
  {payload : COffer} {before after state : OfferState} {vchOffer k : Bytes} {aliases : AliasState}
  {chain : ActiveChain}

theorem revertOffer_lastOffers (vchOffer : Bytes) (state : OfferState) (k : Bytes) :
    (revertOffer vchOffer state).lastOffers.lookup k = state.lastOffers.lookup k := by
  rw [revertOffer]
  split
  · rfl
  · cases stored : state.lastOffers.lookup vchOffer with
    | some dbOffer => exact Table.lookup_write_stored stored
    | none => exact Table.lookup_erase_missing stored

theorem getOffer_congr {other : OfferState} (aliases : AliasState) (chain : ActiveChain)
    (same : state.lastOffers.lookup vchOffer = other.lastOffers.lookup vchOffer) :
    state.getOffer aliases chain vchOffer = other.getOffer aliases chain vchOffer := by
  rw [OfferState.getOffer, OfferState.getOffer, same]

theorem getOffer_eq_some
    {offer : COffer} (found : state.getOffer aliases chain vchOffer = some offer) :
    state.lastOffers.lookup vchOffer = some offer :=
  (Option.filter_eq_some_iff.mp found).1

def LinkSound (state : OfferState) (offer : COffer) : Prop :=
  offer.vchLinkOffer = [] ∨
    ∃ parent, state.lastOffers.lookup offer.vchLinkOffer = some parent ∧ parent.vchLinkOffer = []

inductive OfferEffect (env : OfferEnv) (aliases : AliasState) (chain : ActiveChain)
    (tx : CTransaction) (op : Nat) (vchAlias : Bytes) (before after : OfferState) : Prop
  | kept (same : ∀ k, after.lastOffers.lookup k = before.lastOffers.lookup k)
  | updated (payload dbOffer record : COffer) (decoded : env.unserializeOffer tx = some payload)
      (isUpdate : op = OP_OFFER_UPDATE)
      (found : before.getOffer aliases chain payload.vchOffer = some dbOffer)
      (owner : dbOffer.vchAlias = vchAlias) (link : record.vchLinkOffer = dbOffer.vchLinkOffer)
      (written : ∀ k, after.lastOffers.lookup k =
        if k = payload.vchOffer then some record else before.lastOffers.lookup k)
  | activated (payload record : COffer) (decoded : env.unserializeOffer tx = some payload)
      (notUpdate : op ≠ OP_OFFER_UPDATE) (owner : payload.vchAlias = vchAlias)
      (missing : before.getOffer aliases chain payload.vchOffer = none)
      (link : LinkSound before record)
      (linkNamed : record.vchLinkOffer =
        (clearIfStored payload (before.lastOffers.lookup payload.vchOffer)).vchLinkOffer)
      (named : record.vchOffer =
        (clearIfStored payload (before.lastOffers.lookup payload.vchOffer)).vchOffer)
      (written : ∀ k, after.lastOffers.lookup k =
        if k = record.vchOffer then some record else before.lastOffers.lookup k)

section

variable (env : OfferEnv) (aliases : AliasState) (chain : ActiveChain) (tx : CTransaction)
  (op : Nat) (vchAlias : Bytes) (nHeight : Nat) {theOffer : COffer}

theorem wp_requireAuction {post : Unit → OfferState → Prop}
    {dbOffer : COffer} (value : post () state) (stops : ∀ e, stopped e state) :
    wp (requireAuction chain dbOffer theOffer) post stopped state := by
  rw [requireAuction]
  split
  · simp only [requireAuctionKept, wp_bind, wp_require]
    exact ⟨fun _ => ⟨fun _ => ⟨fun _ => ⟨fun _ => value, fun _ => stops _⟩, fun _ => stops _⟩,
      fun _ => stops _⟩, fun _ => stops _⟩
  · exact value

theorem wp_refreshLinked
    (value : ∀ linked : COffer, linked.vchOffer = theOffer.vchOffer → linked.vchLinkOffer =
      theOffer.vchLinkOffer → post linked state) (stops : ∀ e, stopped e state) :
    wp (refreshLinked aliases chain theOffer) post stopped state := by
  rw [refreshLinked]
  split
  · exact value _ rfl rfl
  · simp only [refreshParent, wp_bind, wp_read, wp_orStop, wp_pure]
    exact ⟨fun _ _ => value _ rfl rfl, fun _ => stops _⟩

theorem wp_linkIfNamed
    (value : ∀ linked : COffer, linked.vchOffer = theOffer.vchOffer → linked.vchLinkOffer =
      theOffer.vchLinkOffer → LinkSound state linked → post linked state)
    (stops : ∀ e, stopped e state) :
    wp (linkIfNamed aliases chain vchAlias theOffer) post stopped state := by
  rw [linkIfNamed]
  split
  · rename_i empty
    exact value _ rfl rfl (.inl (List.isEmpty_iff.mp empty))
  · simp only [linkToParent, requireAffiliate, wp_bind, wp_read, wp_orStop, wp_require, wp_pure]
    refine ⟨fun parent found => ⟨fun _ _ => ⟨fun _ _ => ⟨fun _ => ⟨fun unlinked => ⟨fun _ => ?_,
      fun _ => stops _⟩, fun _ => stops _⟩, fun _ => stops _⟩, fun _ => stops _⟩,
      fun _ => stops _⟩, fun _ => stops _⟩
    exact value _ rfl rfl (.inr ⟨parent, getOffer_eq_some found, List.isEmpty_iff.mp unlinked⟩)

theorem runOfferOp_spec (decoded : env.unserializeOffer tx = some payload)
    (same : ∀ k, state.lastOffers.lookup k = before.lastOffers.lookup k) :
    wp (runOfferOp writeOffer env aliases chain tx op vchAlias nHeight payload)
      (fun _ => OfferEffect env aliases chain tx op vchAlias before)
      (fun _ => OfferEffect env aliases chain tx op vchAlias before) state := by
  have unchanged : OfferEffect env aliases chain tx op vchAlias before state := .kept same
  have written : ∀ (record : COffer) k, (writeOffer record state).lastOffers.lookup k =
      if k = record.vchOffer then some record else before.lastOffers.lookup k := by
    intro record k
    rw [← same k]
    exact Table.lookup_write _ _ _
  rw [runOfferOp]
  split
  · rename_i isUpdate
    simp only [offerUpdate, wp_bind, wp_read, wp_orStop, wp_require, wp_modify]
    refine ⟨fun dbOffer found => ⟨fun owner => ?_, fun _ => unchanged⟩, fun _ => unchanged⟩
    rw [getOffer_congr aliases chain (same payload.vchOffer)] at found
    refine wp_requireAuction chain (wp_refreshLinked aliases chain ?_ fun _ => unchanged)
      fun _ => unchanged
    intro linked named link
    refine .updated payload dbOffer (stampedOffer env tx nHeight linked) decoded isUpdate found
      (of_decide_eq_true owner) link fun k => ?_
    rw [written]
    simp only [stampedOffer, named]
    rfl
  · rename_i notUpdate
    simp only [offerActivate, wp_bind, wp_read, wp_require, wp_modify]
    refine ⟨fun owner => ⟨fun missing => ?_, fun _ => unchanged⟩, fun _ => unchanged⟩
    rw [getOffer_congr aliases chain (same payload.vchOffer), Option.isNone_iff_eq_none] at missing
    rw [same]
    refine wp_linkIfNamed aliases chain vchAlias (fun linked named linkNamed link => ?_)
      fun _ => unchanged
    refine .activated payload (stampedOffer env tx nHeight linked) decoded notUpdate
      (of_decide_eq_true owner) missing ?_ linkNamed named fun k => written _ k
    rcases link with empty | ⟨parent, stored, unlinked⟩
    · exact .inl empty
    · exact .inr ⟨parent, (same _).symm.trans stored, unlinked⟩

theorem checkOfferInputs_spec : OfferEffect env aliases chain tx op vchAlias state
      (checkOfferInputs env aliases chain tx op vchAlias nHeight state).2 := by
  refine @wp_final OfferState CheckStop Unit _ _ (fun after =>
    OfferEffect env aliases chain tx op vchAlias state after) ?_
  rw [checkOfferInputs]
  split
  · exact .kept fun _ => rfl
  simp only [wp_bind, wp_orStop, wp_modify]
  refine ⟨fun payload decoded => ?_, fun _ => .kept fun _ => rfl⟩
  exact runOfferOp_spec env aliases chain tx op vchAlias nHeight decoded
    (revertOffer_lastOffers payload.vchOffer state)

end

def LinksFlat (state : OfferState) : Prop :=
  ∀ k offer, state.lastOffers.lookup k = some offer → LinkSound state offer

theorem linksFlat_write {name : Bytes} {record : COffer} (flat : LinksFlat before)
    (link : LinkSound before record)
    (keeps : name ≠ [] → ∀ old, before.lastOffers.lookup name = some old → old.vchLinkOffer = [] →
      record.vchLinkOffer = []) (written : ∀ k, after.lastOffers.lookup k = if k =
      name then some record else before.lastOffers.lookup k) : LinksFlat after := by
  have sound : ∀ offer : COffer, LinkSound before offer → LinkSound after offer := by
    rintro offer (empty | ⟨parent, stored, unlinked⟩)
    · exact .inl empty
    by_cases isName : offer.vchLinkOffer = name
    · by_cases isEmpty : name = []
      · exact .inl (isName.trans isEmpty)
      · rw [isName] at stored
        refine .inr ⟨record, ?_, keeps isEmpty parent stored unlinked⟩
        rw [written, if_pos isName]
    · exact .inr ⟨parent, by rw [written, if_neg isName, stored], unlinked⟩
  intro k offer found
  rw [written] at found
  split at found
  · cases found
    exact sound record link
  · exact sound offer (flat k offer found)

theorem linksFlat_effect {env : OfferEnv} {tx : CTransaction} {op : Nat} {vchAlias : Bytes}
    (effect : OfferEffect env aliases chain tx op vchAlias before after) (flat : LinksFlat before) :
    LinksFlat after := by
  cases effect with
  | kept same =>
    intro k offer found
    rw [same] at found
    rcases flat k offer found with empty | ⟨parent, stored, unlinked⟩
    · exact .inl empty
    · exact .inr ⟨parent, (same _).trans stored, unlinked⟩
  | updated payload dbOffer record decoded isUpdate found owner link written =>
    have stored := getOffer_eq_some found
    refine linksFlat_write flat ?_ (fun _ old there unlinked => ?_) written
    · have sound := flat _ dbOffer stored
      rw [LinkSound, ← link] at sound
      exact sound
    · cases stored.symm.trans there
      exact link.trans unlinked
  | activated payload record decoded notUpdate owner missing link linkNamed named written =>
    refine linksFlat_write flat link (fun nonempty old there _ => ?_) written
    cases stored : before.lastOffers.lookup payload.vchOffer with
    | none =>
      rw [stored] at named
      cases stored.symm.trans ((congrArg _ named.symm).trans there)
    | some expired =>
      rw [stored] at named
      exact absurd named nonempty

section

variable {ctx : BlockContext} {state : ServiceState} {tx : CTransaction}

theorem serviceTx_offerEffect : (∀ k, (serviceTx ctx tx state).2.offers.lastOffers.lookup k =
        state.offers.lastOffers.lookup k) ∨
      ∃ op, serviceCall tx = .offer op ∧ (aliasInput ctx.inputs tx).isSome = true ∧
        OfferEffect ctx.env.offerEnv state.aliases ctx.chain tx op (signingAlias ctx.inputs tx)
          state.offers (serviceTx ctx tx state).2.offers := by
  rcases (serviceTx_step ctx tx state).offers with same | ⟨op, called, signed, ran⟩
  · exact .inl fun _ => by rw [same]
  · refine .inr ⟨op, called, signed, ?_⟩
    rw [serviceTx_aliases_kept (congrArg ServiceCall.entry called)] at ran
    rw [ran]
    exact checkOfferInputs_spec ctx.env.offerEnv state.aliases ctx.chain tx op _ _

theorem linksFlat_step (flat : LinksFlat state.offers) :
    LinksFlat (serviceTx ctx tx state).2.offers := by
  rcases serviceTx_offerEffect with same | ⟨op, -, -, effect⟩
  · exact linksFlat_effect (.kept same : OfferEffect ctx.env.offerEnv state.aliases ctx.chain tx 0
      [] state.offers _) flat
  · exact linksFlat_effect effect flat

/-- An activation does not name a stored offer that has expired, and the signing alias is spent. -/
@[mk_iff]
structure KeepsOffers (ctx : BlockContext) (state : ServiceState) (tx : CTransaction) : Prop where
  activation : serviceCall tx = .offer OP_OFFER_ACTIVATE →
    ∀ payload ∈ ctx.env.offerEnv.unserializeOffer tx,
      ∀ stored ∈ state.offers.lastOffers.lookup payload.vchOffer,
        isExpiredAt ctx.chain (state.aliases.expiration ctx.chain stored.vchAlias) = false
  spent : AliasSpent ctx.inputs tx

instance : Decidable (KeepsOffers ctx state tx) := decidable_of_iff _ (keepsOffers_iff ..).symm

structure OfferGuarded (inputs : UtxoMap) (tx : CTransaction) (before after : COffer) : Prop where
  owner : after.vchAlias ≠ before.vchAlias →
    serviceCall tx = .offer OP_OFFER_UPDATE ∧ spendsAlias inputs tx before.vchAlias = true
  activation : serviceCall tx = .offer OP_OFFER_ACTIVATE → after = before

theorem serviceCall_offer_op {op : Nat} (called : serviceCall tx = .offer op)
    (notUpdate : op ≠ OP_OFFER_UPDATE) : op = OP_OFFER_ACTIVATE := by
  have bounds : 1 ≤ op ∧ op ≤ 2 := serviceCall_isOp (congrArg ServiceCall.entry called)
  simp only [OP_OFFER_ACTIVATE, OP_OFFER_UPDATE] at notUpdate ⊢
  omega

theorem activation_fresh (keeps : KeepsOffers ctx state tx)
    (called : serviceCall tx = .offer OP_OFFER_ACTIVATE)
    (decoded : ctx.env.offerEnv.unserializeOffer tx = some payload)
    (missing : state.offers.getOffer state.aliases ctx.chain payload.vchOffer = none) :
    state.offers.lastOffers.lookup payload.vchOffer = none := by
  cases stored : state.offers.lastOffers.lookup payload.vchOffer with
  | none => rfl
  | some offer =>
    have unexpired := keeps.activation called payload decoded offer stored
    rw [OfferState.getOffer, stored, Option.filter_some, unexpired] at missing
    cases missing

theorem offerGuarded_step (keeps : KeepsOffers ctx state tx) {before : COffer}
    (found : state.offers.lastOffers.lookup k = some before) :
    ∃ after, (serviceTx ctx tx state).2.offers.lastOffers.lookup k = some after ∧
      OfferGuarded ctx.inputs tx before after := by
  have refl : OfferGuarded ctx.inputs tx before before := ⟨absurd rfl, fun _ => rfl⟩
  rcases serviceTx_offerEffect with same | ⟨op, called, signed, effect⟩
  · exact ⟨before, (same k).trans found, refl⟩
  cases effect with
  | kept same => exact ⟨before, (same k).trans found, refl⟩
  | updated payload dbOffer record decoded isUpdate there owner link written =>
    rw [written]
    split
    · rename_i same
      cases found.symm.trans ((congrArg _ same).trans (getOffer_eq_some there))
      refine ⟨record, rfl, fun _ => ⟨isUpdate ▸ called, ?_⟩, fun isActivate => ?_⟩
      · rw [owner]
        exact spends_signingAlias signed keeps.spent
      · rw [isUpdate] at called
        cases called.symm.trans isActivate
    · exact ⟨before, found, refl⟩
  | activated payload record decoded notUpdate owner missing link linkNamed named written =>
    have isActivate := serviceCall_offer_op called notUpdate
    have fresh := activation_fresh keeps (isActivate ▸ called) decoded missing
    rw [fresh] at named
    rw [written, if_neg]
    · exact ⟨before, found, refl⟩
    · intro same
      cases found.symm.trans ((congrArg _ (same.trans named)).trans fresh)

theorem activation_named (keeps : KeepsOffers ctx state tx)
    (isActivate : serviceCall tx = .offer OP_OFFER_ACTIVATE)
    (decoded : ctx.env.offerEnv.unserializeOffer tx = some payload)
    (different : k ≠ payload.vchOffer) :
    (serviceTx ctx tx state).2.offers.lastOffers.lookup k = state.offers.lastOffers.lookup k := by
  rcases serviceTx_offerEffect with same | ⟨op, called, signed, effect⟩
  · exact same k
  cases isActivate.symm.trans called
  cases effect with
  | kept same => exact same k
  | updated _ _ _ _ isUpdate => exact absurd isUpdate (by decide)
  | activated other record decodedOther notUpdate owner missing link linkNamed named written =>
    cases decoded.symm.trans decodedOther
    rw [activation_fresh keeps isActivate decoded missing] at named
    rw [written, if_neg fun same => different (same.trans named)]

end

theorem linksFlat_reached {env : ServiceEnv} {node : ServiceNode} (reached : Reached env node) :
    LinksFlat node.services.offers := by
  obtain ⟨nTime, actions, rfl⟩ := reached
  refine @services_invariant_always env (fun state => LinksFlat state.offers)
    (fun _ _ _ => linksFlat_step) (fun _ flat => flat) (fun _ _ flat => flat) _ ?_ actions
  intro k offer found
  cases found

theorem offers_guarded {env : ServiceEnv} {node : ServiceNode} (reached : Reached env node)
    {block : ServiceBlock} {visit : ServiceState × CTransaction}
    (visited : visit ∈ node.visits env block)
    (keeps : KeepsOffers (node.context env block) visit.1 visit.2) :
    LinksFlat (node.afterVisit env block visit).offers ∧
      (∀ k before, visit.1.offers.lastOffers.lookup k = some before →
        ∃ after, (node.afterVisit env block visit).offers.lastOffers.lookup k = some after ∧
          OfferGuarded block.inputs visit.2 before after) ∧
      (serviceCall visit.2 = .offer OP_OFFER_ACTIVATE →
        ∀ payload ∈ env.offerEnv.unserializeOffer visit.2, ∀ k ≠ payload.vchOffer,
          (node.afterVisit env block visit).offers.lastOffers.lookup k =
            visit.1.offers.lastOffers.lookup k) := by
  have now := @visit_invariant env (fun state => LinksFlat state.offers)
    (fun _ _ _ => linksFlat_step) node (linksFlat_reached reached) block visit visited
  exact ⟨linksFlat_step now, fun _ _ => offerGuarded_step keeps,
    fun isActivate _ decoded _ => activation_named keeps isActivate decoded⟩

def sampleOfferOf (vchAlias : Bytes) : COffer :=
  { COffer.null with vchOffer := [0x6f], vchAlias := vchAlias }

def sampleOfferEnv : ServiceEnv :=
  sampleServiceEnv fun
    | 0 => some (.alias (sampleAliasRecord [0x61]))
    | 1 => some (.alias (sampleAliasRecord [0x62]))
    | 2 => some (.offer (sampleOfferOf [0x61]))
    | 3 => some (.offer (sampleOfferOf [0x62]))
    | _ => none

def sampleOffered : List NodeAction :=
  [sampleAliases 100 [[0x61], [0x62]], sampleSigned 200 [0x61] .offer 1 2]

def sampleOfferOwner (actions : List NodeAction) (vchOffer : Bytes) : Option Bytes :=
  ((sampleNode sampleOfferEnv actions).services.offers.lastOffers.lookup vchOffer).map (·.vchAlias)

def sampleOfferVisit : ServiceState × CTransaction :=
  ((sampleNode sampleOfferEnv sampleOffered).visits sampleOfferEnv
    (sampleSignedBlock 300 [0x61] .offer 2 3)).get ⟨1, by decide⟩

theorem offers_guarded_sample :
    LinksFlat ((sampleNode sampleOfferEnv sampleOffered).afterVisit sampleOfferEnv
        (sampleSignedBlock 300 [0x61] .offer 2 3) sampleOfferVisit).offers ∧
      (∀ k before, sampleOfferVisit.1.offers.lastOffers.lookup k = some before →
        ∃ after, ((sampleNode sampleOfferEnv sampleOffered).afterVisit sampleOfferEnv
            (sampleSignedBlock 300 [0x61] .offer 2 3) sampleOfferVisit).offers.lastOffers.lookup k =
              some after ∧
          OfferGuarded (sampleSignedBlock 300 [0x61] .offer 2 3).inputs sampleOfferVisit.2 before
            after) ∧
      (serviceCall sampleOfferVisit.2 = .offer OP_OFFER_ACTIVATE →
        ∀ payload ∈ sampleOfferEnv.offerEnv.unserializeOffer sampleOfferVisit.2,
          ∀ k ≠ payload.vchOffer,
            ((sampleNode sampleOfferEnv sampleOffered).afterVisit sampleOfferEnv
              (sampleSignedBlock 300 [0x61] .offer 2 3) sampleOfferVisit).offers.lastOffers.lookup
                k = sampleOfferVisit.1.offers.lastOffers.lookup k) :=
  offers_guarded ⟨0, sampleOffered, rfl⟩ (List.get_mem _ _) (by decide)

theorem offer_taken_and_misfiled : sampleOfferOwner sampleOffered [0x6f] = some [0x61] ∧
      sampleOfferOwner (sampleOffered ++
        [.connect (sampleForged 300 [0x61] [0x62] .offer 2 3)]) [0x6f] = some [0x62] ∧
      sampleOfferOwner (sampleOffered ++ [sampleEmptyBlock 2000000, sampleEmptyBlock 2000000,
        sampleEmptyBlock 2000000]) [] = none ∧
      sampleOfferOwner (sampleOffered ++ [sampleEmptyBlock 2000000, sampleEmptyBlock 2000000,
        sampleEmptyBlock 2000000, sampleSigned 2000001 [0x61] .offer 1 2]) [] = some [] := by
  decide

end Minerium
