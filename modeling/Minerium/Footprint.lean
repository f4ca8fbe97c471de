import Minerium.AliasOps
import Minerium.EscrowOps
import Minerium.OfferOwnership
import Minerium.TokenRun

/-! The records that a transaction names, and that it writes no others. -/

namespace Minerium

open FinmapTotal SortedVector Option Table Finmap

open Procedure (Frame Keeps wp wp_bind wp_final wp_liftExcept wp_modify wp_orStop wp_pure wp_read
  wp_require)

variable {k vchAlias : Bytes} {op : Nat} {cert : CCert} {aliases : AliasState} {offers : OfferState}
  {vvchAliasArgs : List Bytes} {extTxId : Uint256} {key : RecordKey}
  {writable : CAssetAllocationTuple → Prop} {chain : ActiveChain} {tx : CTransaction}

inductive RecordKey where
  | name (vchAlias : Bytes)
  | address (vchAddress : Bytes)
  | cert (vchCert : Bytes)
  | offer (vchOffer : Bytes)
  | escrow (vchEscrow : Bytes)
  | payment (extTxId : Uint256)
  | asset (vchAsset : Bytes)
  | allocation (tuple : CAssetAllocationTuple)
  | mark (text : Bytes)
deriving DecidableEq

def AliasState.nameAt (state : AliasState) (vchAlias : Bytes) :=
  (state.names.lookup vchAlias, state.unprunable.lookup vchAlias)

def CertState.certAt (state : CertState) (vchCert : Bytes) :=
  (state.certs.lookup vchCert, state.lastCerts.lookup vchCert, state.firstCerts.lookup vchCert,
    state.arrivalTimes.lookup vchCert, vchCert ∈ state.revertedCerts)

def OfferState.offerAt (state : OfferState) (vchOffer : Bytes) :=
  (state.offers.lookup vchOffer, state.lastOffers.lookup vchOffer,
    state.arrivalTimes.lookup vchOffer, vchOffer ∈ state.revertedOffers)

def AssetState.allocationAt (state : AssetState) (tuple : CAssetAllocationTuple) :=
  (state.allocations.lookup tuple, state.lastAllocations.lookup tuple,
    state.arrivalTimes.lookup tuple)

/-- Marks are found by the text of a tuple, which two tuples can share. -/
def AssetState.markAt (state : AssetState) (text : Bytes) :=
  fun tuple : { tuple : CAssetAllocationTuple // tuple.toString = text } =>
    (tupleFind state.revertedAssetAllocations tuple).isSome

/-- The conflicts are not read while a block is connected. -/
def SameAt (key : RecordKey) (s t : ServiceState) : Prop :=
  match key with
  | .name vchAlias => t.aliases.nameAt vchAlias = s.aliases.nameAt vchAlias
  | .address vchAddress =>
    t.aliases.addresses.lookup vchAddress = s.aliases.addresses.lookup vchAddress
  | .cert vchCert => t.certs.certAt vchCert = s.certs.certAt vchCert
  | .offer vchOffer => t.offers.offerAt vchOffer = s.offers.offerAt vchOffer
  | .escrow vchEscrow => t.escrows.escrows.lookup vchEscrow = s.escrows.escrows.lookup vchEscrow
  | .payment extTxId => (extTxId ∈ t.escrows.extTxIds) = (extTxId ∈ s.escrows.extTxIds)
  | .asset vchAsset => t.tokens.assets.lookup vchAsset = s.tokens.assets.lookup vchAsset
  | .allocation tuple => t.tokens.allocationAt tuple = s.tokens.allocationAt tuple
  | .mark text => t.tokens.markAt text = s.tokens.markAt text

theorem SameAt.refl (key : RecordKey) (s : ServiceState) : SameAt key s s := by
  cases key <;> exact rfl

theorem SameAt.symm {s t : ServiceState} (same : SameAt key s t) : SameAt key t s := by
  cases key <;> exact Eq.symm same

theorem SameAt.trans {s t u : ServiceState} (one : SameAt key s t)
    (two : SameAt key t u) : SameAt key s u := by
  cases key <;> exact Eq.trans two one

theorem keeps_rel {σ ε α : Type} {F : Frame σ} {m : Procedure σ ε α}
    (keeps : Keeps F m fun _ => True) {s : σ} (good : F.good s) : F.rel s (m s).2 :=
  (keeps.final good).2

section

def certFrame (k : Bytes) : Frame CertState where
  good _ := True
  rel before after := after.certAt k = before.certAt k
  refl _ := rfl
  trans one two := two.trans one

variable {state : CertState}

theorem writeCert_same (other : k ≠ cert.vchCert) :
    (writeCert op cert state).certAt k = state.certAt k := by
  simp only [CertState.certAt, writeCert, lookup_write_ne other]
  split
  · rw [lookup_write_ne other]
  · rfl

theorem revertCert_same {vchCert : Bytes} (other : k ≠ vchCert) :
    (revertCert op vchCert state).certAt k = state.certAt k := by
  rw [revertCert]
  split
  · rfl
  · have erased : ∀ middle : CertState,
        (markRevertedCert vchCert middle).certAt k = middle.certAt k := by
      intro middle
      simp only [CertState.certAt, markRevertedCert, List.mem_cons, or_iff_right other,
        lookup_erase_ne other]
    refine (erased _).trans ?_
    split
    · rename_i dbCert stored
      exact writeCert_same (key_of_lookup stored ▸ other)
    · simp only [CertState.certAt, eraseCert, Table.lookup_erase, if_neg other,
        lookup_erase_ne other]

theorem keeps_writeCert (other : k ≠ cert.vchCert) :
    Keeps (certFrame k) (Procedure.modify (writeCert op cert) : CertProcedure Unit) fun _ => True :=
  Keeps.modify fun _ _ => ⟨trivial, writeCert_same other⟩

theorem keeps_requireAccess {F : Frame CertState} {dbCert firstCert theCert : CCert} :
    Keeps F (requireAccess aliases chain op dbCert firstCert theCert) fun _ => True := by
  refine .ite (fun _ => ?_) fun _ => .ite (fun _ => ?_) fun _ => .pure trivial
  · exact .bind (.orStop _ _) fun _ _ => .requires .requireAny
  · exact .requireAny

theorem checkCertInputs_same {env : CertEnv}
    {nHeight : Nat} (other : ∀ payload ∈ env.unserializeCert tx, k ≠ payload.vchCert) :
    (checkCertInputs env aliases chain tx op vchAlias nHeight state).2.certAt k =
      state.certAt k := by
  refine keeps_rel (F := certFrame k) ?_ trivial
  refine .ite (fun _ => .pure trivial) fun _ => ?_
  refine .bind (.orStop _ _) fun theCert decoded => ?_
  have unnamed := other theCert decoded
  refine .bind (.modify fun state _ => ⟨trivial, revertCert_same unnamed⟩)
    fun _ _ => .ite (fun _ => ?_) fun _ => ?_
  · exact .requires <| keeps_writeCert unnamed
  · refine .bind (.readAny) fun _ _ => ?_
    refine .bind (.orStop _ _) fun dbCert _ => ?_
    refine .requires ?_
    refine .bind (.readAny) fun _ _ => ?_
    refine .bind (.orStop _ _) fun firstCert _ => ?_
    refine .bind keeps_requireAccess fun _ _ => ?_
    exact .requires <| keeps_writeCert unnamed

end

section

variable {state : OfferState}

theorem writeOffer_same {offer : COffer} (other : k ≠ offer.vchOffer) :
    (writeOffer offer state).offerAt k = state.offerAt k := by
  simp only [OfferState.offerAt, writeOffer, lookup_write_ne other]

theorem revertOffer_same {vchOffer : Bytes} (other : k ≠ vchOffer) :
    (revertOffer vchOffer state).offerAt k = state.offerAt k := by
  rw [revertOffer]
  split
  · rfl
  · have erased : ∀ middle : OfferState,
        (markRevertedOffer vchOffer middle).offerAt k = middle.offerAt k := by
      intro middle
      simp only [OfferState.offerAt, markRevertedOffer, List.mem_cons, or_iff_right other,
        lookup_erase_ne other]
    refine (erased _).trans ?_
    split
    · rename_i dbOffer stored
      exact writeOffer_same (key_of_lookup stored ▸ other)
    · simp only [OfferState.offerAt, eraseOffer, Table.lookup_erase, if_neg other,
        lookup_erase_ne other]

/-- An activation over an expired offer stores its record under the empty name. -/
def offerNames (state : OfferState) (payload : COffer) (k : Bytes) : Prop :=
  k = payload.vchOffer ∨
    k = (clearIfStored payload (state.lastOffers.lookup payload.vchOffer)).vchOffer

variable {env : OfferEnv} {nHeight : Nat}

theorem runOfferOp_same {payload : COffer} {before : OfferState}
    (unnamed : ¬offerNames before payload k)
    (confirmed : ∀ name, state.lastOffers.lookup name = before.lastOffers.lookup name)
    (same : state.offerAt k = before.offerAt k) :
    wp (runOfferOp writeOffer env aliases chain tx op vchAlias nHeight payload)
      (fun _ after => after.offerAt k = before.offerAt k)
      (fun _ after => after.offerAt k = before.offerAt k) state := by
  have written : ∀ {offer : COffer}, k ≠ offer.vchOffer →
      (writeOffer offer state).offerAt k = before.offerAt k := fun other =>
    (writeOffer_same other).trans same
  rw [runOfferOp]
  split
  · simp only [offerUpdate, wp_bind, wp_read, wp_orStop, wp_require, wp_modify]
    refine ⟨fun dbOffer _ => ⟨fun _ => ?_, fun _ => same⟩, fun _ => same⟩
    refine wp_requireAuction chain (wp_refreshLinked aliases chain ?_ fun _ => same) fun _ => same
    intro linked named _
    exact written fun isNamed => unnamed (.inl (isNamed.trans named))
  · simp only [offerActivate, wp_bind, wp_read, wp_require, wp_modify]
    refine ⟨fun _ => ⟨fun _ => ?_, fun _ => same⟩, fun _ => same⟩
    rw [confirmed]
    refine wp_linkIfNamed aliases chain vchAlias (fun linked named _ _ => ?_) fun _ => same
    exact written fun isNamed => unnamed (.inr (isNamed.trans named))

theorem checkOfferInputs_same
    (other : ∀ payload ∈ env.unserializeOffer tx, ¬offerNames state payload k) :
    (checkOfferInputs env aliases chain tx op vchAlias nHeight state).2.offerAt k =
      state.offerAt k := by
  refine @wp_final OfferState CheckStop Unit _ _ (·.offerAt k = state.offerAt k) ?_
  rw [checkOfferInputs]
  split
  · exact rfl
  simp only [wp_bind, wp_orStop, wp_modify]
  refine ⟨fun payload decoded => ?_, fun _ => trivial⟩
  have unnamed := other payload decoded
  exact runOfferOp_same unnamed (revertOffer_lastOffers payload.vchOffer state)
    (revertOffer_same (fun isNamed => unnamed (.inl isNamed)))

end

section

def escrowStart (aliases : AliasState) (chain : ActiveChain) (vvchAliasArgs : List Bytes)
    (state : EscrowState) (payload : CEscrow) : CEscrow :=
  startingEscrow (withWitness vvchAliasArgs payload) (state.escrows.lookup payload.vchEscrow)
    (state.getEscrow aliases chain payload.vchEscrow)

variable {state : EscrowState}

variable {env : EscrowEnv} {nHeight : Nat}

theorem checkEscrowInputs_same
    (other : ∀ payload ∈ env.unserializeEscrow tx, k ≠ payload.vchEscrow ∧
      k ≠ (escrowStart aliases chain vvchAliasArgs state payload).vchEscrow) :
    (checkEscrowInputs env aliases offers chain tx op vvchAliasArgs nHeight
      state).2.escrows.lookup k = state.escrows.lookup k := by
  have effect := checkEscrowInputs_spec env aliases offers chain tx op vvchAliasArgs nHeight state
  generalize (checkEscrowInputs env aliases offers chain tx op vvchAliasArgs nHeight
    state).2.escrows = after at effect
  cases effect with
  | none => rfl
  | changed payload stored record dbOffer decoded notActivate found offered change =>
    refine lookup_write_ne ?_
    change k ≠ record.vchEscrow
    rw [change.named]
    change k ≠ stored.vchEscrow
    rw [key_of_lookup found]
    exact (other payload decoded).1
  | activated payload start record dbOffer decoded isActivate begins offered done =>
    refine lookup_write_ne ?_
    obtain ⟨rfl, -⟩ := activatedEscrow_spec done
    rw [begins]
    exact (other payload decoded).2

theorem checkEscrowInputs_payments (other : ∀ payload ∈ env.unserializeEscrow tx,
      extTxId ≠ (escrowStart aliases chain vvchAliasArgs state payload).extTxId) :
    extTxId ∈ (checkEscrowInputs env aliases offers chain tx op vvchAliasArgs nHeight
      state).2.extTxIds ↔ extTxId ∈ state.extTxIds := by
  refine @wp_final EscrowState CheckStop String _ _
    (fun after => extTxId ∈ after.extTxIds ↔ extTxId ∈ state.extTxIds) ?_
  rw [checkEscrowInputs]
  split
  · exact .rfl
  simp only [wp_bind, wp_orStop, wp_liftExcept, wp_read, wp_require]
  refine ⟨fun payload decoded => ⟨fun _ _ => ⟨fun _ => ⟨fun dbOffer _ => ?_,
    fun _ => trivial⟩, fun _ => trivial⟩, fun _ _ => trivial⟩, fun _ => trivial⟩
  rw [runEscrowOp]
  split
  · simp only [escrowActivate, writeEscrow, wp_bind, wp_liftExcept, wp_modify, wp_pure]
    refine ⟨fun record done => ?_, fun _ _ => trivial⟩
    refine payIfExternal_spec .rfl ?_
    obtain ⟨rfl, -⟩ := activatedEscrow_spec done
    exact List.mem_cons.trans (or_iff_right (other payload decoded))
  · simp only [escrowChange, writeEscrow, wp_bind, wp_liftExcept, wp_modify, wp_pure]
    exact ⟨fun _ _ => trivial, fun _ _ => trivial⟩

end

section

def aliasNames (env : AliasEnv) (tx : CTransaction) (vvchArgs : List Bytes) (k : Bytes) : Prop :=
  k = toLower (vvchArgs.headD []) ∨ k = (aliasPayload env tx).1.vchAlias

def aliasAddresses (env : AliasEnv) (tx : CTransaction) (vvchArgs : List Bytes)
    (state : AliasState) (address : Bytes) : Prop :=
  address = (aliasPayload env tx).1.vchAddress ∨
    ∃ stored ∈ state.names.lookup (toLower (vvchArgs.headD [])), address = stored.vchAddress

structure AliasConfined (env : AliasEnv) (tx : CTransaction) (vvchArgs : List Bytes)
    (before after : AliasState) : Prop where
  names : ∀ k, ¬aliasNames env tx vvchArgs k → after.nameAt k = before.nameAt k
  addresses : ∀ address, ¬aliasAddresses env tx vvchArgs before address →
    after.addresses.lookup address = before.addresses.lookup address

theorem AliasConfined.refl {env : AliasEnv} {tx : CTransaction} {vvchArgs : List Bytes}
    (state : AliasState) : AliasConfined env tx vvchArgs state state :=
  ⟨fun _ _ => rfl, fun _ _ => rfl⟩

theorem writeAlias_confined {env : AliasEnv} {vvchArgs : List Bytes}
    {before state : AliasState} {record : CAliasIndex}
    (confined : AliasConfined env tx vvchArgs before state)
    (named : aliasNames env tx vvchArgs record.vchAlias)
    (addressed : aliasAddresses env tx vvchArgs before record.vchAddress) :
    AliasConfined env tx vvchArgs before (writeAlias record state) := by
  refine ⟨fun k unnamed => ?_, fun address unnamed => ?_⟩
  · have other : k ≠ record.vchAlias := fun same => unnamed (same ▸ named)
    rw [← confined.names k unnamed, AliasState.nameAt, writeAlias, lookup_write_ne other,
      lookup_insert_of_ne _ other]
    rfl
  · have other : address ≠ record.vchAddress := fun same => unnamed (same ▸ addressed)
    exact (lookup_insert_of_ne _ other).trans (confined.addresses address unnamed)

theorem refuseEdit_address {condition : Bool} {dbAlias : CAliasIndex} {message : String}
    {edit : AliasEdit} {payload : Bytes}
    (either : edit.theAlias.vchAddress = dbAlias.vchAddress ∨ edit.theAlias.vchAddress = payload) :
    (refuseEdit condition dbAlias message edit).theAlias.vchAddress = dbAlias.vchAddress ∨
      (refuseEdit condition dbAlias message edit).theAlias.vchAddress = payload := by
  rw [refuseEdit]
  split
  · exact .inl rfl
  · exact either

theorem updatedAlias_address (state : AliasState) (chain : ActiveChain) (vchName vchGUID : Bytes)
    (dbAlias theAlias : CAliasIndex) :
    (updatedAlias state chain vchName vchGUID dbAlias theAlias).theAlias.vchAddress =
        dbAlias.vchAddress ∨
      (updatedAlias state chain vchName vchGUID dbAlias theAlias).theAlias.vchAddress =
        theAlias.vchAddress := by
  have kept : ∀ payload : CAliasIndex, payload.vchAddress = dbAlias.vchAddress ∨
      payload.vchAddress = theAlias.vchAddress →
      (keepAlias dbAlias payload).vchAddress = dbAlias.vchAddress ∨
        (keepAlias dbAlias payload).vchAddress = theAlias.vchAddress := by
    intro payload either
    simp only [keepAlias]
    split
    · exact .inl rfl
    · exact either
  unfold updatedAlias
  extract_lets errorMessage payload
  have either : payload.vchAddress = dbAlias.vchAddress ∨
      payload.vchAddress = theAlias.vchAddress := by
    simp only [payload]
    split
    · exact .inl rfl
    · exact .inr rfl
  split
  · refine refuseEdit_address ?_
    unfold editAddress
    split
    · exact refuseEdit_address (refuseEdit_address (kept payload either))
    · exact refuseEdit_address (kept payload either)
  · exact .inl rfl

section

variable (env : AliasEnv) (chain : ActiveChain) (inputs : UtxoMap) (tx : CTransaction)
  (nHeight : Nat) {vvchArgs : List Bytes} {state : AliasState}

theorem aliasUpdate_confined {vchName vchGUID : Bytes} {dbAlias theAlias : CAliasIndex}
    (head : vvchArgs.headD [] = vchName)
    (found : state.getAlias chain (toLower vchName) = some dbAlias)
    (payload : theAlias.vchAddress = (aliasPayload env tx).1.vchAddress) :
    wp (aliasUpdate env chain tx nHeight vchName vchGUID dbAlias theAlias)
      (fun _ => AliasConfined env tx vvchArgs state)
      (fun _ => AliasConfined env tx vvchArgs state) state := by
  subst head
  have stored := (filter_eq_some_iff.mp found).1
  have sound := @updatedAlias_sound state chain dbAlias (vvchArgs.headD []) vchGUID theAlias
  have address := updatedAlias_address state chain (vvchArgs.headD []) vchGUID dbAlias theAlias
  simp only [aliasUpdate, storeAlias, eraseAddressIf, wp_bind, wp_read,
    wp_modify, wp_require, wp_pure]
  generalize updatedAlias state chain (vvchArgs.headD []) vchGUID dbAlias theAlias = edit
    at sound address ⊢
  have erased : AliasConfined env tx vvchArgs state (if edit.erasesAddress then
      { state with addresses := state.addresses.erase dbAlias.vchAddress } else state) := by
    split
    · refine ⟨fun _ _ => rfl, fun other unnamed => ?_⟩
      exact lookup_erase_ne fun same => unnamed (.inr ⟨dbAlias, stored, same⟩)
    · exact .refl state
  refine ⟨fun _ => writeAlias_confined erased ?_ ?_, fun _ => erased⟩
  · exact .inl (sound.named.trans (key_of_lookup stored))
  · rcases address with unmoved | moved
    · exact .inr ⟨dbAlias, stored, unmoved⟩
    · exact .inl (moved.trans payload)

theorem checkAliasInputs_confined : AliasConfined env tx vvchArgs state
      (checkAliasInputs env chain inputs tx op vvchArgs nHeight state).2 := by
  have refl := @AliasConfined.refl env tx vvchArgs state
  refine wp_final ?_
  unfold checkAliasInputs
  split
  · exact refl
  split
  · rename_i vchName vchGUID hash vchWitness rest
    simp only [wp_bind, wp_require, wp_read, wp_liftExcept]
    refine ⟨fun _ => ⟨fun _ => ⟨fun readable => ⟨fun theAlias paid => ?_, fun _ _ => refl⟩,
      fun _ => refl⟩, fun _ => refl⟩, fun _ => refl⟩
    obtain ⟨nExpireTime, rfl⟩ := payExpiry_eq_ok paid
    rw [runAliasOp]
    split
    · rename_i isUpdate
      subst isUpdate
      split
      · exact refl
      · simp only [ne_eq, not_true_eq_false, decide_false, Bool.or_false] at readable
        obtain ⟨dbAlias, found⟩ := isSome_iff_exists.mp readable
        rw [found]
        exact aliasUpdate_confined env chain tx nHeight rfl found rfl
    · simp only [aliasActivate, storePayload, wp_bind, wp_read, wp_require]
      refine ⟨fun _ => ⟨fun _ => ?_, fun _ => refl⟩, fun _ => refl⟩
      split
      · exact refl
      · simp only [storeAlias, wp_bind, wp_require, wp_modify, wp_pure]
        exact ⟨fun _ => writeAlias_confined refl (.inr rfl) (.inl rfl), fun _ => refl⟩
  · exact refl

end

end

section

def confinedTokens (vchAsset : Bytes) (writable : CAssetAllocationTuple → Prop) :
    Frame AssetState where
  good := Keyed
  rel before after :=
    (∀ other, other ≠ vchAsset → after.assets.lookup other = before.assets.lookup other) ∧
      (∀ tuple, ¬writable tuple → after.allocationAt tuple = before.allocationAt tuple) ∧
      ∀ text, (∀ tuple, writable tuple → tuple.toString ≠ text) →
        after.markAt text = before.markAt text
  refl _ := ⟨fun _ _ => rfl, fun _ _ => rfl, fun _ _ => rfl⟩
  trans one two :=
    ⟨fun other different => (two.1 other different).trans (one.1 other different),
      fun tuple different => (two.2.1 tuple different).trans (one.2.1 tuple different),
      fun text different => (two.2.2 text different).trans (one.2.2 text different)⟩

theorem confinedTokens_kept {vchAsset : Bytes} :
    KeptByAssetWrites vchAsset writable (confinedTokens vchAsset writable) := by
  refine ⟨⟨fun _ => id, ?_, ?_, ?_⟩, ?_⟩
  · intro allocation named
    refine .modify fun state keyed =>
      ⟨keyed.afterWrite allocation, fun _ _ => rfl, fun tuple unnamed => ?_, fun _ _ => rfl⟩
    have other : tuple ≠ allocation.tuple := fun same => unnamed (same ▸ named)
    simp only [AssetState.allocationAt, lookup_insert_of_ne _ other]
  · intro tuple txid named
    refine .modify fun state keyed =>
      ⟨{ keyed with }, fun _ _ => rfl, fun other unnamed => ?_, fun _ _ => rfl⟩
    have different : other ≠ tuple := fun same => unnamed (same ▸ named)
    simp only [AssetState.allocationAt]
    split
    · rw [lookup_erase_ne different]
    · rw [lookup_insert_of_ne _ different]
  · intro tuple named
    refine .modify fun state keyed =>
      ⟨{ keyed with reverted := (insert_keys keyed.reverted).1 }, fun _ _ => rfl, fun _ _ => rfl,
        fun text unnamed => funext fun ⟨other, isText⟩ => ?_⟩
    rw [Bool.eq_iff_iff]
    refine (find_insert_isSome keyed.reverted tuple other).trans ?_
    exact or_iff_right fun same => unnamed tuple named (same.trans isText)
  · intro asset named
    refine .modify fun state keyed => ⟨keyed.afterWriteAsset asset, fun other different => ?_,
      fun _ _ => rfl, fun _ _ => rfl⟩
    exact lookup_insert_of_ne _ (named ▸ different)

end

variable (ctx : BlockContext) (tx : CTransaction)

def NamesAllocation (tuple : CAssetAllocationTuple) : Prop :=
  ∃ payload ∈ ctx.env.assetEnv.unserializeAllocation tx, tuple = payload.tuple ∨
    Sends payload (if (signingAlias ctx.inputs tx).isEmpty then payload.vchAliasOrAddress
      else signingAlias ctx.inputs tx) tuple

def NamesAsset (vchAsset : Bytes) : Prop :=
  (∃ payload ∈ ctx.env.assetEnv.unserializeAsset tx, vchAsset = payload.vchAsset) ∨
    ∃ payload ∈ ctx.env.assetEnv.unserializeAllocation tx, vchAsset = payload.vchAsset

def escrowRecord (state : ServiceState) (payload : CEscrow) : CEscrow :=
  escrowStart state.aliases ctx.chain (((aliasInput ctx.inputs tx).map (·.vvchAliasArgs)).getD [])
    state.escrows payload

/-- The records that a transaction names, in its scripts or in its payload. -/
def Names (state : ServiceState) : RecordKey → Prop
  | .name vchAlias => ∃ input ∈ aliasInput ctx.inputs tx,
      aliasNames ctx.env.aliasEnv tx input.vvchAliasArgs vchAlias
  | .address vchAddress => ∃ input ∈ aliasInput ctx.inputs tx,
      aliasAddresses ctx.env.aliasEnv tx input.vvchAliasArgs state.aliases vchAddress
  | .cert vchCert => ∃ payload ∈ ctx.env.certEnv.unserializeCert tx, vchCert = payload.vchCert
  | .offer vchOffer => ∃ payload ∈ ctx.env.offerEnv.unserializeOffer tx,
      offerNames state.offers payload vchOffer
  | .escrow vchEscrow => ∃ payload ∈ ctx.env.escrowEnv.unserializeEscrow tx,
      vchEscrow = payload.vchEscrow ∨ vchEscrow = (escrowRecord ctx tx state payload).vchEscrow
  | .payment extTxId => ∃ payload ∈ ctx.env.escrowEnv.unserializeEscrow tx,
      extTxId = (escrowRecord ctx tx state payload).extTxId
  | .asset vchAsset => NamesAsset ctx tx vchAsset
  | .allocation tuple => NamesAllocation ctx tx tuple
  | .mark text => ∃ tuple, NamesAllocation ctx tx tuple ∧ tuple.toString = text

section

variable {ctx : BlockContext} {tx : CTransaction} {state : ServiceState}

structure TokensConfined (ctx : BlockContext) (tx : CTransaction) (before after : AssetState) :
    Prop where
  asset : ∀ vchAsset, ¬NamesAsset ctx tx vchAsset →
    after.assets.lookup vchAsset = before.assets.lookup vchAsset
  allocation : ∀ tuple, ¬NamesAllocation ctx tx tuple →
    after.allocationAt tuple = before.allocationAt tuple
  mark : ∀ text, (∀ tuple, NamesAllocation ctx tx tuple → tuple.toString ≠ text) →
    after.markAt text = before.markAt text

theorem TokensConfined.refl {tokens : AssetState} : TokensConfined ctx tx tokens tokens :=
  ⟨fun _ _ => rfl, fun _ _ => rfl, fun _ _ => rfl⟩

theorem TokensConfined.of_frame {vchAsset : Bytes}
    {before after : AssetState} (asset : NamesAsset ctx tx vchAsset)
    (allocations : ∀ tuple, writable tuple → NamesAllocation ctx tx tuple)
    (confined : (confinedTokens vchAsset writable).rel before after) :
    TokensConfined ctx tx before after := by
  refine ⟨fun other unnamed => ?_, fun tuple unnamed => ?_, fun text unnamed => ?_⟩
  · exact confined.1 other fun same => unnamed (same ▸ asset)
  · exact confined.2.1 tuple fun named => unnamed (allocations tuple named)
  · exact confined.2.2 text fun tuple named => unnamed tuple (allocations tuple named)

theorem checkAssetAllocationInputs_confined (keyed : Keyed state.tokens) :
    TokensConfined ctx tx state.tokens (checkAssetAllocationInputs ctx.env.assetEnv ctx.inputs tx
      op (signingAlias ctx.inputs tx) ctx.nHeight state.tokens).2 := by
  refine checkAssetAllocationInputs_cases .refl fun payload decoded =>
    .of_frame (.inr ⟨payload, decoded, rfl⟩) (fun _ => id) (keeps_rel
      (keeps_runAllocationOp confinedTokens_kept ?_ ?_) keyed)
  · exact fun tuple sends => ⟨payload, decoded, .inr sends⟩
  · exact ⟨payload, decoded, .inl rfl⟩

theorem checkAssetInputs_confined (keyed : Keyed state.tokens) :
    TokensConfined ctx tx state.tokens (checkAssetInputs ctx.env.assetEnv ctx.inputs tx op
      (signingAlias ctx.inputs tx) ctx.nHeight state.tokens).2 := by
  refine checkAssetInputs_cases .refl (fun payload _ decoded _ => ?_) fun theAsset _ decoded _ => ?_
  · refine .of_frame (.inr ⟨payload, decoded, rfl⟩) (fun _ => id) (keeps_rel
      (keeps_assetSend confinedTokens_kept ?_) keyed)
    exact fun receiver isReceiver => ⟨payload, decoded, .inr ⟨rfl, .inr isReceiver⟩⟩
  · exact .of_frame (.inl ⟨theAsset, decoded, rfl⟩) (fun _ => id) (keeps_rel
      (keeps_runAssetOp confinedTokens_kept) keyed)

theorem serviceTx_tokensConfined (keyed : Keyed state.tokens) :
    TokensConfined ctx tx state.tokens (serviceTx ctx tx state).2.tokens := by
  rcases (serviceTx_step ctx tx state).tokens with same | ⟨op, -, ran⟩ | ⟨op, -, ran⟩
  · rw [same]
    exact .refl
  · rw [ran]
    exact checkAssetAllocationInputs_confined keyed
  · rw [ran]
    exact checkAssetInputs_confined keyed

theorem serviceTx_aliasesConfined : (serviceTx ctx tx state).2.aliases = state.aliases ∨
      ∃ input ∈ aliasInput ctx.inputs tx, AliasConfined ctx.env.aliasEnv tx input.vvchAliasArgs
        state.aliases (serviceTx ctx tx state).2.aliases := by
  rcases (serviceTx_step ctx tx state).aliases with same | ⟨input, decoded, ran⟩
  · exact .inl same
  · refine .inr ⟨input, decoded, ?_⟩
    rw [ran]
    exact checkAliasInputs_confined _ _ _ _ _

theorem serviceTx_confined (keyed : Keyed state.tokens)
    (unnamed : ¬Names ctx tx state key) : SameAt key state (serviceTx ctx tx state).2 := by
  have step := serviceTx_step ctx tx state
  cases key with
  | name vchAlias =>
    rcases @serviceTx_aliasesConfined ctx tx state with same | ⟨input, decoded, confined⟩
    · exact congrArg (·.nameAt vchAlias) same
    · exact confined.names vchAlias fun named => unnamed ⟨input, decoded, named⟩
  | address vchAddress =>
    rcases @serviceTx_aliasesConfined ctx tx state with same | ⟨input, decoded, confined⟩
    · exact congrArg (fun aliases => aliases.addresses.lookup vchAddress) same
    · exact confined.addresses vchAddress fun named => unnamed ⟨input, decoded, named⟩
  | cert vchCert =>
    rcases step.certs with same | ⟨op, -, -, ran⟩
    · exact congrArg (·.certAt vchCert) same
    · exact (congrArg (·.certAt vchCert) ran).trans (checkCertInputs_same
        fun payload decoded same => unnamed ⟨payload, decoded, same⟩)
  | offer vchOffer =>
    rcases step.offers with same | ⟨op, -, -, ran⟩
    · exact congrArg (·.offerAt vchOffer) same
    · exact (congrArg (·.offerAt vchOffer) ran).trans (checkOfferInputs_same
        fun payload decoded named => unnamed ⟨payload, decoded, named⟩)
  | escrow vchEscrow =>
    rcases step.escrows with same | ⟨op, called, -, -, ran⟩
    · exact congrArg (·.escrows.lookup vchEscrow) same
    · rw [serviceTx_aliases_kept (congrArg ServiceCall.entry called)] at ran
      change (serviceTx ctx tx state).2.escrows.escrows.lookup vchEscrow = _
      rw [ran]
      exact checkEscrowInputs_same fun payload decoded =>
        ⟨fun same => unnamed ⟨payload, decoded, .inl same⟩,
          fun same => unnamed ⟨payload, decoded, .inr same⟩⟩
  | payment extTxId =>
    rcases step.escrows with same | ⟨op, called, -, -, ran⟩
    · exact congrArg (fun escrows : EscrowState => extTxId ∈ escrows.extTxIds) same
    · rw [serviceTx_aliases_kept (congrArg ServiceCall.entry called)] at ran
      refine propext ?_
      rw [ran]
      exact checkEscrowInputs_payments fun payload decoded same => unnamed ⟨payload, decoded, same⟩
  | asset vchAsset => exact (serviceTx_tokensConfined keyed).asset vchAsset unnamed
  | allocation tuple => exact (serviceTx_tokensConfined keyed).allocation tuple unnamed
  | mark text =>
    exact (serviceTx_tokensConfined keyed).mark text fun tuple named isText =>
      unnamed ⟨tuple, named, isText⟩

end

end Minerium
