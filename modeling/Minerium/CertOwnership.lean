import Minerium.ServiceRun

/-! Who owns a certificate. -/

namespace Minerium

open Procedure (wp wp_bind wp_final wp_modify wp_orStop wp_read wp_require)

variable {cert : CCert} {ctx : BlockContext} {tx : CTransaction} {state : ServiceState}

def CertSynced (state : CertState) : Prop :=
  ∀ vchCert ∈ state.revertedCerts, state.certs.lookup vchCert = state.lastCerts.lookup vchCert

section

variable {op : Nat} {state : CertState}

theorem revertCert_lastCerts (op : Nat) (vchCert : Bytes) (state : CertState) (k : Bytes) :
    (revertCert op vchCert state).lastCerts.lookup k = state.lastCerts.lookup k := by
  rw [revertCert]
  split
  · rfl
  · cases stored : state.lastCerts.lookup vchCert with
    | some dbCert => exact Table.lookup_write_stored stored
    | none => exact Table.lookup_erase_missing stored

theorem writeCert_synced (synced : CertSynced state) : CertSynced (writeCert op cert state) := by
  intro k reverted
  simp only [writeCert, Table.lookup_write]
  rw [synced k reverted]

theorem revertCert_synced (op : Nat) (vchCert : Bytes) (synced : CertSynced state) :
    CertSynced (revertCert op vchCert state) ∧
      (revertCert op vchCert state).certs.lookup vchCert = state.lastCerts.lookup vchCert := by
  rw [revertCert]
  split
  · rename_i reverted
    exact ⟨synced, synced vchCert reverted⟩
  · cases stored : state.lastCerts.lookup vchCert with
    | some dbCert =>
      have named : dbCert.vchCert = vchCert := Table.key_of_lookup stored
      simp only [CertSynced, markRevertedCert, writeCert, Table.lookup_write, named, List.mem_cons]
      refine ⟨fun k reverted => ?_, if_pos trivial⟩
      split
      · rfl
      · rename_i different
        exact synced k (reverted.resolve_left different)
    | none =>
      simp only [CertSynced, markRevertedCert, eraseCert, Table.lookup_erase, List.mem_cons]
      refine ⟨fun k reverted => ?_, if_pos trivial⟩
      split
      · rfl
      · rename_i different
        exact synced k (reverted.resolve_left different)

end

inductive CertEffect (env : CertEnv) (tx : CTransaction) (op : Nat) (vchAlias : Bytes)
    (nHeight : Nat) (before after : CertState) : Prop
  | kept (same : ∀ k, after.lastCerts.lookup k = before.lastCerts.lookup k)
  | activated (payload : CCert) (decoded : env.unserializeCert tx = some payload)
      (isActivate : op = OP_CERT_ACTIVATE) (owner : payload.vchAlias = vchAlias)
      (written : ∀ k, after.lastCerts.lookup k =
        if k = payload.vchCert then some (stampedCert env tx nHeight payload)
        else before.lastCerts.lookup k)
  | changed (payload dbCert : CCert) (decoded : env.unserializeCert tx = some payload)
      (notActivate : op ≠ OP_CERT_ACTIVATE)
      (found : before.lastCerts.lookup payload.vchCert = some dbCert)
      (owner : dbCert.vchAlias = vchAlias)
      (written : ∀ k, after.lastCerts.lookup k =
        if k = payload.vchCert then some (stampedCert env tx nHeight (keepCert dbCert payload))
        else before.lastCerts.lookup k)

section

variable (env : CertEnv) (aliases : AliasState) (chain : ActiveChain) (tx : CTransaction) (op : Nat)
  (vchAlias : Bytes) (nHeight : Nat)

theorem wp_requireAccess {post : Unit → CertState → Prop}
    {stopped : CheckStop → CertState → Prop} {state : CertState}
    {dbCert firstCert theCert : CCert} (value : post () state) (stops : ∀ e, stopped e state) :
    wp (requireAccess aliases chain op dbCert firstCert theCert) post stopped state := by
  rw [requireAccess]
  split
  · simp only [requireTransfer, wp_bind, wp_orStop, wp_require]
    exact ⟨fun _ _ => ⟨fun _ => ⟨fun _ => value, fun _ => stops _⟩, fun _ => stops _⟩,
      fun _ => stops _⟩
  · split
    · rw [requireEdit, wp_require]
      exact ⟨fun _ => value, fun _ => stops _⟩
    · exact value

theorem runCertOp_spec {payload : CCert} {before state : CertState} (synced : CertSynced state)
    (decoded : env.unserializeCert tx = some payload)
    (same : ∀ k, state.lastCerts.lookup k = before.lastCerts.lookup k)
    (current : state.certs.lookup payload.vchCert = before.lastCerts.lookup payload.vchCert) :
    wp (runCertOp env aliases chain tx op vchAlias nHeight payload)
      (fun _ after => CertEffect env tx op vchAlias nHeight before after ∧ CertSynced after)
      (fun _ after => CertEffect env tx op vchAlias nHeight before after ∧ CertSynced after)
      state := by
  have unchanged : CertEffect env tx op vchAlias nHeight before state ∧ CertSynced state :=
    ⟨.kept same, synced⟩
  have written : ∀ cert : CCert, cert.vchCert = payload.vchCert → ∀ k,
      (writeCert op cert state).lastCerts.lookup k =
        if k = payload.vchCert then some cert else before.lastCerts.lookup k := by
    intro cert named k
    rw [← same k, ← named]
    exact Table.lookup_write _ _ _
  rw [runCertOp]
  split
  · rename_i isActivate
    subst isActivate
    simp only [certActivate, wp_bind, wp_require, wp_modify]
    refine ⟨fun owner => ⟨?_, writeCert_synced synced⟩, fun _ => unchanged⟩
    exact .activated payload decoded rfl (of_decide_eq_true owner) (written _ rfl)
  · rename_i notActivate
    simp only [certChange, wp_bind, wp_read, wp_orStop, wp_require, wp_modify]
    refine ⟨fun dbCert found => ⟨fun owner => ⟨fun firstCert _ => ?_, fun _ => unchanged⟩,
      fun _ => unchanged⟩, fun _ => unchanged⟩
    have stored := (Option.filter_eq_some_iff.mp found).1
    rw [current] at stored
    refine wp_requireAccess aliases chain op ⟨fun _ => ⟨?_, writeCert_synced synced⟩,
      fun _ => unchanged⟩ fun _ => unchanged
    exact .changed payload dbCert decoded notActivate stored (of_decide_eq_true owner)
      (written _ rfl)

theorem checkCertInputs_spec {state : CertState} (synced : CertSynced state) :
    CertEffect env tx op vchAlias nHeight state
        (checkCertInputs env aliases chain tx op vchAlias nHeight state).2 ∧
      CertSynced (checkCertInputs env aliases chain tx op vchAlias nHeight state).2 := by
  refine @wp_final CertState CheckStop Unit _ _ (fun after =>
    CertEffect env tx op vchAlias nHeight state after ∧ CertSynced after) ?_
  rw [checkCertInputs]
  split
  · exact ⟨.kept fun _ => rfl, synced⟩
  simp only [wp_bind, wp_orStop, wp_modify]
  refine ⟨fun payload decoded => ?_, fun _ => ⟨.kept fun _ => rfl, synced⟩⟩
  obtain ⟨stillSynced, current⟩ := revertCert_synced op payload.vchCert synced
  exact runCertOp_spec env aliases chain tx op vchAlias nHeight stillSynced decoded
    (revertCert_lastCerts op payload.vchCert state) current

end

theorem serviceTx_certEffect (synced : CertSynced state.certs) :
    CertSynced (serviceTx ctx tx state).2.certs ∧
      ((∀ k, (serviceTx ctx tx state).2.certs.lastCerts.lookup k = state.certs.lastCerts.lookup k) ∨
        ∃ op, serviceCall tx = .cert op ∧ (aliasInput ctx.inputs tx).isSome = true ∧
          CertEffect ctx.env.certEnv tx op (signingAlias ctx.inputs tx) ctx.nHeight state.certs
            (serviceTx ctx tx state).2.certs) := by
  rcases (serviceTx_step ctx tx state).certs with same | ⟨op, called, signed, ran⟩
  · rw [same]
    exact ⟨synced, .inl fun _ => rfl⟩
  · rw [ran]
    obtain ⟨effect, stillSynced⟩ := checkCertInputs_spec ctx.env.certEnv
      (serviceTx ctx tx state).2.aliases ctx.chain tx op (signingAlias ctx.inputs tx) ctx.nHeight
      synced
    exact ⟨stillSynced, .inr ⟨op, called, signed, effect⟩⟩

/-- It is not activated again, an update keeps its owner, and the signing alias is spent. -/
@[mk_iff]
structure KeepsCert (vchCert : Bytes) (ctx : BlockContext) (state : ServiceState)
    (tx : CTransaction) : Prop where
  activation : serviceCall tx = .cert OP_CERT_ACTIVATE →
    ∀ payload ∈ ctx.env.certEnv.unserializeCert tx, payload.vchCert ≠ vchCert
  update : serviceCall tx = .cert OP_CERT_UPDATE →
    ∀ payload ∈ ctx.env.certEnv.unserializeCert tx, payload.vchCert = vchCert →
      ∀ stored ∈ state.certs.lastCerts.lookup vchCert,
        payload.vchAlias = [] ∨ payload.vchAlias = stored.vchAlias
  spent : AliasSpent ctx.inputs tx

instance (state : ServiceState) (tx : CTransaction) : Decidable (KeepsCert vchCert ctx state tx) :=
  decidable_of_iff _ (keepsCert_iff ..).symm

structure CertGuarded (inputs : UtxoMap) (tx : CTransaction) (before after : CCert) : Prop where
  owner : after.vchAlias ≠ before.vchAlias →
    serviceCall tx = .cert OP_CERT_TRANSFER ∧ spendsAlias inputs tx before.vchAlias = true
  activation : serviceCall tx = .cert OP_CERT_ACTIVATE → after = before

theorem certGuarded_refl {inputs : UtxoMap} : CertGuarded inputs tx cert cert :=
  ⟨absurd rfl, fun _ => rfl⟩

theorem serviceCall_cert_op {op : Nat} (called : serviceCall tx = .cert op) :
    op = OP_CERT_ACTIVATE ∨ op = OP_CERT_UPDATE ∨ op = OP_CERT_TRANSFER := by
  have bounds : 1 ≤ op ∧ op ≤ 3 := serviceCall_isOp (congrArg ServiceCall.entry called)
  simp only [OP_CERT_ACTIVATE, OP_CERT_UPDATE, OP_CERT_TRANSFER]
  omega

theorem startBlock_certSynced : CertSynced state.startBlock.certs := by
  intro vchCert reverted
  cases reverted

theorem certGuarded_step {vchCert : Bytes}
    {before : CCert} (synced : CertSynced state.certs) (keeps : KeepsCert vchCert ctx state tx)
    (found : state.certs.lastCerts.lookup vchCert = some before) :
    ∃ after, (serviceTx ctx tx state).2.certs.lastCerts.lookup vchCert = some after ∧
      CertGuarded ctx.inputs tx before after := by
  rcases (serviceTx_certEffect synced).2 with same | ⟨op, called, signed, effect⟩
  · exact ⟨before, (same vchCert).trans found, certGuarded_refl⟩
  cases effect with
  | kept same => exact ⟨before, (same vchCert).trans found, certGuarded_refl⟩
  | activated payload decoded isActivate owner written =>
    have different := keeps.activation (isActivate ▸ called) payload decoded
    rw [written, if_neg (Ne.symm different)]
    exact ⟨before, found, certGuarded_refl⟩
  | changed payload dbCert decoded notActivate there owner written =>
    rw [written]
    split
    · rename_i same
      subst same
      cases found.symm.trans there
      refine ⟨_, rfl, fun moved => ?_, fun isActivate => ?_⟩
      · have spends := spends_signingAlias signed keeps.spent
        rw [← owner] at spends
        refine ⟨?_, spends⟩
        rcases serviceCall_cert_op called with rfl | rfl | rfl
        · exact absurd rfl notActivate
        · rcases keeps.update called payload decoded rfl before found with empty | same
          · exact absurd (by simp [stampedCert, keepCert, empty]) moved
          · exact absurd (by simp [stampedCert, keepCert, same]) moved
        · exact called
      · cases called.symm.trans isActivate
        exact absurd rfl notActivate
    · exact ⟨before, found, certGuarded_refl⟩

theorem cert_guarded (env : ServiceEnv) (node : ServiceNode) (block : ServiceBlock)
    {visit : ServiceState × CTransaction} (visited : visit ∈ node.visits env block)
    {vchCert : Bytes} {before : CCert}
    (found : visit.1.certs.lastCerts.lookup vchCert = some before)
    (keeps : KeepsCert vchCert (node.context env block) visit.1 visit.2) :
    ∃ after, (node.afterVisit env block visit).certs.lastCerts.lookup vchCert = some after ∧
      CertGuarded block.inputs visit.2 before after := by
  have synced := @visit_invariant env (fun state => CertSynced state.certs)
    (fun _ _ _ now => (serviceTx_certEffect now).1) node startBlock_certSynced
    block visit visited
  exact certGuarded_step synced keeps found

def sampleCertName : Bytes := [0x63]

def sampleCert (vchAlias : Bytes) : CCert :=
  { CCert.null with vchCert := sampleCertName, vchAlias := vchAlias }

def sampleCertEnv : ServiceEnv :=
  sampleServiceEnv fun
    | 0 => some (.alias (sampleAliasRecord [0x61]))
    | 1 => some (.alias (sampleAliasRecord [0x62]))
    | 2 => some (.cert (sampleCert [0x61]))
    | 3 => some (.cert (sampleCert [0x62]))
    | _ => none

def sampleIssued : ServiceNode :=
  sampleNode sampleCertEnv [sampleAliases 100 [[0x61], [0x62]], sampleSigned 200 [0x61] .cert 1 2]

def sampleCertOwner (action : NodeAction) : Option Bytes :=
  ((ServiceNode.step sampleCertEnv sampleIssued action).services.certs.lastCerts.lookup
    sampleCertName).map (·.vchAlias)

def sampleTransferVisit : ServiceState × CTransaction :=
  (sampleIssued.visits sampleCertEnv (sampleSignedBlock 300 [0x61] .cert 3 3)).get ⟨1, by decide⟩

theorem cert_guarded_sample :
    ∃ after, (sampleIssued.afterVisit sampleCertEnv (sampleSignedBlock 300 [0x61] .cert 3 3)
        sampleTransferVisit).certs.lastCerts.lookup sampleCertName = some after ∧
      CertGuarded (sampleSignedBlock 300 [0x61] .cert 3 3).inputs sampleTransferVisit.2
        ((sampleTransferVisit.1.certs.lastCerts.lookup sampleCertName).getD CCert.null) after :=
  cert_guarded sampleCertEnv sampleIssued (sampleSignedBlock 300 [0x61] .cert 3 3)
    (List.get_mem _ _) (by decide) (by decide)

theorem cert_taken_and_given :
    (sampleIssued.services.certs.lastCerts.lookup sampleCertName).map (·.vchAlias) = some [0x61] ∧
      sampleCertOwner (sampleSigned 300 [0x62] .cert 1 3) = some [0x62] ∧
      sampleCertOwner (sampleSigned 300 [0x61] .cert 2 3) = some [0x62] := by
  decide

end Minerium
