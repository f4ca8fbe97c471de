import Minerium.AliasOps
import Minerium.Conservation
import Minerium.Node

/-! What a block that `ConnectBlock` rejects leaves in the service databases. -/

namespace Minerium

open Option

open Procedure (wp_bind wp_final wp_liftExcept wp_pure wp_read wp_require)

section

variable (ctx : BlockContext) (tx : CTransaction) (state : ServiceState)

/-- The two checks of an alias transaction that end the loop over the block. -/
def aliasFails (input : AliasInput) : Bool :=
  match input.vvchAliasArgs with
  | _ :: _ :: _ :: vchWitness :: _ =>
    decide (MAX_ALIAS_UPDATES_PER_BLOCK + 4 < tx.vout.length) ||
      !witnessSigFound ctx.inputs tx input.op vchWitness
  | _ => false

/-- An update of an alias that is not there or without an alias payload, as by every transaction an
alias signs for another service, or an activation of a name in use. -/
def aliasIdle (input : AliasInput) : Bool :=
  match input.vvchAliasArgs with
  | vchName :: _ :: _ :: _ :: _ =>
    let found := state.aliases.getAlias ctx.chain (toLower vchName)
    if input.op = OP_ALIAS_UPDATE then
      found.isNone || (aliasPayload ctx.env.aliasEnv tx).1.isNull
    else found.any (!·.isNull)
  | _ => true

/-- No service gets a record from the transaction. -/
def payloadless : Bool :=
  let unsigned := (aliasInput ctx.inputs tx).isNone
  match serviceCall tx with
  | .allocation _ => (ctx.env.assetEnv.unserializeAllocation tx).isNone
  | .offer _ => unsigned || (ctx.env.offerEnv.unserializeOffer tx).isNone
  | .cert _ => unsigned || (ctx.env.certEnv.unserializeCert tx).isNone
  | .escrow _ => unsigned || (ctx.env.escrowEnv.unserializeEscrow tx).isNone
  | .asset op =>
    if op = OP_ASSET_SEND then (ctx.env.assetEnv.unserializeAllocation tx).isNone
    else (ctx.env.assetEnv.unserializeAsset tx).isNone
  | .none => true

def aliasPasses : Bool :=
  tx.isCoinBase || (aliasInput ctx.inputs tx).all (!aliasFails ctx tx ·)

/-- The transaction does not come as far as the rules of a service. -/
def turnedAway : Bool :=
  decide (tx.nVersion ≠ MINERIUM_TX_VERSION) || tx.isCoinBase || !aliasPasses ctx tx ||
    (aliasInput ctx.inputs tx).all (aliasIdle ctx tx state) && payloadless ctx tx

/-- So does every transaction of a block that the services see. -/
def BlockTurnedAway (vtx : List CTransaction) : Prop :=
  ∀ visit ∈ serviceVisits ctx vtx state, turnedAway ctx visit.2 visit.1 = true

end

section

variable {ctx : BlockContext} {tx : CTransaction} {state : ServiceState}

theorem checkAliasInputs_idle {input : AliasInput}
    (idle : (tx.isCoinBase || aliasFails ctx tx input || aliasIdle ctx tx state input) = true) :
    Procedure.wp (checkAliasInputs ctx.env.aliasEnv ctx.chain ctx.inputs tx input.op
        input.vvchAliasArgs ctx.nHeight)
      (fun _ after => after = state.aliases ∧ (tx.isCoinBase || !aliasFails ctx tx input) = true)
      (fun stop after => after = state.aliases ∧
        goesOn (.error stop : Except _ String) = (tx.isCoinBase || !aliasFails ctx tx input))
      state.aliases := by
  unfold checkAliasInputs
  split
  · rename_i coinBase
    exact ⟨rfl, by rw [coinBase, Bool.true_or]⟩
  rename_i processed
  rw [Bool.eq_false_iff.mpr processed, Bool.false_or] at idle ⊢
  obtain ⟨op, args⟩ := input
  match args with
  | [] | [_] | [_, _] | [_, _, _] => exact ⟨rfl, rfl⟩
  | vchName :: vchGUID :: hash :: vchWitness :: rest =>
    simp only [wp_bind, wp_require, wp_read, wp_liftExcept, aliasFails, aliasIdle] at idle ⊢
    refine ⟨fun few => ⟨fun signed => ?_, fun unsigned => ?_⟩, fun many => ?_⟩
    · have notMany := Nat.not_lt.mpr (of_decide_eq_true few)
      simp only [signed, notMany, decide_false, Bool.not_true, Bool.or_false, Bool.false_or]
        at idle ⊢
      refine ⟨fun readable => ⟨fun theAlias paid => ?_, fun stop unpaid => ?_⟩,
        fun _ => ⟨trivial, rfl⟩⟩
      · obtain ⟨nExpireTime, rfl⟩ := payExpiry_eq_ok paid
        rw [runAliasOp]
        split at idle
        · rename_i isUpdate
          simp only [isUpdate, ne_eq, not_true_eq_false, decide_false, Bool.or_false] at readable
          rw [isNone_eq_false_iff.mpr readable, Bool.false_or] at idle
          rw [if_pos isUpdate]
          split
          · exact ⟨rfl, rfl⟩
          · rename_i payload
            exact absurd idle payload
        · rename_i notUpdate
          obtain ⟨dbAlias, found, inUse⟩ := (any_eq_true _ _).mp idle
          simp only [if_neg notUpdate, aliasActivate, wp_bind, wp_require, found, getD_some, inUse]
          exact ⟨fun impossible => (by cases impossible), fun _ => ⟨trivial, rfl⟩⟩
      · obtain ⟨text, rfl⟩ := payExpiry_refuses unpaid
        exact ⟨trivial, rfl⟩
    · exact ⟨trivial, by simp [unsigned, goesOn]⟩
    · have tooMany := Nat.not_le.mp (of_decide_eq_false many)
      exact ⟨trivial, by simp [tooMany, goesOn]⟩

theorem checkAlias_idle (idle : (tx.isCoinBase || !aliasPasses ctx tx ||
      (aliasInput ctx.inputs tx).all (aliasIdle ctx tx state)) = true) :
    checkAlias ctx tx state = (aliasPasses ctx tx, state) := by
  unfold checkAlias aliasPasses at *
  split
  · rename_i none
    rw [none, all_none, Bool.or_true]
  · rename_i input found
    rw [found, all_some] at idle ⊢
    have spec := @checkAliasInputs_idle ctx tx state input (by grind)
    rw [Procedure.wp] at spec
    split at spec
    · rename_i ran
      simp only [ran, goesOn, spec.1, spec.2]
    · rename_i ran
      simp only [ran, spec.1, ← spec.2]

theorem undecoded_eq {σ ε α β : Type} {coinBase : Bool} {payload : Option β} {value : α} {e : ε}
    {f : β → Procedure σ ε α} (idle : (coinBase || payload.isNone) = true) (state : σ) :
    (if coinBase then pure value else Procedure.orStop e payload >>= f) state =
      (if coinBase then .ok value else .error e, state) := by
  cases coinBase with
  | true => rfl
  | false =>
    cases payload with
    | none => rfl
    | some _ => cases idle

theorem goesOn_undecoded {α : Type} {coinBase : Bool} {value : α} {text : String} :
    goesOn (if coinBase then .ok value else .error (.refused text)) = true := by
  cases coinBase <;> rfl

theorem ifSigned_idle {run : ServiceState → Bool × ServiceState} {undecoded : Bool}
    (idle : (tx.isCoinBase || ((aliasInput ctx.inputs tx).isNone || undecoded)) = true)
    (ran : (tx.isCoinBase || undecoded) = true → ∀ state, run state = (true, state)) :
    ∃ verdict, ∀ state, (if (aliasInput ctx.inputs tx).isSome then run state else (false, state)) =
      (verdict, state) := by
  cases signed : aliasInput ctx.inputs tx with
  | none => exact ⟨false, fun _ => rfl⟩
  | some input =>
    rw [signed, isNone_some, Bool.false_or] at idle
    exact ⟨true, ran idle⟩

theorem runService_idle (idle : (tx.isCoinBase || payloadless ctx tx) = true) :
    ∃ verdict, ∀ state, runService ctx tx state = (verdict, state) := by
  have token : ∀ (coinBase : Bool) (text : String),
      goesOnToken (if coinBase then .ok () else .error (.errorMessage text)) = true := by
    intro coinBase text
    cases coinBase <;> rfl
  unfold payloadless at idle
  unfold runService
  cases call : serviceCall tx with
  | allocation op =>
    simp only [call] at idle
    refine ⟨true, fun state => ?_⟩
    simp only [runAllocation, checkAssetAllocationInputs, undecoded_eq idle, token]
  | offer op =>
    simp only [call] at idle
    refine ifSigned_idle idle fun undecoded state => ?_
    simp only [runOffer, checkOfferInputs, undecoded_eq undecoded, goesOn_undecoded]
  | cert op =>
    simp only [call] at idle
    refine ifSigned_idle idle fun undecoded state => ?_
    simp only [runCert, checkCertInputs, undecoded_eq undecoded, goesOn_undecoded]
  | escrow op =>
    simp only [call] at idle
    refine ifSigned_idle idle fun undecoded state => ?_
    simp only [runEscrow, checkEscrowInputs, undecoded_eq undecoded, goesOn_undecoded]
  | asset op =>
    simp only [call] at idle
    refine ⟨true, fun state => ?_⟩
    unfold runAsset checkAssetInputs
    split_ifs at idle with send
    · simp only [if_pos send, undecoded_eq idle, assetPayloadError, token]
    · simp only [if_neg send, undecoded_eq idle, assetPayloadError, token]
  | none => exact ⟨true, fun _ => rfl⟩

theorem serviceTx_turnedAway (ctx : BlockContext) (tx : CTransaction) :
    ∃ verdict, ∀ state, turnedAway ctx tx state = true →
      serviceTx ctx tx state = (verdict, state) := by
  by_cases version : tx.nVersion = MINERIUM_TX_VERSION
  · simp only [turnedAway, version, ne_eq, not_true_eq_false, decide_false, Bool.false_or]
    cases passes : aliasPasses ctx tx with
    | false =>
      refine ⟨false, fun state _ => ?_⟩
      rw [serviceTx, if_pos version, checkAlias_idle (by rw [passes]; simp), passes]
      rfl
    | true =>
      simp only [Bool.not_true, Bool.or_false]
      by_cases called : (tx.isCoinBase || payloadless ctx tx) = true
      · obtain ⟨verdict, ran⟩ := runService_idle called
        refine ⟨verdict, fun state idle => ?_⟩
        rw [serviceTx, if_pos version, checkAlias_idle (by grind), passes]
        exact ran state
      · exact ⟨true, fun state idle => absurd (by grind) called⟩
  · exact ⟨true, fun state _ => by rw [serviceTx, if_neg version]⟩

theorem connectServices_turnedAway {vtx : List CTransaction}
    (idle : BlockTurnedAway ctx state vtx) : connectServices ctx vtx state = state.startBlock := by
  refine (Loop.invariant (fun after => after = state.startBlock) rfl ?_).1
  intro visit visited same
  obtain ⟨verdict, ran⟩ := serviceTx_turnedAway ctx visit.2
  rw [ran visit.1 (idle visit visited)]
  exact same

end

theorem failureOf_eq_some {α : Type} {failure : Failure} {result : Except Failure α} :
    failureOf result = some failure ↔ result = .error failure := by
  cases result with
  | error stopped =>
    constructor
    · intro ends
      exact congrArg Except.error (some.inj ends)
    · intro ends
      exact congrArg some (Except.error.inj ends)
  | ok a =>
    constructor
    · intro impossible
      cases impossible
    · intro impossible
      cases impossible

/-- The block passes everything before the services, and they are loaded. -/
def NodeEnv.reachesServices (node : NodeEnv) (pos : CDiskBlockPos) (block : LoadedBlock)
    (nHeight : Nat) (view : CCoinsViewCache) : Bool :=
  match connectCoins node.connect node.hash160 pos block nHeight false view with
  | .ok (some _) => node.fLoaded
  | .ok none => false
  | .error _ => false

theorem connectBlock_services (node : NodeEnv) (chain : ActiveChain) (disk : DiskOutcome)
    (pos : CDiskBlockPos) (block : LoadedBlock) (nHeight : Nat) (view : CCoinsViewCache)
    (before : Databases) :
    (node.connectBlock chain disk pos block nHeight false view before).2.services =
      if node.reachesServices pos block nHeight view then
        connectServices (node.context chain view.base nHeight) block.vtx before.services
      else before.services := by
  unfold NodeEnv.reachesServices
  cases coins : connectCoins node.connect node.hash160 pos block nHeight false view with
  | error failure =>
    rw [connectBlock_refused node chain disk pos block nHeight false view before coins]
    rfl
  | ok connected =>
    cases connected with
    | none =>
      rw [connectBlock_genesis node chain disk pos block nHeight false view before coins]
      rfl
    | some connected =>
      rw [connectBlock_finished node chain disk pos block nHeight false view before coins]
      obtain ⟨failure, -, services⟩ := finishBlock_services node chain disk block.toCBlock
        nHeight view.base before
      exact services

theorem records_aliases {state : ServiceState} : state.records.aliases = state.aliases := rfl

def sampleNodeEnv (payloads : UInt8 → Option SamplePayload) : NodeEnv where
  connect := sampleConnectEnv
  services := sampleServiceEnv payloads
  hash160 := fun bytes => bytes.take 20
  flags := ⟨false, false, false, false⟩
  fLoaded := true

def sampleLoaded (vtx : List CTransaction) : LoadedBlock :=
  { nVersion := 1
    hashPrevBlock := 1
    hashMerkleRoot := (blockMerkleRoot sampleBlockEnv vtx).1
    nTime := 0
    nBits := 0
    nNonce := 0
    auxpow := none
    vtx := vtx
    fChecked := false
    checkedSound := fun impossible => by cases impossible }

def sampleFunds (scripts : List CScript) : UtxoMap :=
  scripts.zipIdx.foldl
    (fun coins entry => coins.insert ⟨5, UInt32.ofNat entry.2⟩ ⟨⟨50 * COIN, entry.1⟩, false, 1⟩) ∅

def sampleDatabases : Databases := ⟨.empty, .empty⟩

def sampleRegistration (nValue : CAmount) : LoadedBlock :=
  sampleLoaded [coinbasePaying nValue, sampleServiceTx 1 0 [sampleAliasScript 1 [0x61]] 0]

def sampleAliasNode : NodeEnv := sampleNodeEnv fun _ => some (.alias (sampleAliasRecord [0x61]))

def sampleRegistered (nValue : CAmount) (before : Databases) :
    Except Failure (ConnectResult Unit) × Databases :=
  sampleAliasNode.connectBlock ⟨0, []⟩ (fun _ => none) ⟨0, 0⟩ (sampleRegistration nValue) 100 false
    (.atop (sampleFunds [[0x51]])) before

def sampleHeld : Databases := (sampleRegistered (7 * COIN) sampleDatabases).2

end Minerium
