import Minerium.ServiceRunCore

/-! Which records a transaction of a block can change, and the rules for invariants of the
databases. -/

namespace Minerium

open List

open Procedure (wp_bind wp_final wp_liftExcept wp_read wp_require)

variable {service : Service} {script : CScript} {decoded : ServiceScript} {op : Nat}
  {inputs : UtxoMap} {vtx : List CTransaction} {visit : ServiceState × CTransaction}
  {tx : CTransaction} {state : ServiceState} {ctx : BlockContext} {env : AliasEnv}
  {chain : ActiveChain}

/-- The other services see the aliases as the transaction itself leaves them. -/
structure ServiceStep (ctx : BlockContext) (tx : CTransaction) (before after : ServiceState) :
    Prop where
  aliases : after.aliases = before.aliases ∨ ∃ input, aliasInput ctx.inputs tx = some input ∧
    after.aliases = (checkAliasInputs ctx.env.aliasEnv ctx.chain ctx.inputs tx input.op
      input.vvchAliasArgs ctx.nHeight before.aliases).2
  certs : after.certs = before.certs ∨ ∃ op, serviceCall tx = .cert op ∧
    (aliasInput ctx.inputs tx).isSome = true ∧ after.certs =
      (checkCertInputs ctx.env.certEnv after.aliases ctx.chain tx op
      (signingAlias ctx.inputs tx) ctx.nHeight before.certs).2
  offers : after.offers = before.offers ∨ ∃ op, serviceCall tx = .offer op ∧
    (aliasInput ctx.inputs tx).isSome = true ∧ after.offers =
      (checkOfferInputs ctx.env.offerEnv after.aliases ctx.chain tx op
      (signingAlias ctx.inputs tx) ctx.nHeight before.offers).2
  escrows : after.escrows = before.escrows ∨ ∃ op, serviceCall tx = .escrow op ∧
    (aliasInput ctx.inputs tx).isSome = true ∧ after.offers = before.offers ∧
    after.escrows = (checkEscrowInputs ctx.env.escrowEnv after.aliases before.offers ctx.chain tx
      op (((aliasInput ctx.inputs tx).map (·.vvchAliasArgs)).getD []) ctx.nHeight
      before.escrows).2
  tokens : after.tokens = before.tokens ∨ (∃ op, serviceCall tx = .allocation op ∧
      after.tokens = (checkAssetAllocationInputs ctx.env.assetEnv ctx.inputs tx op
        (signingAlias ctx.inputs tx) ctx.nHeight before.tokens).2) ∨
    ∃ op, serviceCall tx = .asset op ∧
      after.tokens = (checkAssetInputs ctx.env.assetEnv ctx.inputs tx op
        (signingAlias ctx.inputs tx) ctx.nHeight before.tokens).2

section

variable (ctx : BlockContext) (tx : CTransaction) (state : ServiceState)

theorem checkAlias_step : ServiceStep ctx tx state (checkAlias ctx tx state).2 := by
  rw [checkAlias]
  split
  · exact ⟨.inl rfl, .inl rfl, .inl rfl, .inl rfl, .inl rfl⟩
  · rename_i input found
    exact ⟨.inr ⟨input, found, rfl⟩, .inl rfl, .inl rfl, .inl rfl, .inl rfl⟩

theorem runService_step :
    ServiceStep ctx tx state (runService ctx tx (checkAlias ctx tx state).2).2 := by
  have checked := checkAlias_step ctx tx state
  have same : (checkAlias ctx tx state).2 =
      { state with aliases := (checkAlias ctx tx state).2.aliases } := by
    rw [checkAlias]
    split
    · rfl
    · rfl
  rw [same] at checked ⊢
  rw [runService]
  split
  · rename_i op called
    exact ⟨checked.aliases, .inl rfl, .inl rfl, .inl rfl, .inr (.inl ⟨op, called, rfl⟩)⟩
  · rename_i op called
    split
    · rename_i signed
      exact ⟨checked.aliases, .inl rfl, .inr ⟨op, called, signed, rfl⟩, .inl rfl, .inl rfl⟩
    · exact checked
  · rename_i op called
    split
    · rename_i signed
      exact ⟨checked.aliases, .inr ⟨op, called, signed, rfl⟩, .inl rfl, .inl rfl, .inl rfl⟩
    · exact checked
  · rename_i op called
    split
    · rename_i signed
      exact ⟨checked.aliases, .inl rfl, .inl rfl, .inr ⟨op, called, signed, rfl, rfl⟩, .inl rfl⟩
    · exact checked
  · rename_i op called
    exact ⟨checked.aliases, .inl rfl, .inl rfl, .inl rfl, .inr (.inr ⟨op, called, rfl⟩)⟩
  · exact checked

theorem serviceTx_step : ServiceStep ctx tx state (serviceTx ctx tx state).2 := by
  simp only [serviceTx]
  split
  · split
    · exact runService_step ctx tx state
    · exact checkAlias_step ctx tx state
  · exact ⟨.inl rfl, .inl rfl, .inl rfl, .inl rfl, .inl rfl⟩

end

theorem decodeServiceScript_isOp (done : decodeServiceScript service script = some decoded) :
    service.isOp decoded.op = true := by
  simp only [decodeServiceScript, Option.bind_eq_bind, Option.bind_eq_some_iff] at done
  obtain ⟨first, -, done⟩ := done
  split at done
  · cases done
  obtain ⟨second, -, done⟩ := Option.bind_eq_some_iff.mp done
  split at done
  · cases done
  · rename_i isOp
    obtain ⟨args, -, done⟩ := Option.bind_eq_some_iff.mp done
    cases done
    simpa using isOp

theorem decodeServiceTx_isOp
    (done : decodeServiceTx service tx = some decoded) : service.isOp decoded.op = true := by
  obtain ⟨out, -, script⟩ := exists_of_findSome?_eq_some done
  exact decodeServiceScript_isOp script

def ServiceCall.entry : ServiceCall → Option (Service × Nat)
  | .allocation op => some (.assetAllocation, op)
  | .offer op => some (.offer, op)
  | .cert op => some (.cert, op)
  | .escrow op => some (.escrow, op)
  | .asset op => some (.asset, op)
  | .none => Option.none

theorem serviceCall_decoded (called : (serviceCall tx).entry = some (service, op)) :
    ∃ script, decodeServiceTx service tx = some script ∧ script.op = op := by
  simp only [serviceCall] at called
  split at called
  · rename_i script decoded
    cases called
    rw [decodeAssetAllocationTx] at decoded
    split at decoded
    · cases decoded
    · exact ⟨script, decoded, rfl⟩
  split at called
  · rename_i script decoded
    cases called
    exact ⟨script, decoded, rfl⟩
  split at called
  · rename_i script decoded
    cases called
    exact ⟨script, decoded, rfl⟩
  split at called
  · rename_i script decoded
    cases called
    exact ⟨script, decoded, rfl⟩
  split at called
  · rename_i script decoded
    cases called
    exact ⟨script, decoded, rfl⟩
  · cases called

theorem serviceCall_isOp
    (called : (serviceCall tx).entry = some (service, op)) : 1 ≤ op ∧ op ≤ service.lastOp := by
  obtain ⟨script, decoded, rfl⟩ := serviceCall_decoded called
  have isOp := decodeServiceTx_isOp decoded
  simp only [Service.isOp, Bool.and_eq_true, decide_eq_true_eq] at isOp
  exact isOp

theorem Service.code_bounds (service : Service) : 1 ≤ service.code ∧ service.code ≤ 6 := by
  cases service <;> decide

theorem Service.code_alias (same : service.code = 1) : service = .alias := by
  cases service <;> first | rfl | cases same

theorem decodeServiceScript_code (done : decodeServiceScript service script = some decoded) :
    findMineriumScriptOp script = some service.code := by
  simp only [decodeServiceScript, Option.bind_eq_bind, Option.bind_eq_some_iff] at done
  obtain ⟨first, read, done⟩ := done
  split at done
  · cases done
  · rename_i same
    simp only [findMineriumScriptOp, Option.bind_eq_bind, read, Option.bind_some, not_not.mp same]
    rw [if_pos service.code_bounds]

theorem not_hasAliasData
    (called : (serviceCall tx).entry = some (service, op)) : hasAliasData tx = false := by
  obtain ⟨script, decoded, -⟩ := serviceCall_decoded called
  obtain ⟨out, member, done⟩ := exists_of_findSome?_eq_some decoded
  have notAlias : service.code ≠ 1 := by
    intro isAlias
    cases Service.code_alias isAlias
    generalize serviceCall tx = call at called
    cases call <;> cases called
  rw [hasAliasData, all_eq_false]
  refine ⟨out, member, ?_⟩
  rw [decodeServiceScript_code done, Option.getD_some]
  simpa using notAlias

theorem aliasPayload_null (other : hasAliasData tx = false) : (aliasPayload env tx).1 = .null := by
  rw [aliasPayload]
  split
  · rw [other]
    rfl
  · rfl

theorem checkAliasInputs_null (other : hasAliasData tx = false) {vvchArgs : List Bytes}
    {nHeight : Nat} {state : AliasState} :
    (checkAliasInputs env chain inputs tx op vvchArgs nHeight state).2 = state := by
  refine @wp_final AliasState CheckStop String _ _ (fun after => after = state) ?_
  unfold checkAliasInputs
  split
  · exact rfl
  split
  · simp only [wp_bind, wp_require, wp_read, wp_liftExcept, aliasPayload_null other]
    refine ⟨fun _ => ⟨fun _ => ⟨fun _ => ⟨?_, fun _ _ => trivial⟩, fun _ => trivial⟩,
      fun _ => trivial⟩, fun _ => trivial⟩
    intro theAlias same
    cases same
    rw [runAliasOp]
    split
    · exact rfl
    · simp only [aliasActivate, wp_bind, wp_require, wp_read]
      exact ⟨fun _ => ⟨fun _ => rfl, fun _ => trivial⟩, fun _ => trivial⟩
  · exact rfl

theorem serviceTx_aliases_kept (called : (serviceCall tx).entry = some (service, op)) :
    (serviceTx ctx tx state).2.aliases = state.aliases := by
  rcases (serviceTx_step ctx tx state).aliases with same | ⟨input, -, ran⟩
  · exact same
  · rw [ran, checkAliasInputs_null (not_hasAliasData called)]

def spendsAlias (inputs : UtxoMap) (tx : CTransaction) (vchAlias : Bytes) : Bool :=
  (spentScripts inputs tx).any fun script =>
    decide ((decodeAliasScript script).map (·.vvchArgs.headD []) = some vchAlias)

/-- The alias that an alias output names is also spent.  A block is not checked for this. -/
def AliasSpent (inputs : UtxoMap) (tx : CTransaction) : Prop :=
  ∀ script ∈ decodeAliasTx tx, spendsAlias inputs tx (script.vvchArgs.headD []) = true

instance (tx : CTransaction) : Decidable (AliasSpent inputs tx) :=
  inferInstanceAs (Decidable (∀ script ∈ decodeAliasTx tx, _))

theorem spendsAlias_of_findAliasInTx {args : List Bytes}
    (found : findAliasInTx inputs tx = some args) :
    spendsAlias inputs tx (args.headD []) = true := by
  obtain ⟨script, member, decoded⟩ := exists_of_findSome?_eq_some found
  obtain ⟨service, done, rfl⟩ := Option.map_eq_some_iff.mp decoded
  refine any_eq_true.mpr ⟨script, member, decide_eq_true ?_⟩
  rw [done, Option.map_some]

theorem spends_signingAlias (signed : (aliasInput inputs tx).isSome = true)
    (spent : AliasSpent inputs tx) : spendsAlias inputs tx (signingAlias inputs tx) = true := by
  rw [signingAlias]
  rw [aliasInput] at signed ⊢
  cases output : decodeAliasTx tx with
  | some script =>
    simp only [Option.map_some, Option.getD_some]
    exact spent script output
  | none =>
    simp only [output, Option.isSome_map] at signed
    obtain ⟨args, found⟩ := Option.isSome_iff_exists.mp signed
    simp only [found, Option.map_some, Option.getD_some]
    exact spendsAlias_of_findAliasInTx found

theorem headD_aliasArgs :
    (((aliasInput inputs tx).map (·.vvchAliasArgs)).getD []).headD [] = signingAlias inputs tx := by
  rw [signingAlias]
  cases aliasInput inputs tx with
  | none => rfl
  | some input => rfl

theorem mem_of_sortedVtx {env : OrderEnv} {nHeight : Nat} {sorted : List CTransaction}
    (done : sortedVtx env inputs nHeight vtx = some sorted) (member : tx ∈ sorted) : tx ∈ vtx := by
  simp only [sortedVtx, dagTopologicalSort] at done
  split at done
  · cases done
    exact member
  · split at done
    · cases done
    · split at done
      · cases done
        simp only [mem_append, mem_filterMap, mem_filter] at member
        rcases member with (first | ⟨position, -, there⟩) | ⟨later, -⟩
        · exact mem_of_mem_take first
        · exact mem_of_getElem? there
        · exact mem_of_mem_drop later
      · cases done

theorem mem_of_serviceVisits (visited : visit ∈ serviceVisits ctx vtx state) : visit.2 ∈ vtx := by
  have member := Loop.mem_of_visits visited
  rw [processedVtx] at member
  cases done : sortedVtx ctx.env.orderEnv ctx.inputs ctx.nHeight vtx with
  | none =>
    rw [done] at member
    cases member
  | some sorted =>
    rw [done] at member
    exact mem_of_sortedVtx done member

section

variable {env : ServiceEnv} {permitted : BlockContext → ServiceState → CTransaction → Prop}
  {good : ServiceState → Prop}

theorem services_invariant
    (kept : ∀ ctx state tx, good state → permitted ctx state tx → good (serviceTx ctx tx state).2)
    (fresh : ∀ state, good state → good state.startBlock)
    (unconfirmed : ∀ state unconfirmed, good state → good (Unconfirmed.onto unconfirmed state))
    {node : ServiceNode} (holds : good node.services) {actions : List NodeAction}
    (allowed : Run.Permitted (.step env) (EveryVisit env permitted) node actions) :
    good (Run.run (.step env) node actions).services := by
  refine @Run.invariant _ _ (.step env) (EveryVisit env permitted)
    (fun node => good node.services) ?_ _ holds _ allowed
  intro node action now every
  cases action with
  | mempool written => exact unconfirmed node.services written now
  | connect block =>
    refine (Loop.invariant good (fresh node.services now) ?_).1
    intro visit visited stillGood
    exact kept _ visit.1 visit.2 stillGood (every visit visited)

theorem services_invariant_always
    (kept : ∀ ctx state tx, good state → good (serviceTx ctx tx state).2)
    (fresh : ∀ state, good state → good state.startBlock)
    (unconfirmed : ∀ state unconfirmed, good state → good (Unconfirmed.onto unconfirmed state))
    {node : ServiceNode} (holds : good node.services) (actions : List NodeAction) :
    good (Run.run (ServiceNode.step env) node actions).services := by
  refine @Run.invariant_always _ _ (ServiceNode.step env) (fun node => good node.services) ?_ _
    holds actions
  intro node action now
  cases action with
  | mempool written => exact unconfirmed node.services written now
  | connect block =>
    exact (Loop.invariant good (fresh node.services now) fun visit _ => kept _ visit.1 visit.2).1

theorem visit_invariant (kept : ∀ ctx state tx, good state → good (serviceTx ctx tx state).2)
    {node : ServiceNode} (start : good node.services.startBlock) {block : ServiceBlock}
    {visit : ServiceState × CTransaction} (visited : visit ∈ node.visits env block) :
    good visit.1 :=
  (Loop.invariant good start fun later _ => kept _ later.1 later.2).2 visit visited

end

inductive SamplePayload where
  | alias (record : CAliasIndex)
  | cert (cert : CCert)
  | offer (offer : COffer)
  | escrow (escrow : CEscrow)
  | asset (asset : CAsset)
  | allocation (allocation : CAssetAllocation)

def samplePick {α : Type} (payloads : UInt8 → Option SamplePayload)
    (pick : SamplePayload → Option α) (data _hash : Bytes) : Option α :=
  data.head?.bind fun byte => (payloads byte).bind pick

def sampleServiceEnv (payloads : UInt8 → Option SamplePayload) : ServiceEnv where
  txHash := fun tx => BitVec.ofNat 256 tx.nLockTime.toNat
  isNullData := fun script => decide (script.head? = some 0x6a)
  addressOf := fun script => script.head?.map fun byte => [byte]
  isValidAddress := fun _ => false
  fUnitTest := false
  unserializeAlias := samplePick payloads fun | .alias record => some record | _ => none
  unserializeCert := samplePick payloads fun | .cert cert => some cert | _ => none
  unserializeOffer := samplePick payloads fun | .offer offer => some offer | _ => none
  unserializeEscrow := samplePick payloads fun | .escrow escrow => some escrow | _ => none
  unserializeAsset := samplePick payloads fun | .asset asset => some asset | _ => none
  unserializeAllocation := samplePick payloads fun | .allocation record => some record | _ => none
  aliasFee := fun _ _ => 0
  yearsText := fun _ => ""
  priceText := fun _ => ""
  accumulateBalance := fun balance _ _ => balance
  accumulateRate := fun rate _ _ => rate
  compoundInterest := fun _ _ _ => 0
  nShareFeeBlock := 0
  hawickCircuits := fun _ _ => []
  topologicalSort := fun count _ => some (List.range count).reverse

def sampleScript (service : Service) (op : UInt8) (args : List Bytes) : CScript :=
  [0x50 + UInt8.ofNat service.code, 0x50 + op] ++
    args.flatMap (fun arg => UInt8.ofNat arg.length :: arg) ++ [0x6d, 0x51]

def sampleAliasScript (op : UInt8) (name : Bytes) : CScript :=
  sampleScript .alias op [name, name, [0], []]

def sampleCoins (scripts : List CScript) : UtxoMap :=
  scripts.zipIdx.foldl
    (fun coins entry => coins.insert ⟨5, UInt32.ofNat entry.2⟩ ⟨⟨COIN, entry.1⟩, false, 1⟩) ∅

def sampleServiceTx (nLockTime coin : UInt32) (scripts : List CScript)
    (payload : UInt8) : CTransaction :=
  { nVersion := MINERIUM_TX_VERSION
    vin := [{ prevout := ⟨5, coin⟩, scriptSig := [], nSequence := SEQUENCE_FINAL }]
    vout := scripts.map (⟨COIN, ·⟩) ++ [⟨COIN, [0x6a, 1, payload, 1, payload]⟩]
    nLockTime := nLockTime }

def sampleCoinbase : CTransaction :=
  { nVersion := 1
    vin := [{ prevout := ⟨0, 0xffffffff⟩, scriptSig := [], nSequence := SEQUENCE_FINAL }]
    vout := [⟨0, [0x51]⟩]
    nLockTime := 0 }

variable (nTime : UInt32)

variable (name spent : Bytes)

def sampleSignedBlock (service : Service) (op payload : UInt8) : ServiceBlock :=
  { inputs := sampleCoins [sampleAliasScript 2 name]
    nTime := nTime
    vtx := [sampleCoinbase, sampleServiceTx nTime 0 [sampleScript service op [[payload]]] payload] }

def sampleSigned (service : Service) (op payload : UInt8) :
    NodeAction := .connect (sampleSignedBlock nTime name service op payload)

def sampleForged (service : Service) (op payload : UInt8) : ServiceBlock :=
  { inputs := sampleCoins [sampleAliasScript 2 spent]
    nTime := nTime
    vtx := [sampleCoinbase,
      sampleServiceTx nTime 0 [sampleAliasScript 2 name, sampleScript service op [[payload]]]
        payload] }

def sampleEmptyBlock : NodeAction := .connect ⟨∅, nTime, [sampleCoinbase]⟩

def sampleAliases (names : List Bytes) : NodeAction :=
  .connect
    { inputs := sampleCoins (names.map fun _ => [0x51])
      nTime := nTime
      vtx := sampleCoinbase :: names.zipIdx.map fun entry =>
        sampleServiceTx (nTime + UInt32.ofNat entry.2) (UInt32.ofNat entry.2)
          [sampleAliasScript 1 entry.1] (UInt8.ofNat entry.2) }

def sampleNode (env : ServiceEnv) (actions : List NodeAction) : ServiceNode :=
  Run.run (.step env) (.start 0) actions

def sampleAliasRecord : CAliasIndex :=
  { CAliasIndex.null with
    vchAlias := name, vchGUID := name, vchAddress := name, nExpireTime := 1000000 }

example : ((sampleNode (sampleServiceEnv fun _ => some (.alias (sampleAliasRecord [0x61])))
      [sampleAliases 100 [[0x61]]]).services.aliases.names.lookup [0x61]).map (·.vchAddress) =
        some [0x61] := by
  decide

end Minerium
