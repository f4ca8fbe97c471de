import Minerium.AliasOps

/-! Who may change an alias. -/

namespace Minerium

def spendsAliasGUID (inputs : UtxoMap) (tx : CTransaction) (vchAlias vchGUID : Bytes) : Bool :=
  (spentScripts inputs tx).any fun script =>
    decide ((decodeAliasScript script).map (·.vvchArgs.take 2) = some [vchAlias, vchGUID])

/-- An update has the name and the GUID of the record it finds, in its script and in a coin it
spends; the payload of an activation for a free name does not carry a name in use. -/
@[mk_iff]
structure AliasSigned (vchAlias : Bytes) (ctx : BlockContext) (state : ServiceState)
    (tx : CTransaction) : Prop where
  update : ∀ input ∈ aliasInput ctx.inputs tx, input.op = OP_ALIAS_UPDATE →
    (aliasPayload ctx.env.aliasEnv tx).1.isNull = false →
    toLower (input.vvchAliasArgs.headD []) = vchAlias →
    ∀ stored ∈ state.aliases.getAlias ctx.chain vchAlias,
      input.vvchAliasArgs.take 2 = [stored.vchAlias, stored.vchGUID] ∧
        spendsAliasGUID ctx.inputs tx stored.vchAlias stored.vchGUID = true
  activation : ∀ input ∈ aliasInput ctx.inputs tx, input.op ≠ OP_ALIAS_UPDATE →
    (aliasPayload ctx.env.aliasEnv tx).1.vchAlias = vchAlias →
    (state.aliases.getAlias ctx.chain (toLower (input.vvchAliasArgs.headD []))).all
      (·.isNull) = true →
    state.aliases.getAlias ctx.chain vchAlias = none

instance (vchAlias : Bytes) (ctx : BlockContext) (state : ServiceState) (tx : CTransaction) :
    Decidable (AliasSigned vchAlias ctx state tx) :=
  decidable_of_iff _ (aliasSigned_iff ..).symm

theorem getAlias_eq_some {state : AliasState} {chain : ActiveChain} {vchAlias : Bytes}
    {record : CAliasIndex} : state.getAlias chain vchAlias = some record ↔
      state.names.lookup vchAlias = some record ∧ isExpiredAt chain record.nExpireTime = false := by
  rw [AliasState.getAlias, Option.filter_eq_some_iff, Bool.not_eq_true']

theorem giveUpAddress_names {edit : AliasEdit} {dbAlias : CAliasIndex} {state : AliasState} :
    (giveUpAddress edit dbAlias state).names = state.names := by
  rw [giveUpAddress]
  split
  · rfl
  · rfl

theorem headD_of_take {args : List Bytes} {first second : Bytes}
    (taken : args.take 2 = [first, second]) : args.headD [] = first := by
  match args, taken with
  | [_, _], taken | _ :: _ :: _ :: _, taken =>
    cases taken
    rfl

section

variable {ctx : BlockContext} {state : ServiceState} {tx : CTransaction} {vchAlias : Bytes}
  {record : CAliasIndex}

theorem serviceTx_alias (signed : AliasSigned vchAlias ctx state tx)
    (found : state.aliases.getAlias ctx.chain vchAlias = some record) :
    (serviceTx ctx tx state).2.aliases.names.lookup vchAlias = some record ∨
      spendsAliasGUID ctx.inputs tx record.vchAlias record.vchGUID = true := by
  have stored := (getAlias_eq_some.mp found).1
  rcases (serviceTx_step ctx tx state).aliases with same | ⟨input, decoded, ran⟩
  · exact .inl (same ▸ stored)
  · rw [ran]
    have effect := checkAliasInputs_effect ctx.env.aliasEnv ctx.chain ctx.inputs tx input.op
      input.vvchAliasArgs ctx.nHeight state.aliases
    generalize (checkAliasInputs ctx.env.aliasEnv ctx.chain ctx.inputs tx input.op
      input.vvchAliasArgs ctx.nHeight state.aliases).2 = after at effect
    cases effect with
    | kept => exact .inl stored
    | erased vchName vchGUID dbAlias theAlias _ _ =>
      rw [giveUpAddress_names]
      exact .inl stored
    | updated vchName vchGUID dbAlias theAlias args isUpdate payload there _ =>
      have sound := @updatedAlias_sound state.aliases ctx.chain dbAlias vchName vchGUID theAlias
      have key : dbAlias.vchAlias = toLower vchName :=
        Table.key_of_lookup (getAlias_eq_some.mp there).1
      by_cases same : vchAlias = toLower vchName
      · subst same
        cases found.symm.trans there
        exact .inr (signed.update input decoded isUpdate payload
          (congrArg toLower (headD_of_take args)) _ found).2
      · refine .inl ?_
        rw [writeAlias, giveUpAddress_names]
        rw [Table.lookup_write_ne (by rwa [stampedAlias, sound.named, key])]
        exact stored
    | activated theAlias notUpdate paid _ _ free =>
      obtain ⟨nExpireTime, rfl⟩ := payExpiry_eq_ok paid
      refine .inl ((Table.lookup_write_ne ?_).trans stored)
      intro same
      cases found.symm.trans (signed.activation input decoded notUpdate same.symm free)

end

def sampleMovedEnv : ServiceEnv :=
  sampleServiceEnv fun
    | 0 => some (.alias (sampleAliasRecord [0x61]))
    | 1 => some (.alias (sampleAliasRecord [0x62]))
    | 2 => some (.alias { sampleAliasRecord [0x61] with vchAddress := [0x7a] })
    | _ => none

def sampleMovedNode : ServiceNode := sampleNode sampleMovedEnv [sampleAliases 100 [[0x61], [0x62]]]

def sampleMovedStored : CAliasIndex :=
  (sampleMovedNode.services.aliases.names.lookup [0x61]).getD CAliasIndex.null

def sampleMoved (name spent : Bytes) : ServiceBlock :=
  { inputs := sampleCoins [sampleAliasScript 2 spent]
    nTime := 200
    vtx := [sampleCoinbase, sampleServiceTx 200 0 [sampleAliasScript 2 name] 2] }

end Minerium
