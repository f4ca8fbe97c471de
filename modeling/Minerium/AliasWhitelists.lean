import Minerium.AliasAuthority

/-! The whitelists of the stored aliases. -/

namespace Minerium

open List

/-- At most 20 entries, each with a discount of at most 99 percent and under its own key. -/
@[mk_iff]
structure WhitelistKept (entries : WhitelistMap) : Prop where
  bounded : entries.length ≤ 20
  entry : ∀ entry ∈ entries, entry.2.nDiscountPct ≤ 99 ∧ entry.1 = entry.2.aliasLinkVchRand

instance (entries : WhitelistMap) : Decidable (WhitelistKept entries) :=
  decidable_of_iff _ (whitelistKept_iff _).symm

theorem mem_putEntry {key : Bytes} {entry : COfferLinkWhitelistEntry} {entries : WhitelistMap} :
    (putEntry key entry entries).length ≤ entries.length + 1 ∧
      ∀ item ∈ putEntry key entry entries, item = (key, entry) ∨ item ∈ entries := by
  induction entries with
  | nil => simp [putEntry]
  | cons head rest ih =>
    rw [putEntry]
    split_ifs
    · grind
    · grind
    · grind

theorem toggleEntry_kept {outcome : WhitelistMap × String} (kept : WhitelistKept outcome.1)
    (newEntry : COfferLinkWhitelistEntry) : WhitelistKept (toggleEntry outcome newEntry).1 := by
  rw [toggleEntry]
  split_ifs with tooLarge _ room
  · exact kept
  · exact ⟨(length_filter_le _ _).trans kept.bounded, fun entry member =>
      kept.entry entry (mem_of_mem_filter member)⟩
  · obtain ⟨longer, items⟩ := @mem_putEntry newEntry.aliasLinkVchRand newEntry outcome.1
    refine ⟨longer.trans room, fun entry member => ?_⟩
    rcases items entry member with rfl | stored
    · exact ⟨UInt8.not_lt.mp tooLarge, rfl⟩
    · exact kept.entry entry stored
  · exact kept

theorem editWhitelist_kept {whiteList stored : WhitelistMap} (kept : WhitelistKept stored)
    (errorMessage : String) : WhitelistKept (editWhitelist whiteList stored errorMessage).1 := by
  have empty : WhitelistKept [] := by decide
  rw [editWhitelist]
  split_ifs
  · exact empty
  · exact kept
  · exact empty
  · generalize whiteList.map (·.2) = entries
    induction entries generalizing stored errorMessage with
    | nil => exact kept
    | cons entry rest ih => exact ih (toggleEntry_kept kept entry) _

theorem refuseEdit_whitelist {dbAlias : CAliasIndex} {condition : Bool} {message : String}
    {edit : AliasEdit} (same : edit.theAlias.offerWhitelist = dbAlias.offerWhitelist) :
    (refuseEdit condition dbAlias message edit).theAlias.offerWhitelist =
      dbAlias.offerWhitelist := by
  rw [refuseEdit]
  split
  · rfl
  · exact same

theorem updatedAlias_kept {state : AliasState} {chain : ActiveChain} {vchName vchGUID : Bytes}
    {dbAlias theAlias : CAliasIndex} (kept : WhitelistKept dbAlias.offerWhitelist) : WhitelistKept
      (updatedAlias state chain vchName vchGUID dbAlias theAlias).theAlias.offerWhitelist := by
  unfold updatedAlias
  extract_lets errorMessage payload
  split
  · rw [editAlias, refuseEdit_whitelist]
    · exact kept
    · unfold editAddress
      split
      · exact refuseEdit_whitelist (refuseEdit_whitelist rfl)
      · exact refuseEdit_whitelist rfl
  · exact editWhitelist_kept kept errorMessage

def WhitelistsKept (state : AliasState) : Prop :=
  ∀ vchAlias record, state.names.lookup vchAlias = some record → WhitelistKept record.offerWhitelist

def ActivatesKept (ctx : BlockContext) (_ : ServiceState) (tx : CTransaction) : Prop :=
  ∀ input ∈ aliasInput ctx.inputs tx, input.op ≠ OP_ALIAS_UPDATE →
    WhitelistKept (aliasPayload ctx.env.aliasEnv tx).1.offerWhitelist

instance (ctx : BlockContext) (state : ServiceState) (tx : CTransaction) :
    Decidable (ActivatesKept ctx state tx) :=
  inferInstanceAs (Decidable (∀ input ∈ aliasInput ctx.inputs tx, _))

theorem WhitelistsKept.write {state before : AliasState} (kept : WhitelistsKept state)
    (names : before.names = state.names) {record : CAliasIndex}
    (good : WhitelistKept record.offerWhitelist) : WhitelistsKept (writeAlias record before) := by
  intro vchAlias other found
  rw [writeAlias, Table.lookup_write, names] at found
  split at found
  · cases found
    exact good
  · exact kept vchAlias other found

theorem WhitelistsKept.effect {env : AliasEnv} {chain : ActiveChain} {tx : CTransaction}
    {op nHeight : Nat} {vvchArgs : List Bytes} {state after : AliasState}
    (effect : AliasEffect env chain tx op vvchArgs nHeight state after)
    (kept : WhitelistsKept state)
    (activates : op ≠ OP_ALIAS_UPDATE → WhitelistKept (aliasPayload env tx).1.offerWhitelist) :
    WhitelistsKept after := by
  cases effect with
  | kept => exact kept
  | erased =>
    intro vchAlias record found
    exact kept vchAlias record (giveUpAddress_names ▸ found)
  | updated vchName vchGUID dbAlias theAlias _ _ _ found =>
    exact kept.write giveUpAddress_names
      (updatedAlias_kept (kept _ _ (getAlias_eq_some.mp found).1))
  | activated theAlias notUpdate paid =>
    obtain ⟨nExpireTime, rfl⟩ := payExpiry_eq_ok paid
    exact kept.write rfl (activates notUpdate)

theorem serviceTx_whitelists (ctx : BlockContext) (state : ServiceState) (tx : CTransaction)
    (kept : WhitelistsKept state.aliases) (activates : ActivatesKept ctx state tx) :
    WhitelistsKept (serviceTx ctx tx state).2.aliases := by
  rcases (serviceTx_step ctx tx state).aliases with same | ⟨input, decoded, ran⟩
  · rw [same]
    exact kept
  · rw [ran]
    exact .effect (checkAliasInputs_effect ..) kept (activates input decoded)

theorem whitelists_kept (env : ServiceEnv) (nTime : UInt32) (actions : List NodeAction)
    (allowed : Run.Permitted (.step env) (EveryVisit env ActivatesKept) (.start nTime) actions) :
    WhitelistsKept (Run.run (.step env) (ServiceNode.start nTime) actions).services.aliases := by
  refine @services_invariant env ActivatesKept (fun state => WhitelistsKept state.aliases)
    serviceTx_whitelists (fun _ kept => kept) (fun _ _ kept => kept) _ ?_ _ allowed
  intro vchAlias record found
  cases found

def sampleListedEnv (entry : Bytes × COfferLinkWhitelistEntry) : ServiceEnv :=
  sampleServiceEnv fun _ => some (.alias
    { sampleAliasRecord [0x61] with offerWhitelist := [entry] })

theorem whitelists_kept_sample :
    WhitelistsKept (Run.run (.step (sampleListedEnv ([0x62], ⟨[0x62], 99⟩))) (ServiceNode.start 0)
      [sampleAliases 100 [[0x61]]]).services.aliases :=
  whitelists_kept _ 0 _ (by decide)

theorem activation_lists_anything :
    ((Run.run (.step (sampleListedEnv ([0x62], ⟨[0x63], 200⟩))) (ServiceNode.start 0)
      [sampleAliases 100 [[0x61]]]).services.aliases.names.lookup [0x61]).map
        (·.offerWhitelist) = some [([0x62], ⟨[0x63], 200⟩)] := by
  decide

end Minerium
