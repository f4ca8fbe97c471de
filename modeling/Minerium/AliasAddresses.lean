import Minerium.AliasAuthority
import Minerium.ChainTime

/-! One alias for an address: the index of addresses leads back to every alias in use. -/

namespace Minerium

open FinmapTotal ServiceNode AliasState Option

variable {dbAlias record : CAliasIndex} {tx : CTransaction} {chain : ActiveChain}
  {state : AliasState}

inductive AliasAction where
  | node (action : NodeAction)
  | cleanup (keys : List CursorKey)

def ServiceNode.aliasStep (env : ServiceEnv) (node : ServiceNode) : AliasAction → ServiceNode
  | .node action => node.step env action
  | .cleanup keys =>
    { node with services := { node.services with
        aliases := cleanupDatabase node.chain keys node.services.aliases } }

section

variable (chain state)

/-- No two aliases in use have one address, and the index maps the address of each to its name. -/
def OneOwner : Prop :=
  (∀ first second one two, state.getAlias chain first = some one →
      state.getAlias chain second = some two → one.vchAddress = two.vchAddress → first = second) ∧
    ∀ vchAlias record, state.getAlias chain vchAlias = some record →
      state.addresses.lookup record.vchAddress = some vchAlias

structure Indexed : Prop where
  stored : ∀ vchAlias record, state.names.lookup vchAlias = some record →
    vchAlias ≠ [] ∧ record.vchAddress ≠ []
  indexed : ∀ vchAlias record, state.getAlias chain vchAlias = some record →
    state.addresses.lookup record.vchAddress = some vchAlias

end

theorem Indexed.oneOwner (index : Indexed chain state) : OneOwner chain state := by
  refine ⟨fun first second one two foundOne foundTwo same => ?_, index.indexed⟩
  have mapped := index.indexed first one foundOne
  rw [same, index.indexed second two foundTwo] at mapped
  exact (some.inj mapped).symm

def AddressFree (ctx : BlockContext) (state : ServiceState) (tx : CTransaction) : Prop :=
  ∀ input ∈ aliasInput ctx.inputs tx, input.op ≠ OP_ALIAS_UPDATE →
    (aliasPayload ctx.env.aliasEnv tx).1.isNull = false →
    isNameOfAnother state.aliases ctx.chain (aliasPayload ctx.env.aliasEnv tx).1
      (aliasPayload ctx.env.aliasEnv tx).1 = false

instance (ctx : BlockContext) (state : ServiceState) : Decidable (AddressFree ctx state tx) :=
  inferInstanceAs (Decidable (∀ input ∈ aliasInput ctx.inputs tx, _))

section

variable {chain : ActiveChain} {state : AliasState}

theorem holder_of_free (index : Indexed chain state) {theAlias : CAliasIndex}
    (free : isNameOfAnother state chain dbAlias theAlias = false) {vchAlias : Bytes}
    (found : state.getAlias chain vchAlias = some record)
    (same : record.vchAddress = theAlias.vchAddress) : vchAlias = dbAlias.vchAlias := by
  have mapped := index.indexed vchAlias record found
  have named := (index.stored vchAlias record (getAlias_eq_some.mp found).1).1
  rw [isNameOfAnother, ← same, mapped] at free
  simp only [found, isSome_some, Bool.and_true, Bool.and_eq_false_iff,
    decide_eq_false_iff_not, not_not, Bool.not_eq_false', List.isEmpty_iff] at free
  exact free.resolve_left named

theorem Indexed.write (index : Indexed chain state) {addresses : Finmap fun _ : Bytes => Bytes}
    (named : record.isNull = false) (address : record.vchAddress.isEmpty = false)
    (free : ∀ vchAlias other, state.getAlias chain vchAlias = some other → other.vchAddress =
      record.vchAddress → vchAlias = record.vchAlias)
    (kept : ∀ vchAlias other, vchAlias ≠ record.vchAlias → state.getAlias chain vchAlias = some
      other → addresses.lookup other.vchAddress = state.addresses.lookup other.vchAddress) :
    Indexed chain (writeAlias record { state with addresses }) := by
  have lookups := fun vchAlias => Table.lookup_write state.names record vchAlias
  refine ⟨fun vchAlias other found => ?_, fun vchAlias other found => ?_⟩
  · rw [writeAlias, lookups] at found
    split at found
    · rename_i same
      cases found
      rw [same]
      exact ⟨by simpa [CAliasIndex.isNull] using named, by simpa using address⟩
    · exact index.stored vchAlias other found
  · obtain ⟨there, lasting⟩ := getAlias_eq_some.mp found
    rw [writeAlias, lookups] at there
    rw [writeAlias, lookup_insert_eq]
    split at there
    · rename_i same
      cases there
      rw [if_pos rfl, same]
    · rename_i different
      have before : state.getAlias chain vchAlias = some other :=
        getAlias_eq_some.mpr ⟨there, lasting⟩
      rw [if_neg fun same => different (free vchAlias other before same),
        kept vchAlias other different before]
      exact index.indexed vchAlias other before

theorem giveUpAddress_eq {edit : AliasEdit} : giveUpAddress edit dbAlias state = { state with
      addresses := if edit.erasesAddress then state.addresses.erase dbAlias.vchAddress
        else state.addresses } := by
  rw [giveUpAddress]
  split
  · rfl
  · rfl

theorem Indexed.updated (index : Indexed chain state) (vchName vchGUID : Bytes)
    (theAlias : CAliasIndex) (env : AliasEnv) (tx : CTransaction)
    (nHeight : Nat) (found : state.getAlias chain (toLower vchName) = some dbAlias)
    (address : (updatedAlias state chain vchName vchGUID dbAlias
      theAlias).theAlias.vchAddress.isEmpty = false) :
    Indexed chain (writeAlias (stampedAlias env tx nHeight
        (updatedAlias state chain vchName vchGUID dbAlias theAlias).theAlias)
      (giveUpAddress (updatedAlias state chain vchName vchGUID dbAlias theAlias) dbAlias
        state)) := by
  have sound := @updatedAlias_sound state chain dbAlias vchName vchGUID theAlias
  generalize updatedAlias state chain vchName vchGUID dbAlias theAlias = edit at address sound ⊢
  have stored := (getAlias_eq_some.mp found).1
  have key : dbAlias.vchAlias = toLower vchName := Table.key_of_lookup stored
  have sole : ∀ vchAlias other, state.getAlias chain vchAlias = some other →
      other.vchAddress = dbAlias.vchAddress → vchAlias = edit.theAlias.vchAlias := by
    intro vchAlias other there same
    rw [sound.named, key]
    exact index.oneOwner.1 _ _ _ _ there found same
  rw [giveUpAddress_eq]
  refine index.write ?_ address ?_ ?_
  · have named := (index.stored _ _ stored).1
    rw [← key, ← sound.named] at named
    simpa [CAliasIndex.isNull, stampedAlias] using named
  · intro vchAlias other there same
    rcases sound.address with unmoved | free
    · exact sole vchAlias other there (same.trans unmoved)
    · exact (holder_of_free index free there same).trans sound.named.symm
  · intro vchAlias other different there
    split
    · rw [lookup_erase_eq, if_neg fun same => different (sole vchAlias other there same)]
    · rfl

theorem Indexed.effect (index : Indexed chain state) {env : AliasEnv} {op : Nat}
    {vvchArgs : List Bytes} {nHeight : Nat} {after : AliasState}
    (effect : AliasEffect env chain tx op vvchArgs nHeight state after)
    (free : op ≠ OP_ALIAS_UPDATE → (aliasPayload env tx).1.isNull = false →
      isNameOfAnother state chain (aliasPayload env tx).1 (aliasPayload env tx).1 = false) :
    Indexed chain after := by
  cases effect with
  | kept => exact index
  | erased vchName vchGUID dbAlias theAlias found noAddress =>
    have sound := @updatedAlias_sound state chain dbAlias vchName vchGUID theAlias
    have addressed := (index.stored _ _ (getAlias_eq_some.mp found).1).2
    exact absurd (List.isEmpty_iff.mp noAddress) (sound.addressed addressed)
  | updated vchName vchGUID dbAlias theAlias _ _ _ found address =>
    exact index.updated vchName vchGUID theAlias env tx nHeight found address
  | activated theAlias notUpdate paid payload address _ =>
    obtain ⟨nExpireTime, rfl⟩ := payExpiry_eq_ok paid
    refine index.write payload address ?_ fun _ _ _ _ => rfl
    intro vchAlias other there same
    exact holder_of_free index (free notUpdate payload) there same

end

section

variable {env : ServiceEnv}

theorem serviceTx_indexed {ctx : BlockContext} {state : ServiceState}
    (index : Indexed ctx.chain state.aliases) (free : AddressFree ctx state tx) :
    Indexed ctx.chain (serviceTx ctx tx state).2.aliases := by
  rcases (serviceTx_step ctx tx state).aliases with same | ⟨input, decoded, ran⟩
  · rw [same]
    exact index
  · rw [ran]
    exact index.effect (checkAliasInputs_effect _ _ _ _ _ _ _ _) (free input decoded)

theorem Indexed.connect (index : Indexed chain state)
    {nTime : UInt32} (inTime : timeTooOld chain nTime = false) :
    Indexed (chain.connect nTime) state := by
  refine ⟨index.stored, fun vchAlias record found => index.indexed vchAlias record ?_⟩
  obtain ⟨there, lasting⟩ := getAlias_eq_some.mp found
  exact getAlias_eq_some.mpr ⟨there, inUse_of_connect inTime lasting⟩

section

variable {chain : ActiveChain} {state : AliasState}

theorem cleanupKey_spec {key : CursorKey} :
    (cleanupKey chain state key).addresses = state.addresses ∧
      (cleanupKey chain state key).unprunable = state.unprunable ∧
      ∀ vchAlias, (cleanupKey chain state key).names.lookup vchAlias =
        if .namei vchAlias = key then state.getAlias chain vchAlias
        else state.names.lookup vchAlias := by
  cases key with
  | namei name =>
    simp only [cleanupKey, getAlias, CursorKey.namei.injEq]
    split
    · rename_i found
      split
      · rename_i expired
        refine ⟨rfl, rfl, fun vchAlias => ?_⟩
        rw [Table.lookup_erase]
        split
        · rename_i same
          rw [same, found, filter_some, if_neg (by simp [expired])]
        · rfl
      · rename_i lasting
        refine ⟨rfl, rfl, fun vchAlias => ?_⟩
        split
        · rename_i same
          rw [same, found, filter_some, if_pos (by simp [lasting])]
        · rfl
    · rename_i missing
      refine ⟨rfl, rfl, fun vchAlias => ?_⟩
      split
      · rename_i same
        simp [same, missing]
      · rfl
  | namea vchAddress =>
    simp only [cleanupKey, reduceCtorEq, if_false]
    split
    · rename_i record found
      obtain ⟨vchAlias, -, there⟩ := bind_eq_some_iff.mp found
      rw [(getAlias_eq_some.mp there).2, if_neg Bool.false_ne_true]
      exact ⟨rfl, rfl, fun _ => rfl⟩
    · exact ⟨rfl, rfl, fun _ => rfl⟩

theorem cleanupDatabase_spec {keys : List CursorKey} :
    (cleanupDatabase chain keys state).addresses = state.addresses ∧
      (cleanupDatabase chain keys state).unprunable = state.unprunable ∧
      ∀ vchAlias, (cleanupDatabase chain keys state).names.lookup vchAlias =
        if .namei vchAlias ∈ keys then state.getAlias chain vchAlias
        else state.names.lookup vchAlias := by
  rw [cleanupDatabase]
  induction keys generalizing state with
  | nil => exact ⟨rfl, rfl, fun _ => rfl⟩
  | cons key rest ih =>
    obtain ⟨addresses, unprunable, names⟩ := @cleanupKey_spec chain state key
    refine ⟨ih.1.trans addresses, ih.2.1.trans unprunable, fun vchAlias => ?_⟩
    rw [List.foldl_cons, ih.2.2, getAlias, names]
    by_cases first : CursorKey.namei vchAlias = key
    · simp [first, getAlias]
    · simp [first, getAlias]

theorem Indexed.cleanup (index : Indexed chain state) (keys : List CursorKey) :
    Indexed chain (cleanupDatabase chain keys state) := by
  obtain ⟨addresses, -, names⟩ := @cleanupDatabase_spec chain state keys
  have still : ∀ vchAlias record, (cleanupDatabase chain keys state).names.lookup vchAlias =
      some record → state.names.lookup vchAlias = some record := by
    intro vchAlias record found
    rw [names] at found
    split at found
    · exact (getAlias_eq_some.mp found).1
    · exact found
  refine ⟨fun vchAlias record found => index.stored vchAlias record (still vchAlias record found),
    fun vchAlias record found => ?_⟩
  obtain ⟨there, lasting⟩ := getAlias_eq_some.mp found
  rw [addresses]
  exact index.indexed vchAlias record (getAlias_eq_some.mpr ⟨still vchAlias record there, lasting⟩)

/-- The cursor comes to every record and every address. -/
structure AliasCursor (state : AliasState) where
  keys : List CursorKey
  names : ∀ vchAlias, (state.names.lookup vchAlias).isSome = true → .namei vchAlias ∈ keys
  addresses : ∀ address, (state.addresses.lookup address).isSome = true → .namea address ∈ keys

/-- The aliases in use are left, and the addresses that lead to one. -/
structure Cleaned (chain : ActiveChain) (before after : AliasState) : Prop where
  names : ∀ vchAlias, after.names.lookup vchAlias = before.getAlias chain vchAlias
  addresses : ∀ address, after.addresses.lookup address =
    (before.addresses.lookup address).filter fun name => (before.getAlias chain name).isSome
  unprunable : after.unprunable = before.unprunable

def expiredAlias : AliasState :=
  ⟨Table.empty.write { CAliasIndex.null with vchAlias := [0x61], vchAddress := [0x01] },
    (∅ : Finmap fun _ : Bytes => Bytes).insert [0x01] [0x61], ∅⟩

theorem expiredAlias_address_left : ¬ Cleaned ⟨100, []⟩ expiredAlias
      (cleanupDatabase ⟨100, []⟩ [.namea [0x01], .namei [0x61]] expiredAlias) := by
  intro cleaned
  exact absurd (cleaned.addresses [0x01]) (by decide)

theorem cleanupDatabase_cleans_iff (chain : ActiveChain) (state : AliasState)
    (cursor : AliasCursor state) : Cleaned chain state (cleanupDatabase chain cursor.keys state) ↔
      ∀ address name, state.addresses.lookup address = some name →
        (state.getAlias chain name).isSome = true := by
  obtain ⟨addresses, unprunable, names⟩ := @cleanupDatabase_spec chain state cursor.keys
  constructor
  · intro cleaned address name found
    have kept := cleaned.addresses address
    rw [addresses, found] at kept
    exact (filter_eq_some_iff.mp kept.symm).2
  · intro inUse
    refine ⟨fun vchAlias => ?_, fun address => ?_, unprunable⟩
    · rw [names]
      split
      · rfl
      · rename_i unvisited
        cases found : state.names.lookup vchAlias with
        | none =>
          rw [getAlias, found]
          rfl
        | some record => exact absurd (cursor.names vchAlias (by rw [found]; rfl)) unvisited
    · rw [addresses]
      cases found : state.addresses.lookup address with
      | none => rfl
      | some name => rw [filter_some, if_pos (inUse address name found)]

/-- Of its two aliases only the one in use has an address. -/
def partlyExpired : AliasState :=
  ⟨expiredAlias.names.write
      { CAliasIndex.null with vchAlias := [0x62], vchAddress := [0x02], nExpireTime := 1000 },
    (∅ : Finmap fun _ : Bytes => Bytes).insert [0x02] [0x62], ∅⟩

def partlyExpiredCursor : AliasCursor partlyExpired where
  keys := [.namei [0x61], .namei [0x62], .namea [0x02]]
  names := by
    intro vchAlias found
    rw [partlyExpired, expiredAlias, Table.lookup_write, Table.lookup_write] at found
    split_ifs at found with second first
    · simp [second]
    · simp [first]
    · cases found
  addresses := by
    intro address found
    rw [partlyExpired, FinmapTotal.lookup_insert_eq] at found
    split_ifs at found with here
    · simp [here]
    · cases found

theorem cleanupDatabase_cleans_iff_sample :
    let after := cleanupDatabase ⟨100, []⟩ partlyExpiredCursor.keys partlyExpired
    Cleaned ⟨100, []⟩ partlyExpired after ∧ after.names.lookup [0x61] = none ∧
      (after.names.lookup [0x62]).isSome = true := by
  refine ⟨(cleanupDatabase_cleans_iff _ _ partlyExpiredCursor).mpr fun address name found => ?_,
    by decide, by decide⟩
  rw [partlyExpired, FinmapTotal.lookup_insert_eq] at found
  split_ifs at found
  · cases found
    decide
  · cases found

end

def AddressesKept (env : ServiceEnv) (node : ServiceNode) : AliasAction → Prop
  | .node (.connect block) => timeTooOld node.chain block.nTime = false ∧
      EveryVisit env AddressFree node (.connect block)
  | .node (.mempool _) => True
  | .cleanup _ => True

instance (node : ServiceNode) : (action : AliasAction) → Decidable (AddressesKept env node action)
  | .node (.connect block) => inferInstanceAs (Decidable (timeTooOld node.chain block.nTime =
    false ∧ EveryVisit env AddressFree node (.connect block)))
  | .node (.mempool _) => .isTrue trivial
  | .cleanup _ => .isTrue trivial

theorem aliasStep_indexed {node : ServiceNode} {action : AliasAction}
    (index : Indexed node.chain node.services.aliases) (kept : AddressesKept env node action) :
    Indexed (node.aliasStep env action).chain (node.aliasStep env action).services.aliases := by
  match action, kept with
  | .cleanup keys, _ => exact index.cleanup keys
  | .node (.mempool _), _ => exact index
  | .node (.connect block), ⟨inTime, free⟩ =>
    refine Indexed.connect ?_ inTime
    have start : Indexed node.chain node.services.startBlock.aliases := index
    refine (Loop.invariant (fun state : ServiceState => Indexed node.chain state.aliases) start
      ?_).1
    intro visit visited stillIndexed
    exact serviceTx_indexed stillIndexed (free visit visited)

theorem one_owner_per_address (env : ServiceEnv) (nTime : UInt32) (actions : List AliasAction)
    (kept : Run.Permitted (.aliasStep env) (AddressesKept env) (start nTime) actions) :
    OneOwner (Run.run (aliasStep env) (start nTime) actions).chain
      (Run.run (aliasStep env) (start nTime) actions).services.aliases := by
  refine Indexed.oneOwner ?_
  refine @Run.invariant _ _ (.aliasStep env) (AddressesKept env)
    (fun node => Indexed node.chain node.services.aliases) (fun _ _ => aliasStep_indexed) _ ?_ _
      kept
  refine ⟨fun vchAlias record found => ?_, fun vchAlias record found => ?_⟩
  · cases found
  · cases (getAlias_eq_some.mp found).1

end

def sampleRevivedEnv : ServiceEnv :=
  sampleServiceEnv fun
    | 0 => some (.alias (sampleAliasRecord [0x61]))
    | 1 => some (.alias { sampleAliasRecord [0x62] with nExpireTime := 9000000 })
    | 2 => some (.alias { sampleAliasRecord [0x61] with
        vchAddress := [0x62], nExpireTime := 9000000 })
    | _ => none

def sampleExpiry : List AliasAction :=
  [.node (sampleAliases 100 [[0x61], [0x62]]), .node (sampleEmptyBlock 2000000),
    .node (sampleEmptyBlock 2000001), .node (sampleEmptyBlock 2000002), .cleanup [.namei [0x61]]]

theorem one_owner_per_address_sample : OneOwner (Run.run (aliasStep sampleRevivedEnv) (start 0)
        sampleExpiry).chain (Run.run (aliasStep sampleRevivedEnv) (start 0)
        sampleExpiry).services.aliases :=
  one_owner_per_address sampleRevivedEnv 0 sampleExpiry
    (by decide : Run.Permitted (.aliasStep sampleRevivedEnv)
      (AddressesKept sampleRevivedEnv) (.start 0) sampleExpiry)

def sampleRevival : AliasAction :=
  .node (.connect
    { inputs := sampleCoins [[0x51]]
      nTime := 2000003
      vtx := [sampleCoinbase, sampleServiceTx 2000003 0 [sampleAliasScript 1 [0x61]] 2] })

def sampleRevivedNode : ServiceNode :=
  Run.run (.aliasStep sampleRevivedEnv) (.start 0) (sampleExpiry ++ [sampleRevival])

theorem address_taken_by_expired_name :
    (sampleRevivedNode.services.aliases.getAlias sampleRevivedNode.chain [0x61]).map
        (·.vchAddress) = some [0x62] ∧
      (sampleRevivedNode.services.aliases.getAlias sampleRevivedNode.chain [0x62]).map
        (·.vchAddress) = some [0x62] ∧
      sampleRevivedNode.services.aliases.addresses.lookup [0x62] = some [0x61] := by
  decide

end Minerium
