import Minerium.Disconnect
import Minerium.RejectedBlocks

/-! Service transactions that spend outputs of their own block. -/

namespace Minerium

open List Ledger

variable {first second : UtxoMap} {tx : CTransaction} (env : BlockEnv)

def CreatedBy (tx : CTransaction) (outpoint : COutPoint) : Prop :=
  ∃ i < tx.vout.length, outpoint = ⟨txHash env tx, UInt32.ofNat i⟩

def coinsAfter (nHeight : Nat) (utxo : UtxoMap) (txs : List CTransaction) :
    Option UtxoMap := (applyTxs (txHash env) nHeight utxo txs).map (·.1)

/-- Inputs that the block has created are found as the coins they are, and so are the alias and the
owner that sign. -/
structure ResolvesInputs (env : BlockEnv) (ctx : BlockContext) (before : List CTransaction)
    (tx : CTransaction) (spends : UtxoMap) : Prop where
  coins : ∀ txin ∈ tx.vin, ∀ parent ∈ before, CreatedBy env parent txin.prevout →
    accessCoin ctx.inputs txin.prevout = accessCoin spends txin.prevout
  signer : aliasInput ctx.inputs tx = aliasInput spends tx
  owner : ∀ address, findAssetOwnerInTx ctx.env.addressOf ctx.inputs tx address =
    findAssetOwnerInTx ctx.env.addressOf spends tx address

def ResolvesChained (ctx : BlockContext) (vtx : List CTransaction) : Prop :=
  ∀ before tx after, vtx = before ++ tx :: after → tx.nVersion = MINERIUM_TX_VERSION →
    ∀ spends, coinsAfter env ctx.nHeight ctx.inputs before = some spends →
      ResolvesInputs env ctx before tx spends

def NoChainedServices (vtx : List CTransaction) : Prop :=
  ∀ before tx after, vtx = before ++ tx :: after → tx.nVersion = MINERIUM_TX_VERSION →
    ∀ txin ∈ tx.vin, ∀ parent ∈ before, ¬CreatedBy env parent txin.prevout

theorem coinsAfter_origin {env : BlockEnv} {nHeight : Nat} {utxo spends : UtxoMap}
    {txs : List CTransaction} (applied : coinsAfter env nHeight utxo txs = some spends)
    {outpoint : COutPoint} {coin : Coin} (found : spends.lookup outpoint = some coin) :
    (∃ tx ∈ txs, CreatedBy env tx outpoint) ∨ utxo.lookup outpoint = some coin := by
  obtain ⟨⟨after, spent⟩, ran, rfl⟩ := Option.map_eq_some_iff.mp applied
  have origin : Ledger.AllCoins (fun outpoint coin =>
      (∃ tx ∈ txs, CreatedBy env tx outpoint) ∨ utxo.lookup outpoint = some coin) after := by
    refine (Ledger.AllCoins.applyTxs (fun _ _ => Or.inr) ?_ ran).1
    intro tx member j out there _
    exact Or.inl ⟨tx, member, j, (List.getElem?_eq_some_iff.mp there).1, rfl⟩
  exact origin outpoint coin found

theorem spentScripts_congr
    (same : ∀ txin ∈ tx.vin, accessCoin first txin.prevout = accessCoin second txin.prevout) :
    spentScripts first tx = spentScripts second tx := by
  refine filterMap_congr fun txin member => ?_
  rw [same txin member]

theorem make_unspent {out : CTxOut} (nonneg : 0 ≤ out.nValue.toInt) {nHeight : Nat}
    {fCoinBase : Bool} : (Coin.make out nHeight fCoinBase).isSpent = false := by
  apply decide_eq_false
  intro null
  rw [show out.nValue = -1 from null] at nonneg
  exact absurd nonneg (by decide)

section

variable {node : NodeEnv} {chain : ActiveChain} {disk : DiskOutcome} {pos : CDiskBlockPos}
  {block : LoadedBlock} {nHeight : Nat} {utxo : UtxoSet} {databases written : Databases}
  {result : ConnectResult Unit}

theorem accepted_inputs (notGenesis : blockHash node.connect.toBlockEnv block.toCPureBlockHeader ≠
      node.connect.hashGenesisBlock)
    (accepted : node.connectBlock chain disk pos block nHeight false (.atop utxo.coins)
      databases = (.ok result, written)) :
    (∀ tx ∈ block.vtx, ∀ outpoint, CreatedBy node.connect.toBlockEnv tx outpoint →
      utxo.coins.lookup outpoint = none) ∧
    ∀ before tx after, block.vtx = before ++ tx :: after → before ≠ [] →
      ∃ spends, coinsAfter node.connect.toBlockEnv nHeight utxo.coins before = some spends ∧
        ∀ txin ∈ tx.vin, ∃ coin, spends.lookup txin.prevout = some coin ∧
          coin.isSpent = false := by
  have connected := connectBlock_accepted accepted
  have other : blockHash (node.connectEnv chain).toBlockEnv block.toCPureBlockHeader ≠
      (node.connectEnv chain).hashGenesisBlock := notGenesis
  obtain ⟨coinbase, rest, utxo', spent, vtxEq, -, others, ledger⟩ :=
    connectBlock_refines utxo.unspent other connected
  obtain ⟨wellFormed, -⟩ := connectBlock_cases other connected
  have applied := ledger.applied
  rw [← vtxEq] at applied
  refine ⟨?_, ?_⟩
  · rintro tx member outpoint ⟨i, inside, rfl⟩
    rw [vtxEq] at member
    exact ledger.outputsNew tx member i (by omega) (by omega)
  · intro before tx after split nonempty
    rw [split] at applied
    obtain ⟨spends, first, second, ranBefore, ranRest⟩ := applyTxs_append applied
    obtain ⟨next, coins, spent', one, -, -⟩ := applyTxs_cons ranRest
    obtain ⟨left, spending, -⟩ := applyTx_cases one
    refine ⟨spends, ?_, fun txin member => ?_⟩
    · rw [coinsAfter, show applyTxs (txHash node.connect.toBlockEnv) nHeight utxo.coins
        before = some (spends, first) from ranBefore]
      rfl
    have notCoinBase : tx.isCoinBase = false := by
      cases before with
      | nil => exact absurd rfl nonempty
      | cons head earlier =>
        rw [vtxEq, cons_append] at split
        obtain ⟨-, restEq⟩ := List.cons.inj split
        exact others tx (by rw [restEq]; simp)
    have spentHere : txin.prevout ∈ spentBy tx := by
      simp only [spentBy, notCoinBase, Bool.false_eq_true, if_false]
      exact mem_map_of_mem member
    obtain ⟨coin, found⟩ := Option.isSome_iff_exists.mp ((spend_lookup spending).2.1 _ spentHere)
    have unspent : Ledger.AllCoins (fun _ coin => coin.isSpent = false) spends := by
      refine (Ledger.AllCoins.applyTxs utxo.unspent ?_ ranBefore).1
      intro parent inside j out there _
      have parentMember : parent ∈ block.vtx := by
        rw [split]
        exact mem_append_left _ inside
      exact make_unspent ((wellFormed.transactions parent parentMember).outputsNonneg out
        (mem_of_getElem? there))
    exact ⟨coin, found, unspent _ coin found⟩

theorem resolvesChained_iff (node : NodeEnv) (chain : ActiveChain) (disk : DiskOutcome)
    (pos : CDiskBlockPos) (block : LoadedBlock) (nHeight : Nat) (utxo : UtxoSet)
    (databases written : Databases) (result : ConnectResult Unit)
    (notGenesis : blockHash node.connect.toBlockEnv block.toCPureBlockHeader ≠
      node.connect.hashGenesisBlock)
    (accepted : node.connectBlock chain disk pos block nHeight false (.atop utxo.coins)
      databases = (.ok result, written)) :
    ResolvesChained node.connect.toBlockEnv (node.context chain utxo.coins nHeight) block.vtx ↔
      NoChainedServices node.connect.toBlockEnv block.vtx := by
  obtain ⟨fresh, inputs⟩ := accepted_inputs notGenesis accepted
  constructor
  · intro resolves before tx after split version txin member parent earlier created
    obtain ⟨spends, ran, present⟩ := inputs before tx after split (ne_nil_of_mem earlier)
    obtain ⟨coin, found, unspent⟩ := present txin member
    have absent : utxo.coins.lookup txin.prevout = none := by
      refine fresh parent ?_ txin.prevout created
      rw [split]
      exact mem_append_left _ earlier
    have same := (resolves before tx after split version spends ran).coins txin member parent
      earlier created
    rw [accessCoin, accessCoin, found, show (node.context chain utxo.coins nHeight).inputs =
      utxo.coins from rfl, absent] at same
    rw [← show Coin.empty = coin from same] at unspent
    cases unspent
  · intro unchained before tx after split version spends ran
    have same : ∀ txin ∈ tx.vin, accessCoin utxo.coins txin.prevout =
        accessCoin spends txin.prevout := by
      intro txin member
      cases before with
      | nil =>
        cases ran
        rfl
      | cons head earlier =>
        obtain ⟨found, ranAgain, present⟩ := inputs _ tx after split (cons_ne_nil _ _)
        obtain rfl := Option.some.inj (ran.symm.trans ranAgain)
        obtain ⟨coin, there, -⟩ := present txin member
        rcases coinsAfter_origin ran there with ⟨parent, inside, created⟩ | before
        · exact absurd created (unchained _ tx after split version txin member parent inside)
        · rw [accessCoin, accessCoin, there, show utxo.coins.lookup txin.prevout = _ from before]
    have scripts : spentScripts (node.context chain utxo.coins nHeight).inputs tx = _ :=
      spentScripts_congr same
    exact ⟨fun txin member _ _ _ => same txin member,
      by simp only [aliasInput, findAliasInTx, scripts],
      fun address => by simp only [findAssetOwnerInTx, scripts]⟩

end

theorem sampleFunds_all {good : COutPoint → Coin → Prop} {script : CScript}
    (one : good ⟨5, 0⟩ ⟨⟨50 * COIN, script⟩, false, 1⟩) :
    Ledger.AllCoins good (sampleFunds [script]) :=
  Ledger.AllCoins.insert (fun _ _ found => by cases found) one

def sampleAliasCoin : UtxoSet where
  coins := sampleFunds [sampleAliasScript 2 [0x61]]
  unspent := sampleFunds_all (by decide)
  spendable := sampleFunds_all (by decide)

def sampleChained (vtx : List CTransaction) : Except Failure (ConnectResult Unit) × Databases :=
  (sampleNodeEnv fun _ => none).connectBlock ⟨0, []⟩ (fun _ => none) ⟨0, 0⟩ (sampleLoaded vtx) 100
    false (.atop sampleAliasCoin.coins) sampleDatabases

def sampleParent : CTransaction := sampleServiceTx 1 0 [sampleAliasScript 2 [0x61]] 0

def sampleParents : List CTransaction := [coinbasePaying (7 * COIN), sampleParent]

theorem sampleChained_ok {vtx : List CTransaction} (accepted : (sampleChained vtx).1.isOk = true) :
    ∃ result written, sampleChained vtx = (.ok result, written) := by
  generalize sampleChained vtx = outcome at accepted
  obtain ⟨ended, written⟩ := outcome
  cases ended with
  | error failure => cases accepted
  | ok result => exact ⟨result, written, rfl⟩

theorem sampleParents_unchained : NoChainedServices sampleBlockEnv sampleParents := by
  have apart : ∀ parent ∈ sampleParents, ∀ tx ∈ sampleParents, ∀ txin ∈ tx.vin,
      txin.prevout.hash ≠ txHash sampleBlockEnv parent := by decide +kernel
  intro before tx after split _ txin member parent earlier created
  obtain ⟨_, -, named⟩ := created
  have inside : ∀ other ∈ before ++ tx :: after, other ∈ sampleParents := split ▸ fun _ => id
  exact apart parent (inside parent (mem_append_left _ earlier)) tx (inside tx (by simp)) txin
    member (congrArg COutPoint.hash named)

/-- The alias that signs the second transaction is the one of the coin it spends. -/
theorem resolvesChained_iff_sample : (sampleChained sampleParents).1.isOk = true ∧
    ResolvesChained sampleBlockEnv
      ((sampleNodeEnv fun _ => none).context ⟨0, []⟩ sampleAliasCoin.coins 100) sampleParents := by
  have isOk : (sampleChained sampleParents).1.isOk = true := by decide +kernel
  obtain ⟨result, written, accepted⟩ := sampleChained_ok isOk
  exact ⟨isOk, (resolvesChained_iff (sampleNodeEnv fun _ => none) ⟨0, []⟩ (fun _ => none) ⟨0, 0⟩
    (sampleLoaded sampleParents) 100 sampleAliasCoin sampleDatabases written result
    (by decide +kernel) accepted).mpr sampleParents_unchained⟩

def sampleChild : CTransaction :=
  { nVersion := MINERIUM_TX_VERSION
    vin := [{ prevout := ⟨txHash sampleBlockEnv sampleParent, 0⟩, scriptSig := []
              nSequence := SEQUENCE_FINAL }]
    vout := [⟨0, sampleScript .cert 1 [[1]]⟩, ⟨0, [0x6a, 1, 1, 1, 1]⟩]
    nLockTime := 2 }

theorem chainedService_unresolved :
    (∃ result written, sampleChained (sampleParents ++ [sampleChild]) = (.ok result, written)) ∧
      CreatedBy sampleBlockEnv sampleParent ⟨txHash sampleBlockEnv sampleParent, 0⟩ ∧
      (coinsAfter sampleBlockEnv 100 sampleAliasCoin.coins sampleParents).map
        (signingAlias · sampleChild) = some [0x61] ∧
      aliasInput sampleAliasCoin.coins sampleChild = none ∧
      ¬ResolvesChained sampleBlockEnv
        ((sampleNodeEnv fun _ => none).context ⟨0, []⟩ sampleAliasCoin.coins 100)
        (sampleParents ++ [sampleChild]) := by
  have signed : (coinsAfter sampleBlockEnv 100 sampleAliasCoin.coins sampleParents).map
      (signingAlias · sampleChild) = some [0x61] := by decide +kernel
  have unsigned : aliasInput sampleAliasCoin.coins sampleChild = none := by decide +kernel
  refine ⟨sampleChained_ok (by decide +kernel), ⟨0, by decide, rfl⟩, signed, unsigned, ?_⟩
  intro resolves
  obtain ⟨spends, ran, signs⟩ := Option.map_eq_some_iff.mp signed
  have signer : aliasInput sampleAliasCoin.coins sampleChild = aliasInput spends sampleChild :=
    (resolves sampleParents sampleChild [] rfl rfl spends ran).signer
  rw [signingAlias, ← signer, unsigned] at signs
  cases signs

end Minerium
