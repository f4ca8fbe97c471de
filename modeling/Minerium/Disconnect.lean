import Minerium.Conservation
import Minerium.DisconnectCore
import Minerium.Undo

/-! Disconnecting a block undoes its connection: a run of disconnections walks the ledger's run
backwards. -/

namespace Minerium

open ExceptBind FinmapTotal List Ledger Option

variable {before after utxo utxo' : UtxoMap} {view : CCoinsViewCache} {coin : Coin}
  {coins : List Coin} {env : BlockEnv} {tx coinbase : CTransaction} {spent : List (List Coin)}
  {rest : List CTransaction} {nHeight : Nat} {σ : Type} (fClean : Bool)

theorem spendOutputsFrom_spec {txid : Uint256} {nHeight i : Nat} {fCoinbase : Bool}
    {vout : List CTxOut} (height : nHeight < 2 ^ 31) (bound : i + vout.length ≤ 2 ^ 32)
    (created : create txid nHeight fCoinbase before i vout = some after)
    (represents : Represents view after) :
    ∃ view', spendOutputsFrom txid nHeight fCoinbase i vout ⟨view, fClean⟩ = ⟨view', fClean⟩ ∧
      Represents view' before := by
  induction vout generalizing before after i view with
  | nil =>
    simp only [create, some.injEq] at created
    exact ⟨view, rfl, created ▸ represents⟩
  | cons out rest ih =>
    simp only [length_cons] at bound
    have others : ∀ j, i + 1 ≤ j → j < i + 1 + rest.length →
        (⟨txid, UInt32.ofNat i⟩ : COutPoint) ≠ ⟨txid, UInt32.ofNat j⟩ :=
      fun j lower upper => (outpoint_ne (by omega) (by omega)).symm
    simp only [spendOutputsFrom]
    rcases create_cons created with ⟨unspendable, createdRest⟩ | ⟨spendable, absent, createdRest⟩
    · simp only [spendOutput, unspendable, if_true]
      exact ih (by omega) createdRest represents
    · have there : after.lookup ⟨txid, UInt32.ofNat i⟩ =
          some (Coin.make out nHeight fCoinbase) := by
        rw [(create_outside others createdRest).1, lookup_insert_eq, if_pos rfl]
      obtain ⟨taken, represents', -⟩ := spendCoin_spec represents there
      have erased := (create_outside others createdRest).2
      rw [erase_insert_eq, erase_missing_eq absent] at erased
      have unchanged : spendOutput txid nHeight fCoinbase i out ⟨view, fClean⟩ =
          ⟨(view.spendCoin ⟨txid, UInt32.ofNat i⟩).2, fClean⟩ := by
        simp only [spendOutput, spendable, Bool.false_eq_true, if_false]
        generalize view.spendCoin ⟨txid, UInt32.ofNat i⟩ = outcome at taken
        obtain ⟨coin, filled⟩ := outcome
        simp only at taken
        subst taken
        simp only [Coin.make, Nat.mod_eq_of_lt height]
        simp
      rw [unchanged]
      exact ih (by omega) erased represents'

structure Restorable (coin : Coin) : Prop where
  unspent : coin.isSpent = false
  spendable : isUnspendable coin.out.scriptPubKey = false
  positive : 0 < coin.nHeight

theorem applyTxInUndo_spec {outpoint : COutPoint} (restorable : Restorable coin)
    (represents : Represents view utxo) (absent : utxo.lookup outpoint = none) :
    ∃ view', applyTxInUndo coin outpoint ⟨view, fClean⟩ = .ok ⟨view', fClean⟩ ∧
      Represents view' (utxo.insert outpoint coin) := by
  obtain ⟨found, represents', -⟩ := haveCoin_spec represents
  obtain ⟨view', added, result, -⟩ := addCoin_spec represents' coin.fCoinBase restorable.unspent
    restorable.spendable absent
  have metadata : coin.nHeight ≠ 0 := Nat.pos_iff_ne_zero.mp restorable.positive
  refine ⟨view', ?_, result⟩
  rw [absent] at found
  simp only [applyTxInUndo, undoMetadata, metadata, if_false, found, addUndoCoin]
  simp [Bind.bind, Except.bind, added, Pure.pure, Except.pure]

theorem applyTxInUndos_spec {vin : List CTxIn} (restorable : ∀ coin ∈ coins, Restorable coin)
    (spent : spend before (vin.map (·.prevout)) = some (after, coins))
    (represents : Represents view after) : ∃ view', (vin.zip coins).foldrM
        (fun (txin, undo) state => applyTxInUndo undo txin.prevout state) ⟨view, fClean⟩ =
          Except.ok ⟨view', fClean⟩ ∧
      Represents view' before ∧ coins.length = vin.length := by
  induction vin generalizing before coins with
  | nil =>
    simp only [map_nil, spend, some.injEq, Prod.mk.injEq] at spent
    obtain ⟨rfl, rfl⟩ := spent
    exact ⟨view, rfl, represents, rfl⟩
  | cons txin rest ih =>
    obtain ⟨coin, coins', found, rfl, tail⟩ := spend_cons spent
    obtain ⟨middle, folded, represents', length⟩ := ih
      (fun other member => restorable other (mem_cons_of_mem _ member)) tail
    have absent : (before.erase txin.prevout).lookup txin.prevout = none := by
      rw [lookup_erase_eq, if_pos rfl]
    obtain ⟨view', restored, result⟩ := applyTxInUndo_spec fClean
      (restorable coin mem_cons_self) represents' absent
    rw [insert_erase_eq, insert_lookup_eq found] at result
    refine ⟨view', ?_, result, congrArg Nat.succ length⟩
    rw [zip_cons_cons, foldrM_cons, folded]
    exact restored

theorem disconnectTx_spec (height : nHeight < 2 ^ 31) (notCoinBase : tx.isCoinBase = false)
    (wellFormed : WellFormedTx tx) (restorable : ∀ coin ∈ coins, Restorable coin)
    (applied : applyTx (txHash env) nHeight before tx = some (after, coins))
    (represents : Represents view after) :
    ∃ view', disconnectTx env nHeight tx coins ⟨view, fClean⟩ = .ok ⟨view', fClean⟩ ∧
      Represents view' before := by
  obtain ⟨middle, spent, created⟩ := applyTx_cases applied
  have outputs := wellFormed.outputCount
  have limit : MAX_LEGACY_BLOCK_SIZE = 10000000 := rfl
  obtain ⟨view1, removed, represents1⟩ :=
    spendOutputsFrom_spec fClean height (by omega) created represents
  simp only [spentBy, notCoinBase, Bool.false_eq_true, if_false] at spent
  obtain ⟨view2, restored, represents2, length⟩ :=
    applyTxInUndos_spec fClean restorable spent represents1
  refine ⟨view2, ?_, represents2⟩
  simp only [disconnectTx, spendOutputs, removed, restoreInputs, length, ne_eq,
    not_true_eq_false, if_false]
  exact restored

theorem disconnectTxs_spec {txs : List CTransaction} (height : nHeight < 2 ^ 31)
    (notCoinBase : ∀ tx ∈ txs, tx.isCoinBase = false) (wellFormed : ∀ tx ∈ txs, WellFormedTx tx)
    (restorable : ∀ coins ∈ spent, ∀ coin ∈ coins, Restorable coin)
    (applied : applyTxs (txHash env) nHeight before txs = some (after, spent))
    (represents : Represents view after) : ∃ view', (txs.zip spent).foldrM
        (fun (tx, txundo) state => disconnectTx env nHeight tx txundo state) ⟨view, fClean⟩ =
          Except.ok ⟨view', fClean⟩ ∧
      Represents view' before ∧ spent.length = txs.length := by
  induction txs generalizing before spent with
  | nil =>
    simp only [applyTxs, some.injEq, Prod.mk.injEq] at applied
    obtain ⟨rfl, rfl⟩ := applied
    exact ⟨view, rfl, represents, rfl⟩
  | cons tx rest ih =>
    obtain ⟨middle, coins, spent', one, others, rfl⟩ := applyTxs_cons applied
    obtain ⟨middleView, folded, represents', length⟩ := ih
      (fun other member => notCoinBase other (mem_cons_of_mem _ member))
      (fun other member => wellFormed other (mem_cons_of_mem _ member))
      (fun other member => restorable other (mem_cons_of_mem _ member)) others
    obtain ⟨view', undone, result⟩ := disconnectTx_spec fClean height
      (notCoinBase tx mem_cons_self) (wellFormed tx mem_cons_self)
      (restorable coins mem_cons_self) one represents'
    refine ⟨view', ?_, result, congrArg Nat.succ length⟩
    rw [zip_cons_cons, foldrM_cons, folded]
    exact undone

theorem disconnectTxs_inverse (height : nHeight < 2 ^ 31) (first : coinbase.isCoinBase = true)
    (notCoinBase : ∀ tx ∈ rest, tx.isCoinBase = false)
    (wellFormed : ∀ tx ∈ coinbase :: rest, WellFormedTx tx)
    (restorable : ∀ coins ∈ spent, ∀ coin ∈ coins, Restorable coin)
    (applied : applyTxs (txHash env) nHeight before (coinbase :: rest) = some (after, [] ::
      spent)) (represents : Represents view after) :
    ∃ view', disconnectTxs env nHeight (coinbase :: rest) spent ⟨view, true⟩ =
        .ok ⟨view', true⟩ ∧ Represents view' before := by
  obtain ⟨middle, coins, spent', one, others, split⟩ := applyTxs_cons applied
  obtain ⟨rfl, rfl⟩ := List.cons.inj split
  obtain ⟨view1, folded, represents1, length⟩ := disconnectTxs_spec true height notCoinBase
    (fun tx member => wellFormed tx (mem_cons_of_mem _ member)) restorable others represents
  obtain ⟨start, spentFirst, created⟩ := applyTx_cases one
  simp only [spentBy, first, if_true, spend, some.injEq, Prod.mk.injEq] at spentFirst
  obtain ⟨rfl, -⟩ := spentFirst
  have outputs := (wellFormed coinbase mem_cons_self).outputCount
  have limit : MAX_LEGACY_BLOCK_SIZE = 10000000 := rfl
  obtain ⟨view2, removed, represents2⟩ :=
    spendOutputsFrom_spec true height (by omega) created represents1
  refine ⟨view2, ?_, represents2⟩
  simp only [disconnectTxs, length_cons, length, ne_eq, not_true_eq_false, if_false,
    tail_cons, folded]
  simp only [take_succ_cons, take_zero, foldr_cons, foldr_nil, spendOutputs]
  exact congrArg Except.ok removed

structure UtxoSet where
  coins : UtxoMap
  unspent : UtxoUnspent coins
  spendable : Ledger.AllCoins (fun _ coin => isUnspendable coin.out.scriptPubKey = false) coins

/-- A height is kept in 31 bits. -/
def HeightsFit (utxo : UtxoMap) : Prop :=
  Ledger.AllCoins (fun _ coin => 0 < coin.nHeight ∧ coin.nHeight < 2 ^ 31) utxo

/-- What a stored coin keeps until it is spent, or its creation until it is disconnected. -/
structure Kept (coin : Coin) : Prop where
  spendable : isUnspendable coin.out.scriptPubKey = false
  positive : 0 < coin.nHeight
  fits : coin.nHeight < 2 ^ 31

theorem created_kept (height : 1 ≤ nHeight) (fits : nHeight < 2 ^ 31) (j : Nat) (out : CTxOut)
    (_ : tx.vout[j]? = some out) (spendable : isUnspendable out.scriptPubKey = false) :
    Kept (Coin.make out nHeight tx.isCoinBase) := by
  have whole : (Coin.make out nHeight tx.isCoinBase).nHeight = nHeight := Nat.mod_eq_of_lt fits
  exact ⟨spendable, by omega, by omega⟩

theorem unspent_of_moneyRange (inRange : moneyRange coin.out.nValue = true) :
    coin.isSpent = false := by
  obtain ⟨lower, -⟩ := (moneyRange_iff _).mp inRange
  simp only [Coin.isSpent, CTxOut.isNull, decide_eq_false_iff_not]
  intro null
  rw [null] at lower
  exact absurd lower (by decide)

section

variable {env : ConnectEnv σ} {result : ConnectResult σ} {utxo : UtxoSet}
  (heights : HeightsFit utxo.coins) (height : 1 ≤ nHeight) (fits : nHeight < 2 ^ 31)
  (wellFormed : WellFormedBlock (coinbase :: rest))
  (connected : BlockConnected env nHeight coinbase rest utxo.coins utxo' spent result)
include heights height fits wellFormed connected

theorem spent_exact : BlockUndoExact spent ∧ ∀ coins ∈ spent, ∀ coin ∈ coins, Restorable coin := by
  have before : Ledger.AllCoins (fun _ coin => Kept coin) utxo.coins := fun outpoint coin found =>
    ⟨utxo.spendable outpoint coin found, (heights outpoint coin found).1,
      (heights outpoint coin found).2⟩
  have kept : List.Forall₂ (fun tx coins => List.Forall₂ (fun _ coin => Kept coin) (spentBy tx)
      coins) (coinbase :: rest) ([] :: spent) :=
    (before.applyTxs (fun tx _ => created_kept height fits) connected.applied).2
  have each : ∀ coins ∈ spent, ∀ coin ∈ coins, UndoExact coin ∧ Restorable coin := by
    intro coins member coin inside
    obtain ⟨tx, -, spentCoins⟩ := exists_mem_of_forall₂ kept (mem_cons_of_mem _ member)
    obtain ⟨outpoint, -, spendable, above, below⟩ := exists_mem_of_forall₂ spentCoins inside
    have inRange := connected.inRange coins member coin inside
    exact ⟨⟨above, below, inRange, isUnspendable_short spendable⟩,
      ⟨unspent_of_moneyRange inRange, spendable, above⟩⟩
  refine ⟨⟨fun coins member coin inside => (each coins member coin inside).1, ?_, ?_⟩,
    fun coins member coin inside => (each coins member coin inside).2⟩
  · intro coins member
    obtain ⟨tx, txMember, spentCoins⟩ := exists_mem_of_forall₂ kept (mem_cons_of_mem _ member)
    have inputs := (wellFormed.transactions tx txMember).inputCount
    have length : coins.length ≤ tx.vin.length := by
      rw [← spentCoins.length_eq, spentBy]
      split
      · exact Nat.zero_le _
      · rw [length_map]
    have limit : MAX_LEGACY_BLOCK_SIZE = 10000000 := rfl
    have most : MAX_INPUTS_PER_BLOCK = 243902 := rfl
    omega
  · have count := wellFormed.count
    have length := kept.length_eq
    have limit : MAX_LEGACY_BLOCK_SIZE = 10000000 := rfl
    have most : MAX_SIZE = 33554432 := rfl
    simp only [length_cons] at count length
    omega

theorem connected_undone (keys : PubKeyEnv) (hashPrev : Uint256) {block : CBlock}
    (vtxEq : block.vtx = coinbase :: rest) (first : coinbase.isCoinBase = true)
    (others : ∀ tx ∈ rest, tx.isCoinBase = false) :
    undoReadFromDisk keys env.hash (undoWriteToDisk keys env.hash result.vtxundo hashPrev)
        hashPrev = some result.vtxundo ∧
      ∃ view, disconnectBlock keys env.toBlockEnv block nHeight (undoWriteToDisk keys env.hash
          result.vtxundo hashPrev) hashPrev (.atop result.view.flush) =
            .ok (.DISCONNECT_OK, view) ∧ view.flush = utxo.coins := by
  obtain ⟨writable, restorable⟩ := spent_exact heights height fits wellFormed connected
  have read := undoReadFromDisk_write keys env.hash hashPrev writable
  have start : Represents (.atop utxo') utxo' :=
    atop_represents (represents_unspent connected.represents)
  obtain ⟨view, undone, restored⟩ := disconnectTxs_inverse fits first others
    wellFormed.transactions restorable connected.applied start
  rw [connected.undo, flush_eq connected.represents]
  refine ⟨read, view, ?_, flush_eq restored⟩
  simp only [disconnectBlock, read, vtxEq, undone]
  rfl

end

theorem disconnectBlock_restores {σ : Type} (keys : PubKeyEnv) (env : ConnectEnv σ)
    (block : LoadedBlock) (nHeight : Nat) (hashPrev : Uint256) (utxo : UtxoSet) (services : σ)
    (result : ConnectResult σ)
    (heights : HeightsFit utxo.coins) (height : 1 ≤ nHeight) (fits : nHeight < 2 ^ 31)
    (notGenesis : blockHash env.toBlockEnv block.toCPureBlockHeader ≠ env.hashGenesisBlock)
    (accepted : connectBlock env block nHeight false (.atop utxo.coins) services = .ok result) :
    undoReadFromDisk keys env.hash (undoWriteToDisk keys env.hash result.vtxundo hashPrev)
        hashPrev = some result.vtxundo ∧
      ∃ view, disconnectBlock keys env.toBlockEnv block.toCBlock nHeight
          (undoWriteToDisk keys env.hash result.vtxundo hashPrev) hashPrev
          (.atop result.view.flush) = .ok (.DISCONNECT_OK, view) ∧
        view.flush = utxo.coins := by
  obtain ⟨coinbase, rest, utxo', spent, vtxEq, first, others, connected⟩ :=
    connectBlock_refines utxo.unspent notGenesis accepted
  obtain ⟨wellFormed, -⟩ := connectBlock_cases notGenesis accepted
  rw [vtxEq] at wellFormed
  exact connected_undone heights height fits wellFormed connected keys hashPrev vtxEq first others

def sampleUtxoSet (nHeight : Nat) : UtxoSet :=
  { coins := sampleUtxo nHeight
    unspent := (sampleUtxo_nonneg nHeight).unspent
    spendable := sampleUtxo_all rfl }

theorem disconnectBlock_restores_sample :
    ∃ result view, connectBlock sampleConnectEnv sampleBlock (2 ^ 30 + 200) false
        (.atop (sampleUtxoSet (2 ^ 30 + 5)).coins) () = .ok result ∧
      disconnectBlock sampleKeys sampleBlockEnv sampleBlock.toCBlock (2 ^ 30 + 200)
        (undoWriteToDisk sampleKeys sampleHash result.vtxundo 1) 1 (.atop result.view.flush) =
          .ok (.DISCONNECT_OK, view) ∧
      view.flush = (sampleUtxoSet (2 ^ 30 + 5)).coins := by
  have accepted : (connectBlock sampleConnectEnv sampleBlock (2 ^ 30 + 200) false
      (.atop (sampleUtxoSet (2 ^ 30 + 5)).coins) ()).isOk = true := by decide +kernel
  cases outcome : connectBlock sampleConnectEnv sampleBlock (2 ^ 30 + 200) false
      (.atop (sampleUtxoSet (2 ^ 30 + 5)).coins) () with
  | error failure =>
    rw [outcome] at accepted
    cases accepted
  | ok result =>
    obtain ⟨-, view, disconnected, restored⟩ := disconnectBlock_restores sampleKeys
      sampleConnectEnv sampleBlock (2 ^ 30 + 200) 1 (sampleUtxoSet (2 ^ 30 + 5)) () result
      (sampleUtxo_all (by decide)) (by decide) (by decide) (by decide +kernel) outcome
    exact ⟨result, view, rfl, disconnected, restored⟩

end Minerium
