import Minerium.Connect
import Minerium.ContextCheckCore

/-! The check of `ConnectBlock` that the inputs of a transaction are there. -/

namespace Minerium

open ExceptBind FinmapTotal List

variable {fCoinbase : Bool} {outpoint : COutPoint} {failure : Failure} {view : CCoinsViewCache}
  {state : ConnectState} {block : LoadedBlock} {vout : List CTxOut} {utxo' utxo : UtxoMap}
  {i nSpendHeight : Nat} {vtx pool : List CTransaction} {tx : CTransaction} {txid : Uint256}
  {coins : List Coin}

namespace Ledger

def createdBy (txid : CTransaction → Uint256) (tx : CTransaction) (outpoint : COutPoint) : Prop :=
  ∃ i out, tx.vout[i]? = some out ∧ isUnspendable out.scriptPubKey = false ∧
    outpoint = ⟨txid tx, UInt32.ofNat i⟩

theorem create_lookup_kept {nHeight : Nat} {coin : Coin} (found : utxo.lookup outpoint = some coin)
    (created : create txid nHeight fCoinbase utxo i vout = some utxo') :
    utxo'.lookup outpoint = some coin := by
  induction vout generalizing utxo i with
  | nil =>
    simp only [create, Option.some.injEq] at created
    rw [← created, found]
  | cons out rest ih =>
    rcases create_cons created with ⟨-, others⟩ | ⟨-, absent, others⟩
    · exact ih found others
    · refine ih ?_ others
      rw [lookup_insert_eq, if_neg, found]
      rintro rfl
      rw [absent] at found
      cases found

theorem create_lookup_created {nHeight k : Nat} {out : CTxOut} (output : vout[k]? = some out)
    (spendable : isUnspendable out.scriptPubKey = false)
    (created : create txid nHeight fCoinbase utxo i vout = some utxo') :
    (utxo'.lookup ⟨txid, UInt32.ofNat (i + k)⟩).isSome = true := by
  induction vout generalizing utxo i k with
  | nil => cases output
  | cons first rest ih =>
    cases k with
    | zero =>
      obtain rfl : first = out := by simpa using output
      rcases create_cons created with ⟨unspendable, -⟩ | ⟨-, -, others⟩
      · rw [spendable] at unspendable
        cases unspendable
      · have there : (utxo.insert ⟨txid, UInt32.ofNat i⟩
            (Coin.make first nHeight fCoinbase)).lookup ⟨txid, UInt32.ofNat i⟩ =
              some (Coin.make first nHeight fCoinbase) := by
          rw [lookup_insert_eq, if_pos rfl]
        rw [Nat.add_zero, create_lookup_kept there others]
        rfl
    | succ k =>
      rw [List.getElem?_cons_succ] at output
      have shift : i + (k + 1) = i + 1 + k := by omega
      rw [shift]
      rcases create_cons created with ⟨-, others⟩ | ⟨-, -, others⟩
      · exact ih output others
      · exact ih output others

structure Spendable (txid : CTransaction → Uint256) (utxo : UtxoMap)
    (txs : List CTransaction) : Prop where
  distinct : (txs.map txid).Nodup
  inputsDistinct : ∀ tx ∈ txs, (spentBy tx).Nodup
  once : ∀ first ∈ txs, ∀ second ∈ txs, ∀ outpoint, outpoint ∈ spentBy first →
    outpoint ∈ spentBy second → first = second
  available : ∀ tx ∈ txs, ∀ outpoint ∈ spentBy tx, (utxo.lookup outpoint).isSome = true ∨
    ∃ parent ∈ txs, txid parent ≠ txid tx ∧ createdBy txid parent outpoint
  outputs : ∀ tx ∈ txs, tx.vout.length < 2 ^ 32
  fresh : ∀ tx ∈ txs, outputsAbsent utxo (txid tx) 0 tx.vout.length

def spendsFrom (txid : CTransaction → Uint256) (child parent : CTransaction) : Bool :=
  (spentBy child).any fun outpoint => decide (outpoint.hash = txid parent)

def parentsFirst (txid : CTransaction → Uint256) (txs : List CTransaction) : Prop :=
  txs.Pairwise fun earlier later => spendsFrom txid earlier later = false

variable {txid : CTransaction → Uint256}

theorem spendsFrom_of_createdBy {child parent : CTransaction}
    (spent : outpoint ∈ spentBy child) (created : createdBy txid parent outpoint) :
    spendsFrom txid child parent = true := by
  obtain ⟨i, out, -, -, rfl⟩ := created
  exact any_eq_true.mpr ⟨_, spent, decide_eq_true rfl⟩

section

variable {txid : CTransaction → Uint256} {nHeight : Nat} {utxo : UtxoMap} {tx : CTransaction}
  {rest : List CTransaction}

theorem Spendable.present (spendable : Spendable txid utxo (tx :: rest))
    (order : parentsFirst txid (tx :: rest)) :
    ∀ outpoint ∈ spentBy tx, (utxo.lookup outpoint).isSome = true := by
  intro outpoint spent
  rcases spendable.available tx mem_cons_self outpoint spent with there | created
  · exact there
  · obtain ⟨parent, member, other, creates⟩ := created
    rcases mem_cons.mp member with rfl | later
    · exact absurd rfl other
    · have first := (pairwise_cons.mp order).1 parent later
      rw [spendsFrom_of_createdBy spent creates] at first
      cases first

theorem Spendable.step (spendable : Spendable txid utxo (tx :: rest))
    (applied : applyTx txid nHeight utxo tx = some (utxo', coins)) : Spendable txid utxo' rest := by
  have head : tx ∈ tx :: rest := mem_cons_self
  have tail : ∀ {other}, other ∈ rest → other ∈ tx :: rest := mem_cons_of_mem _
  obtain ⟨firstId, restIds⟩ := nodup_cons.mp (map_cons ▸ spendable.distinct)
  obtain ⟨middle, spent, created⟩ := applyTx_cases applied
  refine ⟨restIds, fun other member => spendable.inputsDistinct other (tail member),
    fun first one second two => spendable.once first (tail one) second (tail two), ?_,
    fun other member => spendable.outputs other (tail member), ?_⟩
  · intro child member outpoint spends
    rcases spendable.available child (tail member) outpoint spends with there | parents
    · left
      have unspent : outpoint ∉ spentBy tx := by
        intro again
        have same := spendable.once child (tail member) tx head outpoint spends again
        exact firstId (mem_map.mpr ⟨child, member, congrArg txid same⟩)
      obtain ⟨coin, found⟩ := Option.isSome_iff_exists.mp there
      have kept : middle.lookup outpoint = some coin := by
        rw [(spend_lookup spent).2.2, if_neg unspent, found]
      rw [create_lookup_kept kept created]
      rfl
    · obtain ⟨parent, inside, other, creates⟩ := parents
      rcases mem_cons.mp inside with rfl | later
      · left
        obtain ⟨k, out, output, spendableOut, rfl⟩ := creates
        have there := create_lookup_created output spendableOut created
        rwa [Nat.zero_add] at there
      · exact Or.inr ⟨parent, later, other, creates⟩
  · intro other member j lower upper
    have different : txid tx ≠ txid other :=
      fun same => firstId (mem_map.mpr ⟨other, member, same.symm⟩)
    rw [applyTx_lookup_other different applied, spendable.fresh other (tail member) j lower upper,
      ite_self]

end

section

variable (txid)

/-- No coin is spent twice, and every input is an unspent coin or an output of the pool. -/
structure MempoolConsistent (utxo : UtxoMap) (pool : List CTransaction) : Prop where
  once : ∀ first ∈ pool, ∀ second ∈ pool, ∀ outpoint, outpoint ∈ spentBy first →
    outpoint ∈ spentBy second → first = second
  available : ∀ tx ∈ pool, ∀ outpoint ∈ spentBy tx, (utxo.lookup outpoint).isSome = true ∨
    ∃ parent ∈ pool, txid parent ≠ txid tx ∧ createdBy txid parent outpoint

/-- A coinbase and transactions of the pool, each at most once and with all its parents. -/
structure BlockSelection (pool vtx : List CTransaction) : Prop where
  chosen : ∀ tx ∈ vtx, tx.isCoinBase = true ∨ tx ∈ pool
  distinct : (vtx.map txid).Nodup
  closed : ∀ tx ∈ vtx, ∀ parent ∈ pool, spendsFrom txid tx parent = true → parent ∈ vtx

end

theorem BlockSelection.perm {newVtx : List CTransaction}
    (selection : BlockSelection txid pool vtx) (perm : newVtx.Perm vtx) :
    BlockSelection txid pool newVtx where
  chosen := fun tx member => selection.chosen tx (perm.mem_iff.mp member)
  distinct := (perm.map txid).nodup_iff.mpr selection.distinct
  closed := fun tx member parent inside spends =>
    perm.mem_iff.mpr (selection.closed tx (perm.mem_iff.mp member) parent inside spends)

theorem BlockSelection.mem_pool (selection : BlockSelection txid pool vtx) (member : tx ∈ vtx)
    (spent : outpoint ∈ spentBy tx) : tx ∈ pool := by
  rcases selection.chosen tx member with coinbase | inside
  · rw [spentBy, if_pos coinbase] at spent
    cases spent
  · exact inside

theorem BlockSelection.spendable (selection : BlockSelection txid pool vtx)
    (consistent : MempoolConsistent txid utxo pool) (wellFormed : ∀ tx ∈ vtx, WellFormedTx tx)
    (fresh : ∀ tx ∈ vtx, outputsAbsent utxo (txid tx) 0 tx.vout.length) :
    Spendable txid utxo vtx where
  distinct := selection.distinct
  inputsDistinct := by
    intro tx member
    unfold spentBy
    split
    · exact nodup_nil
    · exact (wellFormed tx member).inputsDistinct
  once := fun first one second two outpoint spent again =>
    consistent.once first (selection.mem_pool one spent) second (selection.mem_pool two again)
      outpoint spent again
  available := by
    intro tx member outpoint spent
    refine (consistent.available tx (selection.mem_pool member spent) outpoint spent).imp_right ?_
    rintro ⟨parent, inside, other, creates⟩
    exact ⟨parent, selection.closed tx member parent inside
      (spendsFrom_of_createdBy spent creates), other, creates⟩
  outputs := by
    intro tx member
    have count := (wellFormed tx member).outputCount
    have limit : MAX_LEGACY_BLOCK_SIZE = 10000000 := rfl
    omega
  fresh := fresh

end Ledger

section

variable {σ : Type} {env : ConnectEnv σ} {nHeight : Nat}

def missingInputs : Failure := dos 100 "bad-txns-inputs-missingorspent"

abbrev FindsInputs {α : Type} (check : Except Failure α) : Prop := Raises (· ≠ missingInputs) check

theorem require_findsInputs {condition : Bool} (other : failure ≠ missingInputs) :
    FindsInputs (require condition failure) := by
  unfold require
  split
  · exact raises_ok _ _
  · exact raises_error other

theorem orFail_findsInputs {α : Type} {x : Option α} (other : failure ≠ missingInputs) :
    FindsInputs (orFail failure x) := by
  cases x with
  | none => exact raises_error other
  | some a => exact raises_ok _ _

theorem requires_findsInputs {α : Type} {condition : Bool} {rest : Except Failure α}
    (other : failure ≠ missingInputs) (next : FindsInputs rest) :
    FindsInputs (require condition failure >>= fun _ => rest) :=
  raises_bind (require_findsInputs other) fun _ _ => next

theorem haveInputsFrom_present {vin : List CTxIn}
    (represents : Represents view utxo) (present : inputsPresent utxo vin) :
    (view.haveInputsFrom vin).1 = true := by
  induction vin generalizing view with
  | nil => rfl
  | cons txin rest ih =>
    obtain ⟨found, represents', -⟩ := haveCoin_spec represents
    rw [present txin mem_cons_self] at found
    simp only [CCoinsViewCache.haveInputsFrom]
    split
    · rename_i filled have_
      rw [have_] at found
      cases found
    · rename_i filled have_
      rw [have_] at represents'
      exact ih represents' fun other member => present other (mem_cons_of_mem _ member)

theorem sumInputCoins_findsInputs (nValueIn : CAmount) :
    FindsInputs (sumInputCoins nSpendHeight nValueIn coins) := by
  induction coins generalizing nValueIn with
  | nil => exact raises_ok _ _
  | cons coin rest ih =>
    simp only [sumInputCoins]
    split
    · exact raises_error (by decide)
    · split
      · exact raises_error (by decide)
      · split
        · exact raises_error (by decide)
        · exact ih _

theorem checkTxInputs_findsInputs : FindsInputs (checkTxInputs view tx nSpendHeight) := by
  unfold checkTxInputs
  refine requires_findsInputs (by decide) ?_
  refine raises_bind (sumInputCoins_findsInputs _) fun _ _ => ?_
  refine raises_bind (orFail_findsInputs (by decide)) fun _ _ => ?_
  refine requires_findsInputs (by decide) ?_
  refine requires_findsInputs (by decide) ?_
  refine requires_findsInputs (by decide) ?_
  exact raises_pure

theorem checkInputs_findsInputs : FindsInputs (checkInputs env view tx nSpendHeight) := by
  unfold checkInputs
  refine raises_bind checkTxInputs_findsInputs fun checked _ => ?_
  split
  · exact raises_pure
  · refine requires_findsInputs (by decide) ?_
    exact raises_pure

theorem connectSpends_findsInputs
    (represents : Represents state.view utxo) (notCoinBase : tx.isCoinBase = false)
    (present : inputsPresent utxo tx.vin) : FindsInputs (connectSpends env nHeight tx state) := by
  simp only [connectSpends, haveInputs_eq notCoinBase]
  refine raises_bind ?_ fun _ _ => ?_
  · rw [haveInputsFrom_present represents present]
    exact raises_ok _ _
  refine requires_findsInputs (by decide) ?_
  refine requires_findsInputs (by decide) ?_
  refine raises_bind (orFail_findsInputs (by decide)) fun _ _ => ?_
  refine raises_bind checkInputs_findsInputs fun _ _ => ?_
  exact raises_pure

theorem connectTx_findsInputs {first : Bool} (represents : Represents state.view utxo)
    (present : tx.isCoinBase = false → inputsPresent utxo tx.vin) :
    FindsInputs (connectTx env nHeight first tx state) := by
  unfold connectTx
  refine requires_findsInputs (by decide) ?_
  refine raises_bind ?_ fun _ _ => ?_
  · unfold connectInputs
    split
    · exact raises_ok _ _
    · rename_i spends
      rw [Bool.not_eq_true] at spends
      exact connectSpends_findsInputs represents spends (present spends)
  refine raises_bind (orFail_findsInputs (by decide)) fun _ _ => ?_
  exact raises_pure

theorem inputsPresent_of_spendable {rest : List CTransaction}
    (spendable : Ledger.Spendable (txHash env.toBlockEnv) utxo (tx :: rest))
    (order : Ledger.parentsFirst (txHash env.toBlockEnv) (tx :: rest))
    (notCoinBase : tx.isCoinBase = false) : inputsPresent utxo tx.vin := by
  intro txin member
  refine spendable.present order txin.prevout ?_
  rw [Ledger.spentBy, if_neg (by rw [notCoinBase]; exact Bool.false_ne_true)]
  exact mem_map_of_mem member

theorem connectTxs_findsInputs {txs : List CTransaction}
    (represents : Represents state.view utxo) (notCoinBase : ∀ tx ∈ txs, tx.isCoinBase = false)
    (wellFormed : ∀ tx ∈ txs, WellFormedTx tx)
    (baseAbsent : ∀ tx ∈ txs, outputsAbsent state.view.base (txHash env.toBlockEnv tx) 0
      tx.vout.length) (spendable : Ledger.Spendable (txHash env.toBlockEnv) utxo txs)
    (order : Ledger.parentsFirst (txHash env.toBlockEnv) txs) :
    FindsInputs (connectTxs env nHeight false txs state) := by
  induction txs generalizing state utxo with
  | nil => exact raises_ok _ _
  | cons tx rest ih =>
    have spends := notCoinBase tx mem_cons_self
    refine raises_bind (connectTx_findsInputs represents
      (inputsPresent_of_spendable spendable order)) fun middle one => ?_
    obtain ⟨utxo', coins, connected⟩ := connectTx_spec represents spends
      (wellFormed tx mem_cons_self) (baseAbsent tx mem_cons_self) one
    refine ih connected.represents
      (fun other member => notCoinBase other (mem_cons_of_mem _ member))
      (fun other member => wellFormed other (mem_cons_of_mem _ member)) ?_
      (spendable.step connected.applied) (pairwise_cons.mp order).2
    intro other member
    rw [connected.base]
    exact baseAbsent other (mem_cons_of_mem _ member)

theorem noOverwriteFrom_findsInputs (view : CCoinsViewCache) (first : Nat) :
    FindsInputs (noOverwriteFrom view txid first vout) := by
  induction vout generalizing view first with
  | nil => exact raises_ok _ _
  | cons out rest ih =>
    simp only [noOverwriteFrom]
    split
    · exact raises_error (by decide)
    · exact ih _ _

theorem noOverwrite_findsInputs {env : BlockEnv} (view : CCoinsViewCache) :
    FindsInputs (noOverwrite env view vtx) := by
  induction vtx generalizing view with
  | nil => exact raises_ok _ _
  | cons tx rest ih => exact raises_bind (noOverwriteFrom_findsInputs _ _) fun _ _ => ih _

theorem checkOutputValues_findsInputs (nValueOut : CAmount) :
    FindsInputs (checkOutputValues nValueOut vout) := by
  induction vout generalizing nValueOut with
  | nil => exact raises_ok _ _
  | cons out rest ih =>
    simp only [checkOutputValues]
    split
    · exact raises_error (by decide)
    · split
      · exact raises_error (by decide)
      · split
        · exact raises_error (by decide)
        · exact ih _

theorem checkTransaction_findsInputs {env : BlockEnv} {fCheck : Bool} :
    FindsInputs (checkTransaction env tx fCheck) := by
  unfold checkTransaction
  refine requires_findsInputs (by decide) ?_
  refine requires_findsInputs (by decide) ?_
  refine requires_findsInputs (by decide) ?_
  refine raises_bind (checkOutputValues_findsInputs _) fun _ _ => ?_
  refine requires_findsInputs (by decide) ?_
  unfold checkInputForm
  split <;> exact require_findsInputs (by decide)

theorem checkTransactions_findsInputs {env : BlockEnv} :
    FindsInputs (checkTransactions env vtx) := by
  induction vtx with
  | nil => exact raises_ok _ _
  | cons tx rest ih => exact raises_bind checkTransaction_findsInputs fun _ _ => ih

theorem checkCoinBasePosition_findsInputs : FindsInputs (checkCoinBasePosition vtx) := by
  cases vtx with
  | nil => exact raises_error (by decide)
  | cons coinbase rest => exact requires_findsInputs (by decide) <| require_findsInputs (by decide)

theorem checkMerkleRoot_findsInputs {env : BlockEnv} {block : CBlock} {fCheckMerkleRoot : Bool} :
    FindsInputs (checkMerkleRoot env block fCheckMerkleRoot) := by
  unfold checkMerkleRoot
  split
  · exact raises_ok _ _
  · exact requires_findsInputs (by decide) <| require_findsInputs (by decide)

theorem checkBlock_findsInputs {env : BlockEnv} {block : CBlock} {pow merkle : Bool} :
    FindsInputs (checkBlock env block pow merkle) := by
  unfold checkBlock
  split
  · exact raises_ok _ _
  · refine raises_bind ?_ fun _ _ => raises_pure
    unfold checkBlockBody
    refine raises_bind ?_ fun _ _ => ?_
    · exact requires_findsInputs (by decide) <| require_findsInputs (by decide)
    refine raises_bind checkMerkleRoot_findsInputs fun _ _ => ?_
    refine requires_findsInputs (by decide) ?_
    refine raises_bind checkCoinBasePosition_findsInputs fun _ _ => ?_
    refine requires_findsInputs (by decide) ?_
    refine raises_bind checkTransactions_findsInputs fun _ _ => ?_
    exact require_findsInputs (by decide)

theorem rewardFailure_findsInputs {outcome : Option RewardOutcome} :
    FindsInputs (rewardFailure outcome) := by
  unfold rewardFailure
  split
  · exact raises_ok _ _
  all_goals exact raises_error (by decide)

theorem contextualCheckTxs_findsInputs {env : PruneEnv} {active : Bool} {nHeight : Nat}
    {nLockTimeCutoff : Int64} :
    FindsInputs (contextualCheckTxs env active nHeight nLockTimeCutoff vtx) := by
  induction vtx with
  | nil => exact raises_ok _ _
  | cons tx rest ih =>
    refine requires_findsInputs (by decide) ?_
    exact requires_findsInputs (by decide) ih

section

variable {utxo : UtxoMap} (unspent : UtxoUnspent utxo)
  (consistent : Ledger.MempoolConsistent (txHash env.toBlockEnv) utxo pool)
  (selection : Ledger.BlockSelection (txHash env.toBlockEnv) pool block.vtx)
  (order : Ledger.parentsFirst (txHash env.toBlockEnv) block.vtx)
include unspent consistent selection order

theorem connectBlockTxs_findsInputs (wellFormed : WellFormedBlock block.vtx)
    (overwrites : noOverwrite env.toBlockEnv (.atop utxo) block.vtx = .ok view) :
    FindsInputs (connectTxs env nHeight true block.vtx
      { view := view, nFees := 0, nSigOps := 0, scriptsPassed := true, vtxundo := [] }) := by
  obtain ⟨represents, base, absent⟩ := noOverwrite_spec (atop_represents unspent) overwrites
  have baseEq : view.base = utxo := base
  have spendable := selection.spendable consistent wellFormed.transactions absent
  obtain ⟨coinbase, rest, vtxEq, first, others⟩ := wellFormed.coinBaseFirst
  have transactions := wellFormed.transactions
  rw [vtxEq] at absent spendable order transactions ⊢
  have outputs := (transactions coinbase mem_cons_self).outputCount
  have limit : MAX_LEGACY_BLOCK_SIZE = 10000000 := rfl
  refine raises_bind (connectTx_findsInputs represents
    fun spends => by rw [first] at spends; cases spends) fun middle one => ?_
  obtain ⟨utxo1, connected⟩ := connectTx_coinbase represents first (by omega)
    (by rw [baseEq]; exact absent coinbase mem_cons_self) (absent coinbase mem_cons_self) one
  refine connectTxs_findsInputs connected.represents others
    (fun tx member => transactions tx (mem_cons_of_mem _ member)) ?_
    (spendable.step connected.applied) (pairwise_cons.mp order).2
  intro tx member
  rw [connected.base, baseEq]
  exact absent tx (mem_cons_of_mem _ member)

theorem connectBlock_findsInputs {services : σ} {fJustCheck : Bool} :
    FindsInputs (connectBlock env block nHeight fJustCheck (.atop utxo) services) := by
  unfold connectBlock
  refine requires_findsInputs (by decide) ?_
  refine raises_bind checkBlock_findsInputs fun _ checked => ?_
  have wellFormed := checkBlock_wellFormed checked
  split
  · exact raises_pure
  refine raises_bind (noOverwrite_findsInputs _) fun _ overwrites => ?_
  refine raises_bind (connectBlockTxs_findsInputs unspent consistent selection order
    wellFormed overwrites) fun _ _ => ?_
  refine requires_findsInputs (by decide) ?_
  refine raises_bind (orFail_findsInputs (by decide)) fun _ _ => ?_
  refine raises_bind rewardFailure_findsInputs fun _ _ => ?_
  exact raises_pure

theorem testBlockValidity_findsInputs {tip : TipContext} {services : σ} :
    FindsInputs (testBlockValidity env tip block utxo services) := by
  unfold testBlockValidity
  refine raises_bind ?_ fun _ _ => ?_
  · unfold checkIndexAgainstCheckpoint
    split
    · exact raises_ok _ _
    · exact require_findsInputs (by decide)
  refine raises_bind ?_ fun _ _ => ?_
  · unfold contextualCheckBlockHeader
    refine requires_findsInputs (by decide) ?_
    refine requires_findsInputs (by decide) ?_
    exact require_findsInputs (by decide)
  refine raises_bind checkBlock_findsInputs fun _ _ => ?_
  refine raises_bind ?_ fun _ _ => ?_
  · unfold contextualCheckBlock
    refine requires_findsInputs (by decide) ?_
    refine raises_bind contextualCheckTxs_findsInputs fun _ _ => ?_
    refine requires_findsInputs (by decide) ?_
    exact require_findsInputs (by decide)
  exact raises_bind (connectBlock_findsInputs unspent consistent selection order)
    fun _ _ => raises_pure

end

end

end Minerium
