import Minerium.Connect
import Minerium.Payments

/-! No block creates value outside its coinbase. -/

namespace Minerium

open Ledger

variable {nHeight : Nat}

theorem reward_outputs_bounded {env : PaymentEnv} {coinbase : CTransaction}
    {nFees : CAmount} (accepted : checkBlockReward env coinbase nHeight nFees = some .accepted) :
    outputSum coinbase.vout ≤ MAX_MONEY.toInt := by
  obtain ⟨reward, -, value⟩ := (checkBlockReward_accepted_iff ..).mp accepted
  cases valueOut : coinbase.getValueOut with
  | none => simp [isBlockValueValid, valueOut] at value
  | some total =>
    obtain ⟨exactSum, totalRange⟩ := getValueOut_exact valueOut
    have bounds := (moneyRange_iff total).mp totalRange
    have maximum : MAX_MONEY.toInt = 66600000000000000 := rfl
    omega

variable (txid : CTransaction → Uint256)

def spendsPresentCoins (nHeight : Nat) (utxo : UtxoMap) (vtx : List CTransaction) : Prop :=
  ∀ before tx after, vtx = before ++ tx :: after → tx.isCoinBase = false →
    (tx.vin.map (·.prevout)).Nodup ∧
      ∃ current spent, applyTxs txid nHeight utxo before = some (current, spent) ∧
        ∀ txin ∈ tx.vin, (current.lookup txin.prevout).isSome = true

def spendsOnce (vtx : List CTransaction) : Prop :=
  ∀ before first between second after outpoint,
    vtx = before ++ first :: between ++ second :: after →
    outpoint ∈ spentBy first → outpoint ∈ spentBy second →
    ∃ tx ∈ first :: between, txid tx = outpoint.hash

theorem applyTxs_spendsPresentCoins {txid : CTransaction → Uint256}
    {utxo utxo' : UtxoMap} {vtx : List CTransaction} {spent : List (List Coin)}
    (applied : applyTxs txid nHeight utxo vtx = some (utxo', spent)) :
    spendsPresentCoins txid nHeight utxo vtx := by
  intro before tx after split notCoinBase
  rw [split] at applied
  obtain ⟨current, first, _, prior, fromTx⟩ := applyTxs_append applied
  obtain ⟨_, _, _, one, -, -⟩ := applyTxs_cons fromTx
  obtain ⟨_, spending, -⟩ := applyTx_cases one
  obtain ⟨distinct, present, -⟩ := spend_lookup spending
  simp only [spentBy, notCoinBase, Bool.false_eq_true, if_false] at distinct present
  exact ⟨distinct, current, first, prior, fun txin member =>
    present txin.prevout (List.mem_map_of_mem member)⟩

theorem connectBlock_conserves {σ : Type} (env : ConnectEnv σ) (block : LoadedBlock) (nHeight : Nat)
    (fJustCheck : Bool) (utxo : UtxoMap) (services : σ) (result : ConnectResult σ)
    (nonneg : Ledger.CoinsNonneg utxo) (inRange : value utxo ≤ MAX_MONEY.toInt)
    (notGenesis : blockHash env.toBlockEnv block.toCPureBlockHeader ≠ env.hashGenesisBlock)
    (accepted : connectBlock env block nHeight fJustCheck (.atop utxo) services = .ok result) :
    spendsPresentCoins (txHash env.toBlockEnv) nHeight utxo block.vtx ∧
      spendsOnce (txHash env.toBlockEnv) block.vtx ∧
      ∃ coinbase rest, block.vtx = coinbase :: rest ∧
        value result.view.flush = value utxo + outputSum coinbase.vout -
          result.nFees.toInt - unspendableTotal block.vtx := by
  obtain ⟨coinbase, rest, utxo', spent, vtxEq, -, -, connected⟩ :=
    connectBlock_refines nonneg.unspent notGenesis accepted
  obtain ⟨-, _, state, -, -, -, -, -, -, first, head, rewarded⟩ :=
    connectBlock_cases notGenesis accepted
  have sameFirst : first = coinbase := by
    rw [vtxEq] at head
    exact (Option.some.inj head).symm
  have bounded := reward_outputs_bounded rewarded
  have maximum : MAX_MONEY.toInt = 66600000000000000 := rfl
  rw [sameFirst] at bounded
  have applied := connected.applied
  rw [← vtxEq] at applied
  refine ⟨applyTxs_spendsPresentCoins applied, ?_, coinbase, rest, vtxEq, ?_⟩
  · intro before first between second after outpoint split spentFirst spentAgain
    rw [split] at applied
    exact respent_only_if_recreated applied spentFirst spentAgain
  · rw [flush_eq connected.represents, vtxEq]
    exact (connected.value nonneg (by omega)).2

def sampleHash (bytes : Bytes) : Uint256 :=
  BitVec.ofNat 256 (bytes.foldl (fun acc byte => acc * 257 + byte.toNat + 1) 0)

def sampleBlockEnv : BlockEnv :=
  { hash := sampleHash
    prune := { getTimeToPrune := fun _ => none, isSysServiceExpired := fun _ => false }
    checkProofOfWork := fun _ => true
    hashGenesisBlock := 0
    hashDevnetGenesisBlock := 0
    isSporkActive := fun _ => true
    getLockedOutPointTxHash := fun _ => none }

def sampleConnectEnv : ConnectEnv Unit :=
  { sampleBlockEnv with
    payment := freshNode true
    dip0001Height := 0
    stopAtBlock := 0
    fScriptChecks := true
    scriptThreads := false
    verifyScripts := fun _ _ => true
    sequenceLocks := fun _ _ => true
    checkMineriumInputs := fun services _ _ _ _ => some services }

def sampleOutpoint : COutPoint := ⟨7, 0⟩

def sampleCoin (nHeight : Nat) : Coin :=
  { out := { nValue := 50 * COIN, scriptPubKey := [0x51] }, fCoinBase := false, nHeight := nHeight }

def sampleUtxo (nHeight : Nat) : UtxoMap := Finmap.singleton sampleOutpoint (sampleCoin nHeight)

def sampleSpend : CTransaction :=
  { nVersion := 1
    vin := [{ prevout := sampleOutpoint, scriptSig := [], nSequence := SEQUENCE_FINAL }]
    vout := [{ nValue := 48 * COIN, scriptPubKey := [0x51] },
      { nValue := COIN, scriptPubKey := [0x6a] }]
    nLockTime := 0 }

def sampleVtx : List CTransaction := [coinbasePaying (7 * COIN), sampleSpend]

def sampleBlock : LoadedBlock :=
  { nVersion := 1
    hashPrevBlock := 1
    hashMerkleRoot := (blockMerkleRoot sampleBlockEnv sampleVtx).1
    nTime := 0
    nBits := 0
    nNonce := 0
    auxpow := none
    vtx := sampleVtx
    fChecked := false
    checkedSound := fun impossible => by cases impossible }

theorem sampleUtxo_all {good : COutPoint → Coin → Prop}
    (one : good sampleOutpoint (sampleCoin nHeight)) :
    Ledger.AllCoins good (sampleUtxo nHeight) := by
  intro outpoint coin found
  by_cases key : outpoint = sampleOutpoint
  · subst key
    rw [sampleUtxo, Finmap.lookup_singleton_eq] at found
    exact Option.some.inj found ▸ one
  · have missing : outpoint ∉ sampleUtxo nHeight := by
      rw [sampleUtxo, Finmap.mem_singleton]
      exact key
    rw [Finmap.lookup_eq_none.mpr missing] at found
    cases found

theorem sampleUtxo_nonneg (nHeight : Nat) : Ledger.CoinsNonneg (sampleUtxo nHeight) := by
  apply sampleUtxo_all
  change 0 ≤ (50 * COIN).toInt
  decide

theorem connectBlock_conserves_sample :
    ∃ result, connectBlock sampleConnectEnv sampleBlock 100 false (.atop (sampleUtxo 1)) () =
        .ok result ∧
      value result.view.flush = value (sampleUtxo 1) + 700000000 -
        result.nFees.toInt - 100000000 := by
  have accepted : (connectBlock sampleConnectEnv sampleBlock 100 false
      (.atop (sampleUtxo 1)) ()).isOk = true := by decide +kernel
  cases outcome : connectBlock sampleConnectEnv sampleBlock 100 false (.atop (sampleUtxo 1)) ()
    with
  | error failure =>
    rw [outcome] at accepted
    cases accepted
  | ok result =>
    refine ⟨result, rfl, ?_⟩
    obtain ⟨-, -, coinbase, rest, vtxEq, conserved⟩ := connectBlock_conserves sampleConnectEnv
      sampleBlock 100 false (sampleUtxo 1) () result (sampleUtxo_nonneg 1) (by decide)
      (by decide +kernel) outcome
    have first : coinbase = coinbasePaying (7 * COIN) := (List.cons.inj vtxEq).1.symm
    rw [conserved, first]
    congr 1

end Minerium
