import Minerium.BlockCheckCore
import Minerium.Lib.ExceptBind
import Minerium.Transaction

/-! What a block that passed `CheckBlock` looks like, whatever state the check was made in. -/

namespace Minerium

open ExceptBind ByteCodec List

variable {result : Unit} {env : BlockEnv} {vtx : List CTransaction}

theorem require_eq_ok {condition : Bool} {failure : Failure} :
    require condition failure = .ok result ↔ condition = true := by
  unfold require
  split
  · rename_i holds
    simp [holds]
  · rename_i fails
    simp [fails]

structure WellFormedTx (tx : CTransaction) : Prop where
  inputsDistinct : (tx.vin.map (·.prevout)).Nodup
  inputCount : 41 * tx.vin.length ≤ MAX_LEGACY_BLOCK_SIZE
  outputCount : 9 * tx.vout.length ≤ MAX_LEGACY_BLOCK_SIZE
  outputsNonneg : ∀ out ∈ tx.vout, 0 ≤ out.nValue.toInt

theorem txSize_bounds (env : PruneEnv) (tx : CTransaction) :
    41 * tx.vin.length + 9 * tx.vout.length ≤ txSize env tx := by
  have inputs := length_flatMap_ge serializeTxIn 41
    (fun txin => by
      have count := length_writeCompactSize_pos txin.scriptSig.length
      simp only [serializeTxIn, serializeOutPoint, serializeUint256, writeBytes,
        length_append, length_leBytes]
      omega) tx.vin
  have outputs := length_flatMap_ge (serializeTxOut env .SER_NETWORK) 9
    (fun txout => by
      have count := length_writeCompactSize_pos
        (writtenScript env .SER_NETWORK txout.scriptPubKey).length
      simp only [serializeTxOut, writeBytes, length_append, length_leBytes]
      omega) tx.vout
  simp only [txSize, serializeTx, writeVector, length_append]
  omega

theorem checkOutputValues_nonneg {start : CAmount} {vout : List CTxOut}
    (checked : checkOutputValues start vout = .ok result) : ∀ out ∈ vout, 0 ≤ out.nValue.toInt := by
  induction vout generalizing start with
  | nil =>
    intro out member
    cases member
  | cons txout rest ih =>
    simp only [checkOutputValues, ite_error_eq_ok] at checked
    intro out member
    rcases mem_cons.mp member with rfl | member
    · have nonneg := checked.1
      rw [MachineInt.lt_iff] at nonneg
      have zero : (0 : CAmount).toInt = 0 := rfl
      omega
    · exact ih checked.2.2.2 out member

theorem checkTransaction_wellFormed {tx : CTransaction}
    (checked : checkTransaction env tx true = .ok result) : WellFormedTx tx := by
  simp only [checkTransaction, bind_eq_ok, require_eq_ok, Bool.not_true,
    Bool.false_or, decide_eq_true_eq] at checked
  obtain ⟨_, _, _, _, _, size, _, values, _, distinct, _⟩ := checked
  have counted := txSize_bounds env.prune tx
  exact ⟨distinct, by omega, by omega, checkOutputValues_nonneg values⟩

theorem checkTransactions_checked (checked : checkTransactions env vtx = .ok result) :
    ∀ tx ∈ vtx, ∃ value, checkTransaction env tx true = .ok value := by
  induction vtx with
  | nil =>
    intro tx member
    cases member
  | cons head rest ih =>
    simp only [checkTransactions, bind_eq_ok] at checked
    obtain ⟨value, one, others⟩ := checked
    intro tx member
    rcases mem_cons.mp member with rfl | member
    · exact ⟨value, one⟩
    · exact ih others tx member

theorem checkTransactions_wellFormed (checked : checkTransactions env vtx = .ok result) :
    ∀ tx ∈ vtx, WellFormedTx tx := by
  intro tx member
  obtain ⟨_, one⟩ := checkTransactions_checked checked tx member
  exact checkTransaction_wellFormed one

structure WellFormedBlock (vtx : List CTransaction) : Prop where
  coinBaseFirst : ∃ coinbase rest, vtx = coinbase :: rest ∧ coinbase.isCoinBase = true ∧
    ∀ tx ∈ rest, tx.isCoinBase = false
  transactions : ∀ tx ∈ vtx, WellFormedTx tx
  count : vtx.length ≤ MAX_LEGACY_BLOCK_SIZE

theorem checkCoinBasePosition_ok (checked : checkCoinBasePosition vtx = .ok result) :
    ∃ coinbase rest, vtx = coinbase :: rest ∧ coinbase.isCoinBase = true ∧
      ∀ tx ∈ rest, tx.isCoinBase = false := by
  cases vtx with
  | nil => cases checked
  | cons coinbase rest =>
    simp only [checkCoinBasePosition, bind_eq_ok, require_eq_ok, all_eq_true,
      Bool.not_eq_true'] at checked
    obtain ⟨-, first, others⟩ := checked
    exact ⟨coinbase, rest, rfl, first, others⟩

theorem checkBlockBody_wellFormed {block : CBlock} {pow merkle : Bool}
    (checked : checkBlockBody env block pow merkle = .ok result) : WellFormedBlock block.vtx := by
  simp only [checkBlockBody, bind_eq_ok, require_eq_ok] at checked
  obtain ⟨_, _, _, _, _, size, _, position, _, _, _, transactions, _⟩ := checked
  simp only [withinSizeLimits, Bool.and_eq_true, decide_eq_true_eq] at size
  exact ⟨checkCoinBasePosition_ok position, checkTransactions_wellFormed transactions, size.1.2⟩

end Minerium
