import Minerium.Transaction
import Minerium.UndoCore

/-! Reading back a written undo record, for every coin that a transaction can spend. -/

namespace Minerium

open ByteCodec List Option Nat

variable {n nSize : Nat} {script : CScript} {keys : PubKeyEnv} {coin : Coin}
  {vtxundo : List CTxUndo} {rest : Bytes}

theorem compressAmountFrom_spec {fuel : Nat} (e : Nat) (positive : 0 < n) :
    (compressAmountFrom fuel n e).1 * 10 ^ (compressAmountFrom fuel n e).2 = n * 10 ^ e ∧
      0 < (compressAmountFrom fuel n e).1 ∧ (compressAmountFrom fuel n e).1 ≤ n ∧
      (compressAmountFrom fuel n e).2 ≤ e + fuel ∧
      ((compressAmountFrom fuel n e).2 < e + fuel → (compressAmountFrom fuel n e).1 % 10 ≠ 0) := by
  induction fuel generalizing n e with
  | zero =>
    refine ⟨rfl, positive, le_refl n, le_refl e, fun below => ?_⟩
    exact absurd below (lt_irrefl e)
  | succ fuel ih =>
    by_cases divisible : n % 10 = 0
    · obtain ⟨same, positive', smaller, bound, last⟩ := ih (n := n / 10) (e + 1) (by omega)
      simp only [compressAmountFrom, divisible, if_true]
      refine ⟨?_, positive', by omega, by omega, fun below => last (by omega)⟩
      rw [same, pow_succ, mul_comm (10 ^ e) 10, ← mul_assoc]
      congr 1
      omega
    · simp only [compressAmountFrom, divisible, if_false]
      exact ⟨trivial, positive, le_refl n, by omega, fun _ => divisible⟩

theorem decompressAmount_compress (bound : n < 2 ^ 60) :
    decompressAmount (compressAmount n) = n := by
  by_cases zero : n = 0
  · subst zero
    rfl
  · obtain ⟨same, positive, smaller, exponent, last⟩ :=
      compressAmountFrom_spec 0 (pos_of_ne_zero zero)
    simp only [compressAmount, zero, if_false]
    generalize compressAmountFrom 9 n 0 = stripped at *
    obtain ⟨m, e⟩ := stripped
    simp only [pow_zero, mul_one, zero_add] at same positive smaller exponent last
    by_cases small : e < 9
    · have digit := last small
      have fits : 1 + (m / 10 * 9 + m % 10 - 1) * 10 + e < 2 ^ 64 := by omega
      simp only [small, if_true, mod_eq_of_lt fits]
      have rest : 1 + (m / 10 * 9 + m % 10 - 1) * 10 + e - 1 =
          (m / 10 * 9 + m % 10 - 1) * 10 + e := by omega
      have low : ((m / 10 * 9 + m % 10 - 1) * 10 + e) % 10 = e := by omega
      have high : ((m / 10 * 9 + m % 10 - 1) * 10 + e) / 10 = m / 10 * 9 + m % 10 - 1 := by omega
      have back : (m / 10 * 9 + m % 10 - 1) / 9 * 10 + (m / 10 * 9 + m % 10 - 1) % 9 + 1 = m := by
        omega
      have nonzero : 1 + (m / 10 * 9 + m % 10 - 1) * 10 + e ≠ 0 := by omega
      simp only [decompressAmount, nonzero, if_false, rest, low, high, small, if_true, back, same]
      exact mod_eq_of_lt (by omega)
    · have nine : e = 9 := by omega
      subst nine
      have fits : 1 + (m - 1) * 10 + 9 < 2 ^ 64 := by omega
      have rest : 1 + (m - 1) * 10 + 9 - 1 = (m - 1) * 10 + 9 := by omega
      have low : ((m - 1) * 10 + 9) % 10 = 9 := by omega
      have high : ((m - 1) * 10 + 9) / 10 + 1 = m := by omega
      have nonzero : 1 + (m - 1) * 10 + 9 ≠ 0 := by omega
      simp only [small, if_false, mod_eq_of_lt fits, decompressAmount, nonzero, rest, low, high,
        same]
      exact mod_eq_of_lt (by omega)

theorem compressAmount_lt (n : Nat) : compressAmount n < 2 ^ 64 := by
  simp only [compressAmount]
  split
  · norm_num
  · split <;> exact mod_lt _ (by norm_num)

theorem drop_byte {i opcode : Nat} (inside : i < script.length) (byte : byteAt script i = opcode) :
    script.drop i = opByte opcode :: script.drop (i + 1) := by
  rw [drop_eq_getElem_cons inside, ← byte, byteAt, opByte, UInt8.ofNat_toNat,
    getD_eq_getElem?_getD, List.getElem?_eq_getElem inside, getD_some]

theorem drop_bytes (start count : Nat) :
    script.drop start = (script.drop start).take count ++ script.drop (start + count) := by
  rw [← drop_drop, take_append_drop]

theorem isToKeyID_eq (matched : isToKeyID script = true) :
    script = [opByte OP_DUP, opByte OP_HASH160, 20] ++ (script.drop 3).take 20 ++
        [opByte OP_EQUALVERIFY, opByte OP_CHECKSIG] ∧
      ((script.drop 3).take 20).length = 20 := by
  simp only [isToKeyID, decide_eq_true_eq] at matched
  obtain ⟨length, first, second, third, fourth, fifth⟩ := matched
  have finish : script.drop 25 = [] := drop_eq_nil_of_le (by omega)
  refine ⟨?_, by simp [length]⟩
  calc script = script.drop 0 := rfl
    _ = opByte OP_DUP :: opByte OP_HASH160 :: 20 :: script.drop 3 := by
      rw [drop_byte (by omega) first, drop_byte (by omega) second, drop_byte (by omega) third]
      rfl
    _ = _ := by
      conv_lhs => rw [drop_bytes 3 20, drop_byte (by omega) fourth,
        drop_byte (by omega) fifth, finish]
      simp

theorem isToScriptID_eq (matched : isToScriptID script = true) :
    script = [opByte OP_HASH160, 20] ++ (script.drop 2).take 20 ++ [opByte OP_EQUAL] ∧
      ((script.drop 2).take 20).length = 20 := by
  simp only [isToScriptID, decide_eq_true_eq] at matched
  obtain ⟨length, first, second, third⟩ := matched
  have finish : script.drop 23 = [] := drop_eq_nil_of_le (by omega)
  refine ⟨?_, by simp [length]⟩
  calc script = script.drop 0 := rfl
    _ = opByte OP_HASH160 :: 20 :: script.drop 2 := by
      rw [drop_byte (by omega) first, drop_byte (by omega) second]
      rfl
    _ = _ := by
      conv_lhs => rw [drop_bytes 2 20, drop_byte (by omega) third, finish]
      simp

theorem isToCompressedPubKey_eq (matched : isToCompressedPubKey script = true) :
    script = [33, opByte (byteAt script 1)] ++ (script.drop 2).take 32 ++ [opByte OP_CHECKSIG] ∧
      ((script.drop 2).take 32).length = 32 := by
  simp only [isToCompressedPubKey, decide_eq_true_eq] at matched
  obtain ⟨length, first, last, -⟩ := matched
  have finish : script.drop 35 = [] := drop_eq_nil_of_le (by omega)
  refine ⟨?_, by simp [length]⟩
  calc script = script.drop 0 := rfl
    _ = 33 :: opByte (byteAt script 1) :: script.drop 2 := by
      rw [drop_byte (by omega) first, drop_byte (by omega) rfl]
      rfl
    _ = _ := by
      conv_lhs => rw [drop_bytes 2 32, drop_byte (by omega) last, finish]
      simp

theorem isToFullPubKey_eq (matched : isToFullPubKey keys script = true) :
    script = 65 :: 4 :: ((script.drop 2).take 32 ++ (script.drop 34).take 32) ++
        [opByte OP_CHECKSIG] ∧
      ((script.drop 2).take 32).length = 32 ∧ ((script.drop 34).take 32).length = 32 ∧
      keys.isFullyValid (4 :: ((script.drop 2).take 32 ++ (script.drop 34).take 32)) = true ∧
      byteAt ((script.drop 34).take 32) 31 = byteAt script 65 := by
  simp only [isToFullPubKey, Bool.and_eq_true, decide_eq_true_eq] at matched
  obtain ⟨⟨length, first, last, second⟩, valid⟩ := matched
  have finish : script.drop 67 = [] := drop_eq_nil_of_le (by omega)
  have point : script.drop 2 = (script.drop 2).take 32 ++ ((script.drop 34).take 32 ++
      [opByte OP_CHECKSIG]) := by
    rw [← finish, ← drop_byte (by omega) last, ← drop_bytes 34 32, ← drop_bytes 2 32]
  have start : script.drop 1 = 4 :: script.drop 2 := drop_byte (by omega) second
  have lengthX : ((script.drop 2).take 32).length = 32 := by simp [length]
  have lengthY : ((script.drop 34).take 32).length = 32 := by simp [length]
  refine ⟨?_, lengthX, lengthY, ?_, ?_⟩
  · calc script = script.drop 0 := rfl
      _ = 65 :: 4 :: script.drop 2 := by
        rw [drop_byte (by omega) first, start]
        rfl
      _ = _ := by
        conv_lhs => rw [point]
        simp
  · have key : (script.drop 1).take 65 =
        4 :: ((script.drop 2).take 32 ++ (script.drop 34).take 32) := by
      rw [start, point, ← append_assoc, take_succ_cons]
      congr 1
      rw [take_left' (by simp [length])]
      simp [length]
    rw [← key]
    exact valid
  · simp [byteAt, getD_eq_getElem?_getD, List.getElem?_drop]

theorem readVarInt_byte {code : Nat} (small : code < 128) (rest : Bytes) :
    readVarInt 32 (UInt8.ofNat code :: rest) = some (code, rest) := by
  have read := @readVarIntFrom_last 32 0 code small (by omega) rest
  rw [zero_mul, zero_add] at read
  exact read

theorem unserializeScript_special {bytes : Bytes} (special : nSize < nSpecialScripts)
    (length : bytes.length = getSpecialSize nSize) :
    unserializeScript keys (UInt8.ofNat nSize :: bytes ++ rest) =
      some (decompressScript keys nSize bytes, rest) := by
  have small : nSize < 128 := by
    simp only [nSpecialScripts] at special
    omega
  have read := readBytes_append bytes rest
  rw [length] at read
  simp [unserializeScript, readVarInt_byte small, special, read]

theorem compressScript_spec {compressed : Bytes}
    (compresses : compressScript keys script = some compressed) :
    ∃ nSize bytes, nSize < nSpecialScripts ∧ bytes.length = getSpecialSize nSize ∧
      compressed = UInt8.ofNat nSize :: bytes ∧ decompressScript keys nSize bytes = script := by
  simp only [compressScript] at compresses
  split at compresses
  · rename_i matched
    obtain ⟨whole, length⟩ := isToKeyID_eq matched
    exact ⟨0, _, by decide, length, (Option.some.inj compresses).symm, whole.symm⟩
  split at compresses
  · rename_i matched
    obtain ⟨whole, length⟩ := isToScriptID_eq matched
    exact ⟨1, _, by decide, length, (Option.some.inj compresses).symm, whole.symm⟩
  split at compresses
  · rename_i matched
    obtain ⟨whole, length⟩ := isToCompressedPubKey_eq matched
    simp only [isToCompressedPubKey, decide_eq_true_eq] at matched
    refine ⟨byteAt script 1, _, ?_, ?_, (Option.some.inj compresses).symm, ?_⟩
    · simp only [nSpecialScripts]
      omega
    · rcases matched.2.2.2 with parity | parity <;> simp only [parity] <;> exact length
    · have special : byteAt script 1 ≠ 0 ∧ byteAt script 1 ≠ 1 ∧ byteAt script 1 < 4 := by omega
      simp only [decompressScript, special.1, special.2.1, special.2.2, if_true, if_false]
      exact whole.symm
  split at compresses
  · rename_i matched
    obtain ⟨whole, lengthX, lengthY, valid, parity⟩ := isToFullPubKey_eq matched
    refine ⟨4 + byteAt script 65 % 2, _, ?_, ?_, (Option.some.inj compresses).symm, ?_⟩
    · simp only [nSpecialScripts]
      omega
    · rw [lengthX, getSpecialSize, if_neg (by omega)]
    · have decompressed := keys.decompress_valid _ _ lengthX lengthY valid
      have code : 4 + byteAt script 65 % 2 - 2 = 2 + byteAt script 65 % 2 := by omega
      rw [parity] at decompressed
      rw [decompressScript, if_neg (by omega), if_neg (by omega), if_neg (by omega), code,
        decompressed]
      exact whole.symm
  · cases compresses

theorem unserializeScript_serialize (short : script.length ≤ MAX_SCRIPT_SIZE) :
    unserializeScript keys (serializeScript keys script ++ rest) = some (script, rest) := by
  cases compresses : compressScript keys script with
  | some compressed =>
    obtain ⟨nSize, bytes, special, length, rfl, back⟩ := compressScript_spec compresses
    simp only [serializeScript, compresses]
    rw [unserializeScript_special special length, back]
  | none =>
    simp only [MAX_SCRIPT_SIZE] at short
    have size := @readVarInt_write 32 (script.length + nSpecialScripts)
      (by simp only [nSpecialScripts]; omega) (by simp only [nSpecialScripts]; omega)
      (script ++ rest)
    have read := readBytes_append script rest
    simp only [serializeScript, compresses, unserializeScript, append_assoc, size]
    simp [MAX_SCRIPT_SIZE, not_lt.mpr short, read]

theorem ofNat_toUInt64 {nValue : CAmount} : Int64.ofNat nValue.toUInt64.toNat = nValue := by
  apply Int64.toBitVec_inj.mp
  exact (BitVec.ofNat_toNat 64 nValue.toBitVec).trans (BitVec.setWidth_eq _)

theorem moneyRange_toUInt64 {nValue : CAmount} (inRange : moneyRange nValue = true) :
    nValue.toUInt64.toNat < 2 ^ 60 := by
  obtain ⟨lower, upper⟩ := (moneyRange_iff nValue).mp inRange
  have width := nValue.toUInt64.toNat_lt
  have same : nValue.toInt =
      if 2 * nValue.toUInt64.toNat < 2 ^ 64 then (nValue.toUInt64.toNat : Int)
      else (nValue.toUInt64.toNat : Int) - (2 ^ 64 : Nat) := BitVec.toInt_eq_toNat_cond _
  split at same <;> omega

theorem isUnspendable_short (spendable : isUnspendable script = false) :
    script.length ≤ MAX_SCRIPT_SIZE := by
  simp only [isUnspendable, Bool.or_eq_false_iff, decide_eq_false_iff_not] at spendable
  omega

theorem unserializeTxOutCompressed_serialize {out : CTxOut}
    (inRange : moneyRange out.nValue = true) (short : out.scriptPubKey.length ≤ MAX_SCRIPT_SIZE) :
    unserializeTxOutCompressed keys (serializeTxOutCompressed keys out ++ rest) =
      some (out, rest) := by
  have amount := readVarInt_write (compressAmount_lt out.nValue.toUInt64.toNat)
    (compressAmount_lt out.nValue.toUInt64.toNat) (serializeScript keys out.scriptPubKey ++ rest)
  simp only [unserializeTxOutCompressed, serializeTxOutCompressed, append_assoc, amount,
    bind_eq_bind, bind_some, unserializeScript_serialize short,
    decompressAmount_compress (moneyRange_toUInt64 inRange), ofNat_toUInt64]
  rfl

structure UndoExact (coin : Coin) : Prop where
  positive : 0 < coin.nHeight
  fits : coin.nHeight < 2 ^ 31
  inRange : moneyRange coin.out.nValue = true
  short : coin.out.scriptPubKey.length ≤ MAX_SCRIPT_SIZE

theorem coinCode_spec (fits : coin.nHeight < 2 ^ 31) : coinCode coin / 2 = coin.nHeight ∧
    decide (coinCode coin % 2 = 1) = coin.fCoinBase ∧ coinCode coin < 2 ^ 32 := by
  unfold coinCode
  cases coin.fCoinBase with
  | true => refine ⟨?_, decide_eq_true ?_, ?_⟩ <;> rw [if_pos rfl] <;> omega
  | false => refine ⟨?_, decide_eq_false ?_, ?_⟩ <;> rw [if_neg Bool.false_ne_true] <;> omega

theorem readDummy_write {nHeight : Nat} :
    readDummy nHeight ((if 0 < nHeight then [0] else []) ++ rest) = some ((), rest) := by
  have byte := @readVarInt_byte 0 (by decide) rest
  rw [readDummy]
  split
  · exact congrArg (Option.map _) byte
  · rfl

section

variable (fits : coin.nHeight < 2 ^ 31) (inRange : moneyRange coin.out.nValue = true)
  (short : coin.out.scriptPubKey.length ≤ MAX_SCRIPT_SIZE)
include fits inRange short

theorem unserializeTxInUndo_serialize :
    unserializeTxInUndo keys (serializeTxInUndo keys coin ++ rest) = some (coin, rest) := by
  obtain ⟨height, coinbase, bound⟩ := coinCode_spec fits
  simp only [unserializeTxInUndo, serializeTxInUndo, append_assoc,
    @readVarInt_write 32 (coinCode coin) (by omega) bound, bind_eq_bind, bind_some, height,
    readDummy_write, coinbase, unserializeTxOutCompressed_serialize inRange short]
  rfl

theorem unserializeCoin_serialize :
    unserializeCoin keys (serializeCoin keys coin ++ rest) = some (coin, rest) := by
  obtain ⟨height, coinbase, bound⟩ := coinCode_spec fits
  simp only [unserializeCoin, serializeCoin, append_assoc,
    @readVarInt_write 32 (coinCode coin) (by omega) bound, bind_eq_bind, bind_some, height,
    coinbase, unserializeTxOutCompressed_serialize inRange short]
  rfl

end

theorem coin_roundTrip (keys : PubKeyEnv) (coin : Coin) (rest : Bytes)
    (inRange : moneyRange coin.out.nValue = true)
    (short : coin.out.scriptPubKey.length ≤ MAX_SCRIPT_SIZE) (fits : coin.nHeight < 2 ^ 31) :
    unserializeCoin keys (serializeCoin keys coin ++ rest) = some (coin, rest) ∧
      unserializeTxInUndo keys (serializeTxInUndo keys coin ++ rest) = some (coin, rest) ∧
      Set.InjOn (fun nValue : CAmount => compressAmount nValue.toUInt64.toNat)
        {nValue | moneyRange nValue = true} := by
  refine ⟨unserializeCoin_serialize fits inRange short,
    unserializeTxInUndo_serialize fits inRange short, ?_⟩
  intro first firstRange second secondRange same
  have back := congrArg decompressAmount same
  simp only [decompressAmount_compress (moneyRange_toUInt64 firstRange),
    decompressAmount_compress (moneyRange_toUInt64 secondRange)] at back
  rw [← @ofNat_toUInt64 first, back, ofNat_toUInt64]

def sampleKeys : PubKeyEnv :=
  { isFullyValid := fun _ => false
    decompress := fun _ => none
    decompress_valid := fun _ _ _ _ impossible => by cases impossible }

theorem coin_roundTrip_sample :
    unserializeCoin sampleKeys (serializeCoin sampleKeys ⟨⟨5000000000, [0x51]⟩, true, 7⟩) =
      some (⟨⟨5000000000, [0x51]⟩, true, 7⟩, []) := by
  have read := (coin_roundTrip sampleKeys ⟨⟨5000000000, [0x51]⟩, true, 7⟩ [] (by decide)
    (by decide) (by decide)).1
  rwa [append_nil] at read

theorem readSizeUpTo_write {limit : Nat} (within : nSize ≤ limit) (small : nSize ≤ MAX_SIZE) :
    readSizeUpTo limit (writeCompactSize nSize ++ rest) = some (nSize, rest) := by
  have limits : ¬ (MAX_SIZE < nSize ∨ limit < nSize) := by omega
  have bound : nSize < 2 ^ 64 := by
    simp only [MAX_SIZE] at small
    omega
  simp only [readSizeUpTo, readCompactSize_write bound, bind_eq_bind, bind_some, limits, if_false]

theorem unserializeTxUndo_serialize {txundo : CTxUndo} (writable : ∀ coin ∈ txundo, UndoExact coin)
    (few : txundo.length ≤ MAX_INPUTS_PER_BLOCK) :
    unserializeTxUndo keys (serializeTxUndo keys txundo ++ rest) = some (txundo, rest) := by
  have small : txundo.length ≤ MAX_SIZE := few.trans (by decide)
  simp only [unserializeTxUndo, serializeTxUndo, writeVector, append_assoc,
    readSizeUpTo_write few small, bind_eq_bind, bind_some]
  exact readMany_flatMap
    fun coin member rest => unserializeTxInUndo_serialize (writable coin member).fits
      (writable coin member).inRange (writable coin member).short

structure BlockUndoExact (vtxundo : List CTxUndo) : Prop where
  coins : ∀ txundo ∈ vtxundo, ∀ coin ∈ txundo, UndoExact coin
  inputs : ∀ txundo ∈ vtxundo, txundo.length ≤ MAX_INPUTS_PER_BLOCK
  transactions : vtxundo.length ≤ MAX_SIZE

theorem unserializeBlockUndo_serialize (writable : BlockUndoExact vtxundo) :
    unserializeBlockUndo keys (serializeBlockUndo keys vtxundo ++ rest) = some (vtxundo, rest) := by
  simp only [unserializeBlockUndo, serializeBlockUndo, writeVector, append_assoc,
    readSizeUpTo_write writable.transactions writable.transactions, bind_eq_bind,
    bind_some]
  exact readMany_flatMap (fun txundo member rest => unserializeTxUndo_serialize
    (writable.coins txundo member) (writable.inputs txundo member))

theorem undoReadFromDisk_write (keys : PubKeyEnv) (hash : Bytes → Uint256) (hashBlock : Uint256)
    (writable : BlockUndoExact vtxundo) :
    undoReadFromDisk keys hash (undoWriteToDisk keys hash vtxundo hashBlock) hashBlock =
      some vtxundo := by
  have checksum (value : Uint256) :
      readLe 32 (serializeUint256 value) = some (value.toNat, []) := by
    have read := @readLe_leBytes 32 value.toNat (value.isLt.trans_le (by norm_num)) []
    rw [append_nil] at read
    exact read
  simp only [undoReadFromDisk, undoWriteToDisk, unserializeBlockUndo_serialize writable,
    bind_eq_bind, bind_some, checksum]
  simp

end Minerium
