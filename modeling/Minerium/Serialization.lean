import Minerium.BlockCheckCore

/-! Serialized transactions and headers determine what was written, but for the scripts that were
left out. -/

namespace Minerium

open ByteCodec

variable (nType : SerType)

theorem serializeUint256_injective : PrefixInjectiveOn (fun _ => True) serializeUint256 :=
  ((PrefixInjectiveOn.leBytes 32).comp BitVec.toNat fun _ _ same =>
    BitVec.eq_of_toNat_eq same).mono fun hash _ => hash.isLt.trans_le (by decide)

theorem serializeUInt32_injective :
    PrefixInjectiveOn (fun _ => True) fun n : UInt32 => leBytes 4 n.toNat :=
  ((PrefixInjectiveOn.leBytes 4).comp UInt32.toNat fun _ _ same =>
    UInt32.toNat_inj.mp same).mono fun n _ => n.toNat_lt

theorem serializeInt32_injective :
    PrefixInjectiveOn (fun _ => True) fun n : Int32 => leBytes 4 n.toUInt32.toNat :=
  serializeUInt32_injective.comp Int32.toUInt32 fun _ _ same =>
    Int32.toBitVec_inj.mp (congrArg UInt32.toBitVec same)

theorem serializeAmount_injective :
    PrefixInjectiveOn (fun _ => True) fun n : CAmount => leBytes 8 n.toUInt64.toNat :=
  ((PrefixInjectiveOn.leBytes 8).comp (fun n : CAmount => n.toUInt64.toNat) fun _ _ same =>
    Int64.toBitVec_inj.mp (congrArg UInt64.toBitVec (UInt64.toNat_inj.mp same))).mono
      fun n _ => n.toUInt64.toNat_lt

theorem serializeOutPoint_injective : PrefixInjectiveOn (fun _ => True) serializeOutPoint := by
  have fields := (serializeUint256_injective.pair serializeUInt32_injective).comp
    (fun outpoint : COutPoint => (outpoint.hash, outpoint.n))
    (by
      rintro ⟨hash, n⟩ ⟨hash', n'⟩ same
      cases same
      rfl)
  exact fields.mono fun _ _ => ⟨trivial, trivial⟩

theorem serializeTxIn_injective :
    PrefixInjectiveOn (fun txin => txin.scriptSig.length < 2 ^ 64) serializeTxIn := by
  have fields := ((serializeOutPoint_injective.pair PrefixInjectiveOn.writeBytes).pair
    serializeUInt32_injective).comp
    (fun txin : CTxIn => ((txin.prevout, txin.scriptSig), txin.nSequence))
    (by
      rintro ⟨prevout, scriptSig, nSequence⟩ ⟨prevout', scriptSig', nSequence'⟩ same
      cases same
      rfl)
  exact fields.mono fun _ short => ⟨⟨trivial, short⟩, trivial⟩

def keepAll : PruneEnv := ⟨fun _ => none, fun _ => false⟩

theorem writtenScript_keepAll {script : CScript} : writtenScript keepAll nType script = script := by
  simp [writtenScript, dropsScript, keepAll]

theorem serializeTxOut_injective :
    PrefixInjectiveOn (fun txout => txout.scriptPubKey.length < 2 ^ 64)
      (serializeTxOut keepAll nType) := by
  have fields := (serializeAmount_injective.pair PrefixInjectiveOn.writeBytes).comp
    (fun txout : CTxOut => (txout.nValue, txout.scriptPubKey))
    (by
      rintro ⟨nValue, scriptPubKey⟩ ⟨nValue', scriptPubKey'⟩ same
      cases same
      rfl)
  have written : serializeTxOut keepAll nType = fun txout =>
      leBytes 8 txout.nValue.toUInt64.toNat ++ writeBytes txout.scriptPubKey := by
    funext txout
    rw [serializeTxOut, writtenScript_keepAll]
  rw [written]
  exact fields.mono fun _ short => ⟨trivial, short⟩

structure FitsCompactSize (tx : CTransaction) : Prop where
  inputCount : tx.vin.length < 2 ^ 64
  inputScripts : ∀ txin ∈ tx.vin, txin.scriptSig.length < 2 ^ 64
  outputCount : tx.vout.length < 2 ^ 64
  outputScripts : ∀ txout ∈ tx.vout, txout.scriptPubKey.length < 2 ^ 64

theorem serializeTx_injective : PrefixInjectiveOn FitsCompactSize (serializeTx keepAll nType) := by
  have fields := (((serializeInt32_injective.pair serializeTxIn_injective.writeVector).pair
    (serializeTxOut_injective nType).writeVector).pair serializeUInt32_injective).comp
    (fun tx : CTransaction => (((tx.nVersion, tx.vin), tx.vout), tx.nLockTime))
    (by
      rintro ⟨nVersion, vin, vout, nLockTime⟩ ⟨nVersion', vin', vout', nLockTime'⟩ same
      cases same
      rfl)
  exact fields.mono fun _ fits =>
    ⟨⟨⟨trivial, fits.inputCount, fits.inputScripts⟩, fits.outputCount, fits.outputScripts⟩, trivial⟩

theorem serializePureHeader_injective : Function.Injective serializePureHeader := by
  have fields := (((((serializeInt32_injective.pair serializeUint256_injective).pair
    serializeUint256_injective).pair serializeUInt32_injective).pair
    serializeUInt32_injective).pair serializeUInt32_injective).comp
    (fun header : CPureBlockHeader => (((((header.nVersion, header.hashPrevBlock),
      header.hashMerkleRoot), header.nTime), header.nBits), header.nNonce))
    (by
      rintro ⟨nVersion, hashPrevBlock, hashMerkleRoot, nTime, nBits, nNonce⟩
        ⟨nVersion', hashPrevBlock', hashMerkleRoot', nTime', nBits', nNonce'⟩ same
      cases same
      rfl)
  intro first second same
  exact fields.eq ⟨⟨⟨⟨⟨trivial, trivial⟩, trivial⟩, trivial⟩, trivial⟩, trivial⟩
    ⟨⟨⟨⟨⟨trivial, trivial⟩, trivial⟩, trivial⟩, trivial⟩, trivial⟩ same

end Minerium
