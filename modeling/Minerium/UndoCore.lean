import Minerium.ConnectCore

/-! Undo records (`undo.h`, `compressor.h`, `compressor.cpp`), their file format, and
`DisconnectBlock`. The handling of public keys is a parameter. `none` is an exception. -/

namespace Minerium

open ByteCodec

/-- A point of the curve is given back by its first coordinate and the parity of the
second. -/
structure PubKeyEnv where
  isFullyValid : Bytes → Bool
  decompress : Bytes → Option Bytes
  decompress_valid : ∀ x y : Bytes, x.length = 32 → y.length = 32 →
    isFullyValid (4 :: (x ++ y)) = true →
    decompress (UInt8.ofNat (2 + byteAt y 31 % 2) :: x) = some (4 :: (x ++ y))

def compressAmountFrom : Nat → Nat → Nat → Nat × Nat
  | 0, n, e => (n, e)
  | fuel + 1, n, e => if n % 10 = 0 then compressAmountFrom fuel (n / 10) (e + 1) else (n, e)

def compressAmount (n : Nat) : Nat :=
  if n = 0 then 0
  else
    let (n, e) := compressAmountFrom 9 n 0
    if e < 9 then (1 + (n / 10 * 9 + n % 10 - 1) * 10 + e) % 2 ^ 64
    else (1 + (n - 1) * 10 + 9) % 2 ^ 64

def decompressAmount (x : Nat) : Nat :=
  if x = 0 then 0
  else
    let x := x - 1
    let e := x % 10
    let x := x / 10
    let n := if e < 9 then x / 9 * 10 + x % 9 + 1 else x + 1
    n * 10 ^ e % 2 ^ 64

variable (script : CScript)

def isToKeyID : Bool :=
  decide (script.length = 25 ∧ byteAt script 0 = OP_DUP ∧ byteAt script 1 = OP_HASH160 ∧
    byteAt script 2 = 20 ∧ byteAt script 23 = OP_EQUALVERIFY ∧ byteAt script 24 = OP_CHECKSIG)

def isToScriptID : Bool :=
  decide (script.length = 23 ∧ byteAt script 0 = OP_HASH160 ∧ byteAt script 1 = 20 ∧
    byteAt script 22 = OP_EQUAL)

def isToCompressedPubKey : Bool :=
  decide (script.length = 35 ∧ byteAt script 0 = 33 ∧ byteAt script 34 = OP_CHECKSIG ∧
    (byteAt script 1 = 2 ∨ byteAt script 1 = 3))

variable (keys : PubKeyEnv) (script : CScript)

def isToFullPubKey : Bool :=
  decide (script.length = 67 ∧ byteAt script 0 = 65 ∧ byteAt script 66 = OP_CHECKSIG ∧
    byteAt script 1 = 4) && keys.isFullyValid ((script.drop 1).take 65)

def compressScript : Option Bytes :=
  if isToKeyID script then some (0 :: (script.drop 3).take 20)
  else if isToScriptID script then some (1 :: (script.drop 2).take 20)
  else if isToCompressedPubKey script then
    some (UInt8.ofNat (byteAt script 1) :: (script.drop 2).take 32)
  else if isToFullPubKey keys script then
    some (UInt8.ofNat (4 + byteAt script 65 % 2) :: (script.drop 2).take 32)
  else none

def getSpecialSize (nSize : Nat) : Nat := if nSize < 2 then 20 else 32

def opByte (opcode : Nat) : UInt8 := UInt8.ofNat opcode

/-- A key that does not decompress leaves the script empty: the result of `Decompress` is
not looked at. -/
def decompressScript (nSize : Nat) (bytes : Bytes) : CScript :=
  if nSize = 0 then
    [opByte OP_DUP, opByte OP_HASH160, 20] ++ bytes ++ [opByte OP_EQUALVERIFY, opByte OP_CHECKSIG]
  else if nSize = 1 then [opByte OP_HASH160, 20] ++ bytes ++ [opByte OP_EQUAL]
  else if nSize < 4 then [33, UInt8.ofNat nSize] ++ bytes ++ [opByte OP_CHECKSIG]
  else
    match keys.decompress (UInt8.ofNat (nSize - 2) :: bytes) with
    | some pubkey => 65 :: pubkey ++ [opByte OP_CHECKSIG]
    | none => []

def nSpecialScripts : Nat := 6

def serializeScript : Bytes :=
  match compressScript keys script with
  | some compressed => compressed
  | none => writeVarInt (script.length + nSpecialScripts) ++ script

def unserializeScript : Reader CScript := fun input => do
  let (nSize, input) ← readVarInt 32 input
  if nSize < nSpecialScripts then
    let (bytes, input) ← readBytes (getSpecialSize nSize) input
    return (decompressScript keys nSize bytes, input)
  else
    let (script, input) ← readBytes (nSize - nSpecialScripts) input
    return (if MAX_SCRIPT_SIZE < nSize - nSpecialScripts then [opByte OP_RETURN] else script, input)

def serializeTxOutCompressed (out : CTxOut) : Bytes :=
  writeVarInt (compressAmount out.nValue.toUInt64.toNat) ++ serializeScript keys out.scriptPubKey

def unserializeTxOutCompressed : Reader CTxOut := fun input => do
  let (nVal, input) ← readVarInt 64 input
  let (script, input) ← unserializeScript keys input
  return ({ nValue := Int64.ofNat (decompressAmount nVal), scriptPubKey := script }, input)

/-- In the templates that write a coin the 31-bit height counts as unsigned. -/
def coinCode (coin : Coin) : Nat :=
  (coin.nHeight * 2 + if coin.fCoinBase then 1 else 0) % 2 ^ 32

def serializeTxInUndo (coin : Coin) : Bytes :=
  writeVarInt (coinCode coin) ++ (if 0 < coin.nHeight then [0] else []) ++
    serializeTxOutCompressed keys coin.out

def readDummy (nHeight : Nat) : Reader Unit := fun input =>
  if 0 < nHeight then (readVarInt 32 input).map fun (_, input) => ((), input)
  else some ((), input)

def unserializeTxInUndo : Reader Coin := fun input => do
  let (nCode, input) ← readVarInt 32 input
  let (_, input) ← readDummy (nCode / 2) input
  let (out, input) ← unserializeTxOutCompressed keys input
  return ({ out := out, fCoinBase := decide (nCode % 2 = 1), nHeight := nCode / 2 }, input)

def serializeCoin (coin : Coin) : Bytes :=
  writeVarInt (coinCode coin) ++ serializeTxOutCompressed keys coin.out

def unserializeCoin : Reader Coin := fun input => do
  let (code, input) ← readVarInt 32 input
  let (out, input) ← unserializeTxOutCompressed keys input
  return ({ out := out, fCoinBase := decide (code % 2 = 1), nHeight := code / 2 }, input)

def MAX_SIZE : Nat := 0x02000000

def MAX_INPUTS_PER_BLOCK : Nat := maxBlockSize true / 41

def readSizeUpTo (limit : Nat) : Reader Nat := fun input => do
  let (nSize, input) ← readCompactSize input
  if MAX_SIZE < nSize ∨ limit < nSize then none else some (nSize, input)

def serializeTxUndo (txundo : CTxUndo) : Bytes := writeVector (serializeTxInUndo keys) txundo

def unserializeTxUndo : Reader CTxUndo := fun input => do
  let (count, input) ← readSizeUpTo MAX_INPUTS_PER_BLOCK input
  readMany (unserializeTxInUndo keys) count input

def serializeBlockUndo (vtxundo : List CTxUndo) : Bytes :=
  writeVector (serializeTxUndo keys) vtxundo

def unserializeBlockUndo : Reader (List CTxUndo) := fun input => do
  let (count, input) ← readSizeUpTo MAX_SIZE input
  readMany (unserializeTxUndo keys) count input

variable (hash : Bytes → Uint256)

def undoChecksum (hashBlock : Uint256) (bytes : Bytes) : Uint256 :=
  hash (serializeUint256 hashBlock ++ bytes)

def undoWriteToDisk (vtxundo : List CTxUndo) (hashBlock : Uint256) : Bytes :=
  let bytes := serializeBlockUndo keys vtxundo
  bytes ++ serializeUint256 (undoChecksum hash hashBlock bytes)

def undoReadFromDisk (file : Bytes) (hashBlock : Uint256) : Option (List CTxUndo) := do
  let (vtxundo, rest) ← unserializeBlockUndo keys file
  let (hashChecksum, _) ← readLe 32 rest
  let bytes := file.take (file.length - rest.length)
  if hashChecksum = (undoChecksum hash hashBlock bytes).toNat then some vtxundo else none

end Minerium
