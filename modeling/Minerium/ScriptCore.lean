import Minerium.Lib.ByteCodec
import Minerium.TransactionCore

/-! Reading scripts: the operation reader of `script/script.h` and the counts and patterns of
`script/script.cpp`. `getOp` is `none` where `GetOp2` returns false. -/

namespace Minerium

open ByteCodec

def OP_PUSHDATA1 : Nat := 0x4c
def OP_PUSHDATA2 : Nat := 0x4d
def OP_PUSHDATA4 : Nat := 0x4e
def OP_1 : Nat := 0x51
def OP_16 : Nat := 0x60
def OP_RETURN : Nat := 0x6a
def OP_2DROP : Nat := 0x6d
def OP_DROP : Nat := 0x75
def OP_DUP : Nat := 0x76
def OP_EQUAL : Nat := 0x87
def OP_EQUALVERIFY : Nat := 0x88
def OP_HASH160 : Nat := 0xa9
def OP_CHECKSIG : Nat := 0xac
def OP_CHECKSIGVERIFY : Nat := 0xad
def OP_CHECKMULTISIG : Nat := 0xae
def OP_CHECKMULTISIGVERIFY : Nat := 0xaf
def OP_INVALIDOPCODE : Nat := 0xff

def MAX_SCRIPT_SIZE : Nat := 10000
def MAX_PUBKEYS_PER_MULTISIG : Nat := 20

structure ScriptOp where
  opcode : Nat
  pushed : Bytes
  rest : CScript
deriving DecidableEq

def readPush (opcode sizeBytes : Nat) (pc : CScript) : Option ScriptOp := do
  let (nSize, pc) ← readLe sizeBytes pc
  let (pushed, pc) ← readBytes nSize pc
  return ⟨opcode, pushed, pc⟩

def getOp : CScript → Option ScriptOp
  | [] => none
  | byte :: pc =>
    let opcode := byte.toNat
    if opcode < OP_PUSHDATA1 then
      (readBytes opcode pc).map fun (pushed, pc) => ⟨opcode, pushed, pc⟩
    else if opcode = OP_PUSHDATA1 then readPush opcode 1 pc
    else if opcode = OP_PUSHDATA2 then readPush opcode 2 pc
    else if opcode = OP_PUSHDATA4 then readPush opcode 4 pc
    else some ⟨opcode, [], pc⟩

def decodeOP_N (opcode : Nat) : Nat :=
  if opcode = 0 then 0 else opcode - (OP_1 - 1)

variable (script : CScript) (fAccurate : Bool)

def isUnspendable : Bool :=
  (match script with
    | byte :: _ => decide (byte.toNat = OP_RETURN)
    | [] => false) || decide (MAX_SCRIPT_SIZE < script.length)

def sigOpsOf (lastOpcode opcode : Nat) : Nat :=
  if opcode = OP_CHECKSIG ∨ opcode = OP_CHECKSIGVERIFY then 1
  else if opcode = OP_CHECKMULTISIG ∨ opcode = OP_CHECKMULTISIGVERIFY then
    if fAccurate = true ∧ OP_1 ≤ lastOpcode ∧ lastOpcode ≤ OP_16 then decodeOP_N lastOpcode
    else MAX_PUBKEYS_PER_MULTISIG
  else 0

/-- Every operation takes at least one byte, so the length of the script is enough fuel. -/
def sigOpCountFrom : Nat → Nat → CScript → Nat
  | 0, _, _ => 0
  | fuel + 1, lastOpcode, pc =>
    match getOp pc with
    | none => 0
    | some op =>
      sigOpsOf fAccurate lastOpcode op.opcode + sigOpCountFrom fuel op.opcode op.rest

def getSigOpCount : Nat :=
  sigOpCountFrom fAccurate script.length OP_INVALIDOPCODE script

def lastPushFrom : Nat → Bytes → CScript → Option Bytes
  | 0, data, _ => some data
  | fuel + 1, data, pc =>
    if pc.isEmpty then some data
    else
      match getOp pc with
      | none => none
      | some op => if OP_16 < op.opcode then none else lastPushFrom fuel op.pushed op.rest

def getScriptSigOpCount (scriptSig : CScript) : Nat :=
  match lastPushFrom scriptSig.length [] scriptSig with
  | some data => getSigOpCount data true
  | none => 0

def legacySigOpCount (tx : CTransaction) : Nat :=
  (tx.vin.map fun txin => getSigOpCount txin.scriptSig false).sum +
    (tx.vout.map fun txout => getSigOpCount txout.scriptPubKey false).sum

end Minerium
