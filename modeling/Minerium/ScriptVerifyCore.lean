import Minerium.ServiceScriptCore

/-! The push operator of `script/script.h`, and `VerifyScript` of `script/interpreter.cpp`, which
strips the service prefix before it evaluates an output script. `EvalScript` is an argument. -/

namespace Minerium

open ByteCodec

def pushBytes (b : Bytes) : CScript :=
  if b.length < OP_PUSHDATA1 then UInt8.ofNat b.length :: b
  else if b.length ≤ 0xff then
    UInt8.ofNat OP_PUSHDATA1 :: (leBytes 1 b.length ++ b)
  else if b.length ≤ 0xffff then
    UInt8.ofNat OP_PUSHDATA2 :: (leBytes 2 b.length ++ b)
  else UInt8.ofNat OP_PUSHDATA4 :: (leBytes 4 b.length ++ b)

def encodeOP_N (n : Nat) : UInt8 :=
  if n = 0 then 0 else UInt8.ofNat (OP_1 + n - 1)

inductive DropOp where
  | OP_DROP
  | OP_2DROP
deriving DecidableEq

def DropOp.byte : DropOp → UInt8
  | .OP_DROP => UInt8.ofNat Minerium.OP_DROP
  | .OP_2DROP => UInt8.ofNat Minerium.OP_2DROP

def servicePrefix (service : Service) (op : Nat) (vvchArgs : List Bytes) (drops : List DropOp) :
    CScript :=
  encodeOP_N service.code :: encodeOP_N op :: (vvchArgs.flatMap pushBytes ++ drops.map DropOp.byte)

def isPushOnlyFrom : Nat → CScript → Bool
  | 0, _ => true
  | fuel + 1, pc =>
    if pc.isEmpty then true
    else
      match getOp pc with
      | none => false
      | some op => if OP_16 < op.opcode then false else isPushOnlyFrom fuel op.rest

def isPushOnly (script : CScript) : Bool := isPushOnlyFrom script.length script

/-- Zero and negative zero are false. -/
def castToBool : Bytes → Bool
  | [] => false
  | [last] => decide (last ≠ 0) && decide (last ≠ 0x80)
  | byte :: rest => decide (byte ≠ 0) || castToBool rest

structure ScriptFlags where
  SCRIPT_VERIFY_SIGPUSHONLY : Bool
  SCRIPT_VERIFY_P2SH : Bool
  SCRIPT_VERIFY_CLEANSTACK : Bool

inductive ScriptError where
  | SCRIPT_ERR_EVAL_FALSE
  | SCRIPT_ERR_SIG_PUSHONLY
  | SCRIPT_ERR_CLEANSTACK
  | assertion
  | evalScript (code : Nat)
deriving DecidableEq

def requireTrue (stack : List Bytes) : Except ScriptError Unit :=
  if (stack.getLast?).any castToBool then .ok () else .error .SCRIPT_ERR_EVAL_FALSE

section

variable (evalScript : List Bytes → CScript → Except ScriptError (List Bytes)) (flags : ScriptFlags)

variable (scriptSig scriptPubKey : CScript)

def verifyRedeemScript (stackCopy : List Bytes) :
    Except ScriptError (List Bytes) := do
  if !isPushOnly scriptSig then throw .SCRIPT_ERR_SIG_PUSHONLY
  match stackCopy.getLast? with
  | none => throw .assertion
  | some pubKey2 =>
    let stack ← evalScript stackCopy.dropLast pubKey2
    requireTrue stack
    return stack

def verifyStripped : Except ScriptError Unit := do
  if flags.SCRIPT_VERIFY_SIGPUSHONLY && !isPushOnly scriptSig then throw .SCRIPT_ERR_SIG_PUSHONLY
  let stackCopy ← evalScript [] scriptSig
  let stack ← evalScript stackCopy scriptPubKey
  requireTrue stack
  let stack ←
    if flags.SCRIPT_VERIFY_P2SH && isPayToScriptHash scriptPubKey then
      verifyRedeemScript evalScript scriptSig stackCopy
    else pure stack
  if flags.SCRIPT_VERIFY_CLEANSTACK then
    if !flags.SCRIPT_VERIFY_P2SH then throw .assertion
    if stack.length ≠ 1 then throw .SCRIPT_ERR_CLEANSTACK

def verifyScript (scriptPubKeyIn : CScript) : Except ScriptError Unit :=
  match removeMineriumScript scriptPubKeyIn with
  | some scriptPubKey => verifyStripped evalScript flags scriptSig scriptPubKey
  | none => verifyStripped evalScript flags scriptSig scriptPubKeyIn

end

end Minerium
