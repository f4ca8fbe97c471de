import Minerium.ScriptCore

/-! The service prefix of output scripts: `Decode…Script` and `Remove…ScriptPrefix` of the six
services are one reader with the service's number and operation range as arguments. -/

namespace Minerium

inductive Service where
  | alias
  | cert
  | escrow
  | offer
  | asset
  | assetAllocation
deriving DecidableEq

def Service.code : Service → Nat
  | .alias => 1
  | .cert => 2
  | .escrow => 3
  | .offer => 4
  | .asset => 5
  | .assetAllocation => 6

/-- The allocation decoder tests with `IsAssetOp`, so it accepts four operations. -/
def Service.lastOp : Service → Nat
  | .alias => 2
  | .cert => 3
  | .escrow => 9
  | .offer => 2
  | .asset => 4
  | .assetAllocation => 4

def Service.isOp (service : Service) (op : Nat) : Bool :=
  decide (1 ≤ op) && decide (op ≤ service.lastOp)

structure ServiceScript where
  op : Nat
  vvchArgs : List Bytes
  scriptOut : CScript
deriving DecidableEq

def getSmallOp (pc : CScript) : Option (Nat × CScript) := do
  let op ← getOp pc
  if op.opcode < OP_1 ∨ OP_16 < op.opcode then none
  else some (decodeOP_N op.opcode, op.rest)

def isDrop (opcode : Nat) : Bool := decide (opcode = OP_DROP) || decide (opcode = OP_2DROP)

/-- The position of the reader after `GetOp`, also when it fails halfway. -/
def skipOp : CScript → CScript
  | [] => []
  | byte :: pc =>
    match getOp (byte :: pc) with
    | some op => op.rest
    | none =>
      let sizeBytes :=
        if byte.toNat = OP_PUSHDATA1 then 1
        else if byte.toNat = OP_PUSHDATA2 then 2
        else if byte.toNat = OP_PUSHDATA4 then 4
        else 0
      if pc.length < sizeBytes then pc else pc.drop sizeBytes

def readArgs : Nat → List Bytes → CScript → Option (List Bytes × CScript)
  | 0, _, _ => none
  | fuel + 1, vvch, pc =>
    match getOp pc with
    | none => none
    | some op =>
      if isDrop op.opcode then some (vvch, op.rest)
      else if OP_PUSHDATA4 < op.opcode then none
      else readArgs fuel (vvch ++ [op.pushed]) op.rest

def skipDrops : Nat → CScript → CScript
  | 0, pc => pc
  | fuel + 1, pc =>
    match getOp pc with
    | some op => if isDrop op.opcode then skipDrops fuel op.rest else op.rest
    | none => skipOp pc

def decodeServiceScript (service : Service) (script : CScript) : Option ServiceScript := do
  let (code, pc) ← getSmallOp script
  if code ≠ service.code then none
  else
    let (op, pc) ← getSmallOp pc
    if !service.isOp op then none
    else
      let (vvchArgs, pc) ← readArgs (pc.length + 1) [] pc
      let pc := skipDrops (pc.length + 1) pc
      return ⟨op, vvchArgs, script.drop (script.length - (pc.length + 1))⟩

def decodeAliasScript : CScript → Option ServiceScript := decodeServiceScript .alias
def decodeCertScript : CScript → Option ServiceScript := decodeServiceScript .cert
def decodeEscrowScript : CScript → Option ServiceScript := decodeServiceScript .escrow
def decodeOfferScript : CScript → Option ServiceScript := decodeServiceScript .offer
def decodeAssetScript : CScript → Option ServiceScript := decodeServiceScript .asset
def decodeAssetAllocationScript : CScript → Option ServiceScript :=
  decodeServiceScript .assetAllocation

variable (script : CScript)

def removeMineriumScript : Option CScript :=
  ([Service.alias, .offer, .cert, .escrow, .asset, .assetAllocation].findSome? fun service =>
    decodeServiceScript service script).map (·.scriptOut)

def byteAt (i : Nat) : Nat := (script.getD i 0).toNat

def isPayToScriptHash : Bool :=
  let scriptOut := (removeMineriumScript script).getD script
  decide (scriptOut.length = 23 ∧ byteAt scriptOut 0 = OP_HASH160 ∧ byteAt scriptOut 1 = 0x14 ∧
    byteAt scriptOut 22 = OP_EQUAL)

def getSigOpCountWith (scriptPubKey scriptSig : CScript) : Nat :=
  if isPayToScriptHash scriptPubKey then getScriptSigOpCount scriptSig
  else getSigOpCount scriptPubKey true

end Minerium
