import Minerium.BlockOrderCore
import Minerium.EscrowCore
import Minerium.Lib.Loop
import Minerium.TokenRunCore

/-! The services in a connected block, from `CheckMineriumInputs`. Every transaction is first
looked at as an alias operation and then handed to the first service it has an output of. -/

namespace Minerium

/-- The decoding of payloads, the scripts of the wallet, the floating-point arithmetic and the
graph algorithms are arbitrary functions. -/
structure ServiceEnv where
  txHash : CTransaction → Uint256
  isNullData : CScript → Bool
  addressOf : CScript → Option Bytes
  isValidAddress : Bytes → Bool
  fUnitTest : Bool
  unserializeAlias : Bytes → Bytes → Option CAliasIndex
  unserializeCert : Bytes → Bytes → Option CCert
  unserializeOffer : Bytes → Bytes → Option COffer
  unserializeEscrow : Bytes → Bytes → Option CEscrow
  unserializeAsset : Bytes → Bytes → Option CAsset
  unserializeAllocation : Bytes → Bytes → Option CAssetAllocation
  aliasFee : CScript → Nat → CAmount
  yearsText : Nat → String
  priceText : Float32Bits → String
  accumulateBalance : Float64Bits → CAmount → Int32 → Float64Bits
  accumulateRate : Float32Bits → Float32Bits → Int32 → Float32Bits
  compoundInterest : Float64Bits → Float32Bits → UInt32 → CAmount
  nShareFeeBlock : Nat
  hawickCircuits : Nat → List (Nat × Nat) → List Nat
  topologicalSort : Nat → List (Nat × Nat) → Option (List Nat)

namespace ServiceEnv

variable (env : ServiceEnv)

def unserializeFromTx {α : Type} (unserializeFromData : Bytes → Bytes → Option α)
    (tx : CTransaction) : Option α :=
  (getMineriumData env.isNullData tx).bind fun data => unserializeFromData data.vchData data.vchHash

def aliasEnv : AliasEnv where
  txHash := env.txHash
  isNullData := env.isNullData
  unserializeAlias := env.unserializeAlias
  aliasFee := env.aliasFee
  yearsText := env.yearsText

def certEnv : CertEnv where
  txHash := env.txHash
  unserializeCert := env.unserializeFromTx env.unserializeCert

def offerEnv : OfferEnv where
  txHash := env.txHash
  unserializeOffer := env.unserializeFromTx env.unserializeOffer

def escrowEnv : EscrowEnv where
  txHash := env.txHash
  unserializeEscrow := env.unserializeFromTx env.unserializeEscrow
  priceText := env.priceText

def assetEnv : AssetEnv where
  txHash := env.txHash
  unserializeAsset := env.unserializeFromTx env.unserializeAsset
  unserializeAllocation := env.unserializeFromTx env.unserializeAllocation
  isValidAddress := env.isValidAddress
  findAssetOwnerInTx := findAssetOwnerInTx env.addressOf
  fUnitTest := env.fUnitTest
  accumulateBalance := env.accumulateBalance
  accumulateRate := env.accumulateRate
  compoundInterest := env.compoundInterest

def orderEnv : OrderEnv where
  unserializeAllocation := env.unserializeFromTx env.unserializeAllocation
  nShareFeeBlock := env.nShareFeeBlock
  hawickCircuits := env.hawickCircuits
  topologicalSort := env.topologicalSort

end ServiceEnv

structure ServiceState where
  aliases : AliasState
  certs : CertState
  offers : OfferState
  escrows : EscrowState
  tokens : AssetState

def ServiceState.empty : ServiceState := ⟨.empty, .empty, .empty, .empty, .empty⟩

/-- The coins before the block, the active chain and the height, which need not follow the tip. -/
structure BlockContext where
  env : ServiceEnv
  inputs : UtxoMap
  chain : ActiveChain
  nHeight : Nat

structure AliasInput where
  op : Nat
  vvchAliasArgs : List Bytes
deriving DecidableEq

/-- Without an alias output the transaction counts as an update of the alias it spends. -/
def aliasInput (inputs : UtxoMap) (tx : CTransaction) : Option AliasInput :=
  match decodeAliasTx tx with
  | some script => some ⟨script.op, script.vvchArgs⟩
  | none => (findAliasInTx inputs tx).map (⟨OP_ALIAS_UPDATE, ·⟩)

def signingAlias (inputs : UtxoMap) (tx : CTransaction) : Bytes :=
  ((aliasInput inputs tx).map (·.vvchAliasArgs.headD [])).getD []

/-- An error message alone does not end the block. -/
def goesOn {α : Type} : Except CheckStop α → Bool
  | .ok _ => true
  | .error (.refused _) => true
  | .error (.failed _) => false
  | .error (.exception _) => false

def goesOnToken {α : Type} : Except ServiceStop α → Bool
  | .ok _ => true
  | .error (.errorMessage _) => true
  | .error (.exception _) => false

variable (ctx : BlockContext) (tx : CTransaction)

section

variable (op : Nat) (state : ServiceState)

def checkAlias : Bool × ServiceState :=
  match aliasInput ctx.inputs tx with
  | none => (true, state)
  | some input =>
    let outcome := checkAliasInputs ctx.env.aliasEnv ctx.chain ctx.inputs tx input.op
      input.vvchAliasArgs ctx.nHeight state.aliases
    (goesOn outcome.1, { state with aliases := outcome.2 })

def runOffer : Bool × ServiceState :=
  let outcome := checkOfferInputs ctx.env.offerEnv state.aliases ctx.chain tx op
    (signingAlias ctx.inputs tx) ctx.nHeight state.offers
  (goesOn outcome.1, { state with offers := outcome.2 })

def runCert : Bool × ServiceState :=
  let outcome := checkCertInputs ctx.env.certEnv state.aliases ctx.chain tx op
    (signingAlias ctx.inputs tx) ctx.nHeight state.certs
  (goesOn outcome.1, { state with certs := outcome.2 })

def runEscrow : Bool × ServiceState :=
  let outcome := checkEscrowInputs ctx.env.escrowEnv state.aliases state.offers ctx.chain tx op
    (((aliasInput ctx.inputs tx).map (·.vvchAliasArgs)).getD []) ctx.nHeight state.escrows
  (goesOn outcome.1, { state with escrows := outcome.2 })

def runAllocation : Bool × ServiceState :=
  let outcome := checkAssetAllocationInputs ctx.env.assetEnv ctx.inputs tx op
    (signingAlias ctx.inputs tx) ctx.nHeight state.tokens
  (goesOnToken outcome.1, { state with tokens := outcome.2 })

def runAsset : Bool × ServiceState :=
  let outcome := checkAssetInputs ctx.env.assetEnv ctx.inputs tx op
    (signingAlias ctx.inputs tx) ctx.nHeight state.tokens
  (goesOnToken outcome.1, { state with tokens := outcome.2 })

end

inductive ServiceCall where
  | allocation (op : Nat)
  | offer (op : Nat)
  | cert (op : Nat)
  | escrow (op : Nat)
  | asset (op : Nat)
  | none
deriving DecidableEq

def serviceCall : ServiceCall :=
  match decodeAssetAllocationTx tx with
  | some script => .allocation script.op
  | none =>
    match decodeOfferTx tx with
    | some script => .offer script.op
    | none =>
      match decodeCertTx tx with
      | some script => .cert script.op
      | none =>
        match decodeEscrowTx tx with
        | some script => .escrow script.op
        | none =>
          match decodeAssetTx tx with
          | some script => .asset script.op
          | none => .none

section

variable (state : ServiceState)

/-- Offers, certificates and escrows need an alias; without one the whole block is left. -/
def runService : Bool × ServiceState :=
  let signed := (aliasInput ctx.inputs tx).isSome
  match serviceCall tx with
  | .allocation op => runAllocation ctx tx op state
  | .offer op => if signed then runOffer ctx tx op state else (false, state)
  | .cert op => if signed then runCert ctx tx op state else (false, state)
  | .escrow op => if signed then runEscrow ctx tx op state else (false, state)
  | .asset op => runAsset ctx tx op state
  | .none => (true, state)

def serviceTx : Bool × ServiceState :=
  if tx.nVersion = MINERIUM_TX_VERSION then
    let checked := checkAlias ctx tx state
    if checked.1 then runService ctx tx checked.2 else (false, checked.2)
  else (true, state)

def ServiceState.startBlock : ServiceState :=
  { state with
    certs := { state.certs with revertedCerts := [] }
    offers := { state.offers with revertedOffers := [] }
    tokens := { state.tokens with revertedAssetAllocations := [] } }

end

variable (vtx : List CTransaction) (state : ServiceState)

/-- A block that cannot be sorted is connected without its services. -/
def processedVtx : List CTransaction :=
  (sortedVtx ctx.env.orderEnv ctx.inputs ctx.nHeight vtx).getD []

def connectServices : ServiceState :=
  Loop.run (serviceTx ctx) (processedVtx ctx vtx) state.startBlock

def serviceVisits : List (ServiceState × CTransaction) :=
  Loop.visits (serviceTx ctx) (processedVtx ctx vtx) state.startBlock

end Minerium
