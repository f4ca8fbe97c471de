import Minerium.BlockCheckCore
import Minerium.CoinsCore
import Minerium.ServiceScriptCore

/-! `ConnectBlock` of `validation.cpp` with the functions it runs for each transaction. Script
execution, relative lock times and the services are arbitrary here. -/

namespace Minerium

structure ConnectEnv (σ : Type) extends BlockEnv where
  payment : PaymentEnv
  dip0001Height : Nat
  stopAtBlock : Nat
  fScriptChecks : Bool
  scriptThreads : Bool
  verifyScripts : CTransaction → List Coin → Bool
  sequenceLocks : CTransaction → List Nat → Bool
  checkMineriumInputs : σ → UtxoMap → CBlock → Nat → Bool → Option σ

/-- `fChecked` is only set by a `CheckBlock` that passed on this very block. -/
structure LoadedBlock extends CBlock where
  checkedSound : toCBlock.fChecked = true →
    ∃ env : BlockEnv, checkBlockBody env toCBlock true true = .ok ()

abbrev CTxUndo := List Coin

structure ConnectState where
  view : CCoinsViewCache
  nFees : CAmount
  nSigOps : Nat
  scriptsPassed : Bool
  vtxundo : List CTxUndo

structure ConnectResult (σ : Type) where
  view : CCoinsViewCache
  nFees : CAmount
  vtxundo : List CTxUndo
  services : σ

def orFail {α : Type} (failure : Failure) : Option α → Except Failure α
  | some a => .ok a
  | none => .error failure

def valueOutOfRange : Failure := .exception "CTransaction::GetValueOut(): value out of range"

def addCoinsFrom (view : CCoinsViewCache) (txid : Uint256) (nHeight : Nat) (fCoinbase : Bool) :
    Nat → List CTxOut → Option CCoinsViewCache
  | _, [] => some view
  | i, out :: rest => do
      let view ← view.addCoin ⟨txid, UInt32.ofNat i⟩ (Coin.make out nHeight fCoinbase) fCoinbase
      addCoinsFrom view txid nHeight fCoinbase (i + 1) rest

variable (view : CCoinsViewCache)

def addCoins (txid : Uint256) (tx : CTransaction) (nHeight : Nat) : Option CCoinsViewCache :=
  addCoinsFrom view txid nHeight tx.isCoinBase 0 tx.vout

def spendInputs (view : CCoinsViewCache) : List CTxIn → Option (CTxUndo × CCoinsViewCache)
  | [] => some ([], view)
  | txin :: rest =>
    match view.spendCoin txin.prevout with
    | (none, _) => none
    | (some coin, view) => do
        let (coins, view) ← spendInputs view rest
        return (coin :: coins, view)

variable (tx : CTransaction)

variable {σ : Type} (env : ConnectEnv σ) (nSpendHeight nHeight : Nat)

def spendTxInputs : Option (CTxUndo × CCoinsViewCache) :=
  if tx.isCoinBase then some ([], view) else spendInputs view tx.vin

def updateCoins (txid : Uint256) (tx : CTransaction) (nHeight : Nat) :
    Option (CTxUndo × CCoinsViewCache) := do
  let (txundo, view) ← spendTxInputs view tx
  let view ← addCoins view txid tx nHeight
  return (txundo, view)

def sumInputCoins : CAmount → List Coin → Except Failure CAmount
  | nValueIn, [] => .ok nValueIn
  | nValueIn, coin :: rest =>
    if coin.isSpent then .error (.exception "assert(!coin.IsSpent())")
    else if coin.fCoinBase = true ∧
        (nSpendHeight : Int) - (coin.nHeight : Int) < COINBASE_MATURITY then
      .error (.invalid ⟨0, REJECT_INVALID, "bad-txns-premature-spend-of-coinbase", false⟩)
    else if !moneyRange coin.out.nValue || !moneyRange (nValueIn + coin.out.nValue) then
      .error (dos 100 "bad-txns-inputvalues-outofrange")
    else sumInputCoins (nValueIn + coin.out.nValue) rest

def checkTxInputs : Except Failure CCoinsViewCache := do
  let (have_, view) := view.haveInputs tx
  require have_ (.invalid ⟨0, 0, "", false⟩)
  let (coins, view) := view.accessCoins tx.vin
  let nValueIn ← sumInputCoins nSpendHeight 0 coins
  let nValueOut ← orFail valueOutOfRange tx.getValueOut
  require (decide (nValueOut ≤ nValueIn)) (dos 100 "bad-txns-in-belowout")
  require (decide (0 ≤ nValueIn - nValueOut)) (dos 100 "bad-txns-fee-negative")
  require (moneyRange (0 + (nValueIn - nValueOut))) (dos 100 "bad-txns-fee-outofrange")
  return view

structure ScriptOutcome where
  view : CCoinsViewCache
  passed : Bool

def checkInputs (view : CCoinsViewCache) (tx : CTransaction) (nSpendHeight : Nat)
    : Except Failure ScriptOutcome := do
  let view ← checkTxInputs view tx nSpendHeight
  if !env.fScriptChecks then return ⟨view, true⟩
  let (coins, view) := view.accessCoins tx.vin
  let passed := env.verifyScripts tx coins
  require (passed || env.scriptThreads) (dos 100 "mandatory-script-verify-flag-failed")
  return ⟨view, passed⟩

def getP2SHSigOpCount (coins : List Coin) : Nat :=
  ((coins.zip tx.vin).map fun (coin, txin) =>
    if isPayToScriptHash coin.out.scriptPubKey then
      getSigOpCountWith coin.out.scriptPubKey txin.scriptSig
    else 0).sum

def requireSigOps (fDIP0001Active : Bool) (nSigOps : Nat) : Check :=
  require (decide (nSigOps ≤ maxBlockSigOps fDIP0001Active)) (dos 100 "bad-blk-sigops")

def connectSpends (tx : CTransaction) (state : ConnectState) : Except Failure ConnectState := do
  let (have_, view) := state.view.haveInputs tx
  require have_ (dos 100 "bad-txns-inputs-missingorspent")
  let (coins, view) := view.accessCoins tx.vin
  require (env.sequenceLocks tx (coins.map (·.nHeight))) (dos 100 "bad-txns-nonfinal")
  let nSigOps := state.nSigOps + getP2SHSigOpCount tx coins
  requireSigOps (decide (env.dip0001Height ≤ nHeight)) nSigOps
  let (nValueIn, view) := view.getValueIn tx
  let nValueOut ← orFail valueOutOfRange tx.getValueOut
  let outcome ← checkInputs env view tx nHeight
  return { state with
    view := outcome.view
    nFees := state.nFees + (nValueIn - nValueOut)
    nSigOps := nSigOps
    scriptsPassed := state.scriptsPassed && outcome.passed }

def connectInputs (tx : CTransaction) (state : ConnectState) : Except Failure ConnectState :=
  if tx.isCoinBase then .ok state else connectSpends env nHeight tx state

def connectTx (first : Bool) (tx : CTransaction) (state : ConnectState)
    : Except Failure ConnectState := do
  let nSigOps := state.nSigOps + legacySigOpCount tx
  requireSigOps (decide (env.dip0001Height ≤ nHeight)) nSigOps
  let state := { state with nSigOps := nSigOps }
  let state ← connectInputs env nHeight tx state
  let (txundo, view) ← orFail (.exception "UpdateCoins")
    (updateCoins state.view (txHash env.toBlockEnv tx) tx nHeight)
  return { state with
    view := view
    vtxundo := if first then state.vtxundo else state.vtxundo ++ [txundo] }

def connectTxs : Bool → List CTransaction → ConnectState → Except Failure ConnectState
  | _, [], state => .ok state
  | first, tx :: rest, state => do
      let state ← connectTx env nHeight first tx state
      connectTxs false rest state

def noOverwriteFrom (view : CCoinsViewCache) (txid : Uint256) :
    Nat → List CTxOut → Except Failure CCoinsViewCache
  | _, [] => .ok view
  | o, _ :: rest =>
    match view.haveCoin ⟨txid, UInt32.ofNat o⟩ with
    | (true, _) => .error (dos 100 "bad-txns-BIP30")
    | (false, view) => noOverwriteFrom view txid (o + 1) rest

def noOverwrite (env : BlockEnv) (view : CCoinsViewCache) :
    List CTransaction → Except Failure CCoinsViewCache
  | [] => .ok view
  | tx :: rest => do
      let view ← noOverwriteFrom view (txHash env tx) 0 tx.vout
      noOverwrite env view rest

def rewardFailure : Option RewardOutcome → Check
  | some .accepted => .ok ()
  | some .badPayee => .error (.invalid ⟨0, REJECT_INVALID, "bad-cb-payee", false⟩)
  | some (.badAmount _) => .error (.invalid ⟨0, REJECT_INVALID, "bad-cb-amount", false⟩)
  | none => .error valueOutOfRange

def connectBlock (block : LoadedBlock) (nHeight : Nat) (fJustCheck : Bool) (view : CCoinsViewCache)
    (services : σ) : Except Failure (ConnectResult σ) := do
  require (decide (env.stopAtBlock = 0 ∨ nHeight ≤ env.stopAtBlock)) (.error "stopatblock")
  let _ ← checkBlock env.toBlockEnv block.toCBlock (!fJustCheck) (!fJustCheck)
  if blockHash env.toBlockEnv block.toCPureBlockHeader = env.hashGenesisBlock then
    return { view := view, nFees := 0, vtxundo := [], services := services }
  else
    let pcoinsTip := view.base
    let view ← noOverwrite env.toBlockEnv view block.vtx
    let state ← connectTxs env nHeight true block.vtx
      { view := view, nFees := 0, nSigOps := 0, scriptsPassed := true, vtxundo := [] }
    require state.scriptsPassed (.invalid ⟨100, 0, "", false⟩)
    let services ← orFail (.error "ConnectBlock(): CheckMineriumInputs failed")
      (env.checkMineriumInputs services pcoinsTip block.toCBlock nHeight fJustCheck)
    rewardFailure (block.vtx.head?.bind fun coinbase =>
      checkBlockReward env.payment coinbase nHeight state.nFees)
    return { view := state.view, nFees := state.nFees, vtxundo := state.vtxundo,
             services := services }

end Minerium
