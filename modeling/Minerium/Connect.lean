import Minerium.BlockCheck
import Minerium.ConnectCore
import Minerium.Ledger

/-! `ConnectBlock` refines the ledger: each spend finds its coin and each creation an empty place.
-/

namespace Minerium

open ExceptBind FinmapTotal MachineInt List Option Ledger UInt32 CCoinsViewCache Option

variable {view view' : CCoinsViewCache} {utxo : UtxoMap} {i count nSpendHeight nHeight : Nat}
  {first fJustCheck : Bool} {vout : List CTxOut} {coins : List Coin} {tx : CTransaction}
  {before after : ConnectState} {env : BlockEnv} {block : LoadedBlock} {txid : Uint256} {σ : Type}
  {start total : CAmount} (vin : List CTxIn)

theorem orFail_eq_ok {α : Type} {failure : Failure} {x : Option α} {result : α} :
    orFail failure x = .ok result ↔ x = some result := by
  cases x with
  | none => simp [orFail]
  | some a => simp [orFail]

def coinsAt (utxo : UtxoMap) (vin : List CTxIn) : List Coin :=
  vin.map fun txin => (utxo.lookup txin.prevout).getD Coin.empty

def inputsPresent (utxo : UtxoMap) (vin : List CTxIn) : Prop :=
  ∀ txin ∈ vin, (utxo.lookup txin.prevout).isSome = true

theorem haveInputsFrom_spec (represents : Represents view utxo) :
    Represents (view.haveInputsFrom vin).2 utxo ∧ (view.haveInputsFrom vin).2.base = view.base ∧
      ((view.haveInputsFrom vin).1 = true → inputsPresent utxo vin) := by
  induction vin generalizing view with
  | nil =>
    refine ⟨represents, rfl, fun _ txin member => ?_⟩
    cases member
  | cons txin rest ih =>
    obtain ⟨found, represents', base⟩ := haveCoin_spec represents
    simp only [haveInputsFrom]
    split
    · rename_i missing filled have_
      rw [have_] at represents' base
      exact ⟨represents', base, fun impossible => by cases impossible⟩
    · rename_i filled have_
      rw [have_] at represents' base found
      obtain ⟨restRepresents, restBase, present⟩ := ih represents'
      refine ⟨restRepresents, restBase.trans base, fun all other member => ?_⟩
      rcases mem_cons.mp member with rfl | member
      · exact found.symm
      · exact present all other member

theorem accessCoins_spec (represents : Represents view utxo) (present : inputsPresent utxo vin) :
    (view.accessCoins vin).1 = coinsAt utxo vin ∧ Represents (view.accessCoins vin).2 utxo ∧
      (view.accessCoins vin).2.base = view.base := by
  induction vin generalizing view with
  | nil => exact ⟨rfl, represents, rfl⟩
  | cons txin rest ih =>
    obtain ⟨read, represents', base⟩ := accessCoin_spec represents
    obtain ⟨coin, found⟩ := isSome_iff_exists.mp (present txin mem_cons_self)
    obtain ⟨coins, restRepresents, restBase⟩ := ih represents'
      (fun other member => present other (mem_cons_of_mem _ member))
    refine ⟨?_, restRepresents, restBase.trans base⟩
    simp only [accessCoins, coinsAt, map_cons, found, getD_some, read coin found]
    congr 1

theorem coinsAt_erase {outpoint : COutPoint} {vin : List CTxIn}
    (absent : outpoint ∉ vin.map (·.prevout)) :
    coinsAt (utxo.erase outpoint) vin = coinsAt utxo vin := by
  apply map_congr_left
  intro txin member
  have different : txin.prevout ≠ outpoint := by
    rintro rfl
    exact absent (mem_map_of_mem member)
  rw [lookup_erase_eq, if_neg different]

theorem spendInputs_spec (represents : Represents view utxo)
    (present : inputsPresent utxo vin) (distinct : (vin.map (·.prevout)).Nodup) :
    ∃ view' utxo', spendInputs view vin = some (coinsAt utxo vin, view') ∧
      spend utxo (vin.map (·.prevout)) = some (utxo', coinsAt utxo vin) ∧
      Represents view' utxo' ∧ view'.base = view.base := by
  induction vin generalizing view utxo with
  | nil => exact ⟨view, utxo, rfl, rfl, represents, rfl⟩
  | cons txin rest ih =>
    obtain ⟨coin, found⟩ := isSome_iff_exists.mp (present txin mem_cons_self)
    obtain ⟨spent, represents', base⟩ := spendCoin_spec represents found
    simp only [map_cons, nodup_cons] at distinct
    have restPresent : inputsPresent (utxo.erase txin.prevout) rest := by
      intro other member
      have different : other.prevout ≠ txin.prevout := by
        intro same
        exact distinct.1 (same ▸ mem_map_of_mem member)
      rw [lookup_erase_eq, if_neg different]
      exact present other (mem_cons_of_mem _ member)
    obtain ⟨view', utxo', spendRest, ledgerRest, restRepresents, restBase⟩ :=
      ih represents' restPresent distinct.2
    rw [coinsAt_erase distinct.1] at spendRest ledgerRest
    refine ⟨view', utxo', ?_, ?_, restRepresents, restBase.trans base⟩
    · simp only [spendInputs]
      have pair : view.spendCoin txin.prevout = (some coin, (view.spendCoin txin.prevout).2) :=
        Prod.ext spent rfl
      rw [pair]
      simp only [spendRest, Option.bind_eq_bind, Option.bind_some, Option.pure_def, coinsAt,
        map_cons, found, Option.getD_some]
    · simp only [map_cons, spend, found, ledgerRest, Option.bind_eq_bind,
        Option.bind_some, Option.pure_def, coinsAt, Option.getD_some]

theorem outpoint_ne {j : Nat} (less : i < j) (bound : j < 2 ^ 32) :
    (⟨txid, ofNat j⟩ : COutPoint) ≠ ⟨txid, ofNat i⟩ := by
  intro same
  have numbers := congrArg toNat (COutPoint.mk.inj same).2
  rw [toNat_ofNat', toNat_ofNat', Nat.mod_eq_of_lt bound, Nat.mod_eq_of_lt (by omega)] at numbers
  omega

def outputsAbsent (utxo : UtxoMap) (txid : Uint256) (first count : Nat) : Prop :=
  ∀ j, first ≤ j → j < first + count → utxo.lookup ⟨txid, ofNat j⟩ = none

theorem outputsAbsent_tail {first : Nat} (absent : outputsAbsent utxo txid first (count + 1)) :
    outputsAbsent utxo txid (first + 1) count := by
  intro j lower upper
  exact absent j (by omega) (by omega)

theorem outputsAbsent_insert {first : Nat} {coin : Coin}
    (bound : first + count < 2 ^ 32) (absent : outputsAbsent utxo txid (first + 1) count) :
    outputsAbsent (utxo.insert ⟨txid, ofNat first⟩ coin) txid (first + 1) count := by
  intro j lower upper
  rw [lookup_insert_eq, if_neg (outpoint_ne (by omega) (by omega))]
  exact absent j lower upper

theorem addCoinsFrom_spec {fCoinbase : Bool} (represents : Represents view utxo)
    (bound : i + vout.length ≤ 2 ^ 32) (baseAbsent : outputsAbsent view.base txid i vout.length)
    (absent : fCoinbase = true → outputsAbsent utxo txid i vout.length)
    (added : addCoinsFrom view txid nHeight fCoinbase i vout = some view') :
    ∃ utxo', create txid nHeight fCoinbase utxo i vout = some utxo' ∧
      Represents view' utxo' ∧ view'.base = view.base := by
  induction vout generalizing view utxo i with
  | nil =>
    simp only [addCoinsFrom, some.injEq] at added
    subst added
    exact ⟨utxo, rfl, represents, rfl⟩
  | cons out rest ih =>
    simp only [addCoinsFrom, bind_eq_bind, bind_eq_some_iff] at added
    obtain ⟨middle, addedOne, addedRest⟩ := added
    simp only [length_cons] at bound baseAbsent absent
    have unspent := addCoin_unspent addedOne
    cases unspendable : isUnspendable out.scriptPubKey with
    | true =>
      have kept := addCoin_unspendable view ⟨txid, ofNat i⟩ fCoinbase unspent unspendable
      obtain rfl : view = middle := some.inj (kept.symm.trans addedOne)
      obtain ⟨utxo', created, result, base⟩ := ih represents (by omega)
        (outputsAbsent_tail baseAbsent) (fun cb => outputsAbsent_tail (absent cb)) addedRest
      refine ⟨utxo', ?_, result, base⟩
      simp only [create, unspendable, if_true, created]
    | false =>
      have free : utxo.lookup ⟨txid, ofNat i⟩ = none := by
        cases coinbase : fCoinbase with
        | true => exact absent coinbase i (by omega) (by omega)
        | false =>
          subst coinbase
          exact addCoin_absent represents unspendable (baseAbsent i (by omega) (by omega)) addedOne
      obtain ⟨next, addedNext, nextRepresents, nextBase⟩ :=
        addCoin_spec represents fCoinbase unspent unspendable free
      obtain rfl : next = middle := some.inj (addedNext.symm.trans addedOne)
      obtain ⟨utxo', created, result, base⟩ := ih nextRepresents (by omega)
        (by rw [nextBase]; exact outputsAbsent_tail baseAbsent)
        (fun cb => outputsAbsent_insert (by omega) (outputsAbsent_tail (absent cb))) addedRest
      refine ⟨utxo', ?_, result, base.trans nextBase⟩
      simp only [create, unspendable, Bool.false_eq_true, if_false, free, created]

theorem sumInputCoins_spec (inRange : moneyRange start = true)
    (summed : sumInputCoins nSpendHeight start coins = .ok total) :
    total.toInt = start.toInt + coinSum coins ∧ moneyRange total = true := by
  induction coins generalizing start with
  | nil =>
    simp only [sumInputCoins, Except.ok.injEq] at summed
    subst summed
    exact ⟨by simp, inRange⟩
  | cons coin rest ih =>
    simp only [sumInputCoins, ite_error_eq_ok, Bool.or_eq_true, Bool.not_eq_true',
      not_or, Bool.not_eq_false] at summed
    obtain ⟨-, -, ⟨coinRange, sumRange⟩, summedRest⟩ := summed
    obtain ⟨exactSum, totalRange⟩ := ih sumRange summedRest
    have startBounds := (moneyRange_iff start).mp inRange
    have coinBounds := (moneyRange_iff coin.out.nValue).mp coinRange
    rw [toInt_add_of_range _ _ (by omega) (by omega)] at exactSum
    exact ⟨by rw [exactSum, coinSum_cons]; omega, totalRange⟩

theorem sumInputCoins_inRange (summed : sumInputCoins nSpendHeight start coins = .ok total) :
    ∀ coin ∈ coins, moneyRange coin.out.nValue = true := by
  induction coins generalizing start with
  | nil =>
    intro coin member
    cases member
  | cons head rest ih =>
    simp only [sumInputCoins, ite_error_eq_ok, Bool.or_eq_true, Bool.not_eq_true',
      not_or, Bool.not_eq_false] at summed
    obtain ⟨-, -, ⟨headRange, -⟩, summedRest⟩ := summed
    intro coin member
    rcases mem_cons.mp member with rfl | member
    · exact headRange
    · exact ih summedRest coin member

theorem foldl_coinValues (nSpendHeight : Nat)
    (summed : sumInputCoins nSpendHeight start coins = .ok total) :
    coins.foldl (fun nResult coin => nResult + coin.out.nValue) start = total := by
  induction coins generalizing start with
  | nil =>
    simp only [sumInputCoins, Except.ok.injEq] at summed
    exact summed
  | cons coin rest ih =>
    simp only [sumInputCoins, ite_error_eq_ok] at summed
    exact ih summed.2.2.2

theorem haveInputs_eq (notCoinBase : tx.isCoinBase = false) :
    view.haveInputs tx = view.haveInputsFrom tx.vin := by
  simp [haveInputs, notCoinBase]

theorem checkTxInputs_spec (represents : Represents view utxo) (notCoinBase : tx.isCoinBase = false)
    (checked : checkTxInputs view tx nSpendHeight = .ok view') :
    Represents view' utxo ∧ view'.base = view.base ∧
      ∃ nValueIn nValueOut, sumInputCoins nSpendHeight 0 (coinsAt utxo tx.vin) = .ok nValueIn ∧
        tx.getValueOut = some nValueOut ∧ nValueOut ≤ nValueIn := by
  simp only [checkTxInputs, haveInputs_eq notCoinBase, bind_eq_ok, require_eq_ok,
    orFail_eq_ok, pure_eq_ok, decide_eq_true_eq] at checked
  obtain ⟨-, have_, nValueIn, summed, nValueOut, valueOut, -, below, -, -, -, -, rfl⟩ := checked
  obtain ⟨represents', base', present⟩ := haveInputsFrom_spec tx.vin represents
  obtain ⟨coins, represents'', base''⟩ := accessCoins_spec tx.vin represents' (present have_)
  rw [coins] at summed
  exact ⟨represents'', base''.trans base', nValueIn, nValueOut, summed, valueOut, below⟩

theorem checkInputs_spec {env : ConnectEnv σ} {outcome : ScriptOutcome}
    (represents : Represents view utxo) (present : inputsPresent utxo tx.vin)
    (notCoinBase : tx.isCoinBase = false)
    (checked : checkInputs env view tx nSpendHeight = .ok outcome) :
    Represents outcome.view utxo ∧ outcome.view.base = view.base ∧
      ∃ nValueIn nValueOut, sumInputCoins nSpendHeight 0 (coinsAt utxo tx.vin) = .ok nValueIn ∧
        tx.getValueOut = some nValueOut ∧ nValueOut ≤ nValueIn := by
  simp only [checkInputs, bind_eq_ok] at checked
  obtain ⟨view', inputs, checked⟩ := checked
  obtain ⟨represents', base', amounts⟩ := checkTxInputs_spec represents notCoinBase inputs
  split at checked
  · simp only [pure_eq_ok] at checked
    subst checked
    exact ⟨represents', base', amounts⟩
  · simp only [bind_eq_ok, require_eq_ok, pure_eq_ok] at checked
    obtain ⟨-, -, rfl⟩ := checked
    obtain ⟨-, represents'', base''⟩ := accessCoins_spec tx.vin represents' present
    exact ⟨represents'', base''.trans base', amounts⟩

structure InputsConnected (utxo : UtxoMap) (tx : CTransaction) (before after : ConnectState) :
    Prop where
  represents : Represents after.view utxo
  base : after.view.base = before.view.base
  present : inputsPresent utxo tx.vin
  undo : after.vtxundo = before.vtxundo
  inRange : ∀ coin ∈ coinsAt utxo tx.vin, moneyRange coin.out.nValue = true
  fees : ∃ fee : CAmount, after.nFees = before.nFees + fee ∧ 0 ≤ fee.toInt ∧
    fee.toInt = coinSum (coinsAt utxo tx.vin) - outputSum tx.vout

theorem connectSpends_spec {env : ConnectEnv σ}
    (connected : connectSpends env nHeight tx before = .ok after)
    (represents : Represents before.view utxo) (notCoinBase : tx.isCoinBase = false) :
    InputsConnected utxo tx before after := by
  simp only [connectSpends, haveInputs_eq notCoinBase, bind_eq_ok, require_eq_ok,
    orFail_eq_ok, pure_eq_ok] at connected
  obtain ⟨-, have_, -, -, -, -, nValueOut, valueOut, outcome, checked, rfl⟩ := connected
  obtain ⟨represents1, base1, present⟩ := haveInputsFrom_spec tx.vin represents
  have inputs := present have_
  obtain ⟨-, represents2, base2⟩ := accessCoins_spec tx.vin represents1 inputs
  obtain ⟨coins3, represents3, base3⟩ := accessCoins_spec tx.vin represents2 inputs
  simp only [getValueIn, notCoinBase, Bool.false_eq_true, if_false] at checked ⊢
  obtain ⟨represents4, base4, nValueIn, nValueOut', summed, valueOut', below⟩ :=
    checkInputs_spec represents3 inputs notCoinBase checked
  obtain rfl : nValueOut' = nValueOut := some.inj (valueOut'.symm.trans valueOut)
  obtain ⟨exactIn, inRange⟩ := sumInputCoins_spec (by decide) summed
  obtain ⟨exactOut, outRange⟩ := getValueOut_exact valueOut
  have inBounds := (moneyRange_iff nValueIn).mp inRange
  have outBounds := (moneyRange_iff nValueOut').mp outRange
  have ordered := (le_iff _ _).mp below
  have difference : (nValueIn - nValueOut').toInt = nValueIn.toInt - nValueOut'.toInt :=
    toInt_sub_of_range _ _ (by omega) (by omega)
  have zero : (0 : CAmount).toInt = 0 := rfl
  refine ⟨represents4, base4.trans (base3.trans (base2.trans base1)), inputs, rfl,
    sumInputCoins_inRange summed, nValueIn - nValueOut', ?_, by omega, by omega⟩
  rw [coins3, foldl_coinValues nHeight summed]

structure TxConnected (txid : CTransaction → Uint256) (nHeight : Nat) (first : Bool)
    (tx : CTransaction) (utxo utxo' : UtxoMap) (coins : List Coin)
    (before after : ConnectState) : Prop where
  applied : applyTx txid nHeight utxo tx = some (utxo', coins)
  represents : Represents after.view utxo'
  base : after.view.base = before.view.base
  undo : after.vtxundo = if first then before.vtxundo else before.vtxundo ++ [coins]
  inRange : ∀ coin ∈ coins, moneyRange coin.out.nValue = true
  fees : ∃ fee : CAmount, after.nFees = before.nFees + fee ∧ 0 ≤ fee.toInt ∧
    fee.toInt = if tx.isCoinBase then 0 else coinSum coins - outputSum tx.vout

theorem updateCoins_eq (updated : updateCoins view txid tx nHeight = some (coins, view')) :
    ∃ middle, spendTxInputs view tx = some (coins, middle) ∧
      addCoins middle txid tx nHeight = some view' := by
  simp only [updateCoins, Option.bind_eq_bind, Option.bind_eq_some_iff, Option.pure_def,
    Option.some.injEq, Prod.mk.injEq] at updated
  obtain ⟨⟨coins', middle⟩, spent, final, added, rfl, rfl⟩ := updated
  exact ⟨middle, spent, added⟩

theorem connectTx_cases {env : ConnectEnv σ}
    (connected : connectTx env nHeight first tx before = .ok after) :
    ∃ middle txundo view, connectInputs env nHeight tx
        { before with nSigOps := before.nSigOps + legacySigOpCount tx } = .ok middle ∧
      updateCoins middle.view (txHash env.toBlockEnv tx) tx nHeight = some (txundo, view) ∧
      after = { middle with
        view := view
        vtxundo := if first then middle.vtxundo else middle.vtxundo ++ [txundo] } := by
  simp only [connectTx, bind_eq_ok, orFail_eq_ok, pure_eq_ok] at connected
  obtain ⟨_, _, middle, inputs, ⟨txundo, view⟩, updated, rfl⟩ := connected
  exact ⟨middle, txundo, view, inputs, updated, rfl⟩

theorem connectTx_coinbase {env : ConnectEnv σ} (represents : Represents before.view utxo)
    (coinbase : tx.isCoinBase = true) (bound : tx.vout.length ≤ 2 ^ 32)
    (baseAbsent : outputsAbsent before.view.base (txHash env.toBlockEnv tx) 0 tx.vout.length)
    (absent : outputsAbsent utxo (txHash env.toBlockEnv tx) 0 tx.vout.length)
    (connected : connectTx env nHeight first tx before = .ok after) :
    ∃ utxo', TxConnected (txHash env.toBlockEnv) nHeight first tx utxo utxo' [] before after := by
  obtain ⟨middle, txundo, view, inputs, updated, rfl⟩ := connectTx_cases connected
  simp only [connectInputs, coinbase, if_true, Except.ok.injEq] at inputs
  subst inputs
  obtain ⟨spentView, spent, added⟩ := updateCoins_eq updated
  simp only [spendTxInputs, coinbase, if_true, some.injEq, Prod.mk.injEq] at spent
  obtain ⟨rfl, rfl⟩ := spent
  obtain ⟨utxo', created, represents', base⟩ :=
    addCoinsFrom_spec represents (by omega) baseAbsent (fun _ => absent) added
  refine ⟨utxo', ?_, represents', base, rfl, forall_mem_nil _, 0, (Int64.add_zero _).symm,
    by decide, ?_⟩
  · rw [coinbase] at created
    simp only [applyTx, spentBy, coinbase, if_true, spend,
      Option.bind_eq_bind, Option.bind_some, created, Option.pure_def]
  · rw [coinbase]
    rfl

theorem connectTx_spec {env : ConnectEnv σ} (represents : Represents before.view utxo)
    (notCoinBase : tx.isCoinBase = false) (wellFormed : WellFormedTx tx)
    (baseAbsent : outputsAbsent before.view.base (txHash env.toBlockEnv tx) 0 tx.vout.length)
    (connected : connectTx env nHeight first tx before = .ok after) : ∃ utxo' coins,
      TxConnected (txHash env.toBlockEnv) nHeight first tx utxo utxo' coins before after := by
  obtain ⟨middle, txundo, view, inputs, updated, rfl⟩ := connectTx_cases connected
  simp only [connectInputs, notCoinBase, Bool.false_eq_true, if_false] at inputs
  have connectedInputs := connectSpends_spec inputs represents notCoinBase
  obtain ⟨spentView, spent, added⟩ := updateCoins_eq updated
  simp only [spendTxInputs, notCoinBase, Bool.false_eq_true, if_false] at spent
  obtain ⟨view1, utxo1, spending, ledger, represents1, base1⟩ := spendInputs_spec tx.vin
    connectedInputs.represents connectedInputs.present wellFormed.inputsDistinct
  rw [spending, some.injEq, Prod.mk.injEq] at spent
  obtain ⟨rfl, rfl⟩ := spent
  have outputs := wellFormed.outputCount
  have limit : MAX_LEGACY_BLOCK_SIZE = 10000000 := rfl
  have base2 : view1.base = before.view.base := base1.trans connectedInputs.base
  obtain ⟨utxo', created, represents', base'⟩ := addCoinsFrom_spec represents1 (by omega)
    (by rw [base2]; exact baseAbsent) (fun cb => by rw [notCoinBase] at cb; cases cb) added
  obtain ⟨fee, feeAdded, nonneg, exactFee⟩ := connectedInputs.fees
  refine ⟨utxo', coinsAt utxo tx.vin, ?_, represents', base'.trans base2, ?_,
    connectedInputs.inRange, fee, feeAdded, nonneg, ?_⟩
  · rw [notCoinBase] at created
    simp only [applyTx, spentBy, notCoinBase, Bool.false_eq_true, if_false, ledger,
      Option.bind_eq_bind, Option.bind_some, created, Option.pure_def]
  · simp only [connectedInputs.undo]
  · rw [notCoinBase]
    exact exactFee

def FeesConserved (txs : List CTransaction) (utxo utxo' : UtxoMap)
    (before after : ConnectState) : Prop :=
  Ledger.CoinsNonneg utxo → 0 ≤ before.nFees.toInt → before.nFees.toInt + value utxo < 2 ^ 63 →
    Ledger.CoinsNonneg utxo' ∧ 0 ≤ after.nFees.toInt ∧
      after.nFees.toInt + value utxo' + unspendableTotal txs = before.nFees.toInt + value utxo

theorem TxConnected.feesConserved {txid : CTransaction → Uint256} {utxo' : UtxoMap}
    (notCoinBase : tx.isCoinBase = false) (wellFormed : WellFormedTx tx)
    (connected : TxConnected txid nHeight first tx utxo utxo' coins before after) :
    FeesConserved [tx] utxo utxo' before after := by
  intro nonneg feesNonneg bounded
  have nonneg' := nonneg.applyTx wellFormed.outputsNonneg connected.applied
  have valueNonneg := value_nonneg nonneg'
  have unspendable := unspendableSum_nonneg wellFormed.outputsNonneg
  have change := applyTx_value connected.applied
  obtain ⟨fee, added, feeNonneg, exactFee⟩ := connected.fees
  simp only [notCoinBase, Bool.false_eq_true, if_false] at exactFee
  have exactSum : after.nFees.toInt = before.nFees.toInt + fee.toInt := by
    rw [added]
    exact toInt_add_of_range _ _ (by omega) (by omega)
  refine ⟨nonneg', by omega, ?_⟩
  rw [unspendableTotal_cons, unspendableTotal_nil]
  omega

structure RunConnected (txid : CTransaction → Uint256) (nHeight : Nat)
    (txs : List CTransaction) (utxo utxo' : UtxoMap) (spent : List (List Coin))
    (before after : ConnectState) : Prop where
  applied : applyTxs txid nHeight utxo txs = some (utxo', spent)
  represents : Represents after.view utxo'
  base : after.view.base = before.view.base
  undo : after.vtxundo = before.vtxundo ++ spent
  inRange : ∀ coins ∈ spent, ∀ coin ∈ coins, moneyRange coin.out.nValue = true
  fees : FeesConserved txs utxo utxo' before after

theorem noOverwriteFrom_spec {first : Nat} (represents : Represents view utxo)
    (checked : noOverwriteFrom view txid first vout = .ok view') :
    Represents view' utxo ∧ view'.base = view.base ∧
      outputsAbsent utxo txid first vout.length := by
  induction vout generalizing view first with
  | nil =>
    simp only [noOverwriteFrom, Except.ok.injEq] at checked
    subst checked
    refine ⟨represents, rfl, ?_⟩
    intro j lower upper
    simp only [length_nil] at upper
    omega
  | cons out rest ih =>
    obtain ⟨found, represents', base⟩ := haveCoin_spec represents
    simp only [noOverwriteFrom] at checked
    split at checked
    · cases checked
    · rename_i missing filled have_
      rw [have_] at found represents' base
      obtain ⟨restRepresents, restBase, restAbsent⟩ := ih represents' checked
      refine ⟨restRepresents, restBase.trans base, ?_⟩
      intro j lower upper
      simp only [length_cons] at upper
      by_cases same : j = first
      · subst same
        simpa using found.symm
      · exact restAbsent j (by omega) (by omega)

theorem noOverwrite_spec {vtx : List CTransaction} (represents : Represents view utxo)
    (checked : noOverwrite env view vtx = .ok view') :
    Represents view' utxo ∧ view'.base = view.base ∧
      ∀ tx ∈ vtx, outputsAbsent utxo (txHash env tx) 0 tx.vout.length := by
  induction vtx generalizing view with
  | nil =>
    simp only [noOverwrite, Except.ok.injEq] at checked
    subst checked
    refine ⟨represents, rfl, ?_⟩
    intro tx member
    cases member
  | cons head rest ih =>
    simp only [noOverwrite, bind_eq_ok] at checked
    obtain ⟨middle, one, others⟩ := checked
    obtain ⟨represents1, base1, absent⟩ := noOverwriteFrom_spec represents one
    obtain ⟨represents2, base2, restAbsent⟩ := ih represents1 others
    refine ⟨represents2, base2.trans base1, ?_⟩
    intro tx member
    rcases mem_cons.mp member with rfl | member
    · exact absent
    · exact restAbsent tx member

theorem connectTxs_spec {env : ConnectEnv σ} {txs : List CTransaction}
    (represents : Represents before.view utxo) (notCoinBase : ∀ tx ∈ txs, tx.isCoinBase = false)
    (wellFormed : ∀ tx ∈ txs, WellFormedTx tx)
    (baseAbsent : ∀ tx ∈ txs, outputsAbsent before.view.base (txHash env.toBlockEnv tx) 0
      tx.vout.length) (connected : connectTxs env nHeight false txs before = .ok after) :
    ∃ utxo' spent,
      RunConnected (txHash env.toBlockEnv) nHeight txs utxo utxo' spent before after := by
  induction txs generalizing before utxo with
  | nil =>
    simp only [connectTxs, Except.ok.injEq] at connected
    subst connected
    refine ⟨utxo, [], rfl, represents, rfl, (append_nil _).symm, forall_mem_nil _, ?_⟩
    intro nonneg feesNonneg bounded
    exact ⟨nonneg, feesNonneg, by simp⟩
  | cons tx rest ih =>
    simp only [connectTxs, bind_eq_ok] at connected
    obtain ⟨middle, one, others⟩ := connected
    obtain ⟨utxo1, coins, connectedOne⟩ := connectTx_spec represents
      (notCoinBase tx mem_cons_self) (wellFormed tx mem_cons_self) (baseAbsent tx mem_cons_self) one
    obtain ⟨utxo', spent, connectedRest⟩ := ih connectedOne.represents
      (fun other member => notCoinBase other (mem_cons_of_mem _ member))
      (fun other member => wellFormed other (mem_cons_of_mem _ member))
      (fun other member => by
        rw [connectedOne.base]
        exact baseAbsent other (mem_cons_of_mem _ member)) others
    have outputs := (wellFormed tx mem_cons_self).outputsNonneg
    have unspendable := unspendableSum_nonneg outputs
    have feesOne := connectedOne.feesConserved (notCoinBase tx mem_cons_self)
      (wellFormed tx mem_cons_self)
    refine ⟨utxo', coins :: spent, ?_, connectedRest.represents,
      connectedRest.base.trans connectedOne.base, ?_,
      forall_mem_cons.mpr ⟨connectedOne.inRange, connectedRest.inRange⟩, ?_⟩
    · simp only [applyTxs, connectedOne.applied, connectedRest.applied,
        Option.bind_eq_bind, Option.bind_some, Option.pure_def]
    · rw [connectedRest.undo, connectedOne.undo]
      simp
    · intro nonneg feesNonneg bounded
      obtain ⟨nonneg1, fees1, sum1⟩ := feesOne nonneg feesNonneg bounded
      simp only [unspendableTotal_cons, unspendableTotal_nil] at sum1
      obtain ⟨nonneg2, fees2, sum2⟩ := connectedRest.fees nonneg1 fees1 (by omega)
      refine ⟨nonneg2, fees2, ?_⟩
      rw [unspendableTotal_cons]
      omega

theorem checkBlock_wellFormed {pow merkle : Bool} {result : CBlock}
    (checked : checkBlock env block.toCBlock pow merkle = .ok result) :
    WellFormedBlock block.vtx := by
  unfold checkBlock at checked
  split at checked
  · rename_i before
    obtain ⟨env', body⟩ := block.checkedSound before
    exact checkBlockBody_wellFormed body
  · simp only [bind_eq_ok] at checked
    obtain ⟨_, body, _⟩ := checked
    exact checkBlockBody_wellFormed body

theorem connectBlock_cases {env : ConnectEnv σ} {services : σ} {result : ConnectResult σ}
    (notGenesis : blockHash env.toBlockEnv block.toCPureBlockHeader ≠ env.hashGenesisBlock)
    (accepted : connectBlock env block nHeight fJustCheck view services = .ok result) :
    WellFormedBlock block.vtx ∧
      ∃ checkedView state, noOverwrite env.toBlockEnv view block.vtx = .ok checkedView ∧
        connectTxs env nHeight true block.vtx
          { view := checkedView, nFees := 0, nSigOps := 0, scriptsPassed := true,
            vtxundo := [] } = .ok state ∧
        result.view = state.view ∧ result.nFees = state.nFees ∧ result.vtxundo = state.vtxundo ∧
        env.checkMineriumInputs services view.base block.toCBlock nHeight fJustCheck =
          some result.services ∧
        ∃ coinbase, block.vtx.head? = some coinbase ∧
          checkBlockReward env.payment coinbase nHeight state.nFees = some .accepted := by
  simp only [connectBlock, bind_eq_ok, require_eq_ok, if_neg notGenesis,
    orFail_eq_ok, pure_eq_ok] at accepted
  obtain ⟨_, _, checked, checkedBlock, checkedView, overwrites, state, connected, _, _, services',
    serviced, _, rewarded, rfl⟩ := accepted
  refine ⟨checkBlock_wellFormed checkedBlock, checkedView, state, overwrites, connected, rfl, rfl,
    rfl, serviced, ?_⟩
  cases first : block.vtx.head? with
  | none => simp [first, rewardFailure] at rewarded
  | some coinbase =>
    refine ⟨coinbase, rfl, ?_⟩
    rw [first] at rewarded
    simp only [bind_some] at rewarded
    cases outcome : checkBlockReward env.payment coinbase nHeight state.nFees with
    | none => simp [outcome, rewardFailure] at rewarded
    | some verdict =>
      cases verdict with
      | accepted => rfl
      | badPayee => simp [outcome, rewardFailure] at rewarded
      | badAmount failure => simp [outcome, rewardFailure] at rewarded

structure BlockConnected {σ : Type} (env : ConnectEnv σ) (nHeight : Nat)
    (coinbase : CTransaction) (rest : List CTransaction) (utxo utxo' : UtxoMap)
    (spent : List (List Coin)) (result : ConnectResult σ) : Prop where
  applied : applyTxs (txHash env.toBlockEnv) nHeight utxo (coinbase :: rest) =
    some (utxo', [] :: spent)
  represents : Represents result.view utxo'
  undo : result.vtxundo = spent
  inRange : ∀ coins ∈ spent, ∀ coin ∈ coins, moneyRange coin.out.nValue = true
  outputsNew : ∀ tx ∈ coinbase :: rest,
    outputsAbsent utxo (txHash env.toBlockEnv tx) 0 tx.vout.length
  value : Ledger.CoinsNonneg utxo → value utxo + outputSum coinbase.vout < 2 ^ 63 →
    0 ≤ result.nFees.toInt ∧ value utxo' = value utxo + outputSum coinbase.vout -
      result.nFees.toInt - unspendableTotal (coinbase :: rest)

theorem connectBlock_refines {env : ConnectEnv σ}
    {services : σ} {result : ConnectResult σ} (unspent : UtxoUnspent utxo)
    (notGenesis : blockHash env.toBlockEnv block.toCPureBlockHeader ≠ env.hashGenesisBlock)
    (accepted : connectBlock env block nHeight fJustCheck (.atop utxo) services = .ok result) :
    ∃ coinbase rest utxo' spent, block.vtx = coinbase :: rest ∧ coinbase.isCoinBase = true ∧
      (∀ tx ∈ rest, tx.isCoinBase = false) ∧
      BlockConnected env nHeight coinbase rest utxo utxo' spent result := by
  obtain ⟨wellFormed, checkedView, state, overwrites, connected, viewEq, feesEq, undoEq, -, -⟩ :=
    connectBlock_cases notGenesis accepted
  obtain ⟨coinbase, rest, vtxEq, first, others⟩ := wellFormed.coinBaseFirst
  obtain ⟨represents0, base0, absent⟩ := noOverwrite_spec (atop_represents unspent) overwrites
  have baseEq : checkedView.base = utxo := base0
  have transactions := wellFormed.transactions
  rw [vtxEq] at connected absent transactions
  have wellFormedFirst := transactions coinbase mem_cons_self
  have outputs := wellFormedFirst.outputCount
  have limit : MAX_LEGACY_BLOCK_SIZE = 10000000 := rfl
  simp only [connectTxs, bind_eq_ok] at connected
  obtain ⟨middle, connectedFirst, connectedRest⟩ := connected
  obtain ⟨utxo1, one⟩ := connectTx_coinbase represents0 first (by omega)
    (by rw [baseEq]; exact absent coinbase mem_cons_self)
    (absent coinbase mem_cons_self) connectedFirst
  have middleBase : middle.view.base = utxo := one.base.trans baseEq
  obtain ⟨utxo', spent, run⟩ := connectTxs_spec one.represents others
    (fun tx member => transactions tx (mem_cons_of_mem _ member))
    (fun tx member => by
      rw [middleBase]
      exact absent tx (mem_cons_of_mem _ member)) connectedRest
  refine ⟨coinbase, rest, utxo', spent, vtxEq, first, others, ?_, ?_, ?_, run.inRange, absent, ?_⟩
  · simp only [applyTxs, one.applied, run.applied, Option.bind_eq_bind, Option.bind_some,
      Option.pure_def]
  · rw [viewEq]
    exact run.represents
  · rw [undoEq, run.undo, one.undo]
    simp
  · intro nonneg bounded
    have nonneg1 := nonneg.applyTx wellFormedFirst.outputsNonneg one.applied
    have change := applyTx_value one.applied
    have unspendable := unspendableSum_nonneg wellFormedFirst.outputsNonneg
    obtain ⟨fee, added, -, exactFee⟩ := one.fees
    simp only [first, if_true] at exactFee
    have startFees : middle.nFees.toInt = 0 := by
      have noFee : fee = 0 := Int64.toInt_inj.mp exactFee
      rw [added, noFee]
      rfl
    rw [coinSum_nil] at change
    obtain ⟨-, feesNonneg, sum⟩ := run.fees nonneg1 (by omega) (by omega)
    rw [feesEq, unspendableTotal_cons]
    exact ⟨feesNonneg, by omega⟩

end Minerium
