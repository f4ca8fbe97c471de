import Minerium.Coins
import Minerium.Transaction

/-! The unspent outputs as a ledger. A spend needs a coin that is there, a creation a place where
none is. -/

namespace Minerium

open FinmapTotal List UInt32 Option

variable {fCoinbase : Bool} {i nHeight : Nat} {tx : CTransaction} {outpoint : COutPoint}
  {coin : Coin} {vout : List CTxOut} {txid : CTransaction → Uint256} {spent : List (List Coin)}
  {outpoints : List COutPoint} {txs : List CTransaction}

namespace Ledger

def spend : UtxoMap → List COutPoint → Option (UtxoMap × List Coin)
  | utxo, [] => some (utxo, [])
  | utxo, outpoint :: rest =>
    match utxo.lookup outpoint with
    | none => none
    | some coin => do
        let (utxo, coins) ← spend (utxo.erase outpoint) rest
        return (utxo, coin :: coins)

def create (txid : Uint256) (nHeight : Nat) (fCoinbase : Bool) :
    UtxoMap → Nat → List CTxOut → Option UtxoMap
  | utxo, _, [] => some utxo
  | utxo, i, out :: rest =>
    if isUnspendable out.scriptPubKey then create txid nHeight fCoinbase utxo (i + 1) rest
    else
      match utxo.lookup ⟨txid, ofNat i⟩ with
      | some _ => none
      | none =>
        create txid nHeight fCoinbase
          (utxo.insert ⟨txid, ofNat i⟩ (.make out nHeight fCoinbase)) (i + 1) rest

def spentBy (tx : CTransaction) : List COutPoint :=
  if tx.isCoinBase then [] else tx.vin.map (·.prevout)

section

variable (txid)

def applyTx (nHeight : Nat) (utxo : UtxoMap) (tx : CTransaction) :
    Option (UtxoMap × List Coin) := do
  let (utxo, coins) ← spend utxo (spentBy tx)
  let utxo ← create (txid tx) nHeight tx.isCoinBase utxo 0 tx.vout
  return (utxo, coins)

def applyTxs (nHeight : Nat) : UtxoMap → List CTransaction → Option (UtxoMap × List (List Coin))
  | utxo, [] => some (utxo, [])
  | utxo, tx :: rest => do
      let (utxo, coins) ← applyTx txid nHeight utxo tx
      let (utxo, spent) ← applyTxs nHeight utxo rest
      return (utxo, coins :: spent)

end

def value (utxo : UtxoMap) : Int := total (fun _ coin => coin.out.nValue.toInt) utxo

def coinSum (coins : List Coin) : Int := (coins.map fun coin => coin.out.nValue.toInt).sum

@[simp] theorem coinSum_nil : coinSum [] = 0 := rfl

@[simp] theorem coinSum_cons (coin : Coin) (rest : List Coin) :
    coinSum (coin :: rest) = coin.out.nValue.toInt + coinSum rest := by
  simp [coinSum]

def unspendableSum (vout : List CTxOut) : Int :=
  outputSum (vout.filter fun out => isUnspendable out.scriptPubKey)

variable {utxo utxo' : UtxoMap} {coins : List Coin}

theorem value_erase (found : utxo.lookup outpoint = some coin) :
    value (utxo.erase outpoint) = value utxo - coin.out.nValue.toInt := by
  simp [value, total_erase, weightAt, found]

theorem value_insert (absent : utxo.lookup outpoint = none) :
    value (utxo.insert outpoint coin) = value utxo + coin.out.nValue.toInt := by
  simp [value, total_insert_eq, weightAt, absent]

theorem spend_cons {rest : List COutPoint}
    (spent : spend utxo (outpoint :: rest) = some (utxo', coins)) :
    ∃ coin coins', utxo.lookup outpoint = some coin ∧ coins = coin :: coins' ∧
      spend (utxo.erase outpoint) rest = some (utxo', coins') := by
  simp only [spend] at spent
  split at spent
  · cases spent
  · rename_i coin found
    cases tail : spend (utxo.erase outpoint) rest with
    | none => simp [tail] at spent
    | some result =>
      simp only [tail, Option.bind_eq_bind, Option.bind_some, Option.pure_def,
        Option.some.injEq, Prod.mk.injEq] at spent
      obtain ⟨same, coinsEq⟩ := spent
      exact ⟨coin, result.2, found, coinsEq.symm, by rw [← same]⟩

theorem spend_value (spent : spend utxo outpoints = some (utxo', coins)) :
    value utxo' = value utxo - coinSum coins := by
  induction outpoints generalizing utxo coins with
  | nil =>
    simp only [spend, some.injEq, Prod.mk.injEq] at spent
    obtain ⟨rfl, rfl⟩ := spent
    simp
  | cons outpoint rest ih =>
    obtain ⟨coin, coins', found, rfl, tail⟩ := spend_cons spent
    rw [ih tail, value_erase found, coinSum_cons]
    omega

theorem create_cons {txid : Uint256} {out : CTxOut} {rest : List CTxOut}
    (created : create txid nHeight fCoinbase utxo i (out :: rest) = some utxo') :
    (isUnspendable out.scriptPubKey = true ∧
      create txid nHeight fCoinbase utxo (i + 1) rest = some utxo') ∨
    (isUnspendable out.scriptPubKey = false ∧ utxo.lookup ⟨txid, ofNat i⟩ = none ∧
      create txid nHeight fCoinbase
        (utxo.insert ⟨txid, ofNat i⟩ (.make out nHeight fCoinbase)) (i + 1) rest =
          some utxo') := by
  simp only [create] at created
  cases unspendable : isUnspendable out.scriptPubKey with
  | true =>
    simp only [unspendable, if_true] at created
    exact .inl ⟨rfl, created⟩
  | false =>
    simp only [unspendable, Bool.false_eq_true, if_false] at created
    split at created
    · cases created
    · rename_i absent
      exact .inr ⟨rfl, absent, created⟩

theorem create_value {txid : Uint256}
    (created : create txid nHeight fCoinbase utxo i vout = some utxo') :
    value utxo' = value utxo + outputSum vout - unspendableSum vout := by
  induction vout generalizing utxo i with
  | nil =>
    simp only [create, some.injEq] at created
    simp [created, unspendableSum]
  | cons out rest ih =>
    rcases create_cons created with ⟨unspendable, others⟩ | ⟨spendable, absent, others⟩
    · rw [ih others]
      simp [unspendableSum, unspendable]
      omega
    · rw [ih others, value_insert absent]
      simp [unspendableSum, spendable, Coin.make]
      omega

theorem spend_lookup (spent : spend utxo outpoints = some (utxo', coins)) :
    outpoints.Nodup ∧ (∀ outpoint ∈ outpoints, (utxo.lookup outpoint).isSome = true) ∧
      ∀ outpoint, utxo'.lookup outpoint =
        if outpoint ∈ outpoints then none else utxo.lookup outpoint := by
  induction outpoints generalizing utxo coins with
  | nil =>
    simp only [spend, some.injEq, Prod.mk.injEq] at spent
    obtain ⟨rfl, -⟩ := spent
    simp
  | cons head rest ih =>
    obtain ⟨coin, coins', found, rfl, tail⟩ := spend_cons spent
    obtain ⟨distinct, present, lookups⟩ := ih tail
    have absent : head ∉ rest := by
      intro member
      have again := present head member
      rw [lookup_erase_eq, if_pos rfl] at again
      cases again
    refine ⟨nodup_cons.mpr ⟨absent, distinct⟩, ?_, ?_⟩
    · intro outpoint member
      rcases mem_cons.mp member with rfl | member
      · rw [found]
        rfl
      · have there := present outpoint member
        rw [lookup_erase_eq] at there
        split at there
        · cases there
        · exact there
    · intro outpoint
      rw [lookups, lookup_erase_eq]
      by_cases same : outpoint = head
      · simp [same]
      · simp [same]

theorem create_outside {txid : Uint256}
    (outside : ∀ j, i ≤ j → j < i + vout.length → outpoint ≠ ⟨txid, ofNat j⟩)
    (created : create txid nHeight fCoinbase utxo i vout = some utxo') :
    utxo'.lookup outpoint = utxo.lookup outpoint ∧
      create txid nHeight fCoinbase (utxo.erase outpoint) i vout = some (utxo'.erase outpoint) := by
  induction vout generalizing utxo i with
  | nil =>
    simp only [create, some.injEq] at created
    rw [created]
    exact ⟨rfl, rfl⟩
  | cons out rest ih =>
    simp only [length_cons] at outside
    have first := outside i (by omega) (by omega)
    have later : ∀ j, i + 1 ≤ j → j < i + 1 + rest.length → outpoint ≠ ⟨txid, ofNat j⟩ :=
      fun j lower upper => outside j (by omega) (by omega)
    rcases create_cons created with ⟨unspendable, others⟩ | ⟨spendable, absent, others⟩
    · simp only [create, unspendable, if_true]
      exact ih later others
    · have stillAbsent : (utxo.erase outpoint).lookup ⟨txid, ofNat i⟩ = none := by
        rw [lookup_erase_eq, absent, ite_self]
      obtain ⟨same, erased⟩ := ih later others
      refine ⟨same.trans ?_, ?_⟩
      · rw [lookup_insert_eq, if_neg first]
      · simp only [create, spendable, Bool.false_eq_true, if_false, stillAbsent]
        rw [← erase_insert_comm first]
        exact erased

theorem applyTx_cases (applied : applyTx txid nHeight utxo tx = some (utxo', coins)) :
    ∃ middle, spend utxo (spentBy tx) = some (middle, coins) ∧
      create (txid tx) nHeight tx.isCoinBase middle 0 tx.vout = some utxo' := by
  simp only [applyTx, Option.bind_eq_bind, Option.bind_eq_some_iff, Option.pure_def,
    Option.some.injEq, Prod.mk.injEq] at applied
  obtain ⟨⟨middle, coins'⟩, spent, final, created, rfl, rfl⟩ := applied
  exact ⟨middle, spent, created⟩

theorem applyTx_value (applied : applyTx txid nHeight utxo tx = some (utxo', coins)) :
    value utxo' = value utxo - coinSum coins + outputSum tx.vout - unspendableSum tx.vout := by
  obtain ⟨middle, spent, created⟩ := applyTx_cases applied
  rw [create_value created, spend_value spent]

theorem applyTx_lookup_other (different : txid tx ≠ outpoint.hash)
    (applied : applyTx txid nHeight utxo tx = some (utxo', coins)) :
    utxo'.lookup outpoint = if outpoint ∈ spentBy tx then none else utxo.lookup outpoint := by
  obtain ⟨middle, spent, created⟩ := applyTx_cases applied
  rw [(create_outside (fun _ _ _ same => different (congrArg COutPoint.hash same).symm) created).1]
  exact (spend_lookup spent).2.2 outpoint

theorem applyTxs_cons {rest : List CTransaction}
    (applied : applyTxs txid nHeight utxo (tx :: rest) = some (utxo', spent)) :
    ∃ middle coins spent', applyTx txid nHeight utxo tx = some (middle, coins) ∧
      applyTxs txid nHeight middle rest = some (utxo', spent') ∧ spent = coins :: spent' := by
  simp only [applyTxs, Option.bind_eq_bind, Option.bind_eq_some_iff, Option.pure_def,
    Option.some.injEq, Prod.mk.injEq] at applied
  obtain ⟨⟨middle, coins⟩, one, ⟨final, spent'⟩, others, rfl, rfl⟩ := applied
  exact ⟨middle, coins, spent', one, others, rfl⟩

theorem applyTxs_append {before after : List CTransaction}
    (applied : applyTxs txid nHeight utxo (before ++ after) = some (utxo', spent)) :
    ∃ middle first second, applyTxs txid nHeight utxo before = some (middle, first) ∧
      applyTxs txid nHeight middle after = some (utxo', second) := by
  induction before generalizing utxo spent with
  | nil => exact ⟨utxo, [], spent, rfl, applied⟩
  | cons tx rest ih =>
    obtain ⟨next, coins, spent', one, others, -⟩ := applyTxs_cons applied
    obtain ⟨middle, first, second, left, right⟩ := ih others
    refine ⟨middle, coins :: first, second, ?_, right⟩
    simp only [applyTxs, one, left, Option.bind_eq_bind, Option.bind_some, Option.pure_def]

theorem absent_of_uncreated
    (uncreated : ∀ tx ∈ txs, txid tx ≠ outpoint.hash) (absent : utxo.lookup outpoint = none)
    (applied : applyTxs txid nHeight utxo txs = some (utxo', spent)) :
    utxo'.lookup outpoint = none := by
  induction txs generalizing utxo spent with
  | nil =>
    simp only [applyTxs, some.injEq, Prod.mk.injEq] at applied
    rw [← applied.1, absent]
  | cons tx rest ih =>
    obtain ⟨middle, coins, spent', one, others, -⟩ := applyTxs_cons applied
    have stays := applyTx_lookup_other (uncreated tx mem_cons_self) one
    rw [absent, ite_self] at stays
    exact ih (fun other member => uncreated other (mem_cons_of_mem _ member)) stays others

theorem respent_only_if_recreated
    {before between after : List CTransaction} {first second : CTransaction}
    (applied : applyTxs txid nHeight utxo (before ++ first :: between ++ second :: after) = some
      (utxo', spent)) (spentFirst : outpoint ∈ spentBy first)
    (spentAgain : outpoint ∈ spentBy second) :
    ∃ tx ∈ first :: between, txid tx = outpoint.hash := by
  by_contra uncreated
  simp only [not_exists, not_and] at uncreated
  rw [append_assoc] at applied
  obtain ⟨start, _, _, -, fromFirst⟩ := applyTxs_append applied
  rw [cons_append] at fromFirst
  obtain ⟨afterFirst, _, _, one, others, -⟩ := applyTxs_cons fromFirst
  obtain ⟨atSecond, _, _, middle, fromSecond⟩ := applyTxs_append others
  obtain ⟨_, coins, _, two, -, -⟩ := applyTxs_cons fromSecond
  have gone := applyTx_lookup_other (uncreated first mem_cons_self) one
  rw [if_pos spentFirst] at gone
  have stillGone := absent_of_uncreated
    (fun tx member => uncreated tx (mem_cons_of_mem _ member)) gone middle
  obtain ⟨_, spentTwo, -⟩ := applyTx_cases two
  have present := (spend_lookup spentTwo).2.1 outpoint spentAgain
  rw [stillGone] at present
  cases present

theorem exists_mem_of_forall₂ {α β : Type} {related : α → β → Prop} {xs : List α} {ys : List β}
    (all : List.Forall₂ related xs ys) {y : β} (member : y ∈ ys) : ∃ x ∈ xs, related x y := by
  induction all with
  | nil => cases member
  | cons first _ ih =>
    rcases mem_cons.mp member with rfl | member
    · exact ⟨_, mem_cons_self, first⟩
    · obtain ⟨x, found, relates⟩ := ih member
      exact ⟨x, mem_cons_of_mem _ found, relates⟩

def AllCoins (good : COutPoint → Coin → Prop) (utxo : UtxoMap) : Prop :=
  ∀ outpoint coin, utxo.lookup outpoint = some coin → good outpoint coin

section

variable {good : COutPoint → Coin → Prop} {utxo utxo' : UtxoMap} {coins : List Coin}

theorem AllCoins.insert (all : AllCoins good utxo)
    (one : good outpoint coin) : AllCoins good (utxo.insert outpoint coin) := by
  intro other coin' found
  rw [lookup_insert_eq] at found
  split at found
  · rename_i same
    cases found
    exact same ▸ one
  · exact all other coin' found

theorem AllCoins.spend (all : AllCoins good utxo)
    (spent : Ledger.spend utxo outpoints = some (utxo', coins)) :
    AllCoins good utxo' ∧ List.Forall₂ good outpoints coins := by
  induction outpoints generalizing utxo coins with
  | nil =>
    simp only [Ledger.spend, some.injEq, Prod.mk.injEq] at spent
    obtain ⟨rfl, rfl⟩ := spent
    exact ⟨all, .nil⟩
  | cons outpoint rest ih =>
    obtain ⟨coin, coins', found, rfl, tail⟩ := spend_cons spent
    have erased : AllCoins good (utxo.erase outpoint) := by
      intro other coin' found'
      rw [lookup_erase_eq] at found'
      split at found'
      · cases found'
      · exact all other coin' found'
    obtain ⟨allAfter, others⟩ := ih erased tail
    exact ⟨allAfter, .cons (all outpoint coin found) others⟩

theorem AllCoins.create {txid : Uint256} (all : AllCoins good utxo)
    (outputs : ∀ j out, vout[j]? = some out → isUnspendable out.scriptPubKey = false → good ⟨txid,
      ofNat (i + j)⟩ (.make out nHeight fCoinbase))
    (created : Ledger.create txid nHeight fCoinbase utxo i vout = some utxo') :
    AllCoins good utxo' := by
  induction vout generalizing utxo i with
  | nil =>
    simp only [Ledger.create, some.injEq] at created
    exact created ▸ all
  | cons out rest ih =>
    have later : ∀ j other, rest[j]? = some other → isUnspendable other.scriptPubKey = false →
        good ⟨txid, ofNat (i + 1 + j)⟩ (.make other nHeight fCoinbase) := by
      intro j other found spendable
      have shifted := outputs (j + 1) other found spendable
      rwa [← Nat.add_assoc, Nat.add_right_comm] at shifted
    rcases create_cons created with ⟨-, others⟩ | ⟨spendable, -, others⟩
    · exact ih all later others
    · exact ih (all.insert (outputs 0 out rfl spendable)) later others

theorem AllCoins.applyTx (all : AllCoins good utxo)
    (outputs : ∀ j out, tx.vout[j]? = some out → isUnspendable out.scriptPubKey = false →
      good ⟨txid tx, ofNat j⟩ (.make out nHeight tx.isCoinBase))
    (applied : Ledger.applyTx txid nHeight utxo tx = some (utxo', coins)) :
    AllCoins good utxo' := by
  obtain ⟨middle, spent, created⟩ := applyTx_cases applied
  refine (all.spend spent).1.create ?_ created
  intro j out found spendable
  rw [Nat.zero_add]
  exact outputs j out found spendable

theorem AllCoins.applyTxs (all : AllCoins good utxo)
    (outputs : ∀ tx ∈ txs, ∀ j out, tx.vout[j]? = some out → isUnspendable out.scriptPubKey = false
      → good ⟨txid tx, ofNat j⟩ (.make out nHeight tx.isCoinBase))
    (applied : Ledger.applyTxs txid nHeight utxo txs = some (utxo', spent)) : AllCoins good utxo' ∧
      List.Forall₂ (fun tx coins => List.Forall₂ good (spentBy tx) coins) txs spent := by
  induction txs generalizing utxo spent with
  | nil =>
    simp only [Ledger.applyTxs, some.injEq, Prod.mk.injEq] at applied
    obtain ⟨rfl, rfl⟩ := applied
    exact ⟨all, .nil⟩
  | cons tx rest ih =>
    obtain ⟨middle, coins, spent', one, others, rfl⟩ := applyTxs_cons applied
    have allOne := all.applyTx (outputs tx mem_cons_self) one
    obtain ⟨_, spending, -⟩ := applyTx_cases one
    obtain ⟨allAfter, spentAfter⟩ := ih allOne
      (fun other member => outputs other (mem_cons_of_mem _ member)) others
    exact ⟨allAfter, .cons (all.spend spending).2 spentAfter⟩

end

def CoinsNonneg (utxo : UtxoMap) : Prop :=
  ∀ outpoint coin, utxo.lookup outpoint = some coin → 0 ≤ coin.out.nValue.toInt

theorem value_nonneg (nonneg : CoinsNonneg utxo) : 0 ≤ value utxo := total_nonneg nonneg

theorem CoinsNonneg.unspent (nonneg : CoinsNonneg utxo) : UtxoUnspent utxo := by
  intro outpoint coin found
  have bound := nonneg outpoint coin found
  simp only [Coin.isSpent, CTxOut.isNull, decide_eq_false_iff_not]
  intro null
  rw [null] at bound
  exact absurd bound (by decide)

theorem CoinsNonneg.applyTx (nonneg : CoinsNonneg utxo)
    (outputs : ∀ out ∈ tx.vout, 0 ≤ out.nValue.toInt)
    (applied : Ledger.applyTx txid nHeight utxo tx = some (utxo', coins)) : CoinsNonneg utxo' :=
  AllCoins.applyTx nonneg (fun _ out found _ => outputs out (mem_of_getElem? found)) applied

theorem unspendableSum_nonneg
    (nonneg : ∀ out ∈ vout, 0 ≤ out.nValue.toInt) : 0 ≤ unspendableSum vout :=
  outputSum_nonneg fun out member => nonneg out (mem_of_mem_filter member)

def unspendableTotal (txs : List CTransaction) : Int :=
  (txs.map fun tx => unspendableSum tx.vout).sum

@[simp] theorem unspendableTotal_nil : unspendableTotal [] = 0 := rfl

@[simp] theorem unspendableTotal_cons (tx : CTransaction) (rest : List CTransaction) :
    unspendableTotal (tx :: rest) = unspendableSum tx.vout + unspendableTotal rest := by
  simp [unspendableTotal]

end Ledger

end Minerium
