import Minerium.CoinsCore
import Minerium.Lib.FinmapTotal
import Minerium.Lib.StdMap

/-! What a coin cache stands for: a clean entry repeats the base, and a fresh entry hides nothing
in it. -/

namespace Minerium

open FinmapTotal CCoinsViewCache

variable {utxo base : UtxoMap} {view view' : CCoinsViewCache} {outpoint key other : COutPoint}
  {coin : Coin} {entry : CCoinsCacheEntry}

namespace CCoinsViewCache

def lookup (view : CCoinsViewCache) (outpoint : COutPoint) : Option Coin :=
  match view.cacheCoins.lookup outpoint with
  | some entry => if entry.coin.isSpent then none else some entry.coin
  | none => view.base.lookup outpoint

end CCoinsViewCache

structure CacheSound (view : CCoinsViewCache) : Prop where
  baseUnspent : ∀ outpoint coin, view.base.lookup outpoint = some coin → coin.isSpent = false
  clean : ∀ outpoint entry, view.cacheCoins.lookup outpoint = some entry →
    entry.dirty = false → view.base.lookup outpoint = some entry.coin
  fresh : ∀ outpoint entry, view.cacheCoins.lookup outpoint = some entry →
    entry.fresh = true → view.base.lookup outpoint = none

structure Represents (view : CCoinsViewCache) (utxo : UtxoMap) : Prop where
  sound : CacheSound view
  reads : ∀ outpoint, view.lookup outpoint = utxo.lookup outpoint

def UtxoUnspent (utxo : UtxoMap) : Prop :=
  ∀ outpoint coin, utxo.lookup outpoint = some coin → coin.isSpent = false

theorem atop_represents (unspent : UtxoUnspent utxo) : Represents (.atop utxo) utxo := by
  refine ⟨⟨unspent, ?_, ?_⟩, ?_⟩
  · intro outpoint entry found
    cases found
  · intro outpoint entry found
    cases found
  · intro outpoint
    rfl

theorem Represents.cached {after : UtxoMap} (represents : Represents view utxo)
    (clean : entry.dirty = false → view.base.lookup outpoint = some entry.coin)
    (fresh : entry.fresh = true → view.base.lookup outpoint = none)
    (reads : ∀ other, after.lookup other = if other = outpoint then
      if entry.coin.isSpent then none else some entry.coin else utxo.lookup other) :
    Represents { view with cacheCoins := view.cacheCoins.insert outpoint entry } after := by
  have found {other : COutPoint} {stored : CCoinsCacheEntry}
      (kept : (view.cacheCoins.insert outpoint entry).lookup other = some stored) :
      other = outpoint ∧ stored = entry ∨ view.cacheCoins.lookup other = some stored := by
    rw [StdMap.lookup_insert_eq] at kept
    split at kept
    · exact .inl ⟨‹_›, (Option.some.inj kept).symm⟩
    · exact .inr kept
  refine ⟨⟨represents.sound.baseUnspent, ?_, ?_⟩, ?_⟩
  · intro other stored kept
    rcases found kept with ⟨rfl, rfl⟩ | kept
    · exact clean
    · exact represents.sound.clean other stored kept
  · intro other stored kept
    rcases found kept with ⟨rfl, rfl⟩ | kept
    · exact fresh
    · exact represents.sound.fresh other stored kept
  · intro other
    rw [reads, ← represents.reads]
    simp only [lookup, StdMap.lookup_insert_eq]
    by_cases same : other = outpoint
    · simp only [if_pos same]
    · simp only [if_neg same]

section

variable (represents : Represents view utxo)
include represents

theorem represents_unspent : UtxoUnspent utxo := by
  intro outpoint coin found
  rw [← represents.reads] at found
  unfold lookup at found
  split at found
  · split at found
    · cases found
    · rename_i unspent
      cases found
      simpa using unspent
  · exact represents.sound.baseUnspent outpoint coin found

theorem lookup_of_entry (cached : view.cacheCoins.lookup outpoint = some entry) :
    utxo.lookup outpoint = if entry.coin.isSpent then none else some entry.coin := by
  rw [← represents.reads]
  simp only [lookup, cached]

theorem fetchCoin_spec : ∃ filled, Represents filled utxo ∧ filled.base = view.base ∧
      ((∃ entry, view.fetchCoin outpoint = (some entry, filled) ∧
          filled.cacheCoins.lookup outpoint = some entry ∧
          utxo.lookup outpoint = if entry.coin.isSpent then none else some entry.coin) ∨
        view.fetchCoin outpoint = (none, filled) ∧ utxo.lookup outpoint = none) := by
  have reads := represents.reads
  unfold fetchCoin
  split
  · rename_i entry found
    exact ⟨view, represents, rfl, .inl ⟨entry, rfl, found, lookup_of_entry represents found⟩⟩
  · rename_i absent
    split
    · rename_i missing
      refine ⟨view, represents, rfl, .inr ⟨rfl, ?_⟩⟩
      rw [← reads]
      simp only [lookup, absent, missing]
    · rename_i coin stored
      have unspent := represents.sound.baseUnspent outpoint coin stored
      have here : utxo.lookup outpoint = some coin := by
        rw [← reads]
        simp only [lookup, absent, stored]
      refine ⟨_, represents.cached (fun _ => stored) (fun fresh => ?_) (fun other => ?_), rfl,
        .inl ⟨_, rfl, ?_, ?_⟩⟩
      · rw [unspent] at fresh
        cases fresh
      · rw [unspent, if_neg Bool.false_ne_true]
        split
        · rename_i same
          rw [same, here]
        · rfl
      · rw [StdMap.lookup_insert_eq, if_pos rfl]
      · rw [unspent, here, if_neg Bool.false_ne_true]

theorem haveCoin_spec : (view.haveCoin outpoint).1 = (utxo.lookup outpoint).isSome ∧
      Represents (view.haveCoin outpoint).2 utxo ∧
      (view.haveCoin outpoint).2.base = view.base := by
  obtain ⟨filled, fetched, base, ⟨entry, fetch, -, here⟩ | ⟨fetch, missing⟩⟩ :=
    fetchCoin_spec represents
  · rw [haveCoin, fetch, here]
    refine ⟨?_, fetched, base⟩
    dsimp only
    cases entry.coin.isSpent <;> rfl
  · rw [haveCoin, fetch, missing]
    exact ⟨rfl, fetched, base⟩

theorem accessCoin_spec :
    (∀ coin, utxo.lookup outpoint = some coin → (view.accessCoin outpoint).1 = coin) ∧
      Represents (view.accessCoin outpoint).2 utxo ∧
      (view.accessCoin outpoint).2.base = view.base := by
  obtain ⟨filled, fetched, base, ⟨entry, fetch, -, here⟩ | ⟨fetch, missing⟩⟩ :=
    fetchCoin_spec represents
  · rw [accessCoin, fetch, here]
    refine ⟨fun coin found => ?_, fetched, base⟩
    split at found
    · cases found
    · exact Option.some.inj found
  · rw [accessCoin, fetch, missing]
    exact ⟨nofun, fetched, base⟩

end

theorem empty_isSpent : Coin.empty.isSpent = true := rfl

theorem spendCoin_spec (represents : Represents view utxo)
    (found : utxo.lookup outpoint = some coin) : (view.spendCoin outpoint).1 = some coin ∧
      Represents (view.spendCoin outpoint).2 (utxo.erase outpoint) ∧
      (view.spendCoin outpoint).2.base = view.base := by
  obtain ⟨filled, fetched, base, ⟨entry, fetch, cached, here⟩ | ⟨-, missing⟩⟩ :=
    @fetchCoin_spec _ _ outpoint represents
  · rw [here] at found
    rw [spendCoin, fetch]
    dsimp only
    have same : entry.coin = coin := by
      split at found
      · cases found
      · exact Option.some.inj found
    split
    · rename_i fresh
      refine ⟨by rw [same], ⟨⟨fetched.sound.baseUnspent, ?_, ?_⟩, ?_⟩, base⟩
      · intro other stored kept
        rw [StdMap.lookup_erase_eq] at kept
        split at kept
        · cases kept
        · exact fetched.sound.clean other stored kept
      · intro other stored kept
        rw [StdMap.lookup_erase_eq] at kept
        split at kept
        · cases kept
        · exact fetched.sound.fresh other stored kept
      · intro other
        rw [lookup_erase_eq, ← fetched.reads]
        simp only [lookup, StdMap.lookup_erase_eq]
        split_ifs with equal
        · rw [equal]
          exact fetched.sound.fresh outpoint entry cached fresh
        · rfl
    · rename_i notFresh
      refine ⟨by rw [same], fetched.cached (fun clean => ?_) (fun fresh => absurd fresh notFresh)
        (lookup_erase_eq utxo outpoint), base⟩
      cases clean
  · rw [missing] at found
    cases found

theorem addCoin_unspendable (view : CCoinsViewCache) (outpoint : COutPoint)
    (possible_overwrite : Bool) (unspent : coin.isSpent = false)
    (unspendable : isUnspendable coin.out.scriptPubKey = true) :
    view.addCoin outpoint coin possible_overwrite = some view := by
  simp [addCoin, unspent, unspendable]

theorem addCoin_unspent {possible_overwrite : Bool}
    (added : view.addCoin outpoint coin possible_overwrite = some view') :
    coin.isSpent = false := by
  unfold addCoin at added
  split at added
  · cases added
  · rename_i unspent
    simpa using unspent

theorem represents_insert {fresh : Bool} (represents : Represents view utxo)
    (unspent : coin.isSpent = false)
    (hidesNothing : fresh = true → view.base.lookup outpoint = none) : Represents { view with
      cacheCoins := view.cacheCoins.insert outpoint { coin := coin, dirty := true, fresh := fresh }
        } (utxo.insert outpoint coin) := by
  refine represents.cached (fun clean => ?_) hidesNothing fun other => ?_
  · cases clean
  · simp only [lookup_insert_eq, unspent, Bool.false_eq_true, if_false]

theorem addCoin_spec (represents : Represents view utxo) (possible_overwrite : Bool)
    (unspent : coin.isSpent = false) (spendable : isUnspendable coin.out.scriptPubKey = false)
    (absent : utxo.lookup outpoint = none) :
    ∃ view', view.addCoin outpoint coin possible_overwrite = some view' ∧
      Represents view' (utxo.insert outpoint coin) ∧ view'.base = view.base := by
  cases cached : view.cacheCoins.lookup outpoint with
  | none =>
    have baseAbsent : view.base.lookup outpoint = none := by
      have reads := represents.reads outpoint
      simpa only [lookup, cached, absent] using reads
    refine ⟨{ view with
        cacheCoins := view.cacheCoins.insert outpoint
          { coin := coin, dirty := true, fresh := !possible_overwrite } }, ?_,
      represents_insert represents unspent (fun _ => baseAbsent), rfl⟩
    simp [addCoin, unspent, spendable, cached, empty_isSpent]
  | some entry =>
    have spent : entry.coin.isSpent = true := by
      have reads := lookup_of_entry represents cached
      rw [absent] at reads
      by_contra unspentEntry
      simp [unspentEntry] at reads
    have dirty : entry.dirty = true := by
      by_contra notDirty
      have stored := represents.sound.clean outpoint entry cached (by simpa using notDirty)
      have unspentBase := represents.sound.baseUnspent outpoint entry.coin stored
      rw [spent] at unspentBase
      cases unspentBase
    refine ⟨{ view with
        cacheCoins := view.cacheCoins.insert outpoint
          { coin := coin, dirty := true, fresh := entry.fresh } }, ?_,
      represents_insert represents unspent (represents.sound.fresh outpoint entry cached), rfl⟩
    simp [addCoin, unspent, spendable, cached, spent, dirty]

theorem addCoin_absent (represents : Represents view utxo)
    (spendable : isUnspendable coin.out.scriptPubKey = false)
    (baseAbsent : view.base.lookup outpoint = none)
    (added : view.addCoin outpoint coin false = some view') : utxo.lookup outpoint = none := by
  cases cached : view.cacheCoins.lookup outpoint with
  | none =>
    rw [← represents.reads]
    simp only [lookup, cached, baseAbsent]
  | some entry =>
    rw [lookup_of_entry represents cached]
    have unspent := addCoin_unspent added
    by_contra present
    have live : entry.coin.isSpent = false := by
      by_contra spent
      simp [spent] at present
    simp [addCoin, unspent, spendable, cached, live] at added

theorem lookup_batchWrite_other (different : other ≠ key) :
    (batchWrite base key entry).lookup other = base.lookup other := by
  unfold batchWrite
  split
  · rfl
  · split
    · rw [lookup_erase_eq, if_neg different]
    · rw [lookup_insert_eq, if_neg different]

theorem lookup_batchWrite_self : (batchWrite base key entry).lookup key =
      if entry.dirty then if entry.coin.isSpent then none else some entry.coin
      else base.lookup key := by
  unfold batchWrite
  cases dirty : entry.dirty with
  | false => simp
  | true =>
    cases spent : entry.coin.isSpent with
    | true => simp
    | false => simp

theorem lookup_flushEntries (entries : List (Sigma fun _ : COutPoint => CCoinsCacheEntry))
    (distinct : entries.NodupKeys) (base : UtxoMap) (outpoint : COutPoint) :
    (entries.foldl (fun base entry => batchWrite base entry.1 entry.2) base).lookup
        outpoint = match entries.dlookup outpoint with
      | some entry =>
        if entry.dirty then if entry.coin.isSpent then none else some entry.coin
        else base.lookup outpoint
      | none => base.lookup outpoint := by
  induction entries generalizing base with
  | nil => rfl
  | cons head rest ih =>
    obtain ⟨key, entry⟩ := head
    obtain ⟨fresh, restDistinct⟩ := List.nodupKeys_cons.mp distinct
    rw [List.foldl_cons, ih restDistinct]
    by_cases same : outpoint = key
    · subst same
      rw [List.dlookup_cons_eq, List.dlookup_eq_none.mpr fresh]
      exact lookup_batchWrite_self
    · rw [List.dlookup_cons_ne _ _ same, lookup_batchWrite_other same]

theorem flush_eq (represents : Represents view utxo) : view.flush = utxo := by
  apply Finmap.ext_lookup
  intro outpoint
  have written := lookup_flushEntries view.cacheCoins.entries view.cacheCoins.nodupKeys
    view.base outpoint
  rw [flush, written, ← represents.reads]
  change (match view.cacheCoins.lookup outpoint with
    | some entry => _
    | none => _) = view.lookup outpoint
  unfold lookup
  cases cached : view.cacheCoins.lookup outpoint with
  | none => rfl
  | some entry =>
    cases dirty : entry.dirty with
    | true => simp [dirty]
    | false =>
      have stored := represents.sound.clean outpoint entry cached dirty
      have unspent := represents.sound.baseUnspent outpoint entry.coin stored
      simp [dirty, unspent, stored]

end Minerium
