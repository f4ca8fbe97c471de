import Minerium.ScriptCore

/-! The coin cache of `coins.h` and `coins.cpp`. The base view is a finite map of unspent coins.
`none` is a failed assertion or a thrown `logic_error`. -/

namespace Minerium

structure Coin where
  out : CTxOut
  fCoinBase : Bool
  nHeight : Nat
deriving DecidableEq

/-- The height field has 31 bits. -/
def Coin.make (out : CTxOut) (nHeight : Nat) (fCoinBase : Bool) : Coin :=
  { out := out, fCoinBase := fCoinBase, nHeight := nHeight % 2 ^ 31 }

def Coin.empty : Coin := { out := .null, fCoinBase := false, nHeight := 0 }

def Coin.isSpent (coin : Coin) : Bool := coin.out.isNull

structure CCoinsCacheEntry where
  coin : Coin
  dirty : Bool
  fresh : Bool
deriving DecidableEq

abbrev UtxoMap := Finmap fun _ : COutPoint => Coin

structure CCoinsViewCache where
  base : UtxoMap
  cacheCoins : AList fun _ : COutPoint => CCoinsCacheEntry

namespace CCoinsViewCache

def atop (base : UtxoMap) : CCoinsViewCache := { base := base, cacheCoins := ∅ }

variable (view : CCoinsViewCache)

variable (outpoint : COutPoint)

def fetchCoin : Option CCoinsCacheEntry × CCoinsViewCache :=
  match view.cacheCoins.lookup outpoint with
  | some entry => (some entry, view)
  | none =>
    match view.base.lookup outpoint with
    | none => (none, view)
    | some coin =>
      let entry : CCoinsCacheEntry := { coin := coin, dirty := false, fresh := coin.isSpent }
      (some entry, { view with cacheCoins := view.cacheCoins.insert outpoint entry })

def haveCoin : Bool × CCoinsViewCache :=
  match view.fetchCoin outpoint with
  | (some entry, view) => (!entry.coin.isSpent, view)
  | (none, view) => (false, view)

def accessCoin : Coin × CCoinsViewCache :=
  match view.fetchCoin outpoint with
  | (some entry, view) => (entry.coin, view)
  | (none, view) => (.empty, view)

def addCoin (coin : Coin) (possible_overwrite : Bool) : Option CCoinsViewCache :=
  if coin.isSpent then none
  else if isUnspendable coin.out.scriptPubKey then some view
  else
    let entry := (view.cacheCoins.lookup outpoint).getD
      { coin := .empty, dirty := false, fresh := false }
    if !possible_overwrite && !entry.coin.isSpent then none
    else
      let fresh := !possible_overwrite && !entry.dirty
      some { view with
        cacheCoins := view.cacheCoins.insert outpoint
          { coin := coin, dirty := true, fresh := entry.fresh || fresh } }

def spendCoin : Option Coin × CCoinsViewCache :=
  match view.fetchCoin outpoint with
  | (none, view) => (none, view)
  | (some entry, view) =>
    if entry.fresh then
      (some entry.coin, { view with cacheCoins := view.cacheCoins.erase outpoint })
    else
      (some entry.coin, { view with
        cacheCoins := view.cacheCoins.insert outpoint
          { entry with coin := .empty, dirty := true } })

def haveInputsFrom (view : CCoinsViewCache) : List CTxIn → Bool × CCoinsViewCache
  | [] => (true, view)
  | txin :: rest =>
    match view.haveCoin txin.prevout with
    | (false, view) => (false, view)
    | (true, view) => haveInputsFrom view rest

def haveInputs (tx : CTransaction) : Bool × CCoinsViewCache :=
  if tx.isCoinBase then (true, view) else view.haveInputsFrom tx.vin

def accessCoins (view : CCoinsViewCache) : List CTxIn → List Coin × CCoinsViewCache
  | [] => ([], view)
  | txin :: rest =>
    let (coin, view) := view.accessCoin txin.prevout
    let (coins, view) := accessCoins view rest
    (coin :: coins, view)

def getValueIn (tx : CTransaction) : CAmount × CCoinsViewCache :=
  if tx.isCoinBase then (0, view)
  else
    let (coins, view) := view.accessCoins tx.vin
    (coins.foldl (fun nResult coin => nResult + coin.out.nValue) 0, view)

def batchWrite (base : UtxoMap) (outpoint : COutPoint) (entry : CCoinsCacheEntry) : UtxoMap :=
  if !entry.dirty then base
  else if entry.coin.isSpent then base.erase outpoint
  else base.insert outpoint entry.coin

def flush : UtxoMap :=
  view.cacheCoins.entries.foldl (fun base entry => batchWrite base entry.1 entry.2) view.base

end CCoinsViewCache

end Minerium
