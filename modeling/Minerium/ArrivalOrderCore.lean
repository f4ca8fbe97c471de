import Minerium.Lib.Multimap
import Minerium.ServiceCore

/-! `OrderBasedOnArrivalTime` of `graph.cpp`: allocations, offers and certificates go behind all
others, in the order of their arrival times; an unknown time counts as the latest. -/

namespace Minerium

/-- Where a transaction goes.  An allocation without an alias input is dropped. -/
inductive ArrivalPlace where
  | plain
  | timed (time : Int64)
  | skipped
deriving DecidableEq

def arrivalTimeOf (arrivalTimes : Option ArrivalTimesMap) (hash : Uint256) : Int64 :=
  ((arrivalTimes.getD ∅).lookup hash).getD Int64.maxValue

variable (env : ServiceEnv) (state : ServiceState) (inputs : UtxoMap)

variable (nHeight : Nat) (tx : CTransaction)

def allocationPlace : ArrivalPlace :=
  let allocation := (env.orderEnv.unserializeAllocation tx).getD CAssetAllocation.null
  match senderOf env.orderEnv inputs nHeight tx allocation with
  | some sender =>
    .timed (arrivalTimeOf (state.tokens.arrivalTimes.lookup ⟨allocation.vchAsset, sender⟩)
      (env.txHash tx))
  | none => .skipped

def arrivalPlace : ArrivalPlace :=
  if tx.nVersion ≠ MINERIUM_TX_VERSION then .plain
  else if (decodeAssetAllocationTx tx).isSome then allocationPlace env state inputs nHeight tx
  else if (decodeOfferTx tx).isSome then
    let offer := (env.offerEnv.unserializeOffer tx).getD COffer.null
    .timed (arrivalTimeOf (state.offers.arrivalTimes.lookup offer.vchOffer) (env.txHash tx))
  else if (decodeCertTx tx).isSome then
    let cert := (env.certEnv.unserializeCert tx).getD CCert.null
    .timed (arrivalTimeOf (state.certs.arrivalTimes.lookup cert.vchCert) (env.txHash tx))
  else .plain

structure ArrivalOrder where
  orderedVtx : List CTransaction
  orderedIndexes : List (Int × Nat)

variable (place : CTransaction → ArrivalPlace) (blockVtx : List CTransaction)

def ArrivalOrder.add (order : ArrivalOrder) (entry : CTransaction × Nat) : ArrivalOrder :=
  match place entry.1 with
  | .plain => { order with orderedVtx := order.orderedVtx ++ [entry.1] }
  | .timed time =>
    { order with
      orderedIndexes := Multimap.insert (time.toInt, entry.2) order.orderedIndexes }
  | .skipped => order

/-- `none` is the failure that the counts before and after differ. -/
def orderByPlace : Option (List CTransaction) :=
  let order := blockVtx.zipIdx.foldl (ArrivalOrder.add place) ⟨[], []⟩
  let orderedVtx := order.orderedVtx ++
    order.orderedIndexes.filterMap fun orderedIndex => blockVtx[orderedIndex.2]?
  if blockVtx.length ≠ orderedVtx.length then none else some orderedVtx

def orderBasedOnArrivalTime : Option (List CTransaction) :=
  orderByPlace (arrivalPlace env state inputs nHeight) blockVtx

end Minerium
