import Minerium.ServiceCore

/-! A node over time: it connects blocks, and between them the mempool writes any unconfirmed
records. -/

namespace Minerium

structure ServiceBlock where
  inputs : UtxoMap
  nTime : UInt32
  vtx : List CTransaction

/-- The tables that are written outside of blocks.  Records are stored under their own names. -/
structure Unconfirmed where
  certs : Table CCert.vchCert
  certTimes : Finmap fun _ : Bytes => ArrivalTimesMap
  offers : Table COffer.vchOffer
  offerTimes : Finmap fun _ : Bytes => ArrivalTimesMap
  allocations : Finmap fun _ : CAssetAllocationTuple => CAssetAllocation
  allocationTimes : Finmap fun _ : CAssetAllocationTuple => ArrivalTimesMap
  assetAllocationConflicts : TupleVector
  keyed : ∀ tuple allocation, allocations.lookup tuple = some allocation → allocation.tuple = tuple

def Unconfirmed.onto (unconfirmed : Unconfirmed) (state : ServiceState) : ServiceState :=
  { state with
    certs := { state.certs with certs := unconfirmed.certs, arrivalTimes := unconfirmed.certTimes }
    offers :=
      { state.offers with offers := unconfirmed.offers, arrivalTimes := unconfirmed.offerTimes }
    tokens :=
      { state.tokens with
        allocations := unconfirmed.allocations
        arrivalTimes := unconfirmed.allocationTimes
        assetAllocationConflicts := unconfirmed.assetAllocationConflicts } }

inductive NodeAction where
  | connect (block : ServiceBlock)
  | mempool (unconfirmed : Unconfirmed)

structure ServiceNode where
  chain : ActiveChain
  services : ServiceState

def ServiceNode.start (nTime : UInt32) : ServiceNode := ⟨⟨nTime, []⟩, .empty⟩

variable (env : ServiceEnv)

variable (node : ServiceNode) (block : ServiceBlock)

def ServiceNode.context : BlockContext := ⟨env, block.inputs, node.chain, node.chain.height + 1⟩

def ServiceNode.visits : List (ServiceState × CTransaction) :=
  serviceVisits (node.context env block) block.vtx node.services

def ServiceNode.step : NodeAction → ServiceNode
  | .connect block =>
    ⟨node.chain.connect block.nTime,
      connectServices (node.context env block) block.vtx node.services⟩
  | .mempool unconfirmed => { node with services := unconfirmed.onto node.services }

def ServiceNode.afterVisit (visit : ServiceState × CTransaction) : ServiceState :=
  (serviceTx (node.context env block) visit.2 visit.1).2

def Reached : Prop := ∃ nTime actions, node = Run.run (.step env) (.start nTime) actions

def EveryVisit
    (permitted : BlockContext → ServiceState → CTransaction → Prop) (node : ServiceNode) :
    NodeAction → Prop
  | .connect block => ∀ visit ∈ node.visits env block,
      permitted (node.context env block) visit.1 visit.2
  | .mempool _ => True

instance (env : ServiceEnv) (permitted : BlockContext → ServiceState → CTransaction → Prop)
    [∀ ctx state tx, Decidable (permitted ctx state tx)] (node : ServiceNode) :
    (action : NodeAction) → Decidable (EveryVisit env permitted node action)
  | .connect block => inferInstanceAs (Decidable (∀ visit ∈ node.visits env block, _))
  | .mempool _ => .isTrue trivial

end Minerium
