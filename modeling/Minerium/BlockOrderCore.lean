import Minerium.AllocationCore
import Minerium.ServiceTxCore

/-! The order in which the services see the transactions of a block, from `graph.cpp`. The search
for cycles and the topological sort are those of Boost and stand as parameters. -/

namespace Minerium

structure OrderEnv where
  unserializeAllocation : CTransaction → Option CAssetAllocation
  nShareFeeBlock : Nat
  hawickCircuits : Nat → List (Nat × Nat) → List Nat
  topologicalSort : Nat → List (Nat × Nat) → Option (List Nat)

/-- A vertex is the position of its name; `mapTxIndex` has the sender's vertex and the position of
every transaction. -/
structure TxGraph where
  vertices : List Bytes
  edges : List (Nat × Nat)
  mapTxIndex : List (Nat × Nat)
deriving DecidableEq

def TxGraph.empty : TxGraph := ⟨[], [], []⟩

def TxGraph.addVertex (graph : TxGraph) (name : Bytes) : TxGraph :=
  if name ∈ graph.vertices then graph else { graph with vertices := graph.vertices ++ [name] }

def TxGraph.addEdge (sender : Bytes) (graph : TxGraph) (receiver : Bytes) : TxGraph :=
  let graph := graph.addVertex receiver
  { graph with
    edges := graph.edges ++ [(graph.vertices.idxOf sender, graph.vertices.idxOf receiver)] }

def TxGraph.addAllocation (graph : TxGraph) (sender : Bytes) (position : Nat)
    (receivers : List Bytes) : TxGraph :=
  let graph := graph.addVertex sender
  receivers.foldl (TxGraph.addEdge sender)
    { graph with mapTxIndex := graph.mapTxIndex ++ [(graph.vertices.idxOf sender, position)] }

def receiversOf (allocation : CAssetAllocation) : List Bytes :=
  if allocation.listSendingAllocationAmounts.isEmpty then
    allocation.listSendingAllocationInputs.map (·.1)
  else allocation.listSendingAllocationAmounts.map (·.1)

variable (env : OrderEnv) (inputs : UtxoMap)

variable (nHeight : Nat) (graph : TxGraph) (blockVtx : List CTransaction)

def senderOf (tx : CTransaction) (allocation : CAssetAllocation) : Option Bytes :=
  if env.nShareFeeBlock ≤ nHeight then some allocation.vchAliasOrAddress
  else (findAliasInTx inputs tx).map (·.headD [])

def addTx (entry : CTransaction × Nat) : TxGraph :=
  if (decodeAssetAllocationTx entry.1).isSome then
    let allocation := (env.unserializeAllocation entry.1).getD CAssetAllocation.null
    match senderOf env inputs nHeight entry.1 allocation with
    | some sender => graph.addAllocation sender entry.2 (receiversOf allocation)
    | none => graph
  else graph

def createGraphFromVTX : TxGraph := blockVtx.zipIdx.foldl (addTx env inputs nHeight) TxGraph.empty

def TxGraph.positions (vertex : Nat) : List Nat :=
  (graph.mapTxIndex.filter fun entry => decide (entry.1 = vertex)).map (·.2)

def removeVertex (outcome : TxGraph × List Nat) (vertex : Nat) : TxGraph × List Nat :=
  if (outcome.1.positions vertex).isEmpty then outcome
  else
    ({ outcome.1 with
        edges := outcome.1.edges.filter fun edge => decide (edge.1 ≠ vertex)
        mapTxIndex := outcome.1.mapTxIndex.filter fun entry => decide (entry.1 ≠ vertex) },
      outcome.2 ++ outcome.1.positions vertex)

def graphRemoveCycles : TxGraph × List Nat :=
  let outcome :=
    (env.hawickCircuits graph.vertices.length graph.edges).foldl removeVertex (graph, [])
  (outcome.1, outcome.2.insertionSort (· ≤ ·))

/-- The sort fails if the rest is no acyclic graph, or if a transaction was lost or doubled. -/
def dagTopologicalSort (conflictedIndexes : List Nat) (blockVtx : List CTransaction)
    : Option (List CTransaction) :=
  match env.topologicalSort graph.vertices.length graph.edges with
  | none => none
  | some c =>
    let newVtx := blockVtx.take 1 ++
      (c.reverse.flatMap graph.positions ++ conflictedIndexes).filterMap (blockVtx[·]?) ++
      (blockVtx.drop 1).filter fun tx => (decodeAssetAllocationTx tx).isNone
    if newVtx.length = blockVtx.length then some newVtx else none

def sortedVtx : Option (List CTransaction) :=
  let graph := createGraphFromVTX env inputs nHeight blockVtx
  if graph.mapTxIndex.isEmpty then some blockVtx
  else
    let outcome := graphRemoveCycles env graph
    dagTopologicalSort env outcome.1 outcome.2 blockVtx

end Minerium
