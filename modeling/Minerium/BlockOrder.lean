import Minerium.Lib.Digraph
import Minerium.ServiceRun

/-! The order of a block for the services keeps every transaction exactly once, unless the first one
is an allocation itself. -/

namespace Minerium

open SortedVector Digraph List TxGraph

variable {vertex : Nat} {outcome : TxGraph × List Nat} {cleared : List Nat}

def isAllocation (tx : CTransaction) : Bool := (decodeAssetAllocationTx tx).isSome

variable (env : OrderEnv) (tx : CTransaction) {sender : Bytes}

def allocationOf : CAssetAllocation := (env.unserializeAllocation tx).getD CAssetAllocation.null

def allocationSender : Bytes := (allocationOf env tx).vchAliasOrAddress

def allocationReceivers : List Bytes := receiversOf (allocationOf env tx)

section

section

variable (graph : TxGraph) (name : Bytes)

theorem mem_addVertex : name ∈
  (graph.addVertex name).vertices := by
  unfold addVertex
  split
  · rename_i present
    exact present
  · exact mem_append_right _ mem_cons_self

structure Extends (larger : TxGraph) : Prop where
  vertices : ∃ added, larger.vertices = graph.vertices ++ added
  distinct : graph.vertices.Nodup → larger.vertices.Nodup

theorem Extends.refl : Extends graph graph := ⟨⟨[], (append_nil _).symm⟩, id⟩

theorem Extends.trans {first second third : TxGraph} (one : Extends first second)
    (two : Extends second third) : Extends first third := by
  obtain ⟨added, grown⟩ := one.vertices
  obtain ⟨more, grownMore⟩ := two.vertices
  exact ⟨⟨added ++ more, by rw [grownMore, grown, append_assoc]⟩,
    fun distinct => two.distinct (one.distinct distinct)⟩

theorem Extends.mem {graph larger : TxGraph} (grows : Extends graph larger) {name : Bytes}
    (member : name ∈ graph.vertices) : name ∈ larger.vertices := by
  obtain ⟨added, grown⟩ := grows.vertices
  rw [grown]
  exact mem_append_left _ member

theorem Extends.idxOf {graph larger : TxGraph} (grows : Extends graph larger) {name : Bytes}
    (member : name ∈ graph.vertices) : larger.vertices.idxOf name = graph.vertices.idxOf name := by
  obtain ⟨added, grown⟩ := grows.vertices
  rw [grown, idxOf_append_of_mem member]

theorem addVertex_extends : Extends graph (graph.addVertex name) := by
  unfold addVertex
  split
  · exact .refl graph
  · rename_i absent
    refine ⟨⟨[name], rfl⟩, fun distinct => ?_⟩
    exact nodup_append.mpr ⟨distinct, nodup_singleton name, by
      intro a member b single
      rw [mem_singleton.mp single]
      exact fun same => absent (same ▸ member)⟩

theorem addVertex_edges : (graph.addVertex name).edges = graph.edges := by
  unfold addVertex
  split <;> rfl

theorem addVertex_mapTxIndex : (graph.addVertex name).mapTxIndex = graph.mapTxIndex := by
  unfold addVertex
  split <;> rfl

end

structure EdgesAdded (sender : Bytes) (receivers : List Bytes) (graph larger : TxGraph) : Prop where
  grows : Extends graph larger
  present : ∀ receiver ∈ receivers, receiver ∈ larger.vertices
  edges : larger.edges = graph.edges ++ receivers.map fun receiver =>
    (larger.vertices.idxOf sender, larger.vertices.idxOf receiver)
  mapTxIndex : larger.mapTxIndex = graph.mapTxIndex

theorem foldl_addEdge (receivers : List Bytes) (graph : TxGraph)
    (member : sender ∈ graph.vertices) :
    EdgesAdded sender receivers graph (receivers.foldl (.addEdge sender) graph) := by
  induction receivers generalizing graph with
  | nil =>
    refine ⟨.refl graph, fun receiver inside => ?_, (append_nil _).symm, rfl⟩
    cases inside
  | cons receiver rest ih =>
    have one : Extends graph (.addEdge sender graph receiver) :=
      ⟨(addVertex_extends graph receiver).vertices, (addVertex_extends graph receiver).distinct⟩
    have there : receiver ∈ (addEdge sender graph receiver).vertices := mem_addVertex graph receiver
    have later := ih (.addEdge sender graph receiver) (one.mem member)
    refine ⟨one.trans later.grows, ?_, ?_, ?_⟩
    · intro name inside
      rcases mem_cons.mp inside with rfl | inside
      · exact later.grows.mem there
      · exact later.present name inside
    · have first : (addEdge sender graph receiver).edges = graph.edges ++
          [((addEdge sender graph receiver).vertices.idxOf sender,
            (addEdge sender graph receiver).vertices.idxOf receiver)] := by
        simp only [addEdge, addVertex_edges]
      rw [← later.grows.idxOf (one.mem member), ← later.grows.idxOf there] at first
      rw [foldl_cons, later.edges, first, append_assoc]
      rfl
    · rw [foldl_cons, later.mapTxIndex]
      exact addVertex_mapTxIndex graph receiver

theorem addAllocation_spec (receivers : List Bytes) (position : Nat) (graph : TxGraph) :
    let larger := graph.addAllocation sender position receivers
    Extends graph larger ∧ sender ∈ larger.vertices ∧
      (∀ receiver ∈ receivers, receiver ∈ larger.vertices) ∧
      larger.edges = graph.edges ++ receivers.map (fun receiver =>
        (larger.vertices.idxOf sender, larger.vertices.idxOf receiver)) ∧
      larger.mapTxIndex = graph.mapTxIndex ++ [(larger.vertices.idxOf sender, position)] := by
  have there := mem_addVertex graph sender
  have added := foldl_addEdge receivers
    { graph.addVertex sender with
      mapTxIndex := (graph.addVertex sender).mapTxIndex ++
        [((graph.addVertex sender).vertices.idxOf sender, position)] } there
  refine ⟨(addVertex_extends graph sender).trans ⟨added.grows.vertices, added.grows.distinct⟩,
    added.grows.mem there, added.present, ?_, ?_⟩
  · rw [← addVertex_edges graph sender]
    exact added.edges
  · have place : (graph.addAllocation sender position receivers).vertices.idxOf sender =
        (graph.addVertex sender).vertices.idxOf sender := added.grows.idxOf there
    rw [← addVertex_mapTxIndex graph sender, place]
    exact added.mapTxIndex

structure GraphOf (env : OrderEnv) (entries : List (CTransaction × Nat)) (graph : TxGraph) :
    Prop where
  distinct : graph.vertices.Nodup
  senders : ∀ entry ∈ entries, isAllocation entry.1 = true →
    allocationSender env entry.1 ∈ graph.vertices
  receivers : ∀ entry ∈ entries, isAllocation entry.1 = true →
    ∀ receiver ∈ allocationReceivers env entry.1, receiver ∈ graph.vertices
  edges : graph.edges = (entries.filter fun entry => isAllocation entry.1).flatMap fun entry =>
    (allocationReceivers env entry.1).map fun receiver =>
      (graph.vertices.idxOf (allocationSender env entry.1), graph.vertices.idxOf receiver)
  mapTxIndex : graph.mapTxIndex = (entries.filter fun entry => isAllocation entry.1).map
    fun entry => (graph.vertices.idxOf (allocationSender env entry.1), entry.2)

theorem graphOf_nil : GraphOf env [] empty := by
  refine ⟨nodup_nil, ?_, ?_, rfl, rfl⟩
  · intro entry inside
    cases inside
  · intro entry inside
    cases inside

variable {env : OrderEnv} {inputs : UtxoMap} {nHeight : Nat}

theorem addTx_graphOf (share : env.nShareFeeBlock ≤ nHeight) {entries : List (CTransaction × Nat)}
    {graph : TxGraph} (before : GraphOf env entries graph) {entry : CTransaction × Nat} :
    GraphOf env (entries ++ [entry]) (addTx env inputs nHeight graph entry) := by
  by_cases allocation : isAllocation entry.1 = true
  · have step : addTx env inputs nHeight graph entry =
        graph.addAllocation (allocationSender env entry.1) entry.2
          (allocationReceivers env entry.1) := by
      unfold isAllocation at allocation
      rw [addTx, if_pos allocation]
      simp only [senderOf, if_pos share]
      rfl
    obtain ⟨grows, sender, receivers, edges, index⟩ :=
      @addAllocation_spec (allocationSender env entry.1) (allocationReceivers env entry.1) entry.2
        graph
    have single : [entry].filter (fun entry => isAllocation entry.1) = [entry] := by
      simp [allocation]
    rw [step]
    have old : ∀ other ∈ entries.filter fun entry => isAllocation entry.1,
        other ∈ entries ∧ isAllocation other.1 = true := fun other inside =>
      mem_filter.mp inside
    refine ⟨grows.distinct before.distinct, ?_, ?_, ?_, ?_⟩
    · intro other inside isOther
      rcases mem_append.mp inside with earlier | last
      · exact grows.mem (before.senders other earlier isOther)
      · obtain rfl := mem_singleton.mp last
        exact sender
    · intro other inside isOther receiver named
      rcases mem_append.mp inside with earlier | last
      · exact grows.mem (before.receivers other earlier isOther receiver named)
      · obtain rfl := mem_singleton.mp last
        exact receivers receiver named
    · rw [edges, before.edges, filter_append, flatMap_append, single, flatMap_singleton]
      congr 1
      refine flatMap_congr fun other inside => map_congr_left fun receiver named => ?_
      obtain ⟨earlier, isOther⟩ := old other inside
      rw [grows.idxOf (before.senders other earlier isOther),
        grows.idxOf (before.receivers other earlier isOther receiver named)]
    · rw [index, before.mapTxIndex, filter_append, map_append, single, map_singleton]
      congr 1
      refine map_congr_left fun other inside => ?_
      obtain ⟨earlier, isOther⟩ := old other inside
      rw [grows.idxOf (before.senders other earlier isOther)]
  · have step : addTx env inputs nHeight graph entry = graph := by
      unfold isAllocation at allocation
      rw [addTx, if_neg allocation]
    have nothing : (entries ++ [entry]).filter (fun entry => isAllocation entry.1) =
        entries.filter fun entry => isAllocation entry.1 := by
      simp [filter_append, allocation]
    have old : ∀ other ∈ entries ++ [entry], isAllocation other.1 = true → other ∈ entries := by
      intro other inside isOther
      refine (mem_append.mp inside).resolve_right fun last => ?_
      rw [mem_singleton.mp last] at isOther
      exact allocation isOther
    rw [step]
    refine ⟨before.distinct, ?_, ?_, ?_, ?_⟩
    · exact fun other inside isOther => before.senders other (old other inside isOther) isOther
    · exact fun other inside isOther => before.receivers other (old other inside isOther) isOther
    · rw [nothing]
      exact before.edges
    · rw [nothing]
      exact before.mapTxIndex

theorem createGraph_graphOf (share : env.nShareFeeBlock ≤ nHeight) (blockVtx : List CTransaction) :
    GraphOf env blockVtx.zipIdx (createGraphFromVTX env inputs nHeight blockVtx) := by
  have run : ∀ (rest done : List (CTransaction × Nat)) (graph : TxGraph), GraphOf env done graph →
      GraphOf env (done ++ rest) (rest.foldl (addTx env inputs nHeight) graph) := by
    intro rest
    induction rest with
    | nil =>
      intro done graph before
      rwa [append_nil]
    | cons entry rest ih =>
      intro done graph before
      have next := ih (done ++ [entry]) (addTx env inputs nHeight graph entry)
        (addTx_graphOf share before)
      rwa [append_assoc] at next
  exact run blockVtx.zipIdx [] empty (graphOf_nil env)

end

section

theorem positions_eq {graph : TxGraph} :
    graph.positions vertex = (group graph.mapTxIndex vertex).map (·.2) := rfl

variable (graph : TxGraph)

theorem positions_isEmpty :
    (graph.positions vertex).isEmpty = true ↔ ∀ entry ∈ graph.mapTxIndex, entry.1 ≠ vertex := by
  rw [List.isEmpty_iff, positions_eq, List.map_eq_nil_iff, group, List.filter_eq_nil_iff]
  simp

structure Removed (cleared : List Nat) (outcome : TxGraph × List Nat) (before : List Nat) :
    Prop where
  vertices : outcome.1.vertices = graph.vertices
  edges : ∀ edge, edge ∈ outcome.1.edges ↔
    edge ∈ graph.edges ∧ ¬ (edge.1 ∈ cleared ∧ ∃ entry ∈ graph.mapTxIndex, entry.1 = edge.1)
  mapTxIndex : outcome.1.mapTxIndex =
    graph.mapTxIndex.filter fun entry => !decide (entry.1 ∈ cleared)
  conflicted : outcome.2.Perm (before ++
    (graph.mapTxIndex.filter fun entry => decide (entry.1 ∈ cleared)).map (·.2))

theorem foldl_removeVertex (before : List Nat) :
    Removed graph cleared (cleared.foldl removeVertex (graph, before)) before := by
  induction cleared generalizing graph before with
  | nil => exact ⟨rfl, by simp, by simp, by simp⟩
  | cons vertex rest ih =>
    rw [foldl_cons, removeVertex]
    by_cases unused : (graph.positions vertex).isEmpty = true
    · rw [if_pos unused]
      have absent := (positions_isEmpty graph).mp unused
      have same : ∀ entry ∈ graph.mapTxIndex,
          decide (entry.1 ∈ vertex :: rest) = decide (entry.1 ∈ rest) := by
        intro entry inside
        simp [absent entry inside]
      obtain ⟨vertices, edges, index, conflicted⟩ := ih graph before
      refine ⟨vertices, fun edge => ?_, ?_, ?_⟩
      · rw [edges edge]
        refine and_congr_right fun _ => not_congr ⟨fun both => ?_, fun both => ?_⟩
        · exact ⟨mem_cons_of_mem _ both.1, both.2⟩
        · obtain ⟨member, entry, inside, key⟩ := both
          refine ⟨(mem_cons.mp member).resolve_left fun here => ?_, entry, inside, key⟩
          exact absent entry inside (key.trans here)
      · rw [index]
        exact filter_congr fun entry inside => by rw [same entry inside]
      · rw [filter_congr same]
        exact conflicted
    · rw [if_neg unused]
      obtain ⟨vertices, edges, index, conflicted⟩ := ih { graph with
          edges := graph.edges.filter fun edge => decide (edge.1 ≠ vertex)
          mapTxIndex := graph.mapTxIndex.filter fun entry => decide (entry.1 ≠ vertex) }
        (before ++ graph.positions vertex)
      refine ⟨vertices, fun edge => ?_, ?_, ?_⟩
      · rw [edges edge]
        have used : ∃ entry ∈ graph.mapTxIndex, entry.1 = vertex := by
          rw [positions_isEmpty] at unused
          push Not at unused
          exact unused
        simp only [mem_filter, decide_eq_true_eq, mem_cons]
        by_cases here : edge.1 = vertex
        · simp only [here, ne_eq, not_true_eq_false, and_false, false_and, true_or, true_and,
            false_iff, not_and, not_not]
          exact fun _ => used
        · simp only [here, ne_eq, not_false_eq_true, and_true, false_or]
          refine and_congr_right fun _ => not_congr (and_congr_right fun _ => ?_)
          constructor
          · rintro ⟨entry, ⟨inside, -⟩, key⟩
            exact ⟨entry, inside, key⟩
          · rintro ⟨entry, inside, key⟩
            exact ⟨entry, ⟨inside, fun same => here (key.symm.trans same)⟩, key⟩
      · rw [index, filter_filter]
        refine filter_congr fun entry _ => ?_
        by_cases here : entry.1 = vertex
        · simp [here]
        · simp [here]
      · refine conflicted.trans ?_
        rw [append_assoc]
        refine .append_left before ?_
        have apart := filter_append_perm (fun entry : Nat × Nat => decide (entry.1 = vertex))
          (graph.mapTxIndex.filter fun entry => decide (entry.1 ∈ vertex :: rest))
        refine .trans (.of_eq ?_) (apart.map (·.2))
        rw [map_append, filter_filter, filter_filter, filter_filter, positions_eq, group]
        congr 2
        · refine filter_congr fun entry _ => ?_
          by_cases here : entry.1 = vertex
          · simp [here]
          · simp [here]
        · refine filter_congr fun entry _ => ?_
          by_cases here : entry.1 = vertex
          · simp [here]
          · simp [here]

end

/-- `cycle_visitor`: of every circuit it is shown, the last vertex is cleared. -/
def cycleVisitor (cleared path : List Nat) : List Nat :=
  match path.getLast? with
  | some nValue => insert id cleared nValue
  | none => cleared

/-- The library shows every elementary circuit to the visitor, from some vertex on. -/
def EnumeratesCircuits (edges : List (Nat × Nat)) (cleared : List Nat) : Prop :=
  ∃ paths : List (List Nat), cleared = paths.foldl cycleVisitor [] ∧
    (∀ path ∈ paths, Circuit edges path) ∧
    ∀ path, Circuit edges path → ∃ found ∈ paths, found ~r path

/-- The library sorts an acyclic graph, the targets of edges first. -/
def SortsGraph (count : Nat) (edges : List (Nat × Nat)) (sorted : Option (List Nat)) : Prop :=
  Acyclic edges → ∃ order, sorted = some order ∧ order.Perm (List.range count) ∧
      order.Pairwise fun a b => (a, b) ∉ edges

theorem mem_cleared {paths : List (List Nat)} :
    vertex ∈ paths.foldl cycleVisitor [] ↔ ∃ path ∈ paths, path.getLast? = some vertex := by
  have inserts : paths.foldl cycleVisitor [] =
      (paths.filterMap getLast?).foldl (SortedVector.insert id) [] := by
    rw [foldl_filterMap]
    congr 1
    funext cleared path
    rw [cycleVisitor]
    cases path.getLast? <;> rfl
  have keys := (@foldl_insert_keys _ _ _ _ _ _ _ id (paths.filterMap getLast?) [] .nil).2 vertex
  simp only [id_eq, exists_eq_right, mem_filterMap, not_mem_nil, or_false] at keys
  rw [inserts, keys]

theorem EnumeratesCircuits.covers {edges : List (Nat × Nat)}
    (enumerates : EnumeratesCircuits edges cleared) :
    ∀ path, Circuit edges path → ∃ v ∈ path, v ∈ cleared := by
  obtain ⟨paths, rfl, circuits, all⟩ := enumerates
  intro path circuit
  obtain ⟨found, listed, rotated⟩ := all path circuit
  obtain ⟨last, isLast⟩ : ∃ last, found.getLast? = some last :=
    ⟨found.getLast (circuits found listed).nonempty, List.getLast?_eq_getLast_of_ne_nil _⟩
  refine ⟨last, rotated.perm.subset (mem_of_getLast? isLast), ?_⟩
  exact mem_cleared.mpr ⟨found, listed, isLast⟩

def sentBy (sender : Bytes) (tx : CTransaction) : Bool :=
  isAllocation tx && decide (allocationSender env tx = sender)

section

variable {env : OrderEnv} {blockVtx : List CTransaction} {graph : TxGraph}
  (built : GraphOf env blockVtx.zipIdx graph)

include built

theorem GraphOf.entry {entry : Nat × Nat} (member : entry ∈ graph.mapTxIndex) :
    ∃ tx, blockVtx[entry.2]? = some tx ∧ isAllocation tx = true ∧
      allocationSender env tx ∈ graph.vertices ∧
      entry.1 = graph.vertices.idxOf (allocationSender env tx) := by
  rw [built.mapTxIndex] at member
  obtain ⟨⟨tx, position⟩, inside, rfl⟩ := mem_map.mp member
  obtain ⟨placed, allocation⟩ := mem_filter.mp inside
  exact ⟨tx, mem_zipIdx_iff_getElem?.mp placed, allocation, built.senders _ placed allocation, rfl⟩

theorem GraphOf.key_lt {entry : Nat × Nat} (member : entry ∈ graph.mapTxIndex) :
    entry.1 < graph.vertices.length := by
  obtain ⟨tx, -, -, inside, key⟩ := built.entry member
  rw [key]
  exact idxOf_lt_length_of_mem inside

theorem GraphOf.sentBy_iff {entry : Nat × Nat} (member : entry ∈ graph.mapTxIndex)
    (sender : Bytes) : (blockVtx[entry.2]?).any (sentBy env sender) =
      decide (entry.1 = graph.vertices.idxOf sender) := by
  obtain ⟨tx, placed, allocation, inside, key⟩ := built.entry member
  rw [placed, Option.any_some, sentBy, allocation, Bool.true_and, key]
  refine decide_eq_decide.mpr ⟨fun same => by rw [same], fun same => ?_⟩
  exact (idxOf_inj inside).mp same

theorem GraphOf.edge_source {edge : Nat × Nat} (member : edge ∈ graph.edges) :
    ∃ entry ∈ graph.mapTxIndex, entry.1 = edge.1 := by
  rw [built.edges] at member
  obtain ⟨entry, inside, named⟩ := mem_flatMap.mp member
  obtain ⟨receiver, -, rfl⟩ := mem_map.mp named
  rw [built.mapTxIndex]
  exact ⟨_, mem_map.mpr ⟨entry, inside, rfl⟩, rfl⟩

theorem GraphOf.positions_sorted : (graph.mapTxIndex.map (·.2)).Pairwise (· < ·) := by
  rw [built.mapTxIndex, map_map]
  have positions : (blockVtx.zipIdx.map (·.2)).Pairwise (· < ·) := by
    rw [zipIdx_map_snd]
    exact pairwise_lt_range'
  have sublist : ((blockVtx.zipIdx.filter fun entry => isAllocation entry.1).map (·.2)).Sublist
      (blockVtx.zipIdx.map (·.2)) := filter_sublist.map _
  exact positions.sublist sublist

theorem GraphOf.read_positions :
    (graph.mapTxIndex.map (·.2)).filterMap (blockVtx[·]?) = blockVtx.filter isAllocation := by
  rw [built.mapTxIndex, map_map, filterMap_map]
  have placed : ∀ entry ∈ blockVtx.zipIdx.filter fun entry => isAllocation entry.1,
      blockVtx[entry.2]? = some entry.1 := fun entry inside =>
    mem_zipIdx_iff_getElem?.mp (mem_filter.mp inside).1
  refine (filterMap_congr placed).trans ?_
  rw [filterMap_eq_map']
  have fronts := filter_map (f := Prod.fst) (l := blockVtx.zipIdx) (p := isAllocation)
  rw [zipIdx_map_fst] at fronts
  exact fronts.symm

end

theorem filter_filterMap_any {α β : Type} {f : α → Option β} {p : β → Bool} {xs : List α} :
    (xs.filterMap f).filter p = (xs.filter fun x => (f x).any p).filterMap f := by
  induction xs with
  | nil => rfl
  | cons x rest ih =>
    cases found : f x with
    | none => rw [filterMap_cons_none found, ih, filter_cons_of_neg (by simp [found])]
    | some y =>
      rw [filterMap_cons_some found]
      by_cases good : p y = true
      · rw [filter_cons_of_pos good, ih, filter_cons_of_pos (by simp [found, good]),
          filterMap_cons_some found]
      · rw [filter_cons_of_neg good, ih, filter_cons_of_neg (by simp [found, good])]

theorem filter_key {entries : List (Nat × Nat)} {key : Nat} (p : Nat → Bool) :
    (entries.filter fun entry => decide (entry.1 = key) && p entry.1) =
      if p key then entries.filter fun entry => decide (entry.1 = key) else [] := by
  by_cases holds : p key = true
  · rw [if_pos holds]
    refine filter_congr fun entry _ => ?_
    by_cases here : entry.1 = key
    · simp [here, holds]
    · simp [here]
  · rw [if_neg holds, filter_eq_nil_iff]
    intro entry _ both
    simp only [Bool.and_eq_true, decide_eq_true_eq] at both
    exact holds (both.1 ▸ both.2)

def allocationOrder (outcome : TxGraph × List Nat) (order : List Nat) : List Nat :=
  order.reverse.flatMap outcome.1.positions ++ outcome.2

section

variable {env : OrderEnv} {blockVtx : List CTransaction} {graph : TxGraph} {order : List Nat}
  (built : GraphOf env blockVtx.zipIdx graph)
  (permutes : order.Perm (List.range graph.vertices.length))

theorem graphRemoveCycles_eq : Removed graph (env.hawickCircuits graph.vertices.length graph.edges)
      (graphRemoveCycles env graph) [] ∧
      (graphRemoveCycles env graph).2.Pairwise (· ≤ ·) := by
  obtain ⟨vertices, edges, index, conflicted⟩ := foldl_removeVertex graph []
  refine ⟨⟨vertices, edges, index, ?_⟩, pairwise_insertionSort (· ≤ ·) _⟩
  exact (perm_insertionSort (· ≤ ·) _).trans conflicted

theorem flatMap_positions {vertices : List Nat} :
    vertices.flatMap graph.positions = (vertices.flatMap (group graph.mapTxIndex)).map (·.2) := by
  rw [map_flatMap]
  rfl

variable (removed : Removed graph cleared outcome [])

include built permutes removed

theorem order_covers :
    order.reverse.Nodup ∧ ∀ entry ∈ outcome.1.mapTxIndex, entry.1 ∈ order.reverse := by
  refine ⟨nodup_reverse.mpr (permutes.nodup_iff.mpr nodup_range), fun entry inside => ?_⟩
  rw [removed.mapTxIndex] at inside
  rw [mem_reverse, permutes.mem_iff, mem_range]
  exact built.key_lt (mem_filter.mp inside).1

theorem allocationOrder_perm :
    (allocationOrder outcome order).Perm (graph.mapTxIndex.map (·.2)) := by
  obtain ⟨distinct, covered⟩ := order_covers built permutes removed
  have kept := (flatMap_group_perm distinct covered).map (·.2)
  rw [← flatMap_positions, removed.mapTxIndex] at kept
  have conflicted := removed.conflicted
  rw [nil_append] at conflicted
  refine (kept.append conflicted).trans ?_
  rw [← map_append]
  refine .map _ (perm_append_comm.trans ?_)
  exact filter_append_perm _ _

theorem allocationOrder_filter (sorted : outcome.2.Pairwise (· ≤ ·)) :
    (allocationOrder outcome order).filter (fun n => (blockVtx[n]?).any (sentBy env sender)) =
      (graph.mapTxIndex.map (·.2)).filter fun n => (blockVtx[n]?).any (sentBy env sender) := by
  have own : ∀ entries : List (Nat × Nat), (∀ entry ∈ entries, entry ∈ graph.mapTxIndex) →
      (entries.map (·.2)).filter (fun n => (blockVtx[n]?).any (sentBy env sender)) =
        (group entries (graph.vertices.idxOf sender)).map (·.2) := by
    intro entries inside
    rw [filter_map, group]
    congr 1
    exact filter_congr fun entry listed => built.sentBy_iff (inside entry listed) sender
  obtain ⟨distinct, covered⟩ := order_covers built permutes removed
  have kept : ∀ entry ∈ order.reverse.flatMap (group outcome.1.mapTxIndex),
      entry ∈ graph.mapTxIndex := by
    intro entry inside
    have listed := (flatMap_group_perm distinct covered).subset inside
    rw [removed.mapTxIndex] at listed
    exact (mem_filter.mp listed).1
  rw [allocationOrder, filter_append, flatMap_positions, own _ kept,
    group_flatMap distinct covered, own graph.mapTxIndex fun _ inside => inside,
    removed.mapTxIndex, group, group, filter_filter]
  have conflicted := removed.conflicted.filter fun n => (blockVtx[n]?).any (sentBy env sender)
  rw [nil_append, own _ fun entry inside => (mem_filter.mp inside).1, group,
    filter_filter] at conflicted
  by_cases cut : graph.vertices.idxOf sender ∈ cleared
  · rw [filter_key fun key => decide (key ∈ cleared), if_pos (decide_eq_true cut)] at conflicted
    rw [filter_key fun key => !decide (key ∈ cleared), if_neg (by simpa using cut), map_nil,
      nil_append]
    refine conflicted.eq_of_pairwise' (sorted.sublist filter_sublist) ?_
    exact (built.positions_sorted.sublist (filter_sublist.map _)).imp Nat.le_of_lt
  · rw [filter_key fun key => decide (key ∈ cleared), if_neg (by simpa using cut), map_nil]
      at conflicted
    rw [filter_key fun key => !decide (key ∈ cleared), if_pos (by simpa using cut),
      conflicted.eq_nil, append_nil]

omit permutes in
theorem allocationOrder_pairwise (acyclic : Acyclic outcome.1.edges)
    (sorts : order.Pairwise fun a b => (a, b) ∉ outcome.1.edges) {receiver : Bytes}
    (edge : (graph.vertices.idxOf sender, graph.vertices.idxOf receiver) ∈ graph.edges)
    (senderStays : graph.vertices.idxOf sender ∉ cleared)
    (receiverStays : graph.vertices.idxOf receiver ∉ cleared) :
    (allocationOrder outcome order).Pairwise fun earlier later =>
      ¬ ((blockVtx[earlier]?).any (sentBy env receiver) = true ∧
        (blockVtx[later]?).any (sentBy env sender) = true) := by
  have stays : (graph.vertices.idxOf sender, graph.vertices.idxOf receiver) ∈ outcome.1.edges :=
    (removed.edges _).mpr ⟨edge, fun both => senderStays both.1⟩
  have vertex : ∀ {name : Bytes} {entry : Nat × Nat}, entry ∈ graph.mapTxIndex →
      (blockVtx[entry.2]?).any (sentBy env name) = true →
        entry.1 = graph.vertices.idxOf name := by
    intro name entry inside sent
    rw [built.sentBy_iff inside name] at sent
    exact of_decide_eq_true sent
  have placed : ∀ {a n : Nat}, n ∈ outcome.1.positions a → (a, n) ∈ graph.mapTxIndex := by
    intro a n inside
    obtain ⟨⟨key, position⟩, grouped, rfl⟩ := mem_map.mp inside
    obtain ⟨listed, rfl⟩ := mem_group.mp grouped
    rw [removed.mapTxIndex] at listed
    exact (mem_filter.mp listed).1
  have conflicted : ∀ {n : Nat} {name : Bytes}, n ∈ outcome.2 →
      graph.vertices.idxOf name ∉ cleared → ¬ (blockVtx[n]?).any (sentBy env name) = true := by
    intro n name inside kept sent
    have listed := removed.conflicted.subset inside
    rw [nil_append] at listed
    obtain ⟨entry, cut, rfl⟩ := mem_map.mp listed
    obtain ⟨indexed, isCut⟩ := mem_filter.mp cut
    exact kept (vertex indexed sent ▸ of_decide_eq_true isCut)
  rw [allocationOrder, pairwise_append, pairwise_flatMap, pairwise_reverse]
  refine ⟨⟨fun a _ => ?_, sorts.imp fun {b a} noEdge n first m second both => ?_⟩, ?_, ?_⟩
  · refine pairwise_of_forall_mem_list fun n first m second both => ?_
    have one := vertex (placed first) both.1
    have two := vertex (placed second) both.2
    rw [← two, ← one] at stays
    exact acyclic.no_loop a stays
  · have one := vertex (placed first) both.1
    have two := vertex (placed second) both.2
    rw [← two, ← one] at stays
    exact noEdge stays
  · exact pairwise_of_forall_mem_list fun n first m second both =>
      conflicted first receiverStays both.1
  · exact fun n _ m second both => conflicted second senderStays both.2

end

def Survives (graph : TxGraph) (name : Bytes) : Prop :=
  graph.vertices.idxOf name ∉ env.hawickCircuits graph.vertices.length graph.edges

structure BlockOrdered (env : OrderEnv) (graph : TxGraph) (blockVtx newVtx : List CTransaction) :
    Prop where
  permutes : newVtx.Perm blockVtx
  first : newVtx.head? = blockVtx.head?
  ownOrder : ∀ sender, newVtx.filter (sentBy env sender) = blockVtx.filter (sentBy env sender)
  sendersFirst : ∀ tx ∈ blockVtx, isAllocation tx = true →
    ∀ receiver ∈ allocationReceivers env tx, Survives env graph (allocationSender env tx) →
      Survives env graph receiver → newVtx.Pairwise fun earlier later =>
        ¬ (sentBy env receiver earlier = true ∧ sentBy env (allocationSender env tx) later = true)

section

variable {env : OrderEnv} {inputs : UtxoMap} {nHeight : Nat} {coinbase : CTransaction}
  {rest : List CTransaction} {order : List Nat}

theorem filter_undecoded : (rest.filter fun tx => (decodeAssetAllocationTx tx).isNone) =
    rest.filter fun tx => !isAllocation tx := by
  refine filter_congr fun tx _ => ?_
  rw [isAllocation, Option.not_isSome]

theorem newVtx_length {middle : List CTransaction}
    (permutes : middle.Perm ((coinbase :: rest).filter isAllocation)) :
    (([coinbase] ++ middle ++ rest.filter fun tx => (decodeAssetAllocationTx tx).isNone).length =
      (coinbase :: rest).length) ↔ isAllocation coinbase = false := by
  have parts := length_eq_length_filter_add (l := rest) isAllocation
  have length := permutes.length_eq
  rw [filter_undecoded]
  cases allocation : isAllocation coinbase with
  | false =>
    rw [filter_cons_of_neg (by simp [allocation])] at length
    simp only [length_append, length_cons, length_nil, iff_true]
    omega
  | true =>
    rw [filter_cons_of_pos allocation, length_cons] at length
    simp only [length_append, length_cons, length_nil, Bool.true_eq_false, iff_false]
    omega

theorem unindexed_block {graph : TxGraph} {blockVtx : List CTransaction}
    (built : GraphOf env blockVtx.zipIdx graph) (empty : graph.mapTxIndex = []) :
    ∀ tx ∈ blockVtx, isAllocation tx = false := by
  have read := built.read_positions
  rw [empty, map_nil, filterMap_nil, eq_comm, filter_eq_nil_iff] at read
  intro tx member
  exact Bool.not_eq_true _ ▸ read tx member

theorem not_sentBy {tx : CTransaction} (plain : isAllocation tx = false) (sender : Bytes) :
    sentBy env sender tx = false := by
  rw [sentBy, plain, Bool.false_and]

theorem ordered_of_positions {graph : TxGraph} (built : GraphOf env (coinbase :: rest).zipIdx graph)
    (permutes : order.Perm (List.range graph.vertices.length))
    (removed : Removed graph (env.hawickCircuits graph.vertices.length graph.edges) outcome [])
    (sorted : outcome.2.Pairwise (· ≤ ·)) (acyclic : Acyclic outcome.1.edges)
    (sorts : order.Pairwise fun a b => (a, b) ∉ outcome.1.edges)
    (plain : isAllocation coinbase = false) : BlockOrdered env graph (coinbase :: rest)
      ([coinbase] ++ (allocationOrder outcome order).filterMap ((coinbase :: rest)[·]?) ++
        rest.filter fun tx => (decodeAssetAllocationTx tx).isNone) := by
  have middle := (allocationOrder_perm built permutes removed).filterMap ((coinbase :: rest)[·]?)
  rw [built.read_positions, filter_cons_of_neg (by simp [plain])] at middle
  rw [filter_undecoded]
  have unsent : ∀ tx ∈ rest.filter fun tx => !isAllocation tx, ∀ sender,
      sentBy env sender tx = false :=
    fun tx inside sender => not_sentBy (by simpa using (mem_filter.mp inside).2) sender
  refine ⟨?_, rfl, fun sender => ?_, ?_⟩
  · rw [append_assoc]
    exact .cons coinbase ((middle.append_right _).trans (filter_append_perm _ rest))
  · have front : [coinbase].filter (sentBy env sender) = [] := by simp [not_sentBy plain]
    have back : (rest.filter fun tx => !isAllocation tx).filter (sentBy env sender) = [] :=
      filter_eq_nil_iff.mpr fun tx inside => ne_true_of_eq_false (unsent tx inside sender)
    rw [filter_append, filter_append, front, back, nil_append, append_nil,
      filter_filterMap_any, allocationOrder_filter built permutes removed sorted,
      ← filter_filterMap_any, built.read_positions, filter_filter]
    refine filter_congr fun tx _ => ?_
    rw [sentBy]
    cases isAllocation tx <;> simp
  · intro tx member allocation receiver named senderStays receiverStays
    have edge : (graph.vertices.idxOf (allocationSender env tx), graph.vertices.idxOf receiver) ∈
        graph.edges := by
      obtain ⟨position, found⟩ := mem_iff_getElem?.mp member
      rw [built.edges]
      exact mem_flatMap.mpr ⟨(tx, position), mem_filter.mpr
        ⟨mem_zipIdx_iff_getElem?.mpr found, allocation⟩, mem_map.mpr ⟨receiver, named, rfl⟩⟩
    have order := allocationOrder_pairwise built removed acyclic sorts edge senderStays
      receiverStays
    rw [append_assoc]
    refine pairwise_append.mpr ⟨pairwise_singleton _ _, ?_, ?_⟩
    · refine pairwise_append.mpr ⟨?_, ?_, ?_⟩
      · rw [pairwise_filterMap]
        refine order.imp fun {n m} apart earlier found later foundLater both => apart ?_
        rw [found, foundLater]
        exact both
      · refine pairwise_of_forall_mem_list fun earlier first later _ both => ?_
        exact ne_true_of_eq_false (unsent earlier first _) both.1
      · intro earlier _ later last both
        exact ne_true_of_eq_false (unsent later last _) both.2
    · intro earlier first later _ both
      rw [mem_singleton.mp first, not_sentBy plain] at both
      exact Bool.false_ne_true both.1

end

theorem blockOrder_iff (env : OrderEnv) (inputs : UtxoMap) (nHeight : Nat)
    (share : env.nShareFeeBlock ≤ nHeight) (coinbase : CTransaction) (rest : List CTransaction)
    (enumerates :
      let graph := createGraphFromVTX env inputs nHeight (coinbase :: rest)
      EnumeratesCircuits graph.edges (env.hawickCircuits graph.vertices.length graph.edges))
    (sorts :
      let graph := createGraphFromVTX env inputs nHeight (coinbase :: rest)
      let edges := (graphRemoveCycles env graph).1.edges
      SortsGraph graph.vertices.length edges (env.topologicalSort graph.vertices.length edges)) :
    (∃ newVtx, sortedVtx env inputs nHeight (coinbase :: rest) = some newVtx ∧
      BlockOrdered env (createGraphFromVTX env inputs nHeight (coinbase :: rest))
        (coinbase :: rest) newVtx) ↔ isAllocation coinbase = false := by
  have built := @createGraph_graphOf env inputs nHeight share (coinbase :: rest)
  generalize graphIs : createGraphFromVTX env inputs nHeight (coinbase :: rest) = graph at *
  dsimp only at enumerates sorts
  obtain ⟨removed, sorted⟩ := graphRemoveCycles_eq
  rw [sortedVtx, graphIs]
  dsimp only
  by_cases empty : graph.mapTxIndex.isEmpty = true
  · rw [if_pos empty]
    have plain := unindexed_block built (isEmpty_iff.mp empty)
    refine iff_of_true ⟨_, rfl, .refl _, rfl, fun _ => rfl, ?_⟩ (plain coinbase mem_cons_self)
    intro tx member allocation
    rw [plain tx member] at allocation
    cases allocation
  · rw [if_neg empty]
    have acyclic : Acyclic (graphRemoveCycles env graph).1.edges := by
      refine acyclic_of_cut enumerates.covers (fun edge inside => ?_) fun edge inside => ?_
      · exact ((removed.edges edge).mp inside).1
      · obtain ⟨whole, uncut⟩ := (removed.edges edge).mp inside
        exact fun cut => uncut ⟨cut, built.edge_source whole⟩
    obtain ⟨order, found, permutes, ordered⟩ := sorts acyclic
    have middle := (allocationOrder_perm built permutes removed).filterMap ((coinbase :: rest)[·]?)
    rw [built.read_positions] at middle
    have counts := newVtx_length middle
    simp only [dagTopologicalSort, removed.vertices, found, take_succ_cons, take_zero,
      drop_succ_cons, drop_zero]
    constructor
    · rintro ⟨newVtx, done, -⟩
      split at done
      · rename_i same
        exact counts.mp same
      · cases done
    · intro plain
      have same := counts.mpr plain
      refine ⟨_, if_pos same, ?_⟩
      exact ordered_of_positions built permutes removed sorted acyclic ordered plain

/-- The payloads are payments of `a` to `b`, of `b` to `a` and of `a` to `c`. -/
def sampleOrderEnv : OrderEnv :=
  let pays (sender receiver : UInt8) : Option SamplePayload :=
    some (.allocation { CAssetAllocation.null with
      vchAliasOrAddress := [sender], listSendingAllocationAmounts := [([receiver], 1)] })
  { (sampleServiceEnv fun
      | 1 => pays 0x61 0x62
      | 2 => pays 0x62 0x61
      | 3 => pays 0x61 0x63
      | _ => none).orderEnv with
    hawickCircuits := fun _ edges => if (1, 0) ∈ edges then [1] else [] }

def sampleAllocationTx (payload : UInt8) : CTransaction :=
  sampleServiceTx payload.toUInt32 0 [sampleScript .assetAllocation 2 [[1]]] payload

def samplePayingCoinbase : CTransaction :=
  { sampleAllocationTx 1 with vin := sampleCoinbase.vin }

def sampleCycle : List (Nat × Nat) := [(0, 1), (1, 0), (0, 2)]

theorem circuit_sampleCycle {path : List Nat} (circuit : Circuit sampleCycle path) :
    path = [0, 1] ∨ path = [1, 0] := by
  have inside : ∀ v ∈ path, v = 0 ∨ v = 1 := by
    intro v member
    obtain ⟨w, edge⟩ := circuit.leaves member
    simp only [sampleCycle, mem_cons, Prod.mk.injEq, not_mem_nil, or_false] at edge
    omega
  match path with
  | [] => exact absurd rfl circuit.nonempty
  | [v] =>
    have loop := circuit.closed v rfl v rfl
    rcases inside v mem_cons_self with rfl | rfl
    · exact absurd loop (by decide)
    · exact absurd loop (by decide)
  | [v, w] =>
    have different := circuit.distinct
    simp only [mem_cons, not_mem_nil, or_false, forall_eq_or_imp, forall_eq, nodup_cons] at *
    rcases inside with ⟨rfl | rfl, rfl | rfl⟩ <;> simp_all
  | v :: w :: u :: rest =>
    have different := circuit.distinct
    simp only [nodup_cons, mem_cons, not_or, forall_eq_or_imp] at different inside
    omega

theorem enumerates_sampleCycle : EnumeratesCircuits sampleCycle [1] := by
  refine ⟨[[0, 1]], rfl, ?_, fun path circuit => ⟨[0, 1], mem_cons_self, ?_⟩⟩
  · intro path member
    obtain rfl := mem_singleton.mp member
    exact ⟨by decide, by decide, by decide, by decide⟩
  · rcases circuit_sampleCycle circuit with rfl | rfl
    · exact .refl _
    · exact ⟨1, rfl⟩

theorem enumerates_single : EnumeratesCircuits [(0, 1)] [] := by
  refine ⟨[], rfl, fun path inside => (by cases inside), fun path circuit => ?_⟩
  rcases circuit_sampleCycle (circuit.mono (by decide)) with rfl | rfl
  · exact absurd (circuit.closed 0 rfl 1 rfl) (by decide)
  · exact absurd circuit.steps (by decide)

theorem payingCoinbase_unsorted :
    samplePayingCoinbase.isCoinBase = true ∧ sampleOrderEnv.nShareFeeBlock ≤ 100 ∧
      (let graph := createGraphFromVTX sampleOrderEnv ∅ 100 [samplePayingCoinbase]
      EnumeratesCircuits graph.edges
        (sampleOrderEnv.hawickCircuits graph.vertices.length graph.edges)) ∧
      (let graph := createGraphFromVTX sampleOrderEnv ∅ 100 [samplePayingCoinbase]
      let edges := (graphRemoveCycles sampleOrderEnv graph).1.edges
      SortsGraph graph.vertices.length edges
        (sampleOrderEnv.topologicalSort graph.vertices.length edges)) ∧
      sortedVtx sampleOrderEnv ∅ 100 [samplePayingCoinbase] = none :=
  ⟨by decide, by decide, enumerates_single, fun _ => ⟨[1, 0], rfl, by decide, by decide⟩, by decide⟩

def sampleOrdered : List CTransaction :=
  [sampleAllocationTx 1, sampleAllocationTx 2, sampleAllocationTx 3]

/-- The transaction of `b`, whose circuit is cut, comes last. -/
theorem blockOrder_iff_sample :
    (∃ newVtx, sortedVtx sampleOrderEnv ∅ 100 (sampleCoinbase :: sampleOrdered) = some newVtx ∧
      BlockOrdered sampleOrderEnv
        (createGraphFromVTX sampleOrderEnv ∅ 100 (sampleCoinbase :: sampleOrdered))
        (sampleCoinbase :: sampleOrdered) newVtx) ∧
      sortedVtx sampleOrderEnv ∅ 100 (sampleCoinbase :: sampleOrdered) =
        some [sampleCoinbase, sampleAllocationTx 1, sampleAllocationTx 3, sampleAllocationTx 2] :=
  ⟨(blockOrder_iff sampleOrderEnv ∅ 100 (by decide) sampleCoinbase sampleOrdered
    enumerates_sampleCycle fun _ => ⟨[2, 1, 0], rfl, by decide, by decide⟩).mpr
      (by decide), by decide⟩

end Minerium
