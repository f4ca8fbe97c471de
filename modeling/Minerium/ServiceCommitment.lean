import Minerium.Commitment
import Minerium.Reorganisation

/-! The hash of a block does not determine what it does to the services: payloads are read from
scripts that hashing leaves out. -/

namespace Minerium

open ExceptBind MerkleTree List

variable {state : ServiceState} {view : CCoinsViewCache} {payload : UInt8} {auxpow : Option Bytes}
  {node : NodeEnv} {chain : ActiveChain}

/-- A block of which this node only sets `fChecked` after its own checks. -/
structure NodeBlock (node : NodeEnv) extends LoadedBlock where
  checkedHere : toCBlock.fChecked = true → node.HasChecked toCBlock

theorem checkBlock_hasChecked (block : NodeBlock node) {checked : CBlock}
    (passed : checkBlock (node.inState chain state).connect.toBlockEnv block.toCBlock true true =
      .ok checked) : node.HasChecked block.toCBlock := by
  unfold checkBlock at passed
  split at passed
  · rename_i before
    exact block.checkedHere before
  · obtain ⟨_, body, -⟩ := bind_eq_ok.mp passed
    exact ⟨(node.inState chain state).connect.toBlockEnv, chain, state, rfl, rfl, body⟩

theorem accepted_hasChecked (block : NodeBlock node)
    {nHeight : Nat} {result : ConnectResult ServiceState}
    (accepted : connectBlock ((node.inState chain state).connectEnv chain) block.toLoadedBlock
      nHeight false view state = .ok result) : node.HasChecked block.toCBlock := by
  unfold connectBlock at accepted
  obtain ⟨-, -, accepted⟩ := bind_eq_ok.mp accepted
  obtain ⟨checked, passed, -⟩ := bind_eq_ok.mp accepted
  exact checkBlock_hasChecked block passed

section

variable {tx : CTransaction} (vtx : List CTransaction)

theorem decodeAssetAllocationTx_servicePart :
    decodeAssetAllocationTx (servicePart tx) = decodeAssetAllocationTx tx := by
  unfold servicePart
  split_ifs with version
  · rfl
  · rw [decodeAssetAllocationTx, decodeAssetAllocationTx, if_pos version, if_pos version]

theorem servicePart_eq_self (allocation : (decodeAssetAllocationTx tx).isSome = true) :
    servicePart tx = tx := by
  refine if_pos (not_not.mp fun other => ?_)
  rw [decodeAssetAllocationTx, if_pos other] at allocation
  cases allocation

theorem createGraphFromVTX_servicePart (env : OrderEnv) (inputs : UtxoMap) (nHeight : Nat) :
    createGraphFromVTX env inputs nHeight (vtx.map servicePart) =
      createGraphFromVTX env inputs nHeight vtx := by
  rw [createGraphFromVTX, createGraphFromVTX, zipIdx_map, foldl_map]
  congr 1
  funext graph entry
  simp only [addTx, Prod.map_fst, Prod.map_snd, decodeAssetAllocationTx_servicePart, id_eq]
  split_ifs with allocation
  · rw [servicePart_eq_self allocation]
  · rfl

theorem sortedVtx_servicePart (env : OrderEnv) (inputs : UtxoMap) (nHeight : Nat) :
    sortedVtx env inputs nHeight (vtx.map servicePart) =
      (sortedVtx env inputs nHeight vtx).map (map servicePart) := by
  simp only [sortedVtx, createGraphFromVTX_servicePart, dagTopologicalSort]
  split_ifs with noAllocation
  · rfl
  · generalize graphRemoveCycles env (createGraphFromVTX env inputs nHeight vtx) = outcome
    cases env.topologicalSort outcome.1.vertices.length outcome.1.edges with
    | none => rfl
    | some c =>
      have rest : ((vtx.map servicePart).drop 1).filter
          (fun tx => (decodeAssetAllocationTx tx).isNone) =
          ((vtx.drop 1).filter fun tx => (decodeAssetAllocationTx tx).isNone).map servicePart := by
        rw [← map_drop, filter_map]
        simp only [Function.comp_def, decodeAssetAllocationTx_servicePart]
      simp only [rest, ← map_take, getElem?_map, ← map_filterMap, ← map_append, length_map]
      split_ifs with complete
      · rfl
      · rfl

theorem serviceTx_servicePart (ctx : BlockContext) (state : ServiceState) :
    serviceTx ctx (servicePart tx) state = serviceTx ctx tx state := by
  unfold servicePart
  split_ifs with version
  · rfl
  · rw [serviceTx, serviceTx, if_neg version, if_neg version]

theorem connectServices_servicePart (ctx : BlockContext) (state : ServiceState) :
    connectServices ctx (vtx.map servicePart) state = connectServices ctx vtx state := by
  have processed : processedVtx ctx (vtx.map servicePart) =
      (processedVtx ctx vtx).map servicePart := by
    rw [processedVtx, processedVtx, sortedVtx_servicePart]
    cases sortedVtx ctx.env.orderEnv ctx.inputs ctx.nHeight vtx with
    | none => rfl
    | some sorted => rfl
  have sameBody : (fun tx => serviceTx ctx (servicePart tx)) = serviceTx ctx := by
    funext tx state
    exact serviceTx_servicePart ctx state
  rw [connectServices, connectServices, processed, Loop.run_items_map, sameBody]

end

theorem accepted_services_eq {first second : LoadedBlock} {nHeight : Nat} {services : ServiceState}
    {resultFirst resultSecond : ConnectResult ServiceState}
    (acceptedFirst : connectBlock (node.connectEnv chain) first nHeight false view services = .ok
      resultFirst)
    (acceptedSecond : connectBlock (node.connectEnv chain) second nHeight false view services = .ok
      resultSecond) (sameHeader : first.toCPureBlockHeader = second.toCPureBlockHeader)
    (samePart : first.vtx.map servicePart = second.vtx.map servicePart) :
    resultFirst.services = resultSecond.services := by
  by_cases genesis : blockHash (node.connectEnv chain).toBlockEnv first.toCPureBlockHeader =
      (node.connectEnv chain).hashGenesisBlock
  · have genesisSecond := genesis
    rw [sameHeader] at genesisSecond
    rw [(connectBlock_genesis_keeps acceptedFirst (decide_eq_true genesis)).2,
      (connectBlock_genesis_keeps acceptedSecond (decide_eq_true genesisSecond)).2]
  · have notGenesis := genesis
    rw [sameHeader] at notGenesis
    obtain ⟨-, -, -, -, -, -, -, -, runFirst, -⟩ := connectBlock_cases genesis acceptedFirst
    obtain ⟨-, -, -, -, -, -, -, -, runSecond, -⟩ := connectBlock_cases notGenesis acceptedSecond
    simp only [NodeEnv.connectEnv] at runFirst runSecond
    rw [← connectServices_servicePart, samePart, connectServices_servicePart] at runFirst
    exact Option.some.inj (runFirst.symm.trans runSecond)

theorem hashedStrings_two {block : CBlock} {coinbase tx : CTransaction}
    (vtx : block.vtx = [coinbase, tx]) : ∀ bytes ∈ node.hashedStrings block,
      bytes ∈ [serializePureHeader block.toCPureBlockHeader, node.hashedTx coinbase,
        node.hashedTx tx, serializePair (node.txid coinbase, node.txid tx)] := by
  rintro bytes ((header | ⟨hashed, member, rfl⟩) | ⟨pair, ⟨level, index, low, left, rfl⟩, rfl⟩)
  · rw [Set.mem_singleton_iff.mp header]
    exact mem_cons_self
  · rw [vtx] at member
    simp only [mem_cons, not_mem_nil, or_false] at member
    rcases member with rfl | rfl
    · simp
    · simp
  · have count : (node.blockTree block).count = 2 := by simp [NodeEnv.blockTree, merkleTree, vtx]
    rw [count] at low left
    obtain rfl : level = 0 := by
      by_contra above
      have wide : 2 ^ 1 ≤ 2 ^ level := Nat.pow_le_pow_right (by decide) (by omega)
      omega
    obtain rfl : index = 0 := by omega
    have right : (2 * 0 + 1) * 2 ^ 0 < (node.blockTree block).count := by
      rw [count]
      decide
    rw [HashTree.children_whole right]
    simp [HashTree.node, NodeEnv.blockTree, merkleTree, vtx]

def sampleTwinNode : NodeEnv :=
  sampleNodeEnv fun
    | 0 => some (.alias (sampleAliasRecord [0x61]))
    | 1 => some (.alias { sampleAliasRecord [0x61] with vchAddress := [0x62] })
    | _ => none

def sampleTwinState : NodeEnv := sampleTwinNode.inState ⟨0, []⟩ ServiceState.empty

section

variable (payload auxpow)

def sampleTwinTx : CTransaction :=
  sampleServiceTx 1 0 [sampleAliasScript 1 [0x61]] payload

def sampleTwin : NodeBlock sampleTwinNode :=
  { nVersion := 1
    hashPrevBlock := 1
    hashMerkleRoot := (blockMerkleRoot sampleTwinState.connect.toBlockEnv
      [coinbasePaying (7 * COIN), sampleTwinTx 0]).1
    nTime := 0
    nBits := 0
    nNonce := 0
    auxpow := auxpow
    vtx := [coinbasePaying (7 * COIN), sampleTwinTx payload]
    fChecked := false
    checkedSound := fun impossible => by cases impossible
    checkedHere := fun impossible => by cases impossible }

def sampleTwinConnected : Except Failure (ConnectResult Unit) × Databases :=
  sampleTwinState.connectBlock ⟨0, []⟩ (fun _ => none) ⟨0, 0⟩
    (sampleTwin payload auxpow).toLoadedBlock 100 false (.atop (sampleFunds [[0x51]]))
    sampleDatabases

end

def sampleTwinStrings : List Bytes :=
  [serializePureHeader (sampleTwin 0 none).toCPureBlockHeader,
    sampleTwinNode.hashedTx (coinbasePaying (7 * COIN)), sampleTwinNode.hashedTx (sampleTwinTx 0),
    serializePair (sampleTwinNode.txid (coinbasePaying (7 * COIN)),
      sampleTwinNode.txid (sampleTwinTx 0))]

theorem sampleTwin_strings (same : sampleTwinNode.hashedTx (sampleTwinTx payload) =
      sampleTwinNode.hashedTx (sampleTwinTx 0)) :
    ∀ bytes ∈ sampleTwinNode.hashedStrings (sampleTwin payload auxpow).toCBlock,
      bytes ∈ sampleTwinStrings := by
  intro bytes member
  have listed := hashedStrings_two rfl bytes member
  rw [same, NodeEnv.txid, NodeEnv.txid, same] at listed
  exact listed

theorem sampleTwinTx_hashed : ∀ payload ∈ [(0 : UInt8), 1],
    sampleTwinNode.hashedTx (sampleTwinTx payload) =
      sampleTwinNode.hashedTx (sampleTwinTx 0) := by decide +kernel

theorem sampleTwin_noCollision {payload' : UInt8} (auxpow' : Option Bytes)
    (one : payload ∈ [(0 : UInt8), 1]) (other : payload' ∈ [(0 : UInt8), 1]) :
    Set.InjOn sampleTwinNode.connect.hash
      (sampleTwinNode.hashedStrings (sampleTwin payload auxpow).toCBlock ∪
        sampleTwinNode.hashedStrings (sampleTwin payload' auxpow').toCBlock) := by
  have apart : ∀ a ∈ sampleTwinStrings, ∀ b ∈ sampleTwinStrings,
      sampleHash a = sampleHash b → a = b := by decide +kernel
  have listed : ∀ bytes ∈ sampleTwinNode.hashedStrings (sampleTwin payload auxpow).toCBlock ∪
      sampleTwinNode.hashedStrings (sampleTwin payload' auxpow').toCBlock,
      bytes ∈ sampleTwinStrings := by
    rintro bytes (member | member)
    · exact sampleTwin_strings (sampleTwinTx_hashed payload one) bytes member
    · exact sampleTwin_strings (sampleTwinTx_hashed payload' other) bytes member
  intro a member b member' same
  exact apart a (listed a member) b (listed b member') same

end Minerium
