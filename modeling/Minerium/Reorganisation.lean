import Minerium.RejectedBlocks
import Minerium.ReorgCore
import Minerium.Undoing

/-! Reorganisations. A chain of accepted blocks determines the coins, but the services only if no
block that was rejected late or disconnected had come to them. -/

namespace Minerium

open ExceptBind List ChainNode

variable {utxo : UtxoMap} {view : CCoinsViewCache} {databases : Databases} {disk : DiskOutcome}
  {s t : ServiceState} {node : ChainNode} {nHeight : Nat}

def SameServices (s t : ServiceState) : Prop := s.startBlock = t.startBlock

structure StoredCoin (tip : Nat) (coin : Coin) : Prop where
  nonneg : 0 ≤ coin.out.nValue.toInt
  spendable : isUnspendable coin.out.scriptPubKey = false
  positive : 0 < coin.nHeight
  below : coin.nHeight ≤ tip

abbrev StoredCoins (tip : Nat) : UtxoMap → Prop :=
  Ledger.AllCoins fun _ coin => StoredCoin tip coin

variable (env : ReorgEnv) {block : LoadedBlock} {chain : List CBlock}

def AcceptedAfter (tip : ChainBlock) (earlier : List CBlock) : Prop :=
  ∃ (loaded : LoadedBlock) (chain : ActiveChain) (services : ServiceState)
    (result : ConnectResult ServiceState), loaded.toCBlock = tip.block ∧
      connectBlock (env.node.connectEnv chain) loaded (earlier.length + 1) false
        (.atop (replayCoins env.node.connect.toBlockEnv earlier)) services = .ok result ∧
      tip.undo = undoWriteToDisk env.keys env.node.connect.hash result.vtxundo
        tip.block.hashPrevBlock

def Accepted (env : ReorgEnv) : List ChainBlock → Prop
  | [] => True
  | tip :: earlier =>
    Accepted env earlier ∧ earlier.length + 1 < 2 ^ 31 ∧
      if isGenesis env.node.connect.toBlockEnv tip.block then tip.undo = []
      else AcceptedAfter env tip (earlier.map (·.block))

structure MatchesReplay (env : ReorgEnv) (node : ChainNode) : Prop where
  accepted : Accepted env node.blocks
  coins : node.coins = replayCoins env.node.connect.toBlockEnv node.chain
  services : SameServices node.databases.services (replayServices env node.chain)

/-- The part of `MatchesReplay` that holds whatever becomes of the services. -/
structure CoinsMatch (env : ReorgEnv) (node : ChainNode) : Prop where
  accepted : Accepted env node.blocks
  coins : node.coins = replayCoins env.node.connect.toBlockEnv node.chain

theorem StoredCoins.unspent {tip : Nat} (stored : StoredCoins tip utxo) : UtxoUnspent utxo :=
  Ledger.CoinsNonneg.unspent fun outpoint coin found => (stored outpoint coin found).nonneg

theorem notGenesis_ne {env : ReorgEnv} {block : CBlock} (chain : ActiveChain)
    (notGenesis : isGenesis env.node.connect.toBlockEnv block = false) :
    blockHash (env.node.connectEnv chain).toBlockEnv block.toCPureBlockHeader ≠
      (env.node.connectEnv chain).hashGenesisBlock := of_decide_eq_false notGenesis

theorem created_stored {tx : CTransaction} (wellFormed : WellFormedTx tx)
    (height : 1 ≤ nHeight) (low : nHeight < 2 ^ 31) (j : Nat) (out : CTxOut)
    (found : tx.vout[j]? = some out) (spendable : isUnspendable out.scriptPubKey = false) :
    StoredCoin nHeight (.make out nHeight tx.isCoinBase) := by
  have whole : (Coin.make out nHeight tx.isCoinBase).nHeight = nHeight := Nat.mod_eq_of_lt low
  exact ⟨wellFormed.outputsNonneg out (mem_of_getElem? found), spendable, by omega, by omega⟩

theorem StoredCoins.mono {tip next : Nat} (stored : StoredCoins tip utxo) (later : tip ≤ next) :
    StoredCoins next utxo := fun outpoint coin found =>
  { stored outpoint coin found with below := (stored outpoint coin found).below.trans later }

section

variable {env : ReorgEnv} {chain : ActiveChain} {block : LoadedBlock} {earlier : List CBlock}
  {services : ServiceState} {result : ConnectResult ServiceState}
  (stored : StoredCoins earlier.length (replayCoins env.node.connect.toBlockEnv earlier))
  (notGenesis : isGenesis env.node.connect.toBlockEnv block.toCBlock = false)
  (accepted : connectBlock (env.node.connectEnv chain) block (earlier.length + 1) false (.atop
    (replayCoins env.node.connect.toBlockEnv earlier)) services = .ok result)
include stored notGenesis accepted

theorem replayCoins_accepted :
    replayCoins env.node.connect.toBlockEnv (block.toCBlock :: earlier) = result.view.flush := by
  obtain ⟨coinbase, rest, utxo', spent, vtxEq, -, -, connected⟩ :=
    connectBlock_refines stored.unspent (notGenesis_ne chain notGenesis) accepted
  have applied : Ledger.applyTxs (txHash env.node.connect.toBlockEnv) (earlier.length + 1)
      (replayCoins env.node.connect.toBlockEnv earlier) block.vtx = some (utxo', [] :: spent) := by
    rw [vtxEq]
    exact connected.applied
  rw [replayCoins, notGenesis, applied, flush_eq connected.represents]
  rfl

theorem replayCoins_stored_tip (low : earlier.length + 1 < 2 ^ 31) :
    StoredCoins (earlier.length + 1) result.view.flush := by
  obtain ⟨coinbase, rest, utxo', spent, vtxEq, -, -, connected⟩ :=
    connectBlock_refines stored.unspent (notGenesis_ne chain notGenesis) accepted
  obtain ⟨wellFormed, -⟩ := connectBlock_cases (notGenesis_ne chain notGenesis) accepted
  rw [flush_eq connected.represents]
  refine (Ledger.AllCoins.applyTxs (stored.mono (Nat.le_succ _)) ?_ connected.applied).1
  intro tx member
  rw [← vtxEq] at member
  exact created_stored (wellFormed.transactions tx member) (by omega) low

end

theorem replayCoins_stored {env : ReorgEnv} {blocks : List ChainBlock}
    (accepted : Accepted env blocks) :
    StoredCoins (blocks.map (·.block)).length
      (replayCoins env.node.connect.toBlockEnv (blocks.map (·.block))) := by
  induction blocks with
  | nil =>
    intro outpoint coin found
    cases found
  | cons tip earlier ih =>
    obtain ⟨before, low, last⟩ := accepted
    have stored := ih before
    cases genesis : isGenesis env.node.connect.toBlockEnv tip.block with
    | true =>
      rw [map_cons, replayCoins, genesis]
      exact stored.mono (Nat.le_succ _)
    | false =>
      rw [genesis] at last
      obtain ⟨loaded, chain, services, result, same, connected, -⟩ := last
      rw [← same] at genesis
      rw [map_cons, ← same, replayCoins_accepted stored genesis connected]
      exact replayCoins_stored_tip stored genesis connected (by rwa [length_map])

/-- What the coinbases of a chain have paid out. -/
def minted (env : ReorgEnv) : List CBlock → Int
  | [] => 0
  | tip :: earlier =>
    minted env earlier + if isGenesis env.node.connect.toBlockEnv tip then 0
      else tip.vtx.head?.elim 0 (outputSum ·.vout)

theorem replayCoins_value {env : ReorgEnv} {blocks : List ChainBlock}
    (accepted : Accepted env blocks) (fits : minted env (blocks.map (·.block)) < 2 ^ 63) :
    Ledger.value (replayCoins env.node.connect.toBlockEnv (blocks.map (·.block))) ≤
      minted env (blocks.map (·.block)) := by
  induction blocks with
  | nil => exact le_rfl
  | cons tip earlier ih =>
    obtain ⟨before, -, last⟩ := accepted
    have stored := replayCoins_stored before
    cases genesis : isGenesis env.node.connect.toBlockEnv tip.block with
    | true =>
      rw [map_cons, minted, genesis, if_pos rfl, add_zero] at fits ⊢
      rw [replayCoins, genesis]
      exact ih before fits
    | false =>
      rw [genesis, if_neg Bool.false_ne_true] at last
      rw [map_cons, minted, genesis, if_neg Bool.false_ne_true] at fits ⊢
      obtain ⟨loaded, chain, services, result, same, connected, -⟩ := last
      rw [← same] at genesis fits ⊢
      obtain ⟨wellFormed, -⟩ := connectBlock_cases (notGenesis_ne chain genesis) connected
      obtain ⟨coinbase, rest, utxo', spent, vtxEq, -, -, refined⟩ :=
        connectBlock_refines stored.unspent (notGenesis_ne chain genesis) connected
      have nonneg (tx : CTransaction) (member : tx ∈ coinbase :: rest) :=
        (wellFormed.transactions tx (vtxEq ▸ member)).outputsNonneg
      have paid := outputSum_nonneg (nonneg coinbase mem_cons_self)
      rw [replayCoins_accepted stored genesis connected, flush_eq refined.represents]
      rw [vtxEq, head?_cons, Option.elim_some] at fits ⊢
      have below := ih before (by omega)
      have burnt : 0 ≤ Ledger.unspendableTotal (coinbase :: rest) :=
        sum_nonneg (by simpa using fun tx member => Ledger.unspendableSum_nonneg (nonneg tx member))
      obtain ⟨fees, value⟩ := refined.value
        (fun outpoint coin found => (stored outpoint coin found).nonneg) (by omega)
      omega

theorem servicesAfter_same {node : NodeEnv} {chain : ActiveChain} {pcoinsTip : UtxoMap}
    {nHeight : Nat} {vtx : List CTransaction} (same : SameServices s t) :
    SameServices (node.servicesAfter chain pcoinsTip nHeight vtx s)
      (node.servicesAfter chain pcoinsTip nHeight vtx t) := by
  unfold NodeEnv.servicesAfter
  split
  · have started : s.startBlock = t.startBlock := same
    simp only [connectServices, started]
    rfl
  · exact same

theorem connectBlock_genesis_keeps {σ : Type} {env : ConnectEnv σ}
    {services : σ} {result : ConnectResult σ}
    (accepted : connectBlock env block nHeight false view services = .ok result)
    (genesis : isGenesis env.toBlockEnv block.toCBlock = true) :
    result.view = view ∧ result.services = services := by
  unfold connectBlock at accepted
  obtain ⟨-, -, accepted⟩ := bind_eq_ok.mp accepted
  obtain ⟨checked, -, accepted⟩ := bind_eq_ok.mp accepted
  rw [if_pos (of_decide_eq_true genesis)] at accepted
  cases accepted
  exact ⟨rfl, rfl⟩

theorem accepted_services {env : ReorgEnv} {chain : ActiveChain}
    {services : ServiceState} {result : ConnectResult ServiceState}
    (notGenesis : isGenesis env.node.connect.toBlockEnv block.toCBlock = false)
    (accepted : connectBlock (env.node.connectEnv chain) block nHeight false (.atop utxo) services
      = .ok result) :
    result.services = env.node.servicesAfter chain utxo nHeight block.vtx services := by
  obtain ⟨-, -, -, -, -, -, -, -, ran, -⟩ :=
    connectBlock_cases (notGenesis_ne chain notGenesis) accepted
  rw [← Option.some.inj ran, NodeEnv.servicesAfter]
  cases env.node.fLoaded with
  | false => rfl
  | true => rfl

section

variable {env : ReorgEnv} {result : ConnectResult Unit} (low : node.blocks.length + 1 < 2 ^ 31)
  (accepted : connectBlock (env.node.connectEnv (activeChain env.nTimeGenesis node.chain)) block
    (node.blocks.length + 1) false (.atop node.coins) node.databases.services = .ok ⟨result.view,
    result.nFees, result.vtxundo, databases.services⟩)
include low accepted

theorem coins_tip (matched : CoinsMatch env node) : CoinsMatch env
    { blocks := ⟨block.toCBlock, env.undoFile block.toCBlock result.vtxundo⟩ :: node.blocks
      coins := result.view.flush, databases := databases } := by
  have stored := replayCoins_stored matched.accepted
  have length : node.blocks.length = node.chain.length := (length_map _).symm
  cases genesis : isGenesis env.node.connect.toBlockEnv block.toCBlock with
  | true =>
    refine ⟨⟨matched.accepted, low, ?_⟩, ?_⟩
    · simp only [genesis, if_true, ReorgEnv.undoFile]
    · change result.view.flush = replayCoins _ (block.toCBlock :: node.chain)
      rw [replayCoins, genesis,
        show result.view = _ from (connectBlock_genesis_keeps accepted genesis).1]
      exact matched.coins
  | false =>
    rw [matched.coins, length] at accepted
    refine ⟨⟨matched.accepted, low, ?_⟩, ?_⟩
    · simp only [genesis, Bool.false_eq_true, if_false]
      refine ⟨block, _, _, _, rfl, accepted, ?_⟩
      simp only [ReorgEnv.undoFile, genesis, Bool.false_eq_true, if_false]
    · exact (replayCoins_accepted stored genesis accepted).symm

theorem consistent_tip (consistent : MatchesReplay env node) : MatchesReplay env
    { blocks := ⟨block.toCBlock, env.undoFile block.toCBlock result.vtxundo⟩ :: node.blocks
      coins := result.view.flush, databases := databases } := by
  obtain ⟨acceptedTip, coins⟩ := coins_tip low accepted ⟨consistent.accepted, consistent.coins⟩
  refine ⟨acceptedTip, coins, ?_⟩
  change SameServices databases.services (replayServices env (block.toCBlock :: node.chain))
  have length : node.blocks.length = node.chain.length := (length_map _).symm
  cases genesis : isGenesis env.node.connect.toBlockEnv block.toCBlock with
  | true =>
    rw [replayServices, genesis,
      show databases.services = _ from (connectBlock_genesis_keeps accepted genesis).2]
    exact consistent.services
  | false =>
    rw [consistent.coins, length] at accepted
    rw [replayServices, genesis,
      show databases.services = _ from accepted_services genesis accepted]
    exact servicesAfter_same consistent.services

end

/-- What the next block of a chain is connected in, when the chain is replayed. -/
def ReorgEnv.context (chain : List CBlock) : BlockContext :=
  env.node.context (activeChain env.nTimeGenesis chain)
    (replayCoins env.node.connect.toBlockEnv chain) (chain.length + 1)

section

variable (node : ChainNode)

def ChainNode.context : BlockContext :=
  env.node.context (activeChain env.nTimeGenesis node.chain) node.coins (node.blocks.length + 1)

def ChainNode.reachesServices (block : LoadedBlock) (pos : CDiskBlockPos) : Bool :=
  env.node.reachesServices pos block (node.blocks.length + 1) (.atop node.coins)

/-- No transaction of a block that is connected acts. -/
def Idle : ChainAction → Prop
  | .connect block pos _ => node.reachesServices env block pos = true →
      BlockTurnedAway (node.context env) node.databases.services block.vtx
  | .disconnect _ => True

/-- A block that is rejected after its services have run has none that acts, and no more has one
that is disconnected. -/
def Reversible : ChainAction → Prop
  | .connect block pos disk =>
    node.blocks.length + 1 < 2 ^ 31 ∧
      ((node.connect env block pos disk).blocks.length = node.blocks.length →
        Idle env node (.connect block pos disk))
  | .disconnect disk =>
    match node.chain with
    | [] => True
    | tip :: earlier =>
      env.node.fLoaded = true → (node.disconnect env disk).blocks.length = earlier.length →
        BlockTurnedAway (env.context earlier) (replayServices env earlier) tip.vtx

instance (action : ChainAction) : Decidable (Idle env node action) := by
  unfold Idle BlockTurnedAway
  cases action with
  | connect block pos disk => infer_instance
  | disconnect disk => infer_instance

instance (action : ChainAction) : Decidable (Reversible env node action) := by
  unfold Reversible BlockTurnedAway
  cases action with
  | connect block pos disk => infer_instance
  | disconnect disk =>
    dsimp only
    split
    · infer_instance
    · infer_instance

end

theorem sameServices_turnedAway {ctx : BlockContext} {vtx : List CTransaction}
    (idle : BlockTurnedAway ctx s vtx) : SameServices (connectServices ctx vtx s) s := by
  rw [SameServices, connectServices_turnedAway idle]
  rfl

theorem connect_services {env : ReorgEnv} {pos : CDiskBlockPos} :
    (node.connect env block pos disk).databases.services =
      if node.reachesServices env block pos then
        connectServices (node.context env) block.vtx node.databases.services
      else node.databases.services := by
  refine Eq.trans ?_ (connectBlock_services env.node (activeChain env.nTimeGenesis node.chain) disk
    pos block (node.blocks.length + 1) (.atop node.coins) node.databases)
  rw [connect]
  generalize env.node.connectBlock _ disk pos block _ false _ node.databases = outcome
  obtain ⟨ended, after⟩ := outcome
  cases ended with
  | error failure => rfl
  | ok result => rfl

theorem connect_idle {env : ReorgEnv} {pos : CDiskBlockPos}
    (idle : Idle env node (.connect block pos disk)) :
    SameServices (node.connect env block pos disk).databases.services node.databases.services := by
  rw [connect_services]
  split
  · rename_i reached
    exact sameServices_turnedAway (idle reached)
  · rfl

theorem connect_consistent {env : ReorgEnv} {pos : CDiskBlockPos}
    (consistent : MatchesReplay env node)
    (reversible : Reversible env node (.connect block pos disk)) :
    MatchesReplay env (node.connect env block pos disk) := by
  obtain ⟨low, idle⟩ := reversible
  have kept := fun rejected => connect_idle (idle rejected)
  unfold connect at kept ⊢
  cases outcome : env.node.connectBlock (activeChain env.nTimeGenesis node.chain) disk pos block
      (node.blocks.length + 1) false (.atop node.coins) node.databases with
  | mk ended databases =>
    rw [outcome] at kept
    cases ended with
    | error failure =>
      exact ⟨consistent.accepted, consistent.coins, (kept rfl).trans consistent.services⟩
    | ok result => exact consistent_tip low (connectBlock_accepted outcome) consistent

theorem undone_coins {env : ReorgEnv} {tip : ChainBlock} {earlier : List ChainBlock}
    (accepted : Accepted env (tip :: earlier))
    (undone : disconnectBlock env.keys env.node.connect.toBlockEnv tip.block (earlier.length + 1)
      tip.undo tip.block.hashPrevBlock (.atop (replayCoins env.node.connect.toBlockEnv (tip.block
      :: earlier.map (·.block)))) = .ok (.DISCONNECT_OK, view)) :
    view.flush = replayCoins env.node.connect.toBlockEnv (earlier.map (·.block)) := by
  obtain ⟨before, low, last⟩ := accepted
  have stored := replayCoins_stored before
  cases genesis : isGenesis env.node.connect.toBlockEnv tip.block with
  | true =>
    rw [genesis, if_pos rfl] at last
    rw [last] at undone
    cases undone
  | false =>
    rw [genesis, if_neg Bool.false_ne_true] at last
    obtain ⟨loaded, chain, services, result, same, connected, file⟩ := last
    rw [← same] at genesis undone file
    let utxo : UtxoSet := ⟨_, stored.unspent, fun outpoint coin found =>
      (stored outpoint coin found).spendable⟩
    have heights : HeightsFit utxo.coins := by
      intro outpoint coin found
      have below := (stored outpoint coin found).below
      rw [length_map] at below
      exact ⟨(stored outpoint coin found).positive, by omega⟩
    obtain ⟨coinbase, rest, utxo', spent, vtxEq, first, others, refined⟩ :=
      connectBlock_refines utxo.unspent (notGenesis_ne chain genesis) connected
    obtain ⟨wellFormed, -⟩ := connectBlock_cases (notGenesis_ne chain genesis) connected
    rw [vtxEq] at wellFormed
    obtain ⟨-, restoredView, again, restored⟩ := connected_undone heights (by omega)
      (by rw [length_map]; omega) wellFormed refined env.keys loaded.hashPrevBlock vtxEq first
      others
    rw [replayCoins_accepted stored genesis connected, file] at undone
    rw [length_map] at again
    have view_eq := again.symm.trans undone
    cases view_eq
    exact restored

theorem disconnect_cases {env : ReorgEnv} : ∃ databases,
    databases.services = node.databases.services ∧
      (node.disconnect env disk = { node with databases := databases } ∨
        ∃ tip earlier view, node.blocks = tip :: earlier ∧
          node.disconnect env disk = ⟨earlier, view.flush, databases⟩ ∧
          disconnectBlock env.keys env.node.connect.toBlockEnv tip.block (earlier.length + 1)
            tip.undo tip.block.hashPrevBlock (.atop node.coins) = .ok (.DISCONNECT_OK, view)) := by
  obtain ⟨blocks, coins, databases⟩ := node
  cases blocks with
  | nil => exact ⟨databases, rfl, .inl rfl⟩
  | cons tip earlier =>
    have keeps := disconnectBlock_keeps env.node env.keys disk tip.block (earlier.length + 1)
      tip.undo tip.block.hashPrevBlock (.atop coins) databases trivial
    simp only [Procedure.wp, disconnect] at keeps ⊢
    generalize env.node.disconnectBlock env.keys disk tip.block (earlier.length + 1) tip.undo
      tip.block.hashPrevBlock (.atop coins) databases = outcome at keeps ⊢
    obtain ⟨ended, after⟩ := outcome
    cases ended with
    | error failure => exact ⟨after, keeps.2, .inl rfl⟩
    | ok result =>
      obtain ⟨-, unchanged, undone⟩ := keeps
      obtain ⟨clean, view⟩ := result
      cases clean with
      | DISCONNECT_UNCLEAN => exact ⟨after, unchanged, .inl rfl⟩
      | DISCONNECT_OK => exact ⟨after, unchanged, .inr ⟨tip, earlier, view, rfl, rfl, undone⟩⟩

theorem disconnect_coins {env : ReorgEnv} (matched : CoinsMatch env node) :
    CoinsMatch env (node.disconnect env disk) := by
  obtain ⟨databases, -, same | ⟨tip, earlier, view, blocks, same, undone⟩⟩ :=
    @disconnect_cases disk node env
  · rw [same]
    exact ⟨matched.accepted, matched.coins⟩
  · obtain ⟨accepted, coins⟩ := matched
    rw [ChainNode.chain, blocks] at coins
    rw [blocks] at accepted
    rw [coins] at undone
    rw [same]
    exact ⟨accepted.1, undone_coins accepted undone⟩

theorem replayServices_turnedAway {tip : CBlock} {earlier : List CBlock}
    (idle : env.node.fLoaded = true →
      BlockTurnedAway (env.context earlier) (replayServices env earlier) tip.vtx) :
    SameServices (replayServices env (tip :: earlier)) (replayServices env earlier) := by
  rw [replayServices]
  split
  · rfl
  · unfold NodeEnv.servicesAfter
    split
    · rename_i loaded
      exact sameServices_turnedAway (idle loaded)
    · rfl

theorem disconnect_consistent {env : ReorgEnv} (consistent : MatchesReplay env node)
    (reversible : Reversible env node (.disconnect disk)) :
    MatchesReplay env (node.disconnect env disk) := by
  obtain ⟨accepted, coins⟩ := disconnect_coins ⟨consistent.accepted, consistent.coins⟩
  refine ⟨accepted, coins, ?_⟩
  obtain ⟨databases, unchanged, same | ⟨tip, earlier, view, blocks, same, -⟩⟩ :=
    @disconnect_cases disk node env
  · rw [same]
    change SameServices databases.services _
    rw [unchanged]
    exact consistent.services
  · rw [same]
    change SameServices databases.services (replayServices env (earlier.map (·.block)))
    rw [unchanged]
    have services := consistent.services
    rw [ChainNode.chain, blocks] at services
    simp only [Reversible, ChainNode.chain, blocks, map_cons, same, length_map] at reversible
    exact services.trans (replayServices_turnedAway env fun loaded => reversible loaded trivial)

def ChainNode.run (env : ReorgEnv) (actions : List ChainAction) : ChainNode :=
  Run.run (.step env) start actions

theorem run_consistent {env : ReorgEnv} {actions : List ChainAction}
    (reversible : Run.Permitted (.step env) (Reversible env) start actions) :
    MatchesReplay env (.run env actions) := by
  refine Run.invariant ?_ ⟨trivial, rfl, rfl⟩ reversible
  intro node action consistent permitted
  cases action with
  | connect block pos disk => exact connect_consistent consistent permitted
  | disconnect disk => exact disconnect_consistent consistent permitted

/-- The heights of the stored coins keep their 31 bits. -/
def LowChain (node : ChainNode) (_ : ChainAction) : Prop := node.blocks.length + 1 < 2 ^ 31

instance (node : ChainNode) (action : ChainAction) : Decidable (LowChain node action) :=
  inferInstanceAs (Decidable (_ < _))

theorem run_coins {env : ReorgEnv} {actions : List ChainAction}
    (low : Run.Permitted (.step env) LowChain start actions) :
    CoinsMatch env (.run env actions) := by
  refine Run.invariant ?_ ⟨trivial, rfl⟩ low
  intro node action matched low
  cases action with
  | connect block pos disk =>
    change CoinsMatch env (node.connect env block pos disk)
    unfold connect
    cases outcome : env.node.connectBlock (activeChain env.nTimeGenesis node.chain) disk pos block
        (node.blocks.length + 1) false (.atop node.coins) node.databases with
    | mk ended databases =>
      cases ended with
      | error failure => exact ⟨matched.accepted, matched.coins⟩
      | ok result => exact coins_tip low (connectBlock_accepted outcome) matched
  | disconnect disk => exact disconnect_coins matched

theorem records_of_same (same : SameServices s t) : s.records = t.records := by
  have started : s.startBlock = t.startBlock := same
  rw [ServiceState.records, ServiceState.records, started]

theorem activeChain_unmarked {nTimeGenesis : UInt32} :
    activeChain nTimeGenesis (chain.map unmarked) = activeChain nTimeGenesis chain := by
  cases chain with
  | nil => rfl
  | cons tip earlier =>
    simp only [map_cons, activeChain, map_map]
    rfl

theorem replayCoins_unmarked {env : BlockEnv} :
    replayCoins env (chain.map unmarked) = replayCoins env chain := by
  induction chain with
  | nil => rfl
  | cons block earlier ih =>
    rw [map_cons, replayCoins, replayCoins, ih, length_map]
    rfl

theorem replayServices_unmarked :
    replayServices env (chain.map unmarked) = replayServices env chain := by
  induction chain with
  | nil => rfl
  | cons block earlier ih =>
    rw [map_cons, replayServices, replayServices, ih, length_map,
      activeChain_unmarked, replayCoins_unmarked]
    rfl

theorem reorganised_records_eq (env : ReorgEnv) (first second : List ChainAction)
    (reversibleFirst : Run.Permitted (.step env) (Reversible env) start first)
    (reversibleSecond : Run.Permitted (.step env) (Reversible env) start second)
    (sameChain : (run env first).chain.map unmarked = (run env second).chain.map
      unmarked) : (run env first).databases.services.records =
      (run env second).databases.services.records := by
  apply records_of_same
  have one := (run_consistent reversibleFirst).services
  have two := (run_consistent reversibleSecond).services
  rw [← replayServices_unmarked, sameChain, replayServices_unmarked] at one
  exact one.trans two.symm

theorem reorganised_coins_eq (env : ReorgEnv) (first second : List ChainAction)
    (lowFirst : Run.Permitted (.step env) LowChain start first)
    (lowSecond : Run.Permitted (.step env) LowChain start second)
    (sameChain : (run env first).chain.map unmarked = (run env second).chain.map unmarked) :
    (run env first).coins = (run env second).coins ∧
      StoredCoins (run env first).chain.length (run env first).coins := by
  obtain ⟨accepted, one⟩ := run_coins lowFirst
  have two := (run_coins lowSecond).coins
  rw [← replayCoins_unmarked, ← sameChain, replayCoins_unmarked] at two
  refine ⟨one.trans two.symm, ?_⟩
  rw [one]
  exact replayCoins_stored accepted

theorem run_value_le_minted (env : ReorgEnv) (actions : List ChainAction)
    (low : Run.Permitted (.step env) LowChain start actions)
    (fits : minted env (run env actions).chain < 2 ^ 63) :
    Ledger.value (run env actions).coins ≤ minted env (run env actions).chain := by
  obtain ⟨accepted, coins⟩ := run_coins low
  rw [coins]
  exact replayCoins_value accepted fits

def sampleMint (i : Nat) : CTransaction :=
  { coinbasePaying (if i = 0 then COIN else 0) with nLockTime := UInt32.ofNat i }

def sampleReorgEnv (payloads : UInt8 → Option SamplePayload) : ReorgEnv :=
  ⟨sampleNodeEnv payloads, sampleKeys, 0⟩

def sampleConnect (vtx : List CTransaction) : ChainAction :=
  .connect (sampleLoaded vtx) ⟨0, 0⟩ fun _ => none

def sampleDisconnect : ChainAction := .disconnect fun _ => none

def sampleMine (count : Nat) : List ChainAction :=
  (List.range count).map fun i => sampleConnect [sampleMint i]

def sampleFirstService (scripts : List CScript) (payload : UInt8) : CTransaction :=
  { nVersion := MINERIUM_TX_VERSION
    vin := [{ prevout := ⟨txHash sampleBlockEnv (sampleMint 0), 0⟩, scriptSig := []
              nSequence := SEQUENCE_FINAL }]
    vout := scripts.map (⟨0, ·⟩) ++ [⟨0, [0x6a, 1, payload, 1, payload]⟩]
    nLockTime := 0 }

theorem reorganised_coins_eq_sample : (run (sampleReorgEnv fun _ => none)
      [sampleConnect [sampleMint 0], sampleDisconnect, sampleConnect [sampleMint 0]]).coins =
        (run (sampleReorgEnv fun _ => none) [sampleConnect [sampleMint 0]]).coins :=
  (reorganised_coins_eq _ _ _ (by decide +kernel) (by decide +kernel) (by decide +kernel)).1

theorem run_value_le_minted_sample : Ledger.value (run (sampleReorgEnv fun _ => none)
      [sampleConnect [sampleMint 0], sampleDisconnect, sampleConnect [sampleMint 0]]).coins ≤
        COIN.toInt :=
  (run_value_le_minted _ _ (by decide +kernel) (by decide +kernel)).trans (by decide +kernel)

def sampleAliasEnv : ReorgEnv := sampleReorgEnv fun _ => some (.alias (sampleAliasRecord [0x61]))

/-- An alias is activated, and a block without services is disconnected and connected again. -/
def sampleActivated : List ChainAction :=
  sampleMine 36 ++
    [sampleConnect [sampleMint 36, sampleFirstService [sampleAliasScript 1 [0x61]] 0],
      sampleConnect [sampleMint 37]]

theorem reorganised_records_eq_sample : (run sampleAliasEnv (sampleActivated ++
        [sampleDisconnect, sampleConnect [sampleMint 37]])).databases.services.records =
      (run sampleAliasEnv sampleActivated).databases.services.records ∧
    ((run sampleAliasEnv sampleActivated).databases.services.aliases.names.lookup
      [0x61]).isSome := by
  obtain ⟨longer, shorter, sameChain, activated⟩ :
      Run.Permitted (.step sampleAliasEnv) (Reversible sampleAliasEnv) start
        (sampleActivated ++ [sampleDisconnect, sampleConnect [sampleMint 37]]) ∧
      Run.Permitted (.step sampleAliasEnv) (Reversible sampleAliasEnv) start sampleActivated ∧
      (run sampleAliasEnv (sampleActivated ++
        [sampleDisconnect, sampleConnect [sampleMint 37]])).chain.map unmarked =
        (run sampleAliasEnv sampleActivated).chain.map unmarked ∧
      ((run sampleAliasEnv sampleActivated).databases.services.aliases.names.lookup
        [0x61]).isSome := by decide +kernel
  exact ⟨reorganised_records_eq sampleAliasEnv _ _ longer shorter sameChain, activated⟩

theorem disconnected_alias_stays : (run sampleAliasEnv (sampleMine 36 ++
        [sampleConnect [sampleMint 36, sampleFirstService [sampleAliasScript 1 [0x61]] 0],
          sampleDisconnect])).chain.map unmarked =
      (run sampleAliasEnv (sampleMine 36)).chain.map unmarked ∧
    ((run sampleAliasEnv (sampleMine 36 ++
        [sampleConnect [sampleMint 36, sampleFirstService [sampleAliasScript 1 [0x61]] 0],
          sampleDisconnect])).databases.services.records.aliases.names.lookup [0x61]).isSome ∧
    ((run sampleAliasEnv
      (sampleMine 36)).databases.services.records.aliases.names.lookup [0x61]).isNone := by
  decide +kernel

end Minerium
