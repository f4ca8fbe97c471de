import Minerium.BlockCheck
import Minerium.MerkleRoot
import Minerium.PruneCore
import Minerium.Serialization

/-! What the hash of a block commits to: the transactions up to the scripts of prunable outputs,
unless hashes collide, among blocks with as many transactions. -/

namespace Minerium

open ExceptBind ByteCodec MerkleTree List

variable {vtx : List CTransaction} {tx tx' : CTransaction} (env : ServiceEnv)

variable (script : CScript) {node : NodeEnv}

/-- Unspendable, with a payload that is an alias, an offer, a certificate or an escrow. -/
def prunable : Bool :=
  isUnspendable script &&
    match getScriptData script with
    | none => false
    | some (vchData, vchHash) =>
      (env.unserializeAlias vchData vchHash).isSome ||
        (env.unserializeOffer vchData vchHash).isSome ||
        (env.unserializeCert vchData vchHash).isSome ||
        (env.unserializeEscrow vchData vchHash).isSome

def committedScript : CScript :=
  if prunable env script then [UInt8.ofNat OP_RETURN] else script

def committedTx (tx : CTransaction) : CTransaction :=
  { tx with
    vout := tx.vout.map fun txout =>
      { txout with scriptPubKey := committedScript env txout.scriptPubKey } }

/-- The scripts that hashing leaves out, each at the position of its output. -/
def leftOut (tx : CTransaction) : List (Option CScript) :=
  tx.vout.map fun txout =>
    if prunable env txout.scriptPubKey then some txout.scriptPubKey else none

def unhashedPayloads (tx : CTransaction) : List (Option CScript) :=
  if tx.nVersion = MINERIUM_TX_VERSION then leftOut env tx else []

/-- The services see the outputs of their own transactions only. -/
def servicePart (tx : CTransaction) : CTransaction :=
  if tx.nVersion = MINERIUM_TX_VERSION then tx else { tx with vout := [] }

section

variable (env : ServiceEnv) (chain : ActiveChain) (state : ServiceState)

theorem getTimeToPrune_isSome {script : CScript} :
    (isUnspendable script && (getTimeToPrune env chain state script).isSome) =
      prunable env script := by
  unfold prunable getTimeToPrune
  cases getScriptData script with
  | none => rfl
  | some data =>
    obtain ⟨vchData, vchHash⟩ := data
    dsimp only
    cases env.unserializeAlias vchData vchHash with
    | some record => rfl
    | none =>
      cases env.unserializeOffer vchData vchHash with
      | some offer => rfl
      | none =>
        cases env.unserializeCert vchData vchHash with
        | some cert => rfl
        | none =>
          cases env.unserializeEscrow vchData vchHash with
          | some escrow => rfl
          | none => rfl

theorem dropsScript_hash {script : CScript} :
    dropsScript (pruneEnv env chain state) .SER_GETHASH script = prunable env script := by
  have time : (pruneEnv env chain state).getTimeToPrune script =
      getTimeToPrune env chain state script := rfl
  rw [← getTimeToPrune_isSome env chain state, dropsScript, time]
  cases getTimeToPrune env chain state script with
  | none => rfl
  | some nTime => rfl

theorem serializeTx_hash : serializeTx (pruneEnv env chain state) .SER_GETHASH tx =
      serializeTx keepAll .SER_GETHASH (committedTx env tx) := by
  have output (txout : CTxOut) : serializeTxOut (pruneEnv env chain state) .SER_GETHASH txout =
      serializeTxOut keepAll .SER_GETHASH
        { txout with scriptPubKey := committedScript env txout.scriptPubKey } := by
    rw [serializeTxOut, serializeTxOut, writtenScript, dropsScript_hash, writtenScript_keepAll]
    rfl
  have outputs : writeVector (serializeTxOut (pruneEnv env chain state) .SER_GETHASH) tx.vout =
        writeVector (serializeTxOut keepAll .SER_GETHASH) (committedTx env tx).vout := by
    rw [writeVector, writeVector, committedTx, length_map, flatMap_map, funext output]
  rw [serializeTx, outputs]
  rfl

theorem length_committedScript (script : CScript) : (committedScript env script).length ≤
      (writtenScript (pruneEnv env chain state) .SER_NETWORK script).length + 1 := by
  rw [committedScript]
  split
  · exact Nat.le_add_left _ _
  · rename_i notPrunable
    have kept : dropsScript (pruneEnv env chain state) .SER_NETWORK script = false := by
      rw [← getTimeToPrune_isSome env chain state] at notPrunable
      have time : (pruneEnv env chain state).getTimeToPrune script =
          getTimeToPrune env chain state script := rfl
      rw [dropsScript, time]
      cases found : getTimeToPrune env chain state script with
      | none => exact Bool.and_false _
      | some nTime =>
        rw [found] at notPrunable
        simp only [Option.isSome_some, Bool.and_true, Bool.not_eq_true] at notPrunable
        rw [notPrunable, Bool.false_and]
    rw [writtenScript, kept]
    exact Nat.le_succ _

theorem committedTx_fits (small : txSize (pruneEnv env chain state) tx ≤ MAX_LEGACY_BLOCK_SIZE) :
    FitsCompactSize (committedTx env tx) := by
  have counted := txSize_bounds (pruneEnv env chain state) tx
  have wide : MAX_LEGACY_BLOCK_SIZE + 1 < 2 ^ 64 := by decide
  have parts : (tx.vin.flatMap serializeTxIn).length +
      (tx.vout.flatMap (serializeTxOut (pruneEnv env chain state) .SER_NETWORK)).length ≤
        txSize (pruneEnv env chain state) tx := by
    simp only [txSize, serializeTx, writeVector, length_append]
    omega
  refine ⟨?_, fun txin member => ?_, ?_, fun written member => ?_⟩
  · show tx.vin.length < 2 ^ 64
    omega
  · have original : txin ∈ tx.vin := member
    have here := length_le_flatMap serializeTxIn original
    simp only [serializeTxIn, writeBytes, length_append] at here
    omega
  · rw [committedTx, length_map]
    omega
  · obtain ⟨txout, original, rfl⟩ := mem_map.mp member
    have here := length_le_flatMap (serializeTxOut (pruneEnv env chain state) .SER_NETWORK) original
    simp only [serializeTxOut, writeBytes, length_append] at here
    have length := length_committedScript env chain state txout.scriptPubKey
    show (committedScript env txout.scriptPubKey).length < 2 ^ 64
    omega

end

theorem eq_of_committedScript {env : ServiceEnv} {script script' : CScript}
    (committed : committedScript env script = committedScript env script')
    (payload : (if prunable env script then some script else none) =
      if prunable env script' then some script' else none) : script = script' := by
  unfold committedScript at committed
  by_cases first : prunable env script = true
  · by_cases second : prunable env script' = true
    · rw [if_pos first, if_pos second] at payload
      exact Option.some.inj payload
    · rw [if_pos first, if_neg second] at payload
      cases payload
  · by_cases second : prunable env script' = true
    · rw [if_neg first, if_pos second] at payload
      cases payload
    · rwa [if_neg first, if_neg second] at committed

theorem map_eq_of_map_map {α β γ δ : Type} {f : α → β} {g : α → γ} {h : α → δ} {xs ys : List α}
    (determines : ∀ x ∈ xs, ∀ y ∈ ys, f x = f y → g x = g y → h x = h y)
    (first : xs.map f = ys.map f) (second : xs.map g = ys.map g) : xs.map h = ys.map h := by
  induction xs generalizing ys with
  | nil => rw [map_eq_nil_iff.mp first.symm]
  | cons x xs ih =>
    cases ys with
    | nil => cases first
    | cons y ys =>
      rw [map_cons, map_cons, List.cons.injEq] at first second
      have tails := ih (fun z inside w inside' =>
        determines z (mem_cons_of_mem x inside) w (mem_cons_of_mem y inside')) first.2 second.2
      rw [map_cons, map_cons, tails, determines x mem_cons_self y mem_cons_self first.1 second.1]

theorem eq_of_committedTx {env : ServiceEnv} (committed : committedTx env tx = committedTx env tx')
    (payloads : leftOut env tx = leftOut env tx') : tx = tx' := by
  obtain ⟨nVersion, vin, vout, nLockTime⟩ := tx
  obtain ⟨nVersion', vin', vout', nLockTime'⟩ := tx'
  simp only [committedTx, CTransaction.mk.injEq] at committed
  obtain ⟨rfl, rfl, outputs, rfl⟩ := committed
  have same : vout.map id = vout'.map id := by
    refine map_eq_of_map_map (fun txout _ txout' _ written left => ?_) outputs payloads
    obtain ⟨nValue, scriptPubKey⟩ := txout
    obtain ⟨nValue', scriptPubKey'⟩ := txout'
    simp only [CTxOut.mk.injEq] at written
    rw [written.1, eq_of_committedScript written.2 left]
  rw [map_id, map_id] at same
  rw [same]

theorem servicePart_eq {env : ServiceEnv} (committed : committedTx env tx = committedTx env tx')
    (payloads : unhashedPayloads env tx = unhashedPayloads env tx') :
    servicePart tx = servicePart tx' := by
  have fields := committed
  simp only [committedTx, CTransaction.mk.injEq] at fields
  obtain ⟨version, vin, -, nLockTime⟩ := fields
  unfold unhashedPayloads at payloads
  unfold servicePart
  rw [← version] at payloads ⊢
  split_ifs at payloads ⊢
  · exact eq_of_committedTx committed payloads
  · rw [vin, nLockTime]

section

variable (node) (block : CBlock)

def NodeEnv.hashedTx (tx : CTransaction) : Bytes :=
  serializeTx keepAll .SER_GETHASH (committedTx node.services tx)

def NodeEnv.txid (tx : CTransaction) : Uint256 :=
  node.connect.hash (node.hashedTx tx)

def NodeEnv.blockTree : HashTree Uint256 :=
  merkleTree (block.vtx.map node.txid)

def NodeEnv.joined (left right : Uint256) : Uint256 :=
  hashPair node.connect.toBlockEnv left right

def serializePair (pair : Uint256 × Uint256) : Bytes :=
  serializeUint256 pair.1 ++ serializeUint256 pair.2

/-- Its header, its transactions and the pairs of its merkle tree. -/
def NodeEnv.hashedStrings : Set Bytes :=
  {serializePureHeader block.toCPureBlockHeader} ∪
    { bytes | ∃ tx ∈ block.vtx, bytes = node.hashedTx tx } ∪
    serializePair '' (node.blockTree block).pairs node.joined

/-- The node has made the checks of `CheckBlock`, in some state with a tip. -/
def NodeEnv.HasChecked : Prop :=
  ∃ (env : BlockEnv) (chain : ActiveChain) (state : ServiceState),
    env.hash = node.connect.hash ∧ env.prune = pruneEnv node.services chain state ∧
      checkBlockBody env block true true = .ok ()

/-- What the checks leave behind that no longer depends on the state they were made in. -/
structure NodeEnv.Commits : Prop where
  nonempty : block.vtx ≠ []
  count : block.vtx.length < 2 ^ 31
  fits : ∀ tx ∈ block.vtx, FitsCompactSize (committedTx node.services tx)
  root : (node.blockTree block).IsRoot node.joined block.hashMerkleRoot
  clean : (node.blockTree block).Clean node.joined

end

theorem checkTransactions_txSize {env : BlockEnv} {result : Unit}
    (checked : checkTransactions env vtx = .ok result) :
    ∀ tx ∈ vtx, txSize env.prune tx ≤ MAX_LEGACY_BLOCK_SIZE := by
  intro tx member
  obtain ⟨_, one⟩ := checkTransactions_checked checked tx member
  simp only [checkTransaction, bind_eq_ok, require_eq_ok, decide_eq_true_eq] at one
  obtain ⟨_, _, _, _, _, size, _⟩ := one
  exact size

theorem blockMerkleRoot_eq {env : BlockEnv} {chain : ActiveChain}
    {state : ServiceState} (sameHash : env.hash = node.connect.hash)
    (samePrune : env.prune = pruneEnv node.services chain state) :
    blockMerkleRoot env vtx = computeMerkleRoot node.joined (vtx.map node.txid) := by
  have pairs : hashPair env = node.joined := by
    funext left right
    rw [hashPair, sameHash, NodeEnv.joined, hashPair]
  have identifiers : txHash env = node.txid := by
    funext tx
    rw [txHash, sameHash, samePrune, serializeTx_hash, NodeEnv.txid, NodeEnv.hashedTx]
  rw [blockMerkleRoot, pairs, identifiers]

theorem NodeEnv.HasChecked.commits {block : CBlock}
    (checked : node.HasChecked block) : node.Commits block := by
  obtain ⟨env, chain, state, sameHash, samePrune, passed⟩ := checked
  have wellFormed := checkBlockBody_wellFormed passed
  simp only [checkBlockBody, bind_eq_ok, require_eq_ok] at passed
  obtain ⟨_, _, _, merkle, _, _, _, _, _, _, _, transactions, _⟩ := passed
  simp only [checkMerkleRoot, Bool.not_true, Bool.false_eq_true, if_false, bind_eq_ok,
    require_eq_ok, decide_eq_true_eq, Bool.not_eq_true', blockMerkleRoot_eq sameHash samePrune]
    at merkle
  obtain ⟨_, root, unmutated⟩ := merkle
  have nonempty : block.vtx ≠ [] := by
    obtain ⟨coinbase, rest, vtx, -, -⟩ := wellFormed.coinBaseFirst
    rw [vtx]
    exact cons_ne_nil _ _
  have count : block.vtx.length < 2 ^ 31 := wellFormed.count.trans_lt (by decide)
  have computed := @computeMerkleRoot_spec node.joined (block.vtx.map node.txid)
    (fun empty => nonempty (map_eq_nil_iff.mp empty)) (by rwa [length_map])
  refine ⟨nonempty, count, fun tx member => ?_, ?_, computed.2.mp unmutated⟩
  · have size := checkTransactions_txSize transactions tx member
    rw [samePrune] at size
    exact committedTx_fits node.services chain state size
  · rw [root]
    exact computed.1

section

variable {node : NodeEnv} {first second : CBlock}
  (noCollision : Set.InjOn node.connect.hash (node.hashedStrings first ∪ node.hashedStrings second))

include noCollision

theorem header_eq_of_hash (sameHash : blockHash node.connect.toBlockEnv first.toCPureBlockHeader =
      blockHash node.connect.toBlockEnv second.toCPureBlockHeader) :
    first.toCPureBlockHeader = second.toCPureBlockHeader :=
  serializePureHeader_injective
    (noCollision (.inl (.inl (.inl rfl))) (.inr (.inl (.inl rfl))) sameHash)

theorem joined_injective : Set.InjOn (fun pair : Uint256 × Uint256 => node.joined pair.1 pair.2)
      ((node.blockTree first).pairs node.joined ∪ (node.blockTree second).pairs node.joined) := by
  have hashed : ∀ pair ∈ (node.blockTree first).pairs node.joined ∪
      (node.blockTree second).pairs node.joined,
      serializePair pair ∈ node.hashedStrings first ∪ node.hashedStrings second := by
    rintro pair (member | member)
    · exact .inl (.inr ⟨pair, member, rfl⟩)
    · exact .inr (.inr ⟨pair, member, rfl⟩)
  intro pair member pair' member' same
  have strings := noCollision (hashed pair member) (hashed pair' member') same
  exact (serializeUint256_injective.pair serializeUint256_injective).eq ⟨trivial, trivial⟩
    ⟨trivial, trivial⟩ strings

end

theorem committed_eq_of_hash {first second : CBlock} (noCollision : Set.InjOn node.connect.hash
      (node.hashedStrings first ∪ node.hashedStrings second))
    (commitsFirst : node.Commits first) (commitsSecond : node.Commits second)
    (sameCount : first.vtx.length = second.vtx.length)
    (sameHash : blockHash node.connect.toBlockEnv first.toCPureBlockHeader =
      blockHash node.connect.toBlockEnv second.toCPureBlockHeader) :
    first.toCPureBlockHeader = second.toCPureBlockHeader ∧
      first.vtx.map (committedTx node.services) = second.vtx.map (committedTx node.services) := by
  have header := header_eq_of_hash noCollision sameHash
  have sameRoot : first.hashMerkleRoot = second.hashMerkleRoot :=
    congrArg CPureBlockHeader.hashMerkleRoot header
  have counts : (first.vtx.map node.txid).length = (second.vtx.map node.txid).length := by
    rw [length_map, length_map, sameCount]
  have leaves := HashTree.leaf_eq_of_root_eq (joined_injective noCollision) commitsFirst.clean
    commitsSecond.clean commitsFirst.root (sameRoot ▸ commitsSecond.root) counts
  have identifiers : first.vtx.map node.txid = second.vtx.map node.txid := by
    refine ext_getElem counts fun index insideFirst insideSecond => ?_
    have leaf := leaves index insideFirst
    simp only [NodeEnv.blockTree, merkleTree, getD_eq_getElem?_getD,
      List.getElem?_eq_getElem insideFirst, List.getElem?_eq_getElem insideSecond,
      Option.getD_some] at leaf
    exact leaf
  refine ⟨header, map_eq_of_map_map (fun tx member tx' member' same _ => ?_) identifiers
    identifiers⟩
  exact (serializeTx_injective .SER_GETHASH).eq (commitsFirst.fits tx member)
    (commitsSecond.fits tx' member') (noCollision (.inl (.inl (.inr ⟨tx, member, rfl⟩)))
      (.inr (.inl (.inr ⟨tx', member', rfl⟩))) same)

end Minerium
