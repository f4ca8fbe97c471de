import Minerium.ArrivalOrderCore
import Minerium.BlockInputs
import Minerium.BlockPayeeCore
import Minerium.Conservation
import Minerium.ServiceRun

/-! The order by arrival times is a stable sort in which a transaction without a time comes first.
-/

namespace Minerium

open Multimap List Ledger Bool

variable {entries : List (CTransaction × Nat)} (vtx : List CTransaction)

section

variable {place : CTransaction → ArrivalPlace}

/-- The order of the ranks is the computable one, whatever orders of `Int` are in scope. -/
instance rankOrder : Preorder (WithBot Int) := @WithBot.instPreorder Int
    Int.instLinearOrder.toPreorder

def arrivalRank (place : CTransaction → ArrivalPlace) (tx : CTransaction) : WithBot Int :=
  match place tx with
  | .timed time => (time.toInt : WithBot Int)
  | _ => ⊥

def comesBefore (place : CTransaction → ArrivalPlace) (a b : CTransaction × Nat) : Bool :=
  decide (arrivalRank place a.1 < arrivalRank place b.1) ||
    (decide (arrivalRank place a.1 = arrivalRank place b.1) && decide (a.2 < b.2))

def plainEntries (place : CTransaction → ArrivalPlace) (entries : List (CTransaction × Nat)) :
    List (CTransaction × Nat) :=
  entries.filter fun entry => decide (place entry.1 = .plain)

def timedEntry (place : CTransaction → ArrivalPlace) (entry : CTransaction × Nat) :
    Option (Int × (CTransaction × Nat)) :=
  match place entry.1 with
  | .timed time => some (time.toInt, entry)
  | _ => none

def timedEntries (place : CTransaction → ArrivalPlace) (entries : List (CTransaction × Nat)) :
    List (Int × (CTransaction × Nat)) :=
  entries.filterMap (timedEntry place)

theorem foldl_add {order : ArrivalOrder} : entries.foldl (ArrivalOrder.add place) order =
      ⟨order.orderedVtx ++ (plainEntries place entries).map (·.1),
        insertAll ((timedEntries place entries).map fun entry => (entry.1, entry.2.2))
          order.orderedIndexes⟩ := by
  induction entries generalizing order with
  | nil => simp [plainEntries, timedEntries, insertAll]
  | cons entry rest ih =>
    rw [foldl_cons, ih]
    cases found : place entry.1 with
    | plain => simp [ArrivalOrder.add, found, plainEntries, timedEntries, timedEntry]
    | timed time =>
      simp [ArrivalOrder.add, found, plainEntries, timedEntries, timedEntry, insertAll]
    | skipped => simp [ArrivalOrder.add, found, plainEntries, timedEntries, timedEntry]

def sortedEntries (place : CTransaction → ArrivalPlace) (vtx : List CTransaction) :
    List (CTransaction × Nat) :=
  plainEntries place vtx.zipIdx ++ (insertAll (timedEntries place vtx.zipIdx) []).map (·.2)

theorem plain_append_timed_perm :
    (plainEntries place entries ++ (timedEntries place entries).map (·.2)).Perm
      (entries.filter fun entry => decide (place entry.1 ≠ .skipped)) := by
  induction entries with
  | nil => exact .refl _
  | cons entry rest ih =>
    cases found : place entry.1 with
    | plain => simpa [plainEntries, timedEntries, timedEntry, found] using ih
    | timed time =>
      simp only [plainEntries, timedEntries, timedEntry, found, filter_cons,
        filterMap_cons, map_cons] at ih ⊢
      exact perm_middle.trans (.cons entry ih)
    | skipped => simpa [plainEntries, timedEntries, timedEntry, found] using ih

theorem sortedEntries_perm (place : CTransaction → ArrivalPlace) (vtx : List CTransaction) :
    (sortedEntries place vtx).Perm
      (vtx.zipIdx.filter fun entry => decide (place entry.1 ≠ .skipped)) := by
  refine .trans ?_ plain_append_timed_perm
  exact ((insertAll_perm []).map _).append_left _

theorem mem_timedEntries {timed : Int × (CTransaction × Nat)}
    (member : timed ∈ timedEntries place entries) :
    timed.2 ∈ entries ∧ arrivalRank place timed.2.1 = (timed.1 : WithBot Int) := by
  obtain ⟨entry, inside, found⟩ := mem_filterMap.mp member
  unfold timedEntry at found
  split at found
  · rename_i time placed
    cases found
    exact ⟨inside, by simp [arrivalRank, placed]⟩
  · cases found

theorem orderedVtx_eq :
    (insertAll ((timedEntries place vtx.zipIdx).map fun entry => (entry.1, entry.2.2))
        []).filterMap (fun orderedIndex => vtx[orderedIndex.2]?) =
      (insertAll (timedEntries place vtx.zipIdx) []).map (·.2.1) := by
  have mapped := insertAll_map Prod.snd (timedEntries place vtx.zipIdx) []
  rw [map_nil] at mapped
  rw [← mapped, filterMap_map, ← filterMap_eq_map]
  refine filterMap_congr fun timed member => ?_
  have inside := (insertAll_perm []).mem_iff.mp member
  have there := (mem_timedEntries (nil_append _ ▸ inside)).1
  exact mem_zipIdx_iff_getElem?.mp there

theorem zipIdx_filter_eq_self {vtx : List CTransaction} :
    (vtx.zipIdx.filter fun entry => decide (place entry.1 ≠ .skipped)) = vtx.zipIdx ↔
      ∀ tx ∈ vtx, place tx ≠ .skipped := by
  rw [filter_eq_self]
  constructor
  · intro all tx member
    obtain ⟨i, bound, rfl⟩ := getElem_of_mem member
    have there : (vtx[i], i) ∈ vtx.zipIdx :=
      mem_zipIdx_iff_getElem?.mpr (List.getElem?_eq_getElem bound)
    exact of_decide_eq_true (all _ there)
  · intro all entry member
    exact decide_eq_true (all _ (fst_mem_of_mem_zipIdx member))

theorem orderByPlace_eq {vtx : List CTransaction} : orderByPlace place vtx =
      if ∀ tx ∈ vtx, place tx ≠ .skipped then some ((sortedEntries place vtx).map (·.1))
      else none := by
  have ordered : (plainEntries place vtx.zipIdx).map (·.1) ++
      (insertAll (timedEntries place vtx.zipIdx) []).map (·.2.1) =
        (sortedEntries place vtx).map (·.1) := by
    simp [sortedEntries]
  have count := (sortedEntries_perm place vtx).length_eq
  simp only [orderByPlace, foldl_add, nil_append, orderedVtx_eq, ordered, length_map, count]
  by_cases all : ∀ tx ∈ vtx, place tx ≠ .skipped
  · rw [if_pos all, zipIdx_filter_eq_self.mpr all, length_zipIdx, if_neg (not_not.mpr rfl)]
  · rw [if_neg all, if_pos]
    intro same
    apply all
    rw [← zipIdx_filter_eq_self]
    exact filter_sublist.eq_of_length (same.symm.trans length_zipIdx.symm)

theorem zipIdx_pairwise : vtx.zipIdx.Pairwise fun a b => a.2 < b.2 := by
  rw [pairwise_iff_getElem]
  intro i j first second less
  simpa using less

theorem timedEntries_pairwise {vtx : List CTransaction} :
    (timedEntries place vtx.zipIdx).Pairwise fun a b => a.2.2 < b.2.2 := by
  refine .filterMap (timedEntry place) ?_ (zipIdx_pairwise vtx)
  intro a b less timedA foundA timedB foundB
  unfold timedEntry at foundA foundB
  split at foundA
  · split at foundB
    · cases foundA
      cases foundB
      exact less
    · cases foundB
  · cases foundA

theorem sortedEntries_pairwise (place : CTransaction → ArrivalPlace) (vtx : List CTransaction) :
    (sortedEntries place vtx).Pairwise fun a b => comesBefore place a b = true := by
  have plainRank : ∀ entry ∈ plainEntries place vtx.zipIdx, arrivalRank place entry.1 = ⊥ := by
    intro entry member
    have placed := of_decide_eq_true (mem_filter.mp member).2
    simp [arrivalRank, placed]
  have timedRank : ∀ timed ∈ insertAll (timedEntries place vtx.zipIdx) [],
      arrivalRank place timed.2.1 = (timed.1 : WithBot Int) := by
    intro timed member
    have inside := (insertAll_perm []).mem_iff.mp member
    exact (mem_timedEntries (nil_append _ ▸ inside)).2
  refine pairwise_append.mpr ⟨?_, ?_, ?_⟩
  · have order := (zipIdx_pairwise vtx).filter fun entry => decide (place entry.1 = .plain)
    refine .imp_of_mem ?_ order
    intro a b memberA memberB less
    simp [comesBefore, plainRank a memberA, plainRank b memberB, less]
  · have order : (insertAll (timedEntries place vtx.zipIdx) []).Pairwise
        (Before fun a b => a.2 < b.2) :=
      insertAll_pairwise List.Pairwise.nil timedEntries_pairwise
        (fun other absurd => by cases absurd)
    refine pairwise_map.mpr (.imp_of_mem ?_ order)
    intro a b memberA memberB before
    simp only [comesBefore, timedRank a memberA, timedRank b memberB, or_eq_true,
      and_eq_true, decide_eq_true_eq, WithBot.coe_lt_coe, WithBot.coe_inj]
    exact before
  · intro a memberA b memberB
    obtain ⟨timed, inside, rfl⟩ := mem_map.mp memberB
    simp [comesBefore, plainRank a memberA, timedRank timed inside]

theorem comesBefore_asymm (a : CTransaction × Nat) {b : CTransaction × Nat}
    (before : comesBefore place a b = true) : comesBefore place b a = false := by
  simp only [comesBefore, or_eq_true, and_eq_true, decide_eq_true_eq, or_eq_false_iff,
    and_eq_false_imp, decide_eq_false_iff_not] at before ⊢
  rcases before with less | ⟨same, less⟩
  · exact ⟨lt_asymm less, fun same => absurd (same ▸ less) (lt_irrefl _)⟩
  · exact ⟨fun more => absurd (same ▸ more) (lt_irrefl _), fun _ => by omega⟩

theorem sortedEntries_perm_zipIdx {vtx : List CTransaction}
    (all : ∀ tx ∈ vtx, place tx ≠ .skipped) : (sortedEntries place vtx).Perm vtx.zipIdx := by
  have perm := sortedEntries_perm place vtx
  rwa [zipIdx_filter_eq_self.mpr all] at perm

theorem sorted_perm {vtx : List CTransaction} (all : ∀ tx ∈ vtx, place tx ≠ .skipped) :
    ((sortedEntries place vtx).map (·.1)).Perm vtx := by
  have perm := (sortedEntries_perm_zipIdx all).map (·.1)
  rwa [zipIdx_map_fst] at perm

end

section

variable {place : CTransaction → ArrivalPlace} {txid : CTransaction → Uint256}
  {vtx : List CTransaction}

def parentsRanked (place : CTransaction → ArrivalPlace) (txid : CTransaction → Uint256)
    (vtx : List CTransaction) : Prop :=
  ∀ parent ∈ vtx, ∀ child ∈ vtx, spendsFrom txid child parent = true →
    arrivalRank place parent ≤ arrivalRank place child

theorem not_spends_of_earlier (order : parentsFirst txid vtx) {a b : CTransaction × Nat}
    (memberA : a ∈ vtx.zipIdx) (memberB : b ∈ vtx.zipIdx) (less : a.2 < b.2) :
    spendsFrom txid a.1 b.1 = false := by
  obtain ⟨boundA, foundA⟩ := List.getElem?_eq_some_iff.mp (mem_zipIdx_iff_getElem?.mp memberA)
  obtain ⟨boundB, foundB⟩ := List.getElem?_eq_some_iff.mp (mem_zipIdx_iff_getElem?.mp memberB)
  have pair := pairwise_iff_getElem.mp order a.2 b.2 boundA boundB less
  rwa [foundA, foundB] at pair

theorem sorted_parentsFirst (all : ∀ tx ∈ vtx, place tx ≠ .skipped)
    (order : parentsFirst txid vtx) (ranked : parentsRanked place txid vtx) :
    parentsFirst txid ((sortedEntries place vtx).map (·.1)) := by
  refine pairwise_map.mpr (.imp_of_mem ?_ (sortedEntries_pairwise place vtx))
  intro a b memberA memberB before
  have insideA := (sortedEntries_perm_zipIdx all).mem_iff.mp memberA
  have insideB := (sortedEntries_perm_zipIdx all).mem_iff.mp memberB
  simp only [comesBefore, or_eq_true, and_eq_true, decide_eq_true_eq] at before
  rcases before with less | ⟨-, less⟩
  · by_contra spends
    rw [not_eq_false] at spends
    have high := ranked b.1 (fst_mem_of_mem_zipIdx insideB) a.1
      (fst_mem_of_mem_zipIdx insideA) spends
    exact absurd less (not_lt.mpr high)
  · exact not_spends_of_earlier order insideA insideB less

theorem ranked_of_sorted (all : ∀ tx ∈ vtx, place tx ≠ .skipped)
    (sorted : parentsFirst txid ((sortedEntries place vtx).map (·.1))) :
    parentsRanked place txid vtx := by
  intro parent memberP child memberC spends
  by_contra high
  rw [not_le] at high
  obtain ⟨i, boundP, rfl⟩ := getElem_of_mem memberP
  obtain ⟨j, boundC, rfl⟩ := getElem_of_mem memberC
  have perm := sortedEntries_perm_zipIdx all
  have insideP : (vtx[i], i) ∈ sortedEntries place vtx := perm.mem_iff.mpr
    (mem_zipIdx_iff_getElem?.mpr (List.getElem?_eq_getElem boundP))
  have insideC : (vtx[j], j) ∈ sortedEntries place vtx := perm.mem_iff.mpr
    (mem_zipIdx_iff_getElem?.mpr (List.getElem?_eq_getElem boundC))
  have both := (sortedEntries_pairwise place vtx).and (pairwise_map.mp sorted)
  -- The child is ranked first, so it stands first, although it spends from the parent.
  have before : comesBefore place (vtx[j], j) (vtx[i], i) = true := by
    simp [comesBefore, high]
  obtain ⟨p, boundp, foundP⟩ := getElem_of_mem insideP
  obtain ⟨c, boundc, foundC⟩ := getElem_of_mem insideC
  rcases Nat.lt_trichotomy c p with less | same | more
  · have pair := (pairwise_iff_getElem.mp both c p boundc boundp less).2
    rw [foundC, foundP, spends] at pair
    cases pair
  · subst same
    rw [foundC, Prod.mk.injEq] at foundP
    rw [foundP.1] at high
    exact lt_irrefl _ high
  · have pair := (pairwise_iff_getElem.mp both p c boundp boundc more).1
    rw [foundC, foundP] at pair
    rw [comesBefore_asymm _ pair] at before
    cases before

end

/-- The transactions of the selection, every parent before its children. -/
def KeepsParents {σ : Type} (env : ConnectEnv σ) (services : ServiceEnv) (state : ServiceState)
    (pcoinsTip : UtxoMap) (nHeight : Nat) (vtx : List CTransaction) : Prop :=
  ∃ newVtx, orderBasedOnArrivalTime services state pcoinsTip nHeight vtx = some newVtx ∧
    newVtx.Perm vtx ∧ parentsFirst (txHash env.toBlockEnv) newVtx ∧
    ∀ (pool : List CTransaction) (tip : TipContext) (block : LoadedBlock) (databases : σ),
      UtxoUnspent pcoinsTip →
      Ledger.MempoolConsistent (txHash env.toBlockEnv) pcoinsTip pool →
      Ledger.BlockSelection (txHash env.toBlockEnv) pool vtx → block.vtx = newVtx →
        FindsInputs (testBlockValidity env tip block pcoinsTip databases)

theorem orderBasedOnArrivalTime_iff {σ : Type} (env : ConnectEnv σ) (services : ServiceEnv)
    (state : ServiceState) (pcoinsTip : UtxoMap) (nHeight : Nat) (vtx : List CTransaction)
    (order : parentsFirst (txHash env.toBlockEnv) vtx) :
    KeepsParents env services state pcoinsTip nHeight vtx ↔
      (∀ tx ∈ vtx, arrivalPlace services state pcoinsTip nHeight tx ≠ .skipped) ∧
        parentsRanked (arrivalPlace services state pcoinsTip nHeight) (txHash env.toBlockEnv)
          vtx := by
  unfold KeepsParents orderBasedOnArrivalTime
  rw [orderByPlace_eq]
  constructor
  · rintro ⟨newVtx, ordered, -, sorted, -⟩
    split at ordered
    · rename_i all
      cases ordered
      exact ⟨all, ranked_of_sorted all sorted⟩
    · cases ordered
  · rintro ⟨all, ranked⟩
    have sorted := sorted_parentsFirst all order ranked
    have perm := sorted_perm all
    refine ⟨_, if_pos all, perm, sorted, ?_⟩
    intro pool tip block databases unspent consistent selection same
    refine testBlockValidity_findsInputs unspent consistent ?_ ?_
    · rw [same]
      exact selection.perm perm
    · rw [same]
      exact sorted

def sampleTemplateEnv : ServiceEnv :=
  { sampleServiceEnv fun
      | 1 => some (.allocation { CAssetAllocation.null with
          vchAsset := [1], vchAliasOrAddress := [0x61] })
      | _ => none with
    txHash := txHash sampleBlockEnv }

def sampleTemplateAllocation : CTransaction :=
  { nVersion := MINERIUM_TX_VERSION
    vin := [{ prevout := sampleOutpoint, scriptSig := [], nSequence := SEQUENCE_FINAL }]
    vout := [⟨49 * COIN, sampleScript .assetAllocation 2 [[1]]⟩, ⟨0, [0x6a, 1, 1, 1, 1]⟩]
    nLockTime := 0 }

def samplePlainSpend (prevout : COutPoint) : CTransaction :=
  { nVersion := 2
    vin := [{ prevout := prevout, scriptSig := [], nSequence := SEQUENCE_FINAL }]
    vout := [⟨48 * COIN, [0x51]⟩]
    nLockTime := 0 }

def sampleTemplateCoinbase (nFees : CAmount) : CTransaction :=
  (createCoinbase (freshNode true) (fun _ => none) [0x51] 100 nFees).txNew

def sampleTip : TipContext where
  nHeight := 99
  isGenesis := false
  medianTimePast := 1000
  nextWorkRequired := 0
  csvActive := true
  adjustedTime := 2000
  regtest := false
  bip34Height := 1
  fCheckpointsEnabled := true
  lastCheckpointHeight := some 50

def sampleTemplateBlock : LoadedBlock :=
  { nVersion := 1
    hashPrevBlock := 1
    hashMerkleRoot := 0
    nTime := 2000
    nBits := 0
    nNonce := 0
    auxpow := none
    vtx := vtx
    fChecked := false
    checkedSound := fun checked => by cases checked }

/-- The child of a plain transaction comes before the allocation it was selected after. -/
theorem orderBasedOnArrivalTime_iff_sample :
    let parent := samplePlainSpend ⟨8, 0⟩
    let child := samplePlainSpend ⟨txHash sampleBlockEnv parent, 0⟩
    let vtx := [sampleTemplateCoinbase 0, parent, sampleTemplateAllocation, child]
    spendsFrom (txHash sampleBlockEnv) child parent = true ∧
      orderBasedOnArrivalTime sampleTemplateEnv ServiceState.empty (sampleUtxo 1) 100 vtx ≠
        some vtx ∧
      parentsFirst (txHash sampleBlockEnv) vtx ∧
      KeepsParents sampleConnectEnv sampleTemplateEnv ServiceState.empty (sampleUtxo 1) 100
        vtx := by
  intro parent child vtx
  have order : parentsFirst (txHash sampleBlockEnv) vtx := by
    unfold parentsFirst
    decide +kernel
  refine ⟨by decide +kernel, by decide +kernel, order, (orderBasedOnArrivalTime_iff
    sampleConnectEnv sampleTemplateEnv ServiceState.empty (sampleUtxo 1) 100 _ order).mpr
    ⟨by decide, ?_⟩⟩
  unfold parentsRanked
  decide +kernel

theorem spentAllocation_misordered :
    let child := samplePlainSpend ⟨txHash sampleBlockEnv sampleTemplateAllocation, 0⟩
    let coinbase := sampleTemplateCoinbase (2 * COIN)
    parentsFirst (txHash sampleBlockEnv) [coinbase, sampleTemplateAllocation, child] ∧
      (testBlockValidity sampleConnectEnv sampleTip
        (sampleTemplateBlock [coinbase, sampleTemplateAllocation, child]) (sampleUtxo 1) ()).isOk =
          true ∧
      orderBasedOnArrivalTime sampleTemplateEnv ServiceState.empty (sampleUtxo 1) 100
        [coinbase, sampleTemplateAllocation, child] =
          some [coinbase, child, sampleTemplateAllocation] ∧
      spendsFrom (txHash sampleBlockEnv) child sampleTemplateAllocation = true ∧
      testBlockValidity sampleConnectEnv sampleTip
        (sampleTemplateBlock [coinbase, child, sampleTemplateAllocation]) (sampleUtxo 1) () =
          .error missingInputs := by
  refine ⟨?_, by decide +kernel, by decide +kernel, by decide +kernel, by decide +kernel⟩
  unfold parentsFirst
  decide +kernel

end Minerium
