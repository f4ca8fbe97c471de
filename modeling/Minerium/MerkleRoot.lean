import Minerium.Lib.MerkleTree
import Minerium.MerkleCore

/-! `computeMerkleRoot` computes the root of the hash tree, and `mutated` says that two complete
siblings have one hash. -/

namespace Minerium

open MerkleTree HashTree Nat

variable {index level place count added : Nat} {tree : HashTree Uint256}

section

variable {hashPair : Uint256 → Uint256 → Uint256} {leaf inner : Nat → Uint256}

theorem level_le_of_odd {other : Nat} (same : (2 * index + 1) * 2 ^ level = place * 2 ^ other) :
    other ≤ level := by
  by_contra above
  obtain ⟨gap, rfl⟩ : ∃ gap, other = level + 1 + gap := ⟨other - (level + 1), by omega⟩
  have split : place * 2 ^ (level + 1 + gap) = 2 * (place * 2 ^ gap) * 2 ^ level := by ring
  have cancelled := Nat.eq_of_mul_eq_mul_right (Nat.two_pow_pos level) (same.trans split)
  omega

theorem pow_le_of_odd (place : count = (2 * index + 1) * 2 ^ level) : 2 ^ level ≤ count := by
  rw [place, end_eq]
  exact le_add_left _ _

theorem testBit_mul_pow : (place * 2 ^ level).testBit level = decide (place % 2 = 1) := by
  simp [testBit_mul_two_pow, testBit_zero]

section

variable (hashPair leaf)

def Stored (added : Nat) (inner : Nat → Uint256) : Prop :=
  ∀ level index, (2 * index + 1) * 2 ^ level ≤ added → added < (2 * index + 2) * 2 ^ level →
    inner level = perfect hashPair leaf level (2 * index)

def LastSubtree (tree : HashTree Uint256) (count level : Nat) (h : Uint256) : Prop :=
  ∃ index, count = (2 * index + 1) * 2 ^ level ∧ 2 * index * 2 ^ level < tree.count ∧
    h = tree.node hashPair level (2 * index)

def JoinsApart (tree : HashTree Uint256) (count level : Nat) : Prop :=
  ∀ upper index, level ≤ upper → count = (2 * index + 2) * 2 ^ upper →
    tree.node hashPair upper (2 * index) ≠ tree.node hashPair upper (2 * index + 1)

end

theorem joinsApart_odd (odd : count = (2 * index + 1) * 2 ^ level) :
    JoinsApart hashPair tree count level := by
  intro upper other above even
  have double : (2 * other + 2) * 2 ^ upper = (other + 1) * 2 ^ (upper + 1) := by ring
  have lower := level_le_of_odd (odd.symm.trans (even.trans double))
  omega

theorem joinsApart_even (even : count = (2 * index + 2) * 2 ^ level) :
    JoinsApart hashPair tree count level ↔
      tree.node hashPair level (2 * index) ≠ tree.node hashPair level (2 * index + 1) ∧
        JoinsApart hashPair tree count (level + 1) := by
  constructor
  · intro apart
    exact ⟨apart level index le_rfl even, fun upper other above => apart upper other (by omega)⟩
  · intro apart upper other above place
    rcases Nat.eq_or_lt_of_le above with rfl | higher
    · have same := Nat.eq_of_mul_eq_mul_right (Nat.two_pow_pos level) (even.symm.trans place)
      obtain rfl : index = other := by omega
      exact apart.1
    · exact apart.2 upper other higher place

theorem merkleCarry_spec {tree : HashTree Uint256} {inner : Nat → Uint256} {added count : Nat}
    (stored : Stored hashPair tree.leaf added inner) (covered : tree.count ≤ added + 1)
    (beyond : added < count) {fuel level place : Nat} {h : Uint256} {mutated : Bool}
    (enough : count < 2 ^ (level + fuel)) (start : count = (place + 1) * 2 ^ level)
    (present : place * 2 ^ level < tree.count) (subtree : h = tree.node hashPair level place) :
    LastSubtree hashPair tree count (merkleCarry hashPair count inner fuel level h mutated).level
        (merkleCarry hashPair count inner fuel level h mutated).h ∧
      ((merkleCarry hashPair count inner fuel level h mutated).mutated = false ↔
        mutated = false ∧ JoinsApart hashPair tree count level) := by
  have positive : 0 < 2 ^ level := Nat.two_pow_pos level
  induction fuel generalizing level place h mutated with
  | zero =>
    rw [add_zero, start, end_eq] at enough
    omega
  | succ fuel ih =>
    rw [merkleCarry]
    have bit : count.testBit level = decide ((place + 1) % 2 = 1) := by
      rw [start, testBit_mul_pow]
    by_cases odd : (place + 1) % 2 = 1
    · obtain ⟨index, rfl⟩ : ∃ index, place = 2 * index := ⟨place / 2, by omega⟩
      rw [if_pos (by simp [bit, odd])]
      exact ⟨⟨index, start, present, subtree⟩, by simp [joinsApart_odd start]⟩
    · obtain ⟨index, rfl⟩ : ∃ index, place = 2 * index + 1 := ⟨place / 2, by omega⟩
      rw [if_neg (by simp [bit, odd])]
      have sibling : inner level = tree.node hashPair level (2 * index) := by
        rw [node_eq_perfect present.le]
        exact stored level index (by omega) (start ▸ beyond)
      have joined : hashPair (inner level) h = tree.node hashPair (level + 1) index := by
        rw [node_succ, children_whole present, sibling, subtree]
      have startNext : count = (index + 1) * 2 ^ (level + 1) := by
        rw [start]
        ring
      have presentNext : index * 2 ^ (level + 1) < tree.count := by
        rw [end_eq] at present
        rw [start_succ]
        omega
      have enoughNext : count < 2 ^ (level + 1 + fuel) := by
        rwa [add_assoc, add_comm 1 fuel]
      have next := @ih (level + 1) index (hashPair (inner level) h)
        (mutated || decide (inner level = h)) enoughNext startNext presentNext joined
        (Nat.two_pow_pos (level + 1))
      refine ⟨next.1, next.2.trans ?_⟩
      rw [joinsApart_even start, sibling, subtree]
      simp [and_assoc]

structure Added (hashPair : Uint256 → Uint256 → Uint256) (leaf : Nat → Uint256) (added : Nat)
    (state : MerkleState) : Prop where
  count : state.count = added
  stored : Stored hashPair leaf added state.inner
  flag : state.mutated = false ↔ (⟨added, leaf⟩ : HashTree Uint256).Clean hashPair

theorem added_zero : Added hashPair leaf 0 ⟨0, fun _ => 0, false⟩ := by
  refine ⟨rfl, fun level index reached _ => ?_, iff_of_true rfl fun level index reached => ?_⟩
  · have positive := Nat.mul_pos (Nat.succ_pos (2 * index)) (Nat.two_pow_pos level)
    exact absurd reached (Nat.not_le_of_lt positive)
  · have positive := Nat.mul_pos (Nat.succ_pos (2 * index + 1)) (Nat.two_pow_pos level)
    exact absurd reached (Nat.not_le_of_lt positive)

theorem Stored.update {h : Uint256}
    (stored : Stored hashPair leaf added inner) (place : added + 1 = (2 * index + 1) * 2 ^ level)
    (subtree : h = perfect hashPair leaf level (2 * index)) :
    Stored hashPair leaf (added + 1) (Function.update inner level h) := by
  intro upper other reached notPassed
  by_cases here : upper = level
  · subst here
    have positive : 0 < 2 ^ upper := Nat.two_pow_pos upper
    rw [place] at reached notPassed
    have low := le_of_mul_le_mul_right reached positive
    have high := lt_of_mul_lt_mul_right notPassed
    obtain rfl : other = index := by omega
    rw [Function.update_self, subtree]
  · rw [Function.update_of_ne here]
    refine stored upper other ?_ (by omega)
    rcases eq_or_lt_of_le reached with equal | below
    · have odd := equal.trans place
      exact absurd (le_antisymm (level_le_of_odd odd.symm) (level_le_of_odd odd)) here
    · omega

theorem clean_succ : (⟨added + 1, leaf⟩ : HashTree Uint256).Clean hashPair ↔
      (⟨added, leaf⟩ : HashTree Uint256).Clean hashPair ∧
        JoinsApart hashPair ⟨added + 1, leaf⟩ (added + 1) 0 := by
  constructor
  · intro clean
    refine ⟨fun level index reached => clean level index (le_succ_of_le reached), ?_⟩
    intro upper index _ place
    rw [node_eq_perfect, node_eq_perfect]
    · exact clean upper index place.ge
    · exact place.ge
    · exact (Nat.mul_le_mul_right _ (by omega)).trans place.ge
  · rintro ⟨clean, apart⟩ level index reached
    rcases eq_or_lt_of_le reached with equal | below
    · have here := apart level index (zero_le _) equal.symm
      rwa [node_eq_perfect, node_eq_perfect] at here
      · exact equal.le
      · exact (Nat.mul_le_mul_right _ (by omega)).trans equal.le
    · exact clean level index (Nat.le_of_lt_succ below)

theorem merkleAddLeaf_added {state : MerkleState} (before : Added hashPair leaf added state)
    (bound : added + 1 < 2 ^ 32) :
    Added hashPair leaf (added + 1) (merkleAddLeaf hashPair state (leaf added)) := by
  obtain ⟨rfl, stored, flag⟩ := before
  have carried := @merkleCarry_spec hashPair ⟨state.count + 1, leaf⟩ state.inner state.count
    (state.count + 1) stored le_rfl (lt_succ_self _) 32 0 state.count (leaf state.count)
    state.mutated bound (by rw [pow_zero, mul_one])
    (by rw [pow_zero, mul_one]; exact lt_succ_self _) rfl
  obtain ⟨⟨index, place, -, subtree⟩, mutated⟩ := carried
  rw [node_eq_perfect place.ge] at subtree
  refine ⟨rfl, stored.update place subtree, ?_⟩
  rw [clean_succ, ← flag]
  exact mutated

theorem foldl_merkleAddLeaf {added : Nat} {state : MerkleState} (rest : List Uint256)
    (before : Added hashPair leaf added state) (bound : added + rest.length < 2 ^ 32)
    (leaves : ∀ index, index < rest.length → rest.getD index 0 = leaf (added + index)) :
    Added hashPair leaf (added + rest.length) (rest.foldl (merkleAddLeaf hashPair) state) := by
  induction rest generalizing added state with
  | nil => exact before
  | cons first rest ih =>
    rw [List.length_cons] at bound
    have head : first = leaf added := leaves 0 (succ_pos _)
    have next := merkleAddLeaf_added before (by omega)
    rw [← head] at next
    rw [List.length_cons, List.foldl_cons, add_comm rest.length, ← add_assoc]
    refine ih next (by omega) fun index inside => ?_
    have here := leaves (index + 1) (succ_lt_succ inside)
    rwa [add_comm index, ← add_assoc, add_comm 1 index] at here

theorem merkleLowestLevel_spec {count fuel level place : Nat} (enough : count < 2 ^ (level + fuel))
    (start : count = place * 2 ^ level) (positive : 0 < count) :
    ∃ index, count = (2 * index + 1) * 2 ^ merkleLowestLevel count fuel level := by
  induction fuel generalizing level place with
  | zero =>
    rw [add_zero, start] at enough
    have below := lt_of_mul_lt_mul_right (enough.trans_eq (one_mul _).symm)
    obtain rfl : place = 0 := by omega
    omega
  | succ fuel ih =>
    rw [merkleLowestLevel]
    have bit : count.testBit level = decide (place % 2 = 1) := by rw [start, testBit_mul_pow]
    by_cases odd : place % 2 = 1
    · rw [if_pos (by simp [bit, odd])]
      exact ⟨place / 2, by rw [start, show 2 * (place / 2) + 1 = place by omega]⟩
    · rw [if_neg (by simp [bit, odd])]
      have half : count = place / 2 * 2 ^ (level + 1) := by
        rw [start, start_succ, show 2 * (place / 2) = place by omega]
      exact ih (by rwa [add_assoc, add_comm 1 fuel]) half

theorem merkleSweep_spec
    (stored : Stored hashPair tree.leaf tree.count inner) (bound : tree.count < 2 ^ 31) {fuel : Nat}
    {h : Uint256} (enough : 32 ≤ level + fuel) (ends : LastSubtree hashPair tree count level h)
    (covered : tree.count ≤ count) (low : 2 ^ level < 2 * tree.count) :
    tree.IsRoot hashPair (merkleSweep hashPair inner fuel count level h) := by
  induction fuel generalizing count level h with
  | zero =>
    have high : 2 ^ 32 ≤ 2 ^ level := Nat.pow_le_pow_right (by decide) (by omega)
    omega
  | succ fuel ih =>
    obtain ⟨index, place, present, subtree⟩ := ends
    rw [merkleSweep]
    have positive : 0 < 2 ^ level := Nat.two_pow_pos level
    by_cases single : count = 2 ^ level
    · rw [if_pos single]
      have first : 2 * index + 1 = 1 :=
        eq_of_mul_eq_mul_right positive (place.symm.trans (single.trans (one_mul _).symm))
      obtain rfl : index = 0 := by omega
      exact ⟨level, covered.trans_eq single, low, subtree⟩
    · rw [if_neg single]
      have several : 1 ≤ index := by
        by_contra none
        obtain rfl : index = 0 := by omega
        exact single (place.trans (one_mul _))
      have next : count + 2 ^ level = (index + 1) * 2 ^ (level + 1) := by
        rw [place]
        ring
      have small : count + 2 ^ level < 2 * tree.count := by
        have share := mul_le_mul_right (2 ^ level) several
        rw [one_mul] at share
        rw [end_eq, mul_assoc] at place
        rw [mul_assoc] at present
        omega
      have wide : (2 : Nat) ^ 32 ≤ 2 ^ (level + 1 + 32) :=
        Nat.pow_le_pow_right (by decide) (by omega)
      have padded : hashPair h h = tree.node hashPair (level + 1) index := by
        rw [node_succ, children_padded (by omega), subtree]
      have carried := (@merkleCarry_spec hashPair tree inner tree.count (count + 2 ^ level)
        stored (le_succ _) (by omega) 32 (level + 1) index (hashPair h h) false (by omega)
        next (by rw [start_succ]; exact present) padded).1
      obtain ⟨other, placeNext, -, -⟩ := id carried
      have above := level_le_of_odd (placeNext.symm.trans next)
      have below := pow_le_of_odd placeNext
      exact ih (by omega) carried (by omega) (by omega)

def merkleTree (leaves : List Uint256) : HashTree Uint256 :=
  ⟨leaves.length, fun index => leaves.getD index 0⟩

theorem computeMerkleRoot_spec {leaves : List Uint256} (nonempty : leaves ≠ [])
    (bound : leaves.length < 2 ^ 31) :
    (merkleTree leaves).IsRoot hashPair (computeMerkleRoot hashPair leaves).1 ∧
      ((computeMerkleRoot hashPair leaves).2 = false ↔
        (merkleTree leaves).Clean hashPair) := by
  have full : Added hashPair (merkleTree leaves).leaf leaves.length
      (leaves.foldl (merkleAddLeaf hashPair) ⟨0, fun _ => 0, false⟩) := by
    have folded := @foldl_merkleAddLeaf hashPair (merkleTree leaves).leaf 0
      ⟨0, fun _ => 0, false⟩ leaves added_zero (by omega) fun index _ => by
        rw [zero_add]
        rfl
    rwa [zero_add] at folded
  have positive : 0 < leaves.length := List.length_pos_iff.mpr nonempty
  have notEmpty : leaves.isEmpty = false := by simpa using nonempty
  simp only [computeMerkleRoot, notEmpty, Bool.false_eq_true, if_false, full.count]
  refine ⟨?_, full.flag⟩
  obtain ⟨index, place⟩ := @merkleLowestLevel_spec leaves.length 32 0 leaves.length (by omega)
    (mul_one _).symm positive
  have below := pow_le_of_odd place
  have lowestPositive := Nat.two_pow_pos (merkleLowestLevel leaves.length 32 0)
  have lowest : LastSubtree hashPair (merkleTree leaves) leaves.length
      (merkleLowestLevel leaves.length 32 0)
      ((leaves.foldl (merkleAddLeaf hashPair) ⟨0, fun _ => 0, false⟩).inner
        (merkleLowestLevel leaves.length 32 0)) := by
    refine ⟨index, place, ?_, ?_⟩
    · show _ < leaves.length
      rw [end_eq] at place
      omega
    · rw [node_eq_perfect place.ge]
      exact full.stored _ _ place.ge (by rw [end_eq]; omega)
  exact merkleSweep_spec full.stored bound (by omega) lowest le_rfl (by
    show _ < 2 * leaves.length
    omega)

end

end Minerium
