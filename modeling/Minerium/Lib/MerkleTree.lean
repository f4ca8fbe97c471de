import Mathlib.Tactic.Ring

/-! Hash trees in which a node without a right sibling is combined with itself. -/

namespace MerkleTree

variable {level index : Nat}

structure HashTree (α : Type) where
  count : Nat
  leaf : Nat → α

section

variable {α : Type} (combine : α → α → α)

def perfect (leaf : Nat → α) : Nat → Nat → α
  | 0, index => leaf index
  | level + 1, index =>
    combine (perfect leaf level (2 * index)) (perfect leaf level (2 * index + 1))

def HashTree.node (tree : HashTree α) : Nat → Nat → α
  | 0, index => tree.leaf index
  | level + 1, index =>
    combine (tree.node level (2 * index))
      (if (2 * index + 1) * 2 ^ level < tree.count then tree.node level (2 * index + 1)
      else tree.node level (2 * index))

def HashTree.children (tree : HashTree α) (level index : Nat) : α × α :=
  (tree.node combine level (2 * index),
    if (2 * index + 1) * 2 ^ level < tree.count then tree.node combine level (2 * index + 1)
    else tree.node combine level (2 * index))

def HashTree.Clean (tree : HashTree α) : Prop :=
  ∀ level index, (2 * index + 2) * 2 ^ level ≤ tree.count →
    perfect combine tree.leaf level (2 * index) ≠ perfect combine tree.leaf level (2 * index + 1)

/-- The pairs that computing the root combines: those of the levels below the root. -/
def HashTree.pairs (tree : HashTree α) : Set (α × α) :=
  { pair | ∃ level index, 2 ^ level < tree.count ∧ 2 * index * 2 ^ level < tree.count ∧
    pair = tree.children combine level index }

variable {combine}

theorem start_succ : index * 2 ^ (level + 1) = 2 * index * 2 ^ level := by
  ring

theorem end_eq : (index + 1) * 2 ^ level = index * 2 ^ level + 2 ^ level := by
  ring

variable {tree : HashTree α}

theorem HashTree.node_succ : tree.node combine (level + 1) index =
      combine (tree.children combine level index).1 (tree.children combine level index).2 :=
  rfl

theorem HashTree.children_whole (right : (2 * index + 1) * 2 ^ level < tree.count) :
    tree.children combine level index =
      (tree.node combine level (2 * index), tree.node combine level (2 * index + 1)) := by
  rw [HashTree.children, if_pos right]

theorem HashTree.children_padded (noRight : ¬ (2 * index + 1) * 2 ^ level < tree.count) :
    tree.children combine level index =
      (tree.node combine level (2 * index), tree.node combine level (2 * index)) := by
  rw [HashTree.children, if_neg noRight]

theorem HashTree.node_eq_perfect (complete : (index + 1) * 2 ^ level ≤ tree.count) :
    tree.node combine level index = perfect combine tree.leaf level index := by
  induction level generalizing index with
  | zero => rfl
  | succ level ih =>
    have positive : 0 < 2 ^ level := Nat.two_pow_pos level
    rw [start_succ] at complete
    have right : (2 * index + 1 + 1) * 2 ^ level ≤ tree.count := complete
    have left : (2 * index + 1) * 2 ^ level < tree.count := by
      rw [end_eq] at right
      omega
    rw [HashTree.node_succ, HashTree.children_whole left, ih left.le, ih right]
    rfl

/-- Two subtrees of one level hold the same leaves, at the same places. -/
def Agree (first second : HashTree α) (level index place : Nat) : Prop :=
  ∀ offset < 2 ^ level,
    (index * 2 ^ level + offset < first.count ↔ place * 2 ^ level + offset < second.count) ∧
    (index * 2 ^ level + offset < first.count →
      first.leaf (index * 2 ^ level + offset) = second.leaf (place * 2 ^ level + offset))

theorem Agree.succ {first second : HashTree α} {place : Nat}
    (left : Agree first second level (2 * index) (2 * place))
    (right : Agree first second level (2 * index + 1) (2 * place + 1)) :
    Agree first second (level + 1) index place := by
  intro offset bound
  rw [pow_succ] at bound ⊢
  by_cases low : offset < 2 ^ level
  · rw [← pow_succ, start_succ, start_succ]
    exact left offset low
  · obtain ⟨rest, rfl⟩ : ∃ rest, offset = 2 ^ level + rest := ⟨offset - 2 ^ level, by omega⟩
    have here := right rest (by omega)
    have shift (start : Nat) : start * (2 ^ level * 2) + (2 ^ level + rest) =
        (2 * start + 1) * 2 ^ level + rest := by ring
    rw [shift, shift]
    exact here

theorem Agree.of_absent {first second : HashTree α} {place : Nat}
    (noFirst : ¬ index * 2 ^ level < first.count) (noSecond : ¬ place * 2 ^ level < second.count) :
    Agree first second level index place := by
  intro offset _
  refine ⟨⟨fun present => ?_, fun present => ?_⟩, fun present => ?_⟩
  · omega
  · omega
  · omega

theorem HashTree.Clean.siblings_disagree (clean : tree.Clean combine)
    (right : (2 * index + 1) * 2 ^ level < tree.count)
    (same : tree.node combine level (2 * index) = tree.node combine level (2 * index + 1)) :
    ¬ Agree tree tree level (2 * index) (2 * index + 1) := by
  intro agree
  have positive : 0 < 2 ^ level := Nat.two_pow_pos level
  have last := (agree (2 ^ level - 1) (by omega)).1
  have complete : (2 * index + 1 + 1) * 2 ^ level ≤ tree.count := by
    have leftLast : 2 * index * 2 ^ level + (2 ^ level - 1) < tree.count := by
      rw [end_eq] at right
      omega
    have rightLast := last.mp leftLast
    rw [end_eq]
    omega
  rw [HashTree.node_eq_perfect right.le, HashTree.node_eq_perfect complete] at same
  exact clean level index complete same

section

variable {known : Set (α × α)}
  (injective : Set.InjOn (fun pair : α × α => combine pair.1 pair.2) known)

include injective

/-- A tree with a right sibling does not agree with one without, since its two children would then
be siblings of one value. -/
theorem agree_of_node_eq (level : Nat) : ∀ {first second : HashTree α} {index place : Nat},
      first.Clean combine → second.Clean combine →
      first.pairs combine ⊆ known → second.pairs combine ⊆ known →
      2 ^ level < 2 * first.count → 2 ^ level < 2 * second.count →
      index * 2 ^ level < first.count → place * 2 ^ level < second.count →
      first.node combine level index = second.node combine level place →
      Agree first second level index place := by
  induction level with
  | zero =>
    intro first second index place _ _ _ _ _ _ presentFirst presentSecond same offset bound
    obtain rfl : offset = 0 := by omega
    rw [pow_zero, mul_one] at presentFirst presentSecond
    rw [pow_zero, mul_one, mul_one]
    exact ⟨iff_of_true presentFirst presentSecond, fun _ => same⟩
  | succ level ih =>
    intro first second index place cleanFirst cleanSecond knownFirst knownSecond tallFirst
      tallSecond presentFirst presentSecond same
    rw [pow_succ] at tallFirst tallSecond
    have positive : 0 < 2 ^ level := Nat.two_pow_pos level
    have leftFirst : 2 * index * 2 ^ level < first.count := start_succ ▸ presentFirst
    have leftSecond : 2 * place * 2 ^ level < second.count := start_succ ▸ presentSecond
    have children := injective (knownFirst ⟨level, index, by omega, leftFirst, rfl⟩)
      (knownSecond ⟨level, place, by omega, leftSecond, rfl⟩) same
    by_cases rightFirst : (2 * index + 1) * 2 ^ level < first.count
    · rw [HashTree.children_whole rightFirst] at children
      by_cases rightSecond : (2 * place + 1) * 2 ^ level < second.count
      · rw [HashTree.children_whole rightSecond, Prod.mk.injEq] at children
        exact Agree.succ
          (ih cleanFirst cleanSecond knownFirst knownSecond (by omega) (by omega) leftFirst
            leftSecond children.1)
          (ih cleanFirst cleanSecond knownFirst knownSecond (by omega) (by omega) rightFirst
            rightSecond children.2)
      · rw [HashTree.children_padded rightSecond, Prod.mk.injEq] at children
        have siblings := children.1.trans children.2.symm
        exact absurd (ih cleanFirst cleanFirst knownFirst knownFirst (by omega) (by omega)
          leftFirst rightFirst siblings) (cleanFirst.siblings_disagree rightFirst siblings)
    · rw [HashTree.children_padded rightFirst] at children
      by_cases rightSecond : (2 * place + 1) * 2 ^ level < second.count
      · rw [HashTree.children_whole rightSecond, Prod.mk.injEq] at children
        have siblings := children.1.symm.trans children.2
        exact absurd (ih cleanSecond cleanSecond knownSecond knownSecond (by omega) (by omega)
          leftSecond rightSecond siblings) (cleanSecond.siblings_disagree rightSecond siblings)
      · rw [HashTree.children_padded rightSecond, Prod.mk.injEq] at children
        exact Agree.succ
          (ih cleanFirst cleanSecond knownFirst knownSecond (by omega) (by omega) leftFirst
            leftSecond children.1)
          (Agree.of_absent rightFirst rightSecond)

end

def HashTree.IsRoot (combine : α → α → α) (tree : HashTree α) (value : α) : Prop :=
  ∃ height, tree.count ≤ 2 ^ height ∧ 2 ^ height < 2 * tree.count ∧
    value = tree.node combine height 0

/-- Equal roots of trees with as many leaves come from equal leaves. -/
theorem HashTree.leaf_eq_of_root_eq {first second : HashTree α} {value : α}
    (injective : Set.InjOn (fun pair : α × α => combine pair.1 pair.2) (first.pairs combine ∪
      second.pairs combine)) (cleanFirst : first.Clean combine) (cleanSecond : second.Clean combine)
    (rootFirst : first.IsRoot combine value) (rootSecond : second.IsRoot combine value)
    (sameCount : first.count = second.count) :
    ∀ index < first.count, first.leaf index = second.leaf index := by
  obtain ⟨height, fitsFirst, tallFirst, rfl⟩ := rootFirst
  obtain ⟨level, fitsSecond, tallSecond, same⟩ := rootSecond
  obtain rfl : height = level := by
    refine Nat.le_antisymm (Nat.lt_succ_iff.mp ?_) (Nat.lt_succ_iff.mp ?_)
    · exact (Nat.pow_lt_pow_iff_right one_lt_two).mp (by rw [pow_succ]; omega)
    · exact (Nat.pow_lt_pow_iff_right one_lt_two).mp (by rw [pow_succ]; omega)
  have positive : 0 < 2 ^ height := Nat.two_pow_pos height
  have agree := agree_of_node_eq injective height cleanFirst cleanSecond
    Set.subset_union_left Set.subset_union_right tallFirst tallSecond (by omega) (by omega) same
  simp only [Agree, zero_mul, zero_add] at agree
  exact fun index bound => (agree index (by omega)).2 bound

end

end MerkleTree
