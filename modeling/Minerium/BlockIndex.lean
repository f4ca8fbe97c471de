import Minerium.TransactionCore

/-! The skip pointers of the block index (`chain.cpp`). The links of a block never change once it is
in the index, so a pointer is the block it leads to. Heights are numbers, where the source has
`int`: a chain of `2^31` blocks is out of reach. -/

namespace Minerium

open Option Nat

structure CBlockIndex where
  hash : Uint256
  nHeight : Nat
  pprev : Option CBlockIndex
  pskip : Option CBlockIndex

def invertLowestOne (n : Nat) : Nat := n &&& (n - 1)

def getSkipHeight (height : Nat) : Nat :=
  if height < 2 then 0
  else if height % 2 = 1 then invertLowestOne (invertLowestOne (height - 1)) + 1
  else invertLowestOne height

theorem getSkipHeight_lt {height : Nat} (positive : 0 < height) :
    getSkipHeight height < height := by
  have below (n : Nat) : invertLowestOne n ≤ n - 1 := and_le_right
  have once := below (height - 1)
  have twice := below (invertLowestOne (height - 1))
  have even := below height
  unfold getSkipHeight
  split_ifs <;> omega

namespace CBlockIndex

/-- The loop of `GetAncestor`; `none` is the failed assertion. -/
def ancestorFrom (height : Nat) (pindexWalk : CBlockIndex) (heightWalk : Nat) :
    Option CBlockIndex :=
  if heightWalk ≤ height then some pindexWalk
  else
    let heightSkip := getSkipHeight heightWalk
    let heightSkipPrev := getSkipHeight (heightWalk - 1)
    match pindexWalk.pskip, decide (heightSkip = height ∨
        heightSkip > height ∧ ¬(heightSkipPrev + 2 < heightSkip ∧ heightSkipPrev ≥ height)) with
    | some pskip, true => ancestorFrom height pskip heightSkip
    | _, _ => pindexWalk.pprev.bind fun pprev => ancestorFrom height pprev (heightWalk - 1)
termination_by heightWalk
decreasing_by
  · exact getSkipHeight_lt (by omega)
  · omega

def getAncestor (pindex : CBlockIndex) (height : Int) : Option CBlockIndex :=
  if height > pindex.nHeight ∨ height < 0 then none
  else ancestorFrom height.toNat pindex pindex.nHeight

def buildSkip (pindex : CBlockIndex) : CBlockIndex :=
  match pindex.pprev with
  | some pprev => { pindex with pskip := pprev.getAncestor (getSkipHeight pindex.nHeight) }
  | none => pindex

/-- The block that `AddToBlockIndex` makes of a header, with the previous block if it is known. -/
def newIndex (hash : Uint256) : Option CBlockIndex → CBlockIndex
  | some pprev => buildSkip ⟨hash, pprev.nHeight + 1, some pprev, none⟩
  | none => ⟨hash, 0, none, none⟩

inductive Indexed : CBlockIndex → Prop where
  | root (hash : Uint256) : Indexed (newIndex hash none)
  | next (hash : Uint256) {pprev : CBlockIndex} (before : Indexed pprev) :
      Indexed (newIndex hash (some pprev))

/-- The plain walk along `pprev`. -/
def climb : Nat → CBlockIndex → Option CBlockIndex
  | 0, pindex => some pindex
  | n + 1, pindex => pindex.pprev.bind (climb n)

variable {pindex : CBlockIndex} {m n height : Nat}

theorem climb_add : climb (m + n) pindex = (climb m pindex).bind (climb n) := by
  induction m generalizing pindex with
  | zero => rw [zero_add, climb, bind_some]
  | succ m ih => simp only [succ_add, climb, bind_assoc, ih]

theorem Indexed.climb_spec (indexed : Indexed pindex) (low : n ≤ pindex.nHeight) :
    ∃ ancestor, climb n pindex = some ancestor ∧ Indexed ancestor ∧
      ancestor.nHeight = pindex.nHeight - n := by
  induction n generalizing pindex with
  | zero => exact ⟨pindex, rfl, indexed, rfl⟩
  | succ n ih =>
    cases indexed with
    | root hash => cases low
    | next hash before =>
      obtain ⟨ancestor, climbed, reached, lands⟩ := ih before (Nat.le_of_succ_le_succ low)
      exact ⟨ancestor, climbed, reached, lands.trans (Nat.add_sub_add_right ..).symm⟩

/-- Strong induction on the height, since a skip pointer leads far below the previous block. -/
theorem Indexed.ancestorFrom_eq (indexed : Indexed pindex) (low : height ≤ pindex.nHeight) :
    ancestorFrom height pindex pindex.nHeight = climb (pindex.nHeight - height) pindex := by
  induction walked : pindex.nHeight using Nat.strong_induction_on generalizing pindex height with
  | h heightWalk ih =>
    rw [ancestorFrom]
    split_ifs with done
    · rw [Nat.sub_eq_zero_of_le done, climb]
    · cases indexed with
      | root hash =>
        cases walked
        exact absurd (zero_le _) done
      | @next hash pprev before =>
        change pprev.nHeight + 1 = heightWalk at walked
        subst walked
        have plain (n : Nat) : climb (n + 1) (newIndex hash (some pprev)) = climb n pprev := rfl
        have lower := @getSkipHeight_lt (pprev.nHeight + 1) (succ_pos _)
        obtain ⟨skipped, climbed, reached, lands⟩ := before.climb_spec
          (sub_le pprev.nHeight (getSkipHeight (pprev.nHeight + 1)))
        have pskip : (newIndex hash (some pprev)).pskip = some skipped := by
          change pprev.getAncestor (getSkipHeight (pprev.nHeight + 1)) = _
          rw [getAncestor, if_neg (by omega), Int.toNat_natCast,
            ih _ (lt_succ_self _) before (by omega) rfl, climbed]
        rw [pskip]
        dsimp only
        split
        · rename_i same near
          cases same
          have near := of_decide_eq_true near
          have split : pprev.nHeight + 1 - height =
              pprev.nHeight - getSkipHeight (pprev.nHeight + 1) +
                (getSkipHeight (pprev.nHeight + 1) - height) + 1 := by omega
          rw [ih _ lower reached (by omega) (by omega), split, plain, climb_add, climbed, bind_some]
        · change ancestorFrom height pprev pprev.nHeight = _
          rw [ih _ (lt_succ_self _) before (by omega) rfl, succ_sub (by omega), plain]

theorem getAncestor_eq_climb (pindex : CBlockIndex) (indexed : Indexed pindex) (height : Nat)
    (low : height ≤ pindex.nHeight) :
    ∃ ancestor, pindex.getAncestor height = some ancestor ∧
      pindex.climb (pindex.nHeight - height) = some ancestor ∧ ancestor.nHeight = height := by
  obtain ⟨ancestor, climbed, -, lands⟩ := indexed.climb_spec (sub_le pindex.nHeight height)
  refine ⟨ancestor, ?_, climbed, by omega⟩
  rw [getAncestor, if_neg (by omega), Int.toNat_natCast, indexed.ancestorFrom_eq low, climbed]

def sampleIndex : Nat → CBlockIndex
  | 0 => newIndex 0 none
  | n + 1 => newIndex (n + 1) (some (sampleIndex n))

theorem sampleIndex_indexed : ∀ n, Indexed (sampleIndex n)
  | 0 => .root 0
  | n + 1 => .next (n + 1) (sampleIndex_indexed n)

/-- From height 8 the walk goes to the previous block and then along its skip pointer. -/
theorem getAncestor_eq_climb_sample : (sampleIndex 8).getAncestor 1 = some (sampleIndex 1) ∧
    (sampleIndex 7).pskip = some (sampleIndex 1) := by
  have reaches : ∀ n, 0 < n → (sampleIndex n).nHeight = n →
      (sampleIndex n).climb (n - 1) = some (sampleIndex 1) →
      (sampleIndex n).getAncestor 1 = some (sampleIndex 1) := by
    intro n positive level climbs
    obtain ⟨ancestor, found, climbed, -⟩ := getAncestor_eq_climb _ (sampleIndex_indexed n) 1
      (positive.trans_eq level.symm)
    rw [level] at climbed
    exact found.trans (climbed.symm.trans climbs)
  exact ⟨reaches 8 (by decide) rfl rfl, reaches 6 (by decide) rfl rfl⟩

end CBlockIndex

end Minerium
