import Minerium.TransactionCore

/-! The constant-space merkle root of `consensus/merkle.cpp`. The recursion bounds are the 32
levels of the source's array. -/

namespace Minerium

structure MerkleState where
  count : Nat
  inner : Nat → Uint256
  mutated : Bool

section

variable (hashPair : Uint256 → Uint256 → Uint256)

structure MerkleCarry where
  level : Nat
  h : Uint256
  mutated : Bool

variable (count : Nat) (inner : Nat → Uint256)

def merkleCarry : Nat → Nat → Uint256 → Bool → MerkleCarry
  | 0, level, h, mutated => ⟨level, h, mutated⟩
  | fuel + 1, level, h, mutated =>
    if count.testBit level then ⟨level, h, mutated⟩
    else merkleCarry fuel (level + 1) (hashPair (inner level) h)
      (mutated || decide (inner level = h))

def merkleAddLeaf (state : MerkleState) (leaf : Uint256) : MerkleState :=
  let count := state.count + 1
  let carry := merkleCarry hashPair count state.inner 32 0 leaf state.mutated
  { count := count
    inner := Function.update state.inner carry.level carry.h
    mutated := carry.mutated }

def merkleLowestLevel : Nat → Nat → Nat
  | 0, level => level
  | fuel + 1, level => if count.testBit level then level else merkleLowestLevel fuel (level + 1)

def merkleSweep : Nat → Nat → Nat → Uint256 → Uint256
  | 0, _, _, h => h
  | fuel + 1, count, level, h =>
    if count = 2 ^ level then h
    else
      let count := count + 2 ^ level
      let carry := merkleCarry hashPair count inner 32 (level + 1) (hashPair h h) false
      merkleSweep fuel count carry.level carry.h

def computeMerkleRoot (leaves : List Uint256) : Uint256 × Bool :=
  if leaves.isEmpty then (0, false)
  else
    let state := leaves.foldl (merkleAddLeaf hashPair) ⟨0, fun _ => 0, false⟩
    let level := merkleLowestLevel state.count 32 0
    (merkleSweep hashPair state.inner 32 state.count level (state.inner level), state.mutated)

end

end Minerium
