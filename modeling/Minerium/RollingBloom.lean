import Minerium.TransactionCore

/-! `CRollingBloomFilter` of `bloom.cpp`. The words at `2 * i` and `2 * i + 1` are the pair at `i`
here. The two bits at one place of a pair are the number of the generation that marked it last, or
zero. `MurmurHash3` is an arbitrary function. -/

namespace Minerium

open List Nat

structure CRollingBloomFilter where
  nEntriesPerGeneration : Nat
  nEntriesThisGeneration : Nat
  nGeneration : Nat
  data : List (BitVec 64 × BitVec 64)
  nTweak : UInt32
  nHashFuncs : Nat

namespace CRollingBloomFilter

variable (murmurHash3 : UInt32 → Bytes → UInt32) (filter : CRollingBloomFilter)

def entriesPerGeneration (nElements : UInt32) : Nat := ((nElements + 1) / 2).toNat

def reset (nTweak : UInt32) : CRollingBloomFilter :=
  { filter with
    nTweak := nTweak
    nEntriesThisGeneration := 0
    nGeneration := 1
    data := filter.data.map fun _ => (0, 0) }

def rollingBloomHash (nHashNum nTweak : UInt32) (vDataToHash : Bytes) : UInt32 :=
  murmurHash3 (nHashNum * 0xFBA4C795 + nTweak) vDataToHash

def hashes (vKey : Bytes) : List UInt32 :=
  (range filter.nHashFuncs).map fun n => rollingBloomHash murmurHash3 (.ofNat n) filter.nTweak vKey

/-- `pos` is reduced by the number of words, and its lowest bit is ignored. -/
def place (h : UInt32) : Nat × Nat :=
  ((h >>> 6).toNat % (2 * filter.data.length) / 2, (h &&& 0x3F).toNat)

def wipe (words : BitVec 64 × BitVec 64) : BitVec 64 × BitVec 64 :=
  let nGenerationMask1 : BitVec 64 := -.ofNat 64 (filter.nGeneration &&& 1)
  let nGenerationMask2 : BitVec 64 := -.ofNat 64 (filter.nGeneration >>> 1)
  let mask := (words.1 ^^^ nGenerationMask1) ||| (words.2 ^^^ nGenerationMask2)
  (words.1 &&& mask, words.2 &&& mask)

def nextGeneration : CRollingBloomFilter :=
  let next := { filter with
    nEntriesThisGeneration := 0
    nGeneration := if filter.nGeneration + 1 = 4 then 1 else filter.nGeneration + 1 }
  { next with data := next.data.map next.wipe }

def setBit (word : BitVec 64) (bit value : Nat) : BitVec 64 :=
  (word &&& ~~~(1#64 <<< bit)) ||| (BitVec.ofNat 64 value <<< bit)

def mark (h : UInt32) : CRollingBloomFilter :=
  let (pos, bit) := filter.place h
  { filter with
    data := filter.data.modify pos fun words =>
      (setBit words.1 bit (filter.nGeneration &&& 1),
        setBit words.2 bit (filter.nGeneration >>> 1)) }

def insert (vKey : Bytes) : CRollingBloomFilter :=
  let filter := if filter.nEntriesThisGeneration = filter.nEntriesPerGeneration then
    filter.nextGeneration else filter
  (filter.hashes murmurHash3 vKey).foldl mark
    { filter with nEntriesThisGeneration := filter.nEntriesThisGeneration + 1 }

def contains (vKey : Bytes) : Bool :=
  (filter.hashes murmurHash3 vKey).all fun h =>
    let (pos, bit) := filter.place h
    let words := filter.data.getD pos (0, 0)
    ((words.1 ||| words.2) >>> bit &&& 1) != 0

def markIn (words : BitVec 64 × BitVec 64) (bit : Nat) : Nat :=
  (words.1.getLsbD bit).toNat + 2 * (words.2.getLsbD bit).toNat

def markedBy (h : UInt32) : Nat :=
  markIn (filter.data.getD (filter.place h).1 (0, 0)) (filter.place h).2

/-- The number of the generation that began `age` generations before the current one. -/
def generationOf (nGeneration age : Nat) : Nat := (nGeneration + 2 - age) % 3 + 1

def Recent (age : Nat) (h : UInt32) : Prop :=
  ∃ since ≤ age, filter.markedBy h = generationOf filter.nGeneration since

structure Wellformed : Prop where
  generation : filter.nGeneration ∈ [1, 2, 3]
  stored : filter.data ≠ []

variable {murmurHash3 : UInt32 → Bytes → UInt32} {filter : CRollingBloomFilter}
  {words : BitVec 64 × BitVec 64} {bit tested nGeneration age nEntries : Nat} {h other : UInt32}
  {vKey : Bytes} {keys : List Bytes}

theorem place_lt (stored : filter.data ≠ []) :
    (filter.place h).1 < filter.data.length ∧ (filter.place h).2 < 64 := by
  have positive := length_pos_iff.mpr stored
  have pos := mod_lt (h >>> 6).toNat (show 0 < 2 * filter.data.length by omega)
  have bit : (h &&& 0x3F).toNat ≤ 0x3F := by
    rw [UInt32.toNat_and]
    exact and_le_right
  simp only [place]
  omega

theorem setBit_getLsbD {word : BitVec 64} {value : Nat} (bound : tested < 64) (small : value < 2) :
    (setBit word bit value).getLsbD tested =
      if tested = bit then decide (value = 1) else word.getLsbD tested := by
  have pushed : (BitVec.ofNat 64 value <<< bit).getLsbD tested =
      (decide (value = 1) && decide (tested = bit)) := by
    obtain rfl | rfl : value = 0 ∨ value = 1 := by omega
    · simp
    · rw [← BitVec.twoPow_eq, BitVec.getLsbD_twoPow]
      simp only [decide_true, Bool.true_and, ← Bool.decide_and]
      exact decide_eq_decide.mpr (by omega)
  rw [setBit, BitVec.getLsbD_or, BitVec.getLsbD_and, pushed, ← BitVec.twoPow_eq,
    BitVec.getLsbD_not, BitVec.getLsbD_twoPow]
  by_cases same : tested = bit
  · simp [same]
  · simp [same, Ne.symm same, bound]

theorem markIn_setBit (valid : nGeneration ∈ [1, 2, 3]) (bound : tested < 64) :
    markIn (setBit words.1 bit (nGeneration &&& 1), setBit words.2 bit (nGeneration >>> 1)) tested =
      if tested = bit then nGeneration else markIn words tested := by
  have digits : nGeneration &&& 1 < 2 ∧ nGeneration >>> 1 < 2 ∧ nGeneration =
      (decide (nGeneration &&& 1 = 1)).toNat + 2 * (decide (nGeneration >>> 1 = 1)).toNat := by
    revert nGeneration
    decide
  rw [markIn, setBit_getLsbD bound digits.1, setBit_getLsbD bound digits.2.1, markIn]
  split
  · exact digits.2.2.symm
  · rfl

theorem markIn_wipe (valid : filter.nGeneration ∈ [1, 2, 3]) (bound : tested < 64) :
    markIn (filter.wipe words) tested =
      if markIn words tested = filter.nGeneration then 0 else markIn words tested := by
  unfold wipe markIn
  have masks : (-BitVec.ofNat 64 0) = 0#64 ∧ (-BitVec.ofNat 64 1) = BitVec.allOnes 64 := by decide
  simp only [mem_cons, not_mem_nil, or_false] at valid
  rcases valid with same | same | same
  all_goals
    simp only [same, BitVec.getLsbD_and, BitVec.getLsbD_or, BitVec.getLsbD_xor, reduceAnd,
      reduceShiftRight, masks, BitVec.getLsbD_zero, BitVec.getLsbD_allOnes, bound]
    cases words.1.getLsbD tested <;> cases words.2.getLsbD tested <;> rfl

theorem markedBy_mark (wellformed : filter.Wellformed) : (filter.mark h).markedBy other =
      if filter.place other = filter.place h then filter.nGeneration
      else filter.markedBy other := by
  obtain ⟨inside, bound⟩ := @place_lt _ other wellformed.stored
  have here : (filter.mark h).place other = filter.place other := by
    simp [place, mark]
  rw [markedBy, here, markedBy]
  generalize filter.place other = tested at inside bound
  simp only [mark, getD_eq_getElem?_getD, getElem?_modify, getElem?_eq_getElem inside]
  by_cases pair : (filter.place h).1 = tested.1
  · simp only [pair, if_true, Option.getD_some, Prod.ext_iff, true_and]
    exact markIn_setBit wellformed.generation bound
  · simp [pair, Prod.ext_iff, Ne.symm pair]

theorem nextGeneration_wellformed (wellformed : filter.Wellformed) :
    filter.nextGeneration.Wellformed := by
  obtain ⟨generation, stored⟩ := wellformed
  refine ⟨?_, by simpa [nextGeneration] using stored⟩
  change (if filter.nGeneration + 1 = 4 then 1 else filter.nGeneration + 1) ∈ _
  generalize filter.nGeneration = nGeneration at generation
  revert nGeneration
  decide

theorem contains_of_recent (recent : ∀ h ∈ filter.hashes murmurHash3 vKey, filter.Recent age h) :
    filter.contains murmurHash3 vKey = true := by
  refine all_eq_true.mpr fun h member => ?_
  obtain ⟨since, -, marked⟩ := recent h member
  have marked : filter.markedBy h ≠ 0 := by rw [marked, generationOf]; exact succ_ne_zero _
  have test (word : BitVec 64) (bit : Nat) : (word >>> bit &&& 1 != 0) = word.getLsbD bit := by
    rw [show (1 : BitVec 64) = 1#64 from rfl, BitVec.and_one_eq_setWidth_ofBool_getLsbD,
      BitVec.getLsbD_ushiftRight, add_zero]
    cases word.getLsbD bit <;> rfl
  simp only [markedBy, markIn] at marked
  simp only [test, BitVec.getLsbD_or]
  grind

theorem Recent.nextGeneration (wellformed : filter.Wellformed) (young : age ≤ 1)
    (recent : filter.Recent age h) : filter.nextGeneration.Recent (age + 1) h := by
  obtain ⟨since, atMost, marked⟩ := recent
  obtain ⟨inside, bound⟩ := @place_lt _ h wellformed.stored
  have here : filter.nextGeneration.place h = filter.place h := by
    simp [place, CRollingBloomFilter.nextGeneration]
  have rotation : ∀ nGeneration ∈ [1, 2, 3], ∀ since ≤ 1,
      let next := if nGeneration + 1 = 4 then 1 else nGeneration + 1
      (if generationOf nGeneration since = next then 0 else generationOf nGeneration since) =
        generationOf next (since + 1) := by decide
  refine ⟨since + 1, by omega, Eq.trans ?_ (rotation _ wellformed.generation since (by omega))⟩
  rw [← marked, markedBy, here, markedBy]
  simp only [CRollingBloomFilter.nextGeneration, getD_eq_getElem?_getD, getElem?_map,
    getElem?_eq_getElem inside, Option.map_some, Option.getD_some]
  exact markIn_wipe (nextGeneration_wellformed wellformed).generation bound

theorem foldl_mark (wellformed : filter.Wellformed) (hashes : List UInt32) :
    let next := hashes.foldl mark filter
    next = { filter with data := next.data } ∧ next.Wellformed ∧
      ∀ age h, h ∈ hashes ∨ filter.Recent age h → next.Recent age h := by
  induction hashes generalizing filter with
  | nil => exact ⟨rfl, wellformed, fun _ _ recent => recent.resolve_left not_mem_nil⟩
  | cons first rest ih =>
    have marked : (filter.mark first).Wellformed :=
      ⟨wellformed.generation, by simpa [mark] using wellformed.stored⟩
    obtain ⟨same, kept, recent⟩ := ih marked
    refine ⟨same, kept, fun age h either => recent age h ?_⟩
    have current : filter.nGeneration = generationOf filter.nGeneration 0 := by
      have least : ∀ nGeneration ∈ [1, 2, 3], nGeneration = generationOf nGeneration 0 := by decide
      exact least _ wellformed.generation
    by_cases here : filter.place h = filter.place first
    · refine .inr ⟨0, zero_le _, ?_⟩
      rw [markedBy_mark wellformed, if_pos here]
      exact current
    · rcases either with member | ⟨since, atMost, before⟩
      · exact .inl ((mem_cons.mp member).resolve_left fun same => here (same ▸ rfl))
      · refine .inr ⟨since, atMost, ?_⟩
        rw [markedBy_mark wellformed, if_neg here]
        exact before

/-- The keys, newest first, are marked by the age of their generation. -/
structure Remembers (murmurHash3 : UInt32 → Bytes → UInt32) (nEntries : Nat)
    (filter : CRollingBloomFilter) (keys : List Bytes) : Prop where
  wellformed : filter.Wellformed
  sized : filter.nEntriesPerGeneration = nEntries
  marks : ∀ age ≤ 2, ∀ i key, keys[i]? = some key →
    i < filter.nEntriesThisGeneration + age * nEntries →
    ∀ h ∈ filter.hashes murmurHash3 key, filter.Recent age h
  unlimited : nEntries = 0 → keys.length ≤ filter.nEntriesThisGeneration

theorem nextGeneration_remembers (remembers : Remembers murmurHash3 nEntries filter keys)
    (full : filter.nEntriesThisGeneration = nEntries) :
    Remembers murmurHash3 nEntries filter.nextGeneration keys := by
  obtain ⟨wellformed, sized, marks, unlimited⟩ := remembers
  refine ⟨nextGeneration_wellformed wellformed, sized, fun age atMost i key found early h member =>
    ?_, fun none => (unlimited none).trans (full.trans none).le⟩
  cases age with
  | zero => exact absurd early (by simp [nextGeneration])
  | succ age =>
    refine .nextGeneration wellformed (by omega) (marks age (by omega) i key found ?_ h member)
    simp only [nextGeneration, zero_add] at early
    rw [full, add_comm, ← succ_mul]
    exact early

theorem insert_remembers (remembers : Remembers murmurHash3 nEntries filter keys) :
    Remembers murmurHash3 nEntries (filter.insert murmurHash3 vKey) (vKey :: keys) := by
  unfold insert
  generalize turned : (if filter.nEntriesThisGeneration = filter.nEntriesPerGeneration then
    filter.nextGeneration else filter) = rotated
  obtain ⟨wellformed, sized, marks, unlimited⟩ : Remembers murmurHash3 nEntries rotated keys := by
    rw [← turned]
    split
    · rename_i full
      exact nextGeneration_remembers remembers (full.trans remembers.sized)
    · exact remembers
  obtain ⟨same, kept, recent⟩ := @foldl_mark
    { rotated with nEntriesThisGeneration := rotated.nEntriesThisGeneration + 1 }
    ⟨wellformed.generation, wellformed.stored⟩ (rotated.hashes murmurHash3 vKey)
  generalize foldl mark _ _ = next at same kept recent
  rw [same] at kept recent ⊢
  refine ⟨kept, sized, fun age atMost i key found early h member => recent age h ?_, fun none =>
    succ_le_succ (unlimited none)⟩
  cases i with
  | zero =>
    obtain rfl := Option.some.inj found
    exact .inl member
  | succ i => exact .inr (marks age atMost i key found (by simp at early; omega) h member)

theorem lastElements_contained (murmurHash3 : UInt32 → Bytes → UInt32)
    (filter : CRollingBloomFilter) (nElements nTweak : UInt32) (keys : List Bytes)
    (sized : filter.nEntriesPerGeneration = entriesPerGeneration nElements)
    (stored : filter.data ≠ []) :
    ∀ key ∈ keys.reverse.take nElements.toNat,
      (keys.foldl (insert murmurHash3) (filter.reset nTweak)).contains murmurHash3 key = true := by
  have remembers : Remembers murmurHash3 (entriesPerGeneration nElements)
      (keys.foldl (insert murmurHash3) (filter.reset nTweak)) keys.reverse := by
    induction keys using reverseRecOn with
    | nil =>
      exact ⟨⟨mem_cons_self, by simpa [reset] using stored⟩, sized,
        fun _ _ _ _ found => by simp at found, fun _ => zero_le _⟩
    | append_singleton rest key ih =>
      rw [foldl_append, reverse_append]
      exact insert_remembers ih
  intro key member
  obtain ⟨i, inside, found⟩ := mem_take_iff_getElem.mp member
  have listed : keys.reverse[i]? = some key := by rw [← found, getElem?_eq_getElem]
  refine contains_of_recent (remembers.marks 2 le_rfl i key listed ?_)
  have bound := nElements.toNat_lt
  have unlimited := remembers.unlimited
  simp only [entriesPerGeneration, UInt32.toNat_div, UInt32.toNat_add] at unlimited ⊢
  simp at unlimited inside ⊢
  omega

theorem lastElements_contained_sample :
    let murmurHash3 (nHashSeed : UInt32) (vDataToHash : Bytes) :=
      nHashSeed + .ofNat vDataToHash.length
    let filter : CRollingBloomFilter := ⟨1, 0, 1, [(0, 0)], 0, 2⟩
    ∀ key ∈ ([[1], [1, 2], [1, 2, 3]] : List Bytes).reverse.take 2,
      ([[1], [1, 2], [1, 2, 3]].foldl (insert murmurHash3) (filter.reset 5)).contains murmurHash3
        key = true :=
  lastElements_contained _ _ 2 5 _ rfl (cons_ne_nil _ _)

end CRollingBloomFilter
end Minerium
