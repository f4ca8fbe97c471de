import Mathlib.Data.List.Basic

/-! A vector kept sorted by a key, searched from below. Elements with one key count as equal,
whatever else they hold. -/

namespace SortedVector

open List

variable {α κ : Type} [LT κ] [DecidableLT κ]

section

variable (key : α → κ) (V : List α) (x : α)

def below : List α :=
  V.takeWhile fun other => decide (key other < key x)

def fromBound : List α :=
  V.dropWhile fun other => decide (key other < key x)

def find : Option α :=
  match fromBound key V x with
  | [] => none
  | found :: _ => if key x < key found then none else some found

def insert : List α :=
  below key V x ++
    match fromBound key V x with
    | [] => [x]
    | found :: rest => if key x < key found then x :: found :: rest else found :: rest

def erase : List α :=
  below key V x ++
    match fromBound key V x with
    | [] => []
    | found :: rest => if key x < key found then found :: rest else rest

def Sorted : Prop := V.Pairwise fun a b => key a < key b

end

variable {V : List α} {x : α}

section

variable {key : α → κ}

theorem insert_cons {head : α} {rest : List α} : insert key (head :: rest) x =
    if key head < key x then head :: insert key rest x
    else if key x < key head then x :: head :: rest else head :: rest := by
  split <;> simp [insert, below, fromBound, *]

theorem mem_insert {y : α} (member : y ∈ insert key V x) : y = x ∨ y ∈ V := by
  induction V with
  | nil =>
    left
    simpa [insert, below, fromBound] using member
  | cons head rest ih =>
    rw [insert_cons] at member
    split at member
    · rcases mem_cons.mp member with rfl | member
      · exact Or.inr mem_cons_self
      · exact (ih member).imp id (mem_cons_of_mem head)
    · split at member
      · exact mem_cons.mp member
      · exact Or.inr member

theorem below_append_fromBound (key : α → κ) (V : List α) (x : α) :
    below key V x ++ fromBound key V x = V := takeWhile_append_dropWhile

theorem insert_of_find (found : (find key V x).isSome = true) : insert key V x = V := by
  conv_rhs => rw [← below_append_fromBound key V x]
  rw [find] at found
  rw [insert]
  split at found
  · cases found
  · rename_i head rest bound
    rw [bound]
    split at found
    · cases found
    · rename_i notLess
      simp only [if_neg notLess]

theorem length_insert_of_not_find (missing : (find key V x).isSome = false) :
    (insert key V x).length = V.length + 1 := by
  conv_rhs => rw [← below_append_fromBound key V x]
  rw [find] at missing
  rw [insert, length_append, length_append]
  split at missing
  · rename_i bound
    rw [bound]
    rfl
  · rename_i head rest bound
    rw [bound]
    split at missing
    · rename_i less
      simp only [if_pos less, length_cons]
      omega
    · cases missing

theorem length_le_insert : V.length ≤ (insert key V x).length := by
  cases found : (find key V x).isSome with
  | true => exact Nat.le_of_eq (congrArg List.length (insert_of_find found).symm)
  | false =>
    rw [length_insert_of_not_find found]
    omega

theorem length_le_foldl_insert (key : α → κ) (xs V : List α) :
    V.length ≤ (xs.foldl (insert key) V).length := by
  induction xs generalizing V with
  | nil => exact Nat.le_refl _
  | cons x rest ih => exact Nat.le_trans length_le_insert (ih _)

theorem foldl_insert_eq_self {xs V : List α} :
    xs.foldl (insert key) V = V ↔ ∀ x ∈ xs, (find key V x).isSome = true := by
  induction xs with
  | nil => simp
  | cons x rest ih =>
    rw [foldl_cons, forall_mem_cons]
    cases found : (find key V x).isSome with
    | true =>
      rw [insert_of_find found, ih]
      exact (and_iff_right rfl).symm
    | false =>
      refine iff_of_false (fun same => ?_) fun both => Bool.false_ne_true both.1
      have longer := length_le_foldl_insert key rest (insert key V x)
      rw [same, length_insert_of_not_find found] at longer
      omega

end

section

variable [LE κ] [Std.IsLinearOrder κ] [Std.LawfulOrderLT κ] {key : α → κ}

omit [DecidableLT κ] in
theorem eq_of_not_lt {a b : κ} (first : ¬ a < b) (second : ¬ b < a) : a = b :=
  Std.le_antisymm (Std.not_lt.mp second) (Std.not_lt.mp first)

theorem find_isSome_iff (sorted : Sorted key V) :
    (find key V x).isSome = true ↔ ∃ y ∈ V, key y = key x := by
  induction V with
  | nil => simp [find, fromBound]
  | cons head rest ih =>
    obtain ⟨first, others⟩ := pairwise_cons.mp sorted
    by_cases less : key head < key x
    · have step : find key (head :: rest) x = find key rest x := by
        simp [find, fromBound, less]
      have different : key head ≠ key x := fun same => Std.lt_irrefl (same ▸ less)
      rw [step, ih others]
      simp [different]
    · simp only [find, fromBound, less, decide_false, dropWhile_cons_of_neg,
        Bool.false_eq_true, not_false_eq_true]
      by_cases greater : key x < key head
      · have absent : ¬ ∃ y ∈ head :: rest, key y = key x := by
          rintro ⟨y, member, same⟩
          rcases mem_cons.mp member with rfl | member
          · exact Std.lt_irrefl (same ▸ greater)
          · exact Std.lt_irrefl (same ▸ Std.lt_trans greater (first y member))
        simp only [if_pos greater, Option.isSome_none, Bool.false_eq_true, absent]
      · simp only [if_neg greater, Option.isSome_some, true_iff]
        exact ⟨head, mem_cons_self, eq_of_not_lt less greater⟩

theorem insert_keys (sorted : Sorted key V) : Sorted key (insert key V x) ∧
      ∀ k, (∃ y ∈ insert key V x, key y = k) ↔ key x = k ∨ ∃ y ∈ V, key y = k := by
  induction V with
  | nil =>
    constructor
    · simp [Sorted, insert, below, fromBound]
    · simp [insert, below, fromBound]
  | cons head rest ih =>
    obtain ⟨first, others⟩ := pairwise_cons.mp sorted
    rw [insert_cons]
    by_cases less : key head < key x
    · obtain ⟨sortedRest, keysRest⟩ := ih others
      rw [if_pos less]
      constructor
      · refine pairwise_cons.mpr ⟨?_, sortedRest⟩
        intro y member
        rcases mem_insert member with rfl | member
        · exact less
        · exact first y member
      · intro k
        simp only [exists_mem_cons_iff, keysRest k]
        tauto
    · rw [if_neg less]
      by_cases greater : key x < key head
      · rw [if_pos greater]
        constructor
        · refine pairwise_cons.mpr ⟨?_, sorted⟩
          intro y member
          rcases mem_cons.mp member with rfl | member
          · exact greater
          · exact Std.lt_trans greater (first y member)
        · intro k
          simp only [exists_mem_cons_iff]
      · rw [if_neg greater]
        refine ⟨sorted, fun k => ?_⟩
        have same := eq_of_not_lt less greater
        simp only [exists_mem_cons_iff, same]
        tauto

theorem foldl_insert_keys {xs V : List α} (sorted : Sorted key V) :
    Sorted key (xs.foldl (insert key) V) ∧ ∀ k, (∃ y ∈ xs.foldl (insert key) V, key y = k) ↔
        (∃ x ∈ xs, key x = k) ∨ ∃ y ∈ V, key y = k := by
  induction xs generalizing V with
  | nil => exact ⟨sorted, by simp⟩
  | cons x rest ih =>
    obtain ⟨stays, keys⟩ := insert_keys sorted
    obtain ⟨result, all⟩ := ih stays
    refine ⟨result, fun k => (all k).trans ?_⟩
    rw [keys, exists_mem_cons_iff, or_left_comm, or_assoc]

theorem find_insert_isSome (sorted : Sorted key V) (x y : α) :
    (find key (insert key V x) y).isSome = true ↔
      key x = key y ∨ (find key V y).isSome = true := by
  obtain ⟨sorted', keys⟩ := insert_keys sorted
  rw [find_isSome_iff sorted', find_isSome_iff sorted, keys]

end

end SortedVector
