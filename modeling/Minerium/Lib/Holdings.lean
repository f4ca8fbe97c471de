import Mathlib.Data.Finset.Basic

/-! Owners of disjoint sets of items. Handing items over, or giving new items to one owner, keeps
the sets disjoint. -/

namespace Holdings

variable {ι κ : Type} [DecidableEq κ] {held held' : ι → Finset κ}

def Apart (held : ι → Finset κ) : Prop := ∀ owner other, owner ≠ other →
  Disjoint (held owner) (held other)

omit [DecidableEq κ] in
theorem Apart.mono (apart : Apart held) (fewer : ∀ owner, held' owner ⊆ held owner) :
    Apart held' := fun owner other different =>
  Finset.disjoint_of_subset_left (fewer owner)
    (Finset.disjoint_of_subset_right (fewer other) (apart owner other different))

theorem Apart.grant (apart : Apart held) (owner : ι) (items : Finset κ)
    (fresh : ∀ other, other ≠ owner → Disjoint (held other) items)
    (granted : held' owner = held owner ∪ items)
    (others : ∀ other, other ≠ owner → held' other = held other) : Apart held' := by
  have toOther : ∀ other, other ≠ owner → Disjoint (held' owner) (held' other) := by
    intro other different
    rw [granted, others other different, Finset.disjoint_union_left]
    exact ⟨apart owner other (Ne.symm different), (fresh other different).symm⟩
  intro first second different
  by_cases isFirst : first = owner
  · subst isFirst
    exact toOther second (Ne.symm different)
  · by_cases isSecond : second = owner
    · subst isSecond
      exact (toOther first isFirst).symm
    · rw [others first isFirst, others second isSecond]
      exact apart first second different

theorem Apart.move (apart : Apart held) {source target : ι} {items : Finset κ}
    (different : source ≠ target) (owned : items ⊆ held source)
    (taken : held' source = held source \ items) (given : held' target = held target ∪ items)
    (others : ∀ other, other ≠ source → other ≠ target → held' other = held other) :
    Apart held' := by
  classical
  -- first take the items away, then grant them to the target
  let between : ι → Finset κ := fun owner =>
    if owner = source then held source \ items else held owner
  have fewer : ∀ owner, between owner ⊆ held owner := by
    intro owner
    by_cases isSource : owner = source
    · simp only [between, if_pos isSource]
      rw [isSource]
      exact Finset.sdiff_subset
    · simp only [between, if_neg isSource]
      exact Finset.Subset.refl _
  refine (apart.mono fewer).grant target items ?_ ?_ ?_
  · intro other notTarget
    by_cases isSource : other = source
    · simp only [between, if_pos isSource]
      exact Finset.sdiff_disjoint
    · simp only [between, if_neg isSource]
      exact Finset.disjoint_of_subset_right owned (apart other source isSource)
  · simp only [between, if_neg (Ne.symm different), given]
  · intro other notTarget
    by_cases isSource : other = source
    · simp only [between, if_pos isSource]
      rw [isSource, taken]
    · simp only [between, if_neg isSource]
      exact others other isSource notTarget

end Holdings
