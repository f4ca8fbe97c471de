import Mathlib.Data.List.Perm.Basic

/-! Directed graphs as lists of edges. Removing the edges that leave one vertex of every elementary
circuit makes a graph acyclic. -/

namespace Digraph

open List

section

variable {α : Type} {edges : List (α × α)}

structure Circuit (edges : List (α × α)) (path : List α) : Prop where
  nonempty : path ≠ []
  distinct : path.Nodup
  steps : path.IsChain fun a b => (a, b) ∈ edges
  closed : ∀ first ∈ path.head?, ∀ last ∈ path.getLast?, (last, first) ∈ edges

def Acyclic (edges : List (α × α)) : Prop := ∀ path, ¬ Circuit edges path

variable {path : List α}

theorem Circuit.mono {fewer : List (α × α)} (circuit : Circuit fewer path)
    (subset : ∀ edge ∈ fewer, edge ∈ edges) : Circuit edges path where
  nonempty := circuit.nonempty
  distinct := circuit.distinct
  steps := circuit.steps.imp fun _ _ => subset _
  closed := fun first head last tail => subset _ (circuit.closed first head last tail)

theorem exists_step (steps : path.IsChain fun a b => (a, b) ∈ edges) {v : α}
    (member : v ∈ path) : path.getLast? = some v ∨ ∃ w, (v, w) ∈ edges := by
  induction path with
  | nil => cases member
  | cons a rest ih =>
    cases rest with
    | nil =>
      left
      obtain rfl := mem_singleton.mp member
      rfl
    | cons b rest =>
      obtain ⟨step, later⟩ := isChain_cons_cons.mp steps
      rcases mem_cons.mp member with rfl | inside
      · exact .inr ⟨b, step⟩
      · rw [List.getLast?_cons_cons]
        exact ih later inside

theorem Circuit.leaves (circuit : Circuit edges path) {v : α}
    (member : v ∈ path) : ∃ w, (v, w) ∈ edges := by
  rcases exists_step circuit.steps member with last | step
  · cases path with
    | nil => cases member
    | cons first rest => exact ⟨first, circuit.closed first rfl v last⟩
  · exact step

theorem acyclic_of_cut {remaining : List (α × α)} {cleared : List α}
    (covers : ∀ path, Circuit edges path → ∃ v ∈ path, v ∈ cleared)
    (subset : ∀ edge ∈ remaining, edge ∈ edges)
    (cut : ∀ edge ∈ remaining, edge.1 ∉ cleared) : Acyclic remaining := by
  intro path circuit
  obtain ⟨v, member, cleared⟩ := covers path (circuit.mono subset)
  obtain ⟨w, edge⟩ := circuit.leaves member
  exact cut _ edge cleared

theorem Acyclic.no_loop (acyclic : Acyclic edges) (v : α) : (v, v) ∉ edges := by
  intro loop
  refine acyclic [v] ⟨cons_ne_nil _ _, by simp, by simp, ?_⟩
  intro first head last tail
  cases head
  cases tail
  exact loop

end

section

variable {κ α : Type} [DecidableEq κ]

def group (entries : List (κ × α)) (key : κ) : List (κ × α) :=
  entries.filter fun entry => decide (entry.1 = key)

variable {entries : List (κ × α)} {key : κ}

theorem mem_group {entry : κ × α} :
    entry ∈ group entries key ↔ entry ∈ entries ∧ entry.1 = key := by
  simp [group]

variable {keys : List κ}

theorem flatMap_group_perm (distinct : keys.Nodup) (covered : ∀ entry ∈ entries, entry.1 ∈ keys) :
    (keys.flatMap (group entries)).Perm entries := by
  induction keys generalizing entries with
  | nil =>
    cases entries with
    | nil => exact List.Perm.refl _
    | cons entry rest => exact absurd (covered entry mem_cons_self) not_mem_nil
  | cons key keys ih =>
    obtain ⟨absent, distinct⟩ := nodup_cons.mp distinct
    have others : keys.flatMap (group entries) =
        keys.flatMap (group (entries.filter fun entry => !decide (entry.1 = key))) := by
      refine flatMap_congr fun other member => ?_
      have different : other ≠ key := fun same => absent (same ▸ member)
      rw [group, group, filter_filter]
      refine filter_congr fun entry _ => ?_
      by_cases here : entry.1 = other
      · simp [here, different]
      · simp [here]
    have rest : (keys.flatMap (group entries)).Perm
        (entries.filter fun entry => !decide (entry.1 = key)) := by
      rw [others]
      refine ih distinct fun entry member => ?_
      obtain ⟨inside, notKey⟩ := mem_filter.mp member
      refine (mem_cons.mp (covered entry inside)).resolve_left fun same => ?_
      simp [same] at notKey
    rw [flatMap_cons]
    exact (rest.append_left _).trans (filter_append_perm _ entries)

theorem group_flatMap_of_mem (distinct : keys.Nodup) (member : key ∈ keys) :
    group (keys.flatMap (group entries)) key = group entries key := by
  induction keys with
  | nil => cases member
  | cons first keys ih =>
    obtain ⟨absent, distinct⟩ := nodup_cons.mp distinct
    rw [flatMap_cons, group, filter_append]
    rcases mem_cons.mp member with rfl | later
    · have own : (group entries key).filter (fun entry => decide (entry.1 = key)) =
          group entries key := by
        refine filter_eq_self.mpr fun entry inside => ?_
        exact decide_eq_true (mem_group.mp inside).2
      have none : (keys.flatMap (group entries)).filter (fun entry => decide (entry.1 = key)) =
          [] := by
        refine filter_eq_nil_iff.mpr fun entry inside => ?_
        obtain ⟨other, listed, grouped⟩ := mem_flatMap.mp inside
        have same := (mem_group.mp grouped).2
        simp only [decide_eq_true_eq]
        exact fun here => absent (here ▸ same ▸ listed)
      rw [own, none, append_nil]
    · have none : (group entries first).filter (fun entry => decide (entry.1 = key)) = [] := by
        refine filter_eq_nil_iff.mpr fun entry inside => ?_
        have same := (mem_group.mp inside).2
        simp only [decide_eq_true_eq]
        exact fun here => absent (same ▸ here ▸ later)
      rw [none, nil_append]
      exact ih distinct later

theorem group_flatMap (distinct : keys.Nodup) (covered : ∀ entry ∈ entries, entry.1 ∈ keys) :
    group (keys.flatMap (group entries)) key = group entries key := by
  by_cases member : key ∈ keys
  · exact group_flatMap_of_mem distinct member
  · have nothing : group entries key = [] :=
      filter_eq_nil_iff.mpr fun entry inside => by
        simp only [decide_eq_true_eq]
        exact fun same => member (same ▸ covered entry inside)
    rw [nothing]
    refine filter_eq_nil_iff.mpr fun entry inside => ?_
    obtain ⟨other, listed, grouped⟩ := mem_flatMap.mp inside
    simp only [decide_eq_true_eq]
    exact fun same => member (same ▸ (mem_group.mp grouped).2 ▸ listed)

end

end Digraph
