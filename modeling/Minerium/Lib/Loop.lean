import Mathlib.Data.List.Basic

/-! Loops over a list whose body may leave the loop. `visits` are the items the loop comes to, each
with the state in which it does. -/

namespace Loop

open List

variable {σ α : Type} (body : α → σ → Bool × σ)

/-- The body says whether to go on, and the state it leaves. -/
def run : List α → σ → σ
  | [], state => state
  | item :: rest, state =>
    match body item state with
    | (true, next) => run rest next
    | (false, last) => last

def visits : List α → σ → List (σ × α)
  | [], _ => []
  | item :: rest, state =>
    (state, item) ::
      match body item state with
      | (true, next) => visits rest next
      | (false, _) => []

variable {body}

variable {state : σ}

theorem run_cons {item : α} {rest : List α} : run body (item :: rest) state =
      if (body item state).1 then run body rest (body item state).2 else (body item state).2 := by
  rw [run]
  generalize body item state = outcome
  obtain ⟨goesOn, next⟩ := outcome
  cases goesOn with
  | true => rfl
  | false => rfl

variable {visit : σ × α}

theorem mem_visits_cons {item : α} {rest : List α} :
    visit ∈ visits body (item :: rest) state ↔ visit = (state, item) ∨
      (body item state).1 = true ∧ visit ∈ visits body rest (body item state).2 := by
  rw [visits, mem_cons]
  generalize body item state = outcome
  obtain ⟨goesOn, next⟩ := outcome
  cases goesOn with
  | true => simp
  | false => simp

variable {items : List α}

theorem mem_of_visits (visited : visit ∈ visits body items state) : visit.2 ∈ items := by
  induction items generalizing state with
  | nil => cases visited
  | cons item rest ih =>
    rcases mem_visits_cons.mp visited with rfl | ⟨-, later⟩
    · exact mem_cons_self
    · exact mem_cons_of_mem item (ih later)

/-- What every body that is run keeps holds in every state the loop comes to and at its end. -/
theorem invariant (good : σ → Prop) {items : List α} {state : σ} (holds : good state)
    (kept : ∀ visit ∈ visits body items state, good visit.1 → good (body visit.2 visit.1).2) :
    good (run body items state) ∧ ∀ visit ∈ visits body items state, good visit.1 := by
  induction items generalizing state with
  | nil => exact ⟨holds, fun visit visited => by cases visited⟩
  | cons item rest ih =>
    have next := kept (state, item) (mem_visits_cons.mpr (Or.inl rfl)) holds
    rw [run_cons]
    cases goesOn : (body item state).1 with
    | false =>
      rw [if_neg Bool.false_ne_true]
      refine ⟨next, fun visit visited => ?_⟩
      rcases mem_visits_cons.mp visited with rfl | ⟨onward, -⟩
      · exact holds
      · rw [goesOn] at onward
        cases onward
    | true =>
      rw [if_pos rfl]
      obtain ⟨final, every⟩ := ih next fun visit visited =>
        kept visit (mem_visits_cons.mpr (Or.inr ⟨goesOn, visited⟩))
      refine ⟨final, fun visit visited => ?_⟩
      rcases mem_visits_cons.mp visited with rfl | ⟨-, later⟩
      · exact holds
      · exact every visit later

theorem run_related {related : σ → σ → Prop} {s t : σ} (start : related s t)
    (step : ∀ visit ∈ visits body items s, ∀ t, related visit.1 t →
      (body visit.2 visit.1).1 = (body visit.2 t).1 ∧
        related (body visit.2 visit.1).2 (body visit.2 t).2) :
    related (run body items s) (run body items t) := by
  induction items generalizing s t with
  | nil => exact start
  | cons item rest ih =>
    obtain ⟨same, next⟩ := step (s, item) (mem_visits_cons.mpr (Or.inl rfl)) t start
    rw [run_cons, run_cons, ← same]
    split
    · exact ih next fun visit visited =>
        step visit (mem_visits_cons.mpr (Or.inr ⟨‹_›, visited⟩))
    · exact next

/-- The loop may have been left before. -/
theorem run_take_drop (n : Nat) : run body items state = run body (items.take n) state ∨
      run body items state = run body (items.drop n) (run body (items.take n) state) := by
  induction items generalizing n state with
  | nil => exact .inl (by rw [take_nil])
  | cons item rest ih =>
    cases n with
    | zero => exact .inr rfl
    | succ n =>
      rw [take_succ_cons, drop_succ_cons, run_cons, run_cons]
      split
      · exact ih n
      · exact .inl rfl

theorem run_items_map {β : Type} {f : β → α} {items : List β} :
    run body (items.map f) state = run (fun item => body (f item)) items state := by
  induction items generalizing state with
  | nil => rfl
  | cons item rest ih => rw [List.map_cons, run_cons, run_cons, ih]

theorem run_of_left
    (visited : visit ∈ visits body items state) (left : (body visit.2 visit.1).1 = false) :
    run body items state = (body visit.2 visit.1).2 := by
  induction items generalizing state with
  | nil => cases visited
  | cons item rest ih =>
    rw [run_cons]
    rcases mem_visits_cons.mp visited with rfl | ⟨goesOn, later⟩
    · rw [left, if_neg Bool.false_ne_true]
    · rw [goesOn, if_pos rfl]
      exact ih later

theorem run_erase [DecidableEq α] {related : σ → σ → Prop} {items : List α} {s t : σ} {out : α}
    (start : related s t)
    (step : ∀ item ∈ items.erase out, ∀ s t, related s t → (body item s).1 = (body item t).1 ∧
      related (body item s).2 (body item t).2)
    (idle : ∀ visit ∈ visits body items s, visit.2 = out → (body out visit.1).1 = true ∧
      ∀ t, related visit.1 t → related (body out visit.1).2 t) :
    related (run body items s) (run body (items.erase out) t) := by
  induction items generalizing s t with
  | nil => exact start
  | cons item rest ih =>
    by_cases same : item = out
    · subst same
      rw [erase_cons_head] at step ⊢
      obtain ⟨goesOn, still⟩ := idle (s, item) (mem_visits_cons.mpr (Or.inl rfl)) rfl
      rw [run_cons, if_pos goesOn]
      exact run_related (still t start) fun visit visited =>
        step visit.2 (mem_of_visits visited) visit.1
    · have erased : (item :: rest).erase out = item :: rest.erase out :=
        erase_cons_tail (by simpa using same)
      rw [erased] at step ⊢
      obtain ⟨verdict, next⟩ := step item mem_cons_self s t start
      rw [run_cons, run_cons, ← verdict]
      split
      · rename_i goesOn
        exact ih next (fun other member => step other (mem_cons_of_mem item member))
          fun visit visited => idle visit (mem_visits_cons.mpr (Or.inr ⟨goesOn, visited⟩))
      · exact next

/-- The loop ends at `out`, and nothing acts behind it. -/
theorem run_erase_last [DecidableEq α] {s : σ} {out : α}
    (visited : (s, out) ∈ visits body items state) (left : (body out s).1 = false)
    (idle : ∀ item ∈ (items.dropWhile (· ≠ out)).tail, ∀ t, body item t = (true, t)) :
    run body (items.erase out) state = s := by
  induction items generalizing state with
  | nil => cases visited
  | cons item rest ih =>
    by_cases same : item = out
    · subst same
      rw [dropWhile_cons_of_neg (by simp), tail_cons] at idle
      rw [erase_cons_head]
      have stays : run body rest state = state :=
        (invariant (fun t => t = state) rfl fun visit member kept => by
          rw [idle visit.2 (mem_of_visits member), kept]).1
      rcases mem_visits_cons.mp visited with first | ⟨-, later⟩
      · rw [stays, (Prod.mk.inj first).1]
      · rw [idle item (mem_of_visits later)] at left
        cases left
    · rw [dropWhile_cons_of_pos (by simpa using same)] at idle
      rw [erase_cons_tail (by simpa using same), run_cons]
      rcases mem_visits_cons.mp visited with first | ⟨goesOn, later⟩
      · exact absurd (Prod.mk.inj first).2.symm same
      · rw [if_pos goesOn]
        exact ih later idle

theorem exists_change {β : Type} (view : σ → β)
    (changed : view (run body items state) ≠ view state) :
    ∃ visit ∈ visits body items state, view visit.1 = view state ∧
      view (body visit.2 visit.1).2 ≠ view visit.1 := by
  by_contra none
  refine changed (invariant (fun s => view s = view state) rfl ?_).1
  intro visit visited same
  by_contra differs
  exact none ⟨visit, visited, same, fun unchanged => differs (unchanged.trans same)⟩

end Loop
