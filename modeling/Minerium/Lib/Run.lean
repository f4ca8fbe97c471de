import Mathlib.Logic.Basic

/-! Runs of a deterministic system over a list of actions, and the rule for invariants. -/

namespace Run

variable {σ α : Type} (step : σ → α → σ)

def run (start : σ) (actions : List α) : σ := actions.foldl step start

/-- Every action is permitted in the state in which it is taken. -/
def Permitted (permitted : σ → α → Prop) : σ → List α → Prop
  | _, [] => True
  | state, action :: rest => permitted state action ∧ Permitted permitted (step state action) rest

instance decidablePermitted (permitted : σ → α → Prop) [∀ s a, Decidable (permitted s a)] :
    ∀ (start : σ) (actions : List α), Decidable (Permitted step permitted start actions)
  | _, [] => .isTrue trivial
  | state, action :: rest =>
    have := decidablePermitted permitted (step state action) rest
    inferInstanceAs (Decidable (_ ∧ _))

variable {step} {permitted : σ → α → Prop}

theorem invariant {good : σ → Prop}
    (kept : ∀ state action, good state → permitted state action → good (step state action))
    {start : σ} (holds : good start) {actions : List α}
    (allowed : Permitted step permitted start actions) : good (run step start actions) := by
  induction actions generalizing start with
  | nil => exact holds
  | cons action rest ih => exact ih (kept start action holds allowed.1) allowed.2

variable {start : σ} {actions : List α}

theorem permitted_concat {action : α} : Permitted step permitted start (actions ++ [action]) ↔
      Permitted step permitted start actions ∧ permitted (run step start actions) action := by
  induction actions generalizing start with
  | nil => simp [Permitted, run]
  | cons head rest ih =>
    simp only [List.cons_append, Permitted, ih, and_assoc]
    rfl

theorem Permitted.imp {stricter : σ → α → Prop}
    (implies : ∀ state action, stricter state action → permitted state action)
    (allowed : Permitted step stricter start actions) : Permitted step permitted start actions := by
  induction actions generalizing start with
  | nil => trivial
  | cons action rest ih => exact ⟨implies start action allowed.1, ih allowed.2⟩

theorem run_concat {step : σ → α → σ} {action : α} :
    run step start (actions ++ [action]) = step (run step start actions) action := by
  rw [run, List.foldl_append]
  rfl

theorem invariant_always {good : σ → Prop}
    (kept : ∀ state action, good state → good (step state action)) {start : σ}
    (holds : good start) (actions : List α) : good (run step start actions) :=
  List.foldlRecOn actions step holds fun state good action _ => kept state action good

end Run
