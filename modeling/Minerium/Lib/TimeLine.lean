import Mathlib.Algebra.BigOperators.Intervals
import Mathlib.Data.List.TakeWhile
import Mathlib.Tactic.Ring
import Minerium.Lib.Run

/-! Runs along a time line. What is due on an account grows by its balance with every block, and an
action leaves what is due unchanged. -/

namespace TimeLine

open Run (run Permitted permitted_concat run_concat)

variable {σ α : Type} (step : σ → α → σ) (height : α → Nat) {first last : Nat}

def upTo (block : Nat) (actions : List α) : List α :=
  actions.takeWhile fun action => decide (height action ≤ block)

def Ordered (first last : Nat) : List α → Prop
  | [] => first ≤ last
  | action :: rest => first ≤ height action ∧ Ordered (height action) last rest

/-- What is due at a height, and the balance it grows by. -/
structure Account (σ : Type) where
  due : Nat → σ → Int
  balance : σ → Int
  grows : ∀ state height later, due later state = due height state +
    balance state * (later - height)

def Settles (account : Account σ) (state : σ) (action : α) : Prop :=
  account.due (height action) (step state action) = account.due (height action) state

variable {step height}

variable {actions : List α}

theorem Ordered.le (ordered : Ordered height first last actions) : first ≤ last := by
  induction actions generalizing first with
  | nil => exact ordered
  | cons action rest ih => exact ordered.1.trans (ih ordered.2)

variable {action : α}

theorem Ordered.heights (ordered : Ordered height first last actions) (member : action ∈ actions) :
    height action ≤ last := by
  induction actions generalizing first with
  | nil => cases member
  | cons head rest ih =>
    rcases List.mem_cons.mp member with rfl | later
    · exact ordered.2.le
    · exact ih ordered.2 later

theorem ordered_concat : Ordered height first last (actions ++ [action]) ↔
      Ordered height first (height action) actions ∧ height action ≤ last := by
  induction actions generalizing first with
  | nil => rfl
  | cons head rest ih => simp only [List.cons_append, Ordered, ih, and_assoc]

theorem upTo_concat_later {block : Nat} (later : block < height action) :
    upTo height block (actions ++ [action]) = upTo height block actions := by
  rw [upTo, List.takeWhile_append]
  split
  · rename_i whole
    rw [upTo, (List.takeWhile_prefix _).eq_of_length whole]
    simp [later]
  · rfl

theorem upTo_eq_self {block last first : Nat}
    (ordered : Ordered height first last actions) (reached : last ≤ block) :
    upTo height block actions = actions :=
  List.takeWhile_eq_self_iff.mpr fun _ member =>
    decide_eq_true ((ordered.heights member).trans reached)

variable {account : Account σ} {start : σ}

theorem sum_balance_after {first last reached : Nat}
    (ordered : Ordered height first reached actions) (bound : reached ≤ last) :
    ∑ block ∈ Finset.Ico reached last,
        account.balance (run step start (upTo height block actions)) =
      account.balance (run step start actions) * (last - reached) := by
  have length : ((last - reached : ℕ) : ℤ) = last - reached := Int.ofNat_sub bound
  rw [Finset.sum_congr rfl fun block member => by
    rw [upTo_eq_self ordered (Finset.mem_Ico.mp member).1]]
  rw [Finset.sum_const, Nat.card_Ico, nsmul_eq_mul, length, mul_comm]

theorem due_eq_sum (ordered : Ordered height first last actions)
    (settled : Permitted step (Settles step height account) start actions) :
    account.due last (run step start actions) = account.due first start +
      ∑ block ∈ Finset.Ico first last,
        account.balance (run step start (upTo height block actions)) := by
  induction actions using List.reverseRecOn generalizing last with
  | nil =>
    have nothing : Ordered height first first ([] : List α) := le_refl first
    rw [sum_balance_after nothing ordered]
    exact account.grows start first last
  | append_singleton actions action ih =>
    obtain ⟨before, here⟩ := permitted_concat.mp settled
    obtain ⟨earlier, bound⟩ := ordered_concat.mp ordered
    have whole : Ordered height first (height action) (actions ++ [action]) :=
      ordered_concat.mpr ⟨earlier, le_refl _⟩
    have past : ∑ block ∈ Finset.Ico first (height action), account.balance (run step start
        (upTo height block (actions ++ [action]))) =
        ∑ block ∈ Finset.Ico first (height action),
          account.balance (run step start (upTo height block actions)) := by
      refine Finset.sum_congr rfl fun block member => ?_
      rw [upTo_concat_later (Finset.mem_Ico.mp member).2]
    rw [← Finset.sum_Ico_consecutive _ earlier.le bound, past, sum_balance_after whole bound,
      account.grows _ (height action), run_concat, here, ih earlier before]
    ring

end TimeLine
