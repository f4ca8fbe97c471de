import Mathlib.Logic.Basic

/-! Taking a successful computation in `Except` apart, and what all failures of a computation
have in common. -/

namespace ExceptBind

variable {ε α β : Type}

variable {x : Except ε α}

theorem bind_eq_ok {f : α → Except ε β} {result : β} :
    (x >>= f) = .ok result ↔ ∃ a, x = .ok a ∧ f a = .ok result := by
  cases x with
  | error failure =>
    constructor
    · intro impossible
      cases impossible
    · rintro ⟨a, impossible, -⟩
      cases impossible
  | ok a =>
    constructor
    · intro continued
      exact ⟨a, rfl, continued⟩
    · rintro ⟨b, same, continued⟩
      cases same
      exact continued

theorem pure_eq_ok {a b : α} : (pure a : Except ε α) = .ok b ↔ a = b := by
  constructor
  · intro same
    exact Except.ok.inj same
  · rintro rfl
    rfl

theorem ite_error_eq_ok {condition : Prop} [Decidable condition] {failure : ε} {result : α} :
    (if condition then .error failure else x) = .ok result ↔ ¬ condition ∧ x = .ok result := by
  by_cases failed : condition
  · simp [failed]
  · simp [failed]

theorem toOption_eq_some {result : α} : x.toOption = some result ↔ x = .ok result := by
  cases x with
  | error failure => simp [Except.toOption]
  | ok a => simp [Except.toOption]

def Raises (P : ε → Prop) (x : Except ε α) : Prop := ∀ failure, x = .error failure → P failure

theorem raises_ok (P : ε → Prop) (a : α) : Raises P (.ok a : Except ε α) := by
  intro failure impossible
  cases impossible

variable {P : ε → Prop}

theorem raises_pure {a : α} : Raises P (pure a : Except ε α) := raises_ok P a

theorem raises_error {failure : ε} (holds : P failure) :
    Raises P (.error failure : Except ε α) := by
  intro other same
  cases same
  exact holds

theorem raises_bind {f : α → Except ε β} (first : Raises P x)
    (rest : ∀ a, x = .ok a → Raises P (f a)) : Raises P (x >>= f) := by
  intro failure failed
  cases x with
  | error earlier =>
    cases failed
    exact first _ rfl
  | ok a => exact rest a rfl failure failed

end ExceptBind
