import Minerium.Lib.Procedure

/-! Which stops a computation can end in, with one rule for each way to build a computation.
The same for the failures of `Except`. -/

namespace Procedure

variable {σ ε α β : Type} {allowed : ε → Prop}

/-- From every state, each stop of the computation is an allowed one. -/
def StopsOnly (allowed : ε → Prop) (m : Procedure σ ε α) : Prop :=
  ∀ s, wp m (fun _ _ => True) (fun e _ => allowed e) s

def FailsOnly (allowed : ε → Prop) (x : Except ε α) : Prop := ∀ e, x = .error e → allowed e

theorem StopsOnly.pure (a : α) : StopsOnly allowed (Pure.pure a : Procedure σ ε α) :=
  fun _ => trivial

theorem StopsOnly.bind {m : Procedure σ ε α} {f : α → Procedure σ ε β}
    (first : StopsOnly allowed m) (rest : ∀ a, StopsOnly allowed (f a)) :
    StopsOnly allowed (m >>= f) := by
  intro s
  rw [wp_bind]
  exact wp_mono (first s) (fun a middle _ => rest a middle) (fun _ _ stopped => stopped)

theorem StopsOnly.read (f : σ → α) : StopsOnly allowed (.read f : Procedure σ ε α) :=
  fun _ => trivial

theorem StopsOnly.modify (f : σ → σ) : StopsOnly allowed (.modify f : Procedure σ ε Unit) :=
  fun _ => trivial

variable {e : ε}

theorem StopsOnly.require (condition : Bool) (holds : allowed e) :
    StopsOnly allowed (.require condition e : Procedure σ ε Unit) := by
  intro s
  rw [wp_require]
  exact ⟨fun _ => trivial, fun _ => holds⟩

theorem StopsOnly.requires {condition : Bool} (holds : allowed e)
    {n : Procedure σ ε α} (next : StopsOnly allowed n) :
    StopsOnly allowed (.require condition e >>= fun _ => n) :=
  .bind (.require condition holds) fun _ => next

theorem StopsOnly.orStop (holds : allowed e) (x : Option α) :
    StopsOnly allowed (.orStop e x : Procedure σ ε α) := by
  intro s
  rw [wp_orStop]
  exact ⟨fun _ _ => trivial, fun _ => holds⟩

theorem StopsOnly.liftExcept {x : Except ε α} (fails : FailsOnly allowed x) :
    StopsOnly allowed (.liftExcept x : Procedure σ ε α) := by
  intro s
  rw [wp_liftExcept]
  exact ⟨fun _ _ => trivial, fails⟩

theorem StopsOnly.ite {condition : Prop} [Decidable condition] {m n : Procedure σ ε α}
    (yes : StopsOnly allowed m) (no : StopsOnly allowed n) :
    StopsOnly allowed (if condition then m else n) := by
  split
  · exact yes
  · exact no

theorem FailsOnly.ok (a : α) : FailsOnly allowed (.ok a : Except ε α) := by
  intro e failed
  cases failed

theorem FailsOnly.error (holds : allowed e) : FailsOnly allowed (.error e : Except ε α) := by
  intro other failed
  cases failed
  exact holds

theorem FailsOnly.bind {x : Except ε α} {f : α → Except ε β} (first : FailsOnly allowed x)
    (rest : ∀ a, FailsOnly allowed (f a)) : FailsOnly allowed (x >>= f) := by
  cases x with
  | ok a => exact rest a
  | error e => exact FailsOnly.error (first e rfl)

theorem FailsOnly.ite {condition : Prop} [Decidable condition] {x y : Except ε α}
    (yes : FailsOnly allowed x) (no : FailsOnly allowed y) :
    FailsOnly allowed (if condition then x else y) := by
  split
  · exact yes
  · exact no

end Procedure
