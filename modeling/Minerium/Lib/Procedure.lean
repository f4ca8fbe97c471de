import Mathlib.Logic.Basic

/-! Computations over a state that may stop early. The state survives the stop: what was written
before it stays written. -/

def Procedure (σ ε α : Type) : Type := σ → Except ε α × σ

namespace Procedure

variable {σ ε α β : Type}

protected def bind (m : Procedure σ ε α) (f : α → Procedure σ ε β) : Procedure σ ε β :=
  fun s =>
    match m s with
    | (.ok a, s') => f a s'
    | (.error e, s') => (.error e, s')

instance : Monad (Procedure σ ε) where
  pure a := fun s => (.ok a, s)
  bind := .bind

def stop (e : ε) : Procedure σ ε α := fun s => (.error e, s)

def read (f : σ → α) : Procedure σ ε α := fun s => (.ok (f s), s)

def modify (f : σ → σ) : Procedure σ ε Unit := fun s => (.ok (), f s)

def require (condition : Bool) (e : ε) : Procedure σ ε Unit :=
  if condition then pure () else stop e

def orStop (e : ε) : Option α → Procedure σ ε α
  | some a => pure a
  | none => stop e

variable {a : α} {f : α → Procedure σ ε β}

theorem pure_bind : ((pure a : Procedure σ ε α) >>= f) = f a := rfl

variable {m : Procedure σ ε α}

theorem bind_assoc {γ : Type}
    {g : β → Procedure σ ε γ} : (m >>= f >>= g) = m >>= fun a => f a >>= g := by
  funext s
  change Procedure.bind (Procedure.bind m f) g s =
    Procedure.bind m (fun a => Procedure.bind (f a) g) s
  simp only [Procedure.bind]
  generalize m s = outcome
  obtain ⟨result, s'⟩ := outcome
  cases result with
  | ok a => rfl
  | error e => rfl

@[simp] theorem orStop_some_bind (e : ε) (a : α) (f : α → Procedure σ ε β) :
    (orStop e (some a) >>= f) = f a := rfl

def mapStop {ε' : Type} (f : ε → ε') (m : Procedure σ ε α) : Procedure σ ε' α := fun s =>
  match m s with
  | (.ok a, s') => (.ok a, s')
  | (.error e, s') => (.error (f e), s')

def liftExcept : Except ε α → Procedure σ ε α
  | .ok a => pure a
  | .error e => stop e

def wp (m : Procedure σ ε α) (post : α → σ → Prop) (stopped : ε → σ → Prop) (s : σ) : Prop :=
  match m s with
  | (.ok a, s') => post a s'
  | (.error e, s') => stopped e s'

section

variable {post : α → σ → Prop} {stopped : ε → σ → Prop} {s : σ} {postU : Unit → σ → Prop}

@[simp] theorem wp_pure (a : α) : wp (pure a : Procedure σ ε α) post stopped s ↔ post a s := .rfl

@[simp] theorem wp_bind {postB : β → σ → Prop} (m : Procedure σ ε α) (f : α → Procedure σ ε β) :
    wp (m >>= f) postB stopped s ↔
      wp m (fun a s' => wp (f a) postB stopped s') stopped s := by
  change wp (.bind m f) postB stopped s ↔ _
  simp only [wp, Procedure.bind]
  generalize m s = outcome
  obtain ⟨result, s'⟩ := outcome
  cases result with
  | error e => exact .rfl
  | ok a => exact .rfl

@[simp] theorem wp_stop (e : ε) : wp (stop e : Procedure σ ε α) post stopped s ↔ stopped e s := .rfl

@[simp] theorem wp_read (f : σ → α) :
    wp (read f : Procedure σ ε α) post stopped s ↔ post (f s) s := .rfl

@[simp] theorem wp_modify (f : σ → σ) :
    wp (modify f : Procedure σ ε Unit) postU stopped s ↔ postU () (f s) := .rfl

@[simp] theorem wp_require (condition : Bool) (e : ε) : wp (require condition e) postU stopped s ↔
      (condition = true → postU () s) ∧ (condition = false → stopped e s) := by
  cases condition with
  | true => simp [require]
  | false => simp [require]

@[simp] theorem wp_orStop (e : ε) (x : Option α) : wp (orStop e x) post stopped s ↔
      (∀ a, x = some a → post a s) ∧ (x = none → stopped e s) := by
  cases x with
  | none => simp [orStop]
  | some a => simp [orStop]

@[simp] theorem wp_liftExcept (x : Except ε α) : wp (liftExcept x) post stopped s ↔
      (∀ a, x = .ok a → post a s) ∧ (∀ e, x = .error e → stopped e s) := by
  cases x with
  | error e => simp [liftExcept]
  | ok a => simp [liftExcept]

theorem wp_mono {post' : α → σ → Prop} {stopped' : ε → σ → Prop}
    (holds : wp m post stopped s) (onValue : ∀ a s', post a s' → post' a s')
    (onStop : ∀ e s', stopped e s' → stopped' e s') : wp m post' stopped' s := by
  simp only [wp] at holds ⊢
  generalize m s = outcome at holds
  obtain ⟨result, s'⟩ := outcome
  cases result with
  | error e => exact onStop e s' holds
  | ok a => exact onValue a s' holds

theorem wp_always (value : ∀ a s', post a s')
    (stops : ∀ e s', stopped e s') : wp m post stopped s := by
  rw [wp]
  split
  · exact value _ _
  · exact stops _ _

theorem wp_ok {s' : σ} (holds : wp m post stopped s) (ran : m s = (.ok a, s')) : post a s' := by
  simp only [wp, ran] at holds
  exact holds

theorem wp_error {e : ε} (holds : wp m post stopped s)
    (failed : (m s).1 = .error e) : stopped e (m s).2 := by
  simp only [wp] at holds
  generalize m s = outcome at holds failed ⊢
  obtain ⟨result, s'⟩ := outcome
  cases failed
  exact holds

theorem wp_reached (holds : wp m post stopped s) :
    wp m (fun a s' => post a s' ∧ s' = (m s).2) (fun e s' => stopped e s' ∧ s' = (m s).2) s := by
  simp only [wp] at holds ⊢
  generalize m s = outcome at holds ⊢
  obtain ⟨result, s'⟩ := outcome
  cases result with
  | error e => exact ⟨holds, rfl⟩
  | ok a => exact ⟨holds, rfl⟩

theorem wp_final {m : Procedure σ ε α} {good : σ → Prop}
    (holds : wp m (fun _ => good) (fun _ => good) s) : good (m s).2 := by
  simp only [wp] at holds
  generalize m s = outcome at holds ⊢
  obtain ⟨result, s'⟩ := outcome
  cases result with
  | error e => exact holds
  | ok a => exact holds

end

/-- Which states are good, and how a state may change. -/
structure Frame (σ : Type) where
  good : σ → Prop
  rel : σ → σ → Prop
  refl : ∀ s, rel s s
  trans : ∀ {first second third}, rel first second → rel second third → rel first third

/-- From a good state it ends in a good state, changed only as the frame allows; `result` holds of
its value. -/
def Keeps (F : Frame σ) (m : Procedure σ ε α) (result : α → Prop) : Prop :=
  ∀ s, F.good s → wp m (fun a s' => F.good s' ∧ F.rel s s' ∧ result a)
    (fun _ s' => F.good s' ∧ F.rel s s') s

section

variable {F : Frame σ} {result : α → Prop}

theorem Keeps.pure (holds : result a) : Keeps F (Pure.pure a : Procedure σ ε α) result :=
  fun s good => ⟨good, F.refl s, holds⟩

theorem Keeps.bind {next : β → Prop}
    (first : Keeps F m result) (rest : ∀ a, result a → Keeps F (f a) next) :
    Keeps F (m >>= f) next := by
  intro s good
  rw [wp_bind]
  refine wp_mono (first s good) ?_ (fun _ _ stopped => stopped)
  rintro a middle ⟨goodMiddle, changed, holds⟩
  refine wp_mono (rest a holds middle goodMiddle) ?_ ?_
  · rintro b after ⟨goodAfter, changedAgain, done⟩
    exact ⟨goodAfter, F.trans changed changedAgain, done⟩
  · rintro e after ⟨goodAfter, changedAgain⟩
    exact ⟨goodAfter, F.trans changed changedAgain⟩

theorem Keeps.read {f : σ → α} (holds : ∀ s, F.good s → result (f s)) :
    Keeps F (.read f : Procedure σ ε α) result :=
  fun s good => ⟨good, F.refl s, holds s good⟩

theorem Keeps.readAny {f : σ → α} : Keeps F (.read f : Procedure σ ε α) fun _ => True :=
  Keeps.read fun _ _ => trivial

theorem Keeps.modify {f : σ → σ} (changed : ∀ s, F.good s → F.good (f s) ∧ F.rel s (f s)) :
    Keeps F (.modify f : Procedure σ ε Unit) fun _ => True :=
  fun s good => ⟨(changed s good).1, (changed s good).2, trivial⟩

theorem Keeps.mono {weaker : α → Prop} (keeps : Keeps F m result)
    (implies : ∀ a, result a → weaker a) : Keeps F m weaker := by
  intro s good
  refine wp_mono (keeps s good) ?_ (fun _ _ stopped => stopped)
  rintro a after ⟨goodAfter, changed, holds⟩
  exact ⟨goodAfter, changed, implies a holds⟩

theorem Keeps.require (condition : Bool) (e : ε) :
    Keeps F (.require condition e : Procedure σ ε Unit) fun _ => condition = true := by
  intro s good
  rw [wp_require]
  exact ⟨fun holds => ⟨good, F.refl s, holds⟩, fun _ => ⟨good, F.refl s⟩⟩

theorem Keeps.requireAny {condition : Bool} {e : ε} :
    Keeps F (.require condition e : Procedure σ ε Unit) fun _ => True :=
  (Keeps.require condition e).mono fun _ _ => trivial

theorem Keeps.requires {condition : Bool} {e : ε}
    (next : Keeps F m result) : Keeps F (.require condition e >>= fun _ => m) result :=
  Keeps.bind (Keeps.require condition e) fun _ _ => next

theorem Keeps.orStop (e : ε) (x : Option α) :
    Keeps F (.orStop e x : Procedure σ ε α) fun a => x = some a := by
  intro s good
  rw [wp_orStop]
  exact ⟨fun a found => ⟨good, F.refl s, found⟩, fun _ => ⟨good, F.refl s⟩⟩

theorem Keeps.liftExcept (x : Except ε α) :
    Keeps F (.liftExcept x : Procedure σ ε α) fun a => x = .ok a := by
  intro s good
  rw [wp_liftExcept]
  exact ⟨fun a found => ⟨good, F.refl s, found⟩, fun _ _ => ⟨good, F.refl s⟩⟩

theorem Keeps.mapStop {ε' : Type} (f : ε → ε') (keeps : Keeps F m result) :
    Keeps F (.mapStop f m) result := by
  intro s good
  have holds := keeps s good
  simp only [wp, Procedure.mapStop] at holds ⊢
  generalize m s = outcome at holds
  obtain ⟨ended, s'⟩ := outcome
  cases ended with
  | error e => exact holds
  | ok a => exact holds

theorem Keeps.ite {condition : Prop} [Decidable condition] {m n : Procedure σ ε α}
    (yes : condition → Keeps F m result) (no : ¬condition → Keeps F n result) :
    Keeps F (if condition then m else n) result := by
  split
  · rename_i holds
    exact yes holds
  · rename_i fails
    exact no fails

theorem Keeps.final (keeps : Keeps F m result) {s : σ}
    (good : F.good s) : F.good (m s).2 ∧ F.rel s (m s).2 :=
  wp_final (wp_mono (keeps s good) (fun _ _ done => ⟨done.1, done.2.1⟩) (fun _ _ done => done))

end

end Procedure
