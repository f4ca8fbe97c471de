import Minerium.Lib.Procedure

/-! Two runs of one computation from two states: `wp2` asks for the same value or stop and relates
the states in which they end. -/

namespace Procedure

variable {σ ε α β : Type}

def wp2 (m : Procedure σ ε α) (post : α → σ → σ → Prop) (stopped : ε → σ → σ → Prop)
    (s t : σ) : Prop :=
  match m s, m t with
  | (.ok a, s'), (.ok b, t') => a = b ∧ post a s' t'
  | (.error e, s'), (.error f, t') => e = f ∧ stopped e s' t'
  | (.ok _, _), (.error _, _) => False
  | (.error _, _), (.ok _, _) => False

variable {m : Procedure σ ε α}

section

variable {post post' : α → σ → σ → Prop} {stopped stopped' : ε → σ → σ → Prop} {s t : σ}

theorem wp2_iff : wp2 m post stopped s t ↔
      (∃ a s' t', m s = (.ok a, s') ∧ m t = (.ok a, t') ∧ post a s' t') ∨
        ∃ e s' t', m s = (.error e, s') ∧ m t = (.error e, t') ∧ stopped e s' t' := by
  unfold wp2
  obtain ⟨one, s'⟩ := m s
  obtain ⟨two, t'⟩ := m t
  cases one <;> cases two <;> simp [and_assoc, eq_comm]

theorem wp2_bind {post : β → σ → σ → Prop} {stopped : ε → σ → σ → Prop}
    {f : α → Procedure σ ε β} {s t : σ}
    (holds : wp2 m (fun a s' t' => wp2 (f a) post stopped s' t') stopped s t) :
    wp2 (m >>= f) post stopped s t := by
  change wp2 (.bind m f) post stopped s t
  rcases wp2_iff.mp holds with ⟨a, s', t', one, two, later⟩ | ⟨e, s', t', one, two, stop⟩
  · simp only [wp2, Procedure.bind, one, two]
    exact later
  · simp only [wp2, Procedure.bind, one, two]
    exact ⟨trivial, stop⟩

theorem wp2_mono (holds : wp2 m post stopped s t)
    (onValue : ∀ a s' t', post a s' t' → post' a s' t')
    (onStop : ∀ e s' t', stopped e s' t' → stopped' e s' t') : wp2 m post' stopped' s t := by
  rw [wp2_iff] at holds ⊢
  rcases holds with ⟨a, s', t', one, two, done⟩ | ⟨e, s', t', one, two, stop⟩
  · exact .inl ⟨a, s', t', one, two, onValue a s' t' done⟩
  · exact .inr ⟨e, s', t', one, two, onStop e s' t' stop⟩

end

/-- From states related by `pre` the two runs go the same way and end in states related by
`post`, or by `stopped` if they stop. -/
def Agrees (pre : σ → σ → Prop) (m : Procedure σ ε α) (post stopped : σ → σ → Prop) : Prop :=
  ∀ s t, pre s t → wp2 m (fun _ => post) (fun _ => stopped) s t

namespace Agrees

variable {pre middle post stopped : σ → σ → Prop}

theorem pure (a : α) : Agrees pre (Pure.pure a : Procedure σ ε α) pre stopped :=
  fun _ _ related => ⟨rfl, related⟩

theorem stop (e : ε) (stops : ∀ s t, pre s t → stopped s t) :
    Agrees pre (.stop e : Procedure σ ε α) post stopped :=
  fun s t related => ⟨rfl, stops s t related⟩

theorem bind {f : α → Procedure σ ε β}
    (first : Agrees pre m middle stopped) (rest : ∀ a, Agrees middle (f a) post stopped) :
    Agrees pre (m >>= f) post stopped :=
  fun s t related => wp2_bind (wp2_mono (first s t related) (fun a s' t' => rest a s' t')
    fun _ _ _ => id)

variable {f : σ → α}

theorem read (same : ∀ s t, pre s t → f s = f t) :
    Agrees pre (.read f : Procedure σ ε α) pre stopped :=
  fun s t related => ⟨same s t related, related⟩

variable {g : α → Procedure σ ε β}

theorem read_bind (same : ∀ s t, pre s t → g (f s) = g (f t))
    (rest : ∀ s t, pre s t → Agrees pre (g (f s)) post stopped) :
    Agrees pre (.read f >>= g) post stopped := by
  intro s t related
  have later := rest s t related s t related
  simp only [wp2, same s t related] at later
  change wp2 (fun u => g (f u) u) _ _ s t
  simp only [wp2, same s t related]
  exact later

theorem read_known (same : ∀ s t, pre s t → f s = f t)
    (rest : ∀ a, Agrees (fun s t => pre s t ∧ f s = a) (g a) post stopped) :
    Agrees pre (.read f >>= g) post stopped :=
  fun s t related => wp2_bind ⟨same s t related, rest (f s) s t ⟨related, rfl⟩⟩

theorem modify {f : σ → σ} (kept : ∀ s t, pre s t → post (f s) (f t)) :
    Agrees pre (.modify f : Procedure σ ε Unit) post stopped :=
  fun s t related => ⟨rfl, kept s t related⟩

theorem require (condition : Bool) (e : ε) (stops : ∀ s t, pre s t → stopped s t) :
    Agrees pre (.require condition e) pre stopped := by
  cases condition with
  | true => exact .pure ()
  | false => exact .stop e stops

theorem orStop (e : ε) (x : Option α) (stops : ∀ s t, pre s t → stopped s t) :
    Agrees pre (.orStop e x) pre stopped := by
  cases x with
  | none => exact .stop e stops
  | some a => exact .pure a

theorem liftExcept (x : Except ε α) (stops : ∀ s t, pre s t → stopped s t) :
    Agrees pre (.liftExcept x) pre stopped := by
  cases x with
  | error e => exact .stop e stops
  | ok a => exact .pure a

theorem ite {condition : Prop} [Decidable condition] {m n : Procedure σ ε α}
    (yes : condition → Agrees pre m post stopped) (no : ¬condition → Agrees pre n post stopped) :
    Agrees pre (if condition then m else n) post stopped := by
  split
  · rename_i holds
    exact yes holds
  · rename_i fails
    exact no fails

theorem mono {pre' post' : σ → σ → Prop} (agrees : Agrees pre m post stopped)
    (before : ∀ s t, pre' s t → pre s t) (after : ∀ s t, post s t → post' s t) :
    Agrees pre' m post' stopped :=
  fun s t related => wp2_mono (agrees s t (before s t related)) (fun _ => after) fun _ _ _ => id

theorem final (agrees : Agrees pre m post post) {s t : σ}
    (related : pre s t) : (m s).1 = (m t).1 ∧ post (m s).2 (m t).2 := by
  rcases wp2_iff.mp (agrees s t related) with ⟨_, _, _, one, two, done⟩ | ⟨_, _, _, one, two, done⟩
  · rw [one, two]
    exact ⟨rfl, done⟩
  · rw [one, two]
    exact ⟨rfl, done⟩

end Agrees

end Procedure
