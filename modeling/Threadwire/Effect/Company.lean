import Threadwire.Effect.Coroutine

/-!
# What a computation owes where it waits

`Coroutine.wp` looks at every act of a computation. Between two requests nobody else moves, so what
a computation owes to the others it owes them only where it waits, and the acts in between may break
and mend it. A `Company` says what the others do meanwhile, which answers there can be, and what is
owed at each request; `Company.wp` is the weakest precondition in it.
-/

/-- What a computation lives among: how the others move the state while it waits, which answers a
state admits, and what has to hold where a request is made. -/
structure Company (σ ρ : Type) (Answer : ρ → Type) where
  rely : σ → σ → Prop
  answers : σ → (request : ρ) → Answer request → Prop
  owed : ρ → σ → Prop

namespace Company

variable {σ ρ : Type} {Answer : ρ → Type} {ε α β : Type} (C : Company σ ρ Answer)

/-- From `s`, in this company: the computation makes each request where what is owed holds, and ends
in a return satisfying `Q` or a throw satisfying `E`, if it ends. -/
def wp (Q : α → σ → Prop) (E : ε → σ → Prop) : Coroutine σ ρ Answer ε α → σ → Prop
  | .done (.ok a), s => Q a s
  | .done (.error e), s => E e s
  | .act move next, s => wp Q E (next s) (move s)
  | .await request resume, s => C.owed request s ∧
    ∀ s' answer, C.rely s s' → C.answers s' request answer → wp Q E (resume answer) s'

variable {C} {Q Q' : α → σ → Prop} {E E' : ε → σ → Prop} {s : σ}

open Coroutine

/-! ## The rules -/

@[simp] theorem wp_pure (a : α) :
    C.wp Q E (pure a : Coroutine σ ρ Answer ε α) s ↔ Q a s := Iff.rfl

@[simp] theorem wp_throw (e : ε) :
    C.wp Q E (throw e : Coroutine σ ρ Answer ε α) s ↔ E e s := Iff.rfl

theorem wp_ask (request : ρ) {Q : Answer request → σ → Prop} :
    C.wp Q E (ask request : Coroutine σ ρ Answer ε (Answer request)) s ↔
      C.owed request s ∧ ∀ s' answer, C.rely s s' → C.answers s' request answer → Q answer s' :=
  Iff.rfl

@[simp] theorem wp_get {Q : σ → σ → Prop} :
    C.wp Q E (get : Coroutine σ ρ Answer ε σ) s ↔ Q s s := Iff.rfl

@[simp] theorem wp_modify (f : σ → σ) {Q : PUnit → σ → Prop} :
    C.wp Q E (modify f : Coroutine σ ρ Answer ε PUnit) s ↔ Q ⟨⟩ (f s) := Iff.rfl

@[simp] theorem wp_modifyGet (f : σ → α × σ) :
    C.wp Q E (modifyGet f : Coroutine σ ρ Answer ε α) s ↔ Q (f s).1 (f s).2 := Iff.rfl

@[simp] theorem wp_settle (outcome : Except ε α) :
    C.wp Q E (settle outcome : Coroutine σ ρ Answer ε α) s ↔
      match outcome with | .ok a => Q a s | .error e => E e s := by
  cases outcome <;> exact Iff.rfl

theorem wp_bind (x : Coroutine σ ρ Answer ε α) (f : α → Coroutine σ ρ Answer ε β)
    {Q : β → σ → Prop} : C.wp Q E (x >>= f) s ↔ C.wp (fun a => C.wp Q E (f a)) E x s := by
  induction x generalizing s with
  | done outcome => cases outcome <;> exact Iff.rfl
  | act move next ih => exact ih s
  | await request resume ih =>
    exact and_congr_right' (forall_congr' fun s' => forall_congr' fun answer =>
      imp_congr_right fun _ => imp_congr_right fun _ => ih answer)

theorem wp_handle (x : Coroutine σ ρ Answer ε α) (h : ε → Coroutine σ ρ Answer ε α) :
    C.wp Q E (handle x h) s ↔ C.wp Q (fun e => C.wp Q E (h e)) x s := by
  induction x generalizing s with
  | done outcome => cases outcome <;> exact Iff.rfl
  | act move next ih => exact ih s
  | await request resume ih =>
    exact and_congr_right' (forall_congr' fun s' => forall_congr' fun answer =>
      imp_congr_right fun _ => imp_congr_right fun _ => ih answer)

theorem wp_attempt (x : Coroutine σ ρ Answer ε α) {Q : Except ε α → σ → Prop} :
    C.wp Q E (attempt x) s ↔ C.wp (fun a => Q (.ok a)) (fun e => Q (.error e)) x s := by
  rw [attempt, wp_handle]
  exact wp_bind x fun a => pure (Except.ok a)

theorem wp_ite (c : Prop) [Decidable c] (x y : Coroutine σ ρ Answer ε α) :
    C.wp Q E (if c then x else y) s ↔ if c then C.wp Q E x s else C.wp Q E y s := by
  split <;> exact Iff.rfl

theorem wp_onlyIf (condition : Bool) (x : Coroutine σ ρ Answer ε Unit) {Q : Unit → σ → Prop} :
    C.wp Q E (onlyIf condition x) s ↔ if condition then C.wp Q E x s else Q () s := by
  rw [onlyIf, wp_ite, wp_pure]

/-- Consequence: a computation that meets a specification meets every weaker one. -/
theorem wp_mono {x : Coroutine σ ρ Answer ε α} (h : C.wp Q E x s)
    (hQ : ∀ a s', Q a s' → Q' a s') (hE : ∀ e s', E e s' → E' e s') : C.wp Q' E' x s := by
  induction x generalizing s with
  | done outcome =>
    cases outcome with
    | ok a => exact hQ a s h
    | error e => exact hE e s h
  | act move next ih => exact ih s h
  | await request resume ih =>
    exact ⟨h.1, fun s' answer hs' hanswer => ih answer (h.2 s' answer hs' hanswer)⟩

/-! ## Moves -/

/-- The others keep what is owed, and what a computation that has ended came to. -/
structure Stable (C : Company σ ρ Answer) (Q : α → σ → Prop) (E : ε → σ → Prop) : Prop where
  owed : ∀ request s s', C.owed request s → C.rely s s' → C.owed request s'
  returned : ∀ a s s', Q a s → C.rely s s' → Q a s'
  threw : ∀ e s s', E e s → C.rely s s' → E e s'

/-- A computation that waits or has ended stays as it is while the others move. -/
theorem Stable.wp [IsTrans σ C.rely] (hstable : Stable C Q E) {x : Coroutine σ ρ Answer ε α}
    (hx : ∀ move next, x ≠ .act move next) (h : C.wp Q E x s) {s' : σ} (hs' : C.rely s s') :
    C.wp Q E x s' := by
  cases x with
  | done outcome =>
    cases outcome with
    | ok a => exact hstable.returned a s s' h hs'
    | error e => exact hstable.threw e s s' h hs'
  | act move next => exact absurd rfl (hx move next)
  | await request resume =>
    exact ⟨hstable.owed request s s' h.1 hs', fun s'' answer hs'' hanswer =>
      h.2 s'' answer (IsTrans.trans _ _ _ hs' hs'') hanswer⟩

/-- Acting until the next request or the end keeps to the specification. -/
theorem wp_advance {x : Coroutine σ ρ Answer ε α} (h : C.wp Q E x s) :
    C.wp Q E (x.advance s).1 (x.advance s).2 ∧ ∀ move next, (x.advance s).1 ≠ .act move next := by
  induction x generalizing s with
  | done outcome => exact ⟨h, fun _ _ heq => nomatch heq⟩
  | act move next ih => exact ih s h
  | await request resume _ => exact ⟨h, fun _ _ heq => nomatch heq⟩

end Company
