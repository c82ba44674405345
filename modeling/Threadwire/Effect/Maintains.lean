import Threadwire.Effect.Basic

/-!
# Invariants of computations

`Maintains I E x`: from a state where `I` holds, `x` returns to one where it holds, or throws with
`E`. The rules follow the ways to put computations together, so that what a long computation
maintains is read off its parts.
-/

namespace Effect

variable {σ ε α β : Type} {I : σ → Prop}

/-- The computation keeps the invariant where it returns, and meets `E` where it throws. -/
def Maintains (I : σ → Prop) (E : ε → σ → Prop) (x : Effect σ ε α) : Prop :=
  ∀ s, I s → wp x (fun _ => I) E s

section Rules

variable {E E' : ε → σ → Prop} {x : Effect σ ε α}

theorem maintains_pure (a : α) : Maintains I E (pure a : Effect σ ε α) := fun _ hs => hs

theorem maintains_throw {e : ε} (h : ∀ s, I s → E e s) :
    Maintains I E (throw e : Effect σ ε α) := h

theorem maintains_modify {f : σ → σ} (h : ∀ s, I s → I (f s)) :
    Maintains I E (modify f : Effect σ ε PUnit) := h

theorem maintains_get : Maintains I E (get : Effect σ ε σ) := fun _ hs => hs

theorem Maintains.bind {f : α → Effect σ ε β} (hx : Maintains I E x)
    (hf : ∀ a, Maintains I E (f a)) : Maintains I E (x >>= f) := by
  intro s hs
  rw [wp_bind]
  exact wp_mono (hx s hs) (fun a s' hs' => hf a s' hs') fun _ _ h => h

theorem Maintains.mono (hx : Maintains I E x) (hE : ∀ e s, E e s → E' e s) : Maintains I E' x :=
  fun s hs => wp_mono (hx s hs) (fun _ _ h => h) hE

theorem Maintains.ite {c : Prop} [Decidable c] {y : Effect σ ε α} (hx : c → Maintains I E x)
    (hy : ¬ c → Maintains I E y) : Maintains I E (if c then x else y) := by
  by_cases hc : c
  · rw [if_pos hc]
    exact hx hc
  · rw [if_neg hc]
    exact hy hc

end Rules

section Interrupts

variable {E : Interrupt ε → σ → Prop} {x : Effect σ (Interrupt ε) α}

theorem maintains_fail {e : ε} (h : ∀ s, I s → E (.thrown e) s) :
    Maintains I E (fail e : Effect σ (Interrupt ε) α) := h

theorem Maintains.onlyIf {condition : Bool} {x : Effect σ (Interrupt ε) Unit}
    (hx : condition = true → Maintains I E x) : Maintains I E (onlyIf condition x) :=
  Maintains.ite hx fun _ => maintains_pure ()

/-- What is thrown becomes a value, so the invariant must survive the throw. -/
theorem Maintains.attempt (hx : Maintains I (fun _ => I) x) (hpending : ∀ s, I s → E .pending s) :
    Maintains I E (attempt x) := by
  intro s hs
  rw [wp_attempt]
  refine wp_mono (hx s hs) (fun _ _ h => h) fun i s' h => ?_
  cases i with
  | thrown e => exact h
  | pending => exact hpending s' h

end Interrupts

/-! ## Computations that settle -/

section Settled

variable {J J' : σ → Prop} {x : Effect σ (Interrupt ε) α} {Q : α → σ → Prop}
  {E : Interrupt ε → σ → Prop}

/-- A computation that does not return has thrown, and kept the invariant. -/
def Settled (J : σ → Prop) : Interrupt ε → σ → Prop
  | .thrown _, s => J s
  | .pending, _ => False

theorem Settled.mono (h : ∀ s, J s → J' s) :
    ∀ (i : Interrupt ε) s, Settled J i s → Settled J' i s
  | .thrown _, s, hs => h s hs

/-- The handler runs on whatever a computation that settles does not return from. -/
theorem wp_rescue_of_settled {handler : ε → Effect σ (Interrupt ε) α} {s : σ}
    (hx : wp x Q (Settled J) s) (hh : ∀ e s', J s' → wp (handler e) Q E s') :
    wp (rescue x handler) Q E s := by
  rw [wp_rescue]
  refine wp_mono hx (fun _ _ h => h) fun i s' h => ?_
  cases i with
  | thrown e => exact hh e s' h
  | pending => exact False.elim h

theorem wp_attempt_of_settled {s : σ} (hx : wp x (fun _ => J) (Settled J) s) :
    wp (attempt x) (fun _ => J) E s := by
  rw [attempt]
  refine wp_rescue_of_settled ?_ fun e s' h => h
  rw [wp_map]
  exact hx

end Settled

end Effect
