import Mathlib.Order.Defs.Unbundled
import Threadwire.Effect.Basic

/-!
# What a computation leaves alone

`Within R x`: however `x` ends, the state it leaves is related by `R` to the state it started in.
For a preorder `R` this is a frame condition, and the rules read it off the parts of a computation:
"these fields are unchanged", "the log has only grown by such entries".

A frame is used by composition with the specification of what comes before (`Within.wp_bind`): what
was established by then survives, if it is closed under `R`.
-/

namespace Effect

variable {σ ε α β : Type} {R : σ → σ → Prop}

/-- The computation moves the state along the relation, whether it returns or throws. -/
def Within (R : σ → σ → Prop) (x : Effect σ ε α) : Prop :=
  ∀ s, wp x (fun _ => R s) (fun _ => R s) s

section Rules

variable {x : Effect σ ε α}

/-- A change along the relation. -/
theorem within_modify {f : σ → σ} (h : ∀ s, R s (f s)) :
    Within R (modify f : Effect σ ε PUnit) := h

/-- Either branch. -/
theorem Within.ite {c : Prop} [Decidable c] {y : Effect σ ε α} (hx : Within R x)
    (hy : Within R y) : Within R (if c then x else y) := by
  split
  · exact hx
  · exact hy

section Refl

variable [Std.Refl R]

/-- A value moves nothing. -/
theorem within_pure (a : α) : Within R (pure a : Effect σ ε α) := fun s => refl s

/-- Nor does an error. -/
theorem within_throw (e : ε) : Within R (throw e : Effect σ ε α) := fun s => refl s

/-- Nor reading the state. -/
theorem within_get : Within R (get : Effect σ ε σ) := fun s => refl s

end Refl

variable [IsTrans σ R]

/-- Two moves. -/
theorem Within.bind {f : α → Effect σ ε β} (hx : Within R x) (hf : ∀ a, Within R (f a)) :
    Within R (x >>= f) := by
  intro s
  rw [wp_bind]
  refine wp_mono (hx s) (fun a s' h => ?_) fun _ _ h => h
  exact wp_mono (hf a s') (fun _ _ h' => IsTrans.trans _ _ _ h h')
    fun _ _ h' => IsTrans.trans _ _ _ h h'

/-- A part that keeps the frame, in the middle of a computation: what follows is specified with
respect to the start. -/
theorem Within.wp_bind (hx : Within R x) {f : α → Effect σ ε β} {Q : β → σ → Prop} {start s : σ}
    (hs : R start s) (hf : ∀ a s', R start s' → wp (f a) Q (fun _ => R start) s') :
    wp (x >>= f) Q (fun _ => R start) s := by
  rw [Effect.wp_bind]
  exact wp_mono (hx s) (fun a s' h => hf a s' (IsTrans.trans _ _ _ hs h))
    fun _ _ h => IsTrans.trans _ _ _ hs h

end Rules

section Interrupts

variable {x : Effect σ (Interrupt ε) α}

/-- A failure moves nothing. -/
theorem within_fail [Std.Refl R] (e : ε) : Within R (fail e : Effect σ (Interrupt ε) α) :=
  fun s => refl s

/-- The branch, or nothing. -/
theorem Within.onlyIf [Std.Refl R] {condition : Bool} {x : Effect σ (Interrupt ε) Unit}
    (hx : Within R x) : Within R (onlyIf condition x) :=
  hx.ite (within_pure ())

/-- Both ends have moved along it. -/
theorem Within.attempt (hx : Within R x) : Within R (attempt x) := by
  intro s
  rw [wp_attempt]
  refine wp_mono (hx s) (fun _ _ h => h) fun i _ h => ?_
  cases i <;> exact h

/-- The handler moves on from where the computation threw. -/
theorem Within.rescue [IsTrans σ R] {handler : ε → Effect σ (Interrupt ε) α} (hx : Within R x)
    (hh : ∀ e, Within R (handler e)) : Within R (rescue x handler) := by
  intro s
  rw [wp_rescue]
  refine wp_mono (hx s) (fun _ _ h => h) fun i s' h => ?_
  cases i with
  | thrown e =>
    exact wp_mono (hh e s') (fun _ _ h' => IsTrans.trans _ _ _ h h')
      fun _ _ h' => IsTrans.trans _ _ _ h h'
  | pending => exact h

end Interrupts

/-! ## Frames that say what is thrown -/

section Moves

variable {P P' : ε → σ → Prop} {x : Effect σ ε α}

/-- The computation moves the state along the relation, and throws only what `P` allows in the state
it leaves. -/
def Moves (R : σ → σ → Prop) (P : ε → σ → Prop) (x : Effect σ ε α) : Prop :=
  ∀ s, wp x (fun _ => R s) (fun e s' => R s s' ∧ P e s') s

/-- More may be thrown. -/
theorem Moves.weaken (hx : Moves R P x) (h : ∀ e s, P e s → P' e s) : Moves R P' x :=
  fun s => wp_mono (hx s) (fun _ _ hR => hR) fun e s' hE => ⟨hE.1, h e s' hE.2⟩

/-- A change along the relation throws nothing. -/
theorem moves_modify {f : σ → σ} (h : ∀ s, R s (f s)) :
    Moves R P (modify f : Effect σ ε PUnit) := h

/-- Either branch, where its condition holds. -/
theorem Moves.ite {c : Prop} [Decidable c] {y : Effect σ ε α} (hx : c → Moves R P x)
    (hy : ¬ c → Moves R P y) : Moves R P (if c then x else y) := by
  by_cases hc : c
  · rw [if_pos hc]
    exact hx hc
  · rw [if_neg hc]
    exact hy hc

section Refl

variable [Std.Refl R]

/-- A value throws nothing. -/
theorem moves_pure (a : α) : Moves R P (pure a : Effect σ ε α) := fun s => refl s

/-- An error that is allowed. -/
theorem moves_throw {e : ε} (h : ∀ s, P e s) : Moves R P (throw e : Effect σ ε α) :=
  fun s => ⟨refl s, h s⟩

/-- Reading throws nothing. -/
theorem moves_get : Moves R P (get : Effect σ ε σ) := fun s => refl s

end Refl

variable [IsTrans σ R]

/-- Two moves, of which either may throw. -/
theorem Moves.bind {f : α → Effect σ ε β} (hx : Moves R P x) (hf : ∀ a, Moves R P (f a)) :
    Moves R P (x >>= f) := by
  intro s
  rw [Effect.wp_bind]
  refine wp_mono (hx s) (fun a s' h => ?_) fun _ _ h => h
  exact wp_mono (hf a s') (fun _ _ h' => IsTrans.trans _ _ _ h h')
    fun _ _ h' => ⟨IsTrans.trans _ _ _ h h'.1, h'.2⟩

/-- A part of which only the frame is known, and what follows from the state it leaves. -/
theorem Moves.wp_bind (hx : Moves R P x) {f : α → Effect σ ε β} {s : σ}
    (hf : ∀ a s', R s s' → wp (f a) (fun _ => R s') (fun e s'' => R s' s'' ∧ P e s'') s') :
    wp (x >>= f) (fun _ => R s) (fun e s' => R s s' ∧ P e s') s := by
  rw [Effect.wp_bind]
  refine wp_mono (hx s) (fun a s' h => ?_) fun _ _ h => h
  exact wp_mono (hf a s' h) (fun _ _ h' => IsTrans.trans _ _ _ h h')
    fun _ _ h' => ⟨IsTrans.trans _ _ _ h h'.1, h'.2⟩

end Moves

section MovesInterrupts

variable {P P' : Interrupt ε → σ → Prop} {x : Effect σ (Interrupt ε) α}

/-- A failure that is allowed. -/
theorem moves_fail [Std.Refl R] {e : ε} (h : ∀ s, P (.thrown e) s) :
    Moves R P (fail e : Effect σ (Interrupt ε) α) :=
  fun s => ⟨refl s, h s⟩

/-- The branch, where its condition holds, or nothing. -/
theorem Moves.onlyIf [Std.Refl R] {condition : Bool} {x : Effect σ (Interrupt ε) Unit}
    (hx : condition = true → Moves R P x) : Moves R P (onlyIf condition x) :=
  Moves.ite hx fun _ => moves_pure ()

/-- Whatever the computation throws becomes a value. -/
theorem Moves.attempt (hx : Moves R P' x) (hpending : ∀ s, ¬ P' .pending s) :
    Moves R P (attempt x) := by
  intro s
  rw [wp_attempt]
  refine wp_mono (hx s) (fun _ _ h => h) fun i s' h => ?_
  cases i with
  | thrown e => exact h.1
  | pending => exact absurd h.2 (hpending s')

end MovesInterrupts

end Effect
