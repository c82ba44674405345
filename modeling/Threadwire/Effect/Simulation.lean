import Threadwire.Effect.Basic

/-!
# Two computations side by side

`Effect.Simulates R lost x y s s'` compares the run of `x` from `s` with the run of `y` from `s'`:
they end the same way, in states related by `R`. Errors in `lost` are exempt: where `x` throws one,
nothing is said about `y`. The rules follow the text of the two programs, as those of `wp` do.
-/

namespace Effect

variable {σ ε α β : Type} {R : σ → σ → Prop} {lost : ε → Prop} {s s' : σ}

/-- `y` ends from `s'` the way `x` ends from `s`, in a related state, unless `x` throws a lost
error. -/
def Simulates (R : σ → σ → Prop) (lost : ε → Prop) (x y : Effect σ ε α) (s s' : σ) : Prop :=
  wp x (fun a t => ∃ t', y s' = (.ok a, t') ∧ R t t')
    (fun e t => lost e ∨ ∃ t', y s' = (.error e, t') ∧ R t t') s

theorem simulates_pure (a : α) (h : R s s') : Simulates R lost (pure a) (pure a) s s' :=
  ⟨s', rfl, h⟩

theorem simulates_throw (e : ε) (h : R s s') :
    Simulates R lost (throw e : Effect σ ε α) (throw e) s s' :=
  .inr ⟨s', rfl, h⟩

theorem simulates_lost {e : ε} {y : Effect σ ε α} (he : lost e) :
    Simulates R lost (throw e) y s s' :=
  .inl he

theorem simulates_set {t t' : σ} (h : R t t') :
    Simulates R lost (set t : Effect σ ε PUnit) (set t') s s' :=
  ⟨t', rfl, h⟩

theorem simulates_modify {f g : σ → σ} (h : R (f s) (g s')) :
    Simulates R lost (modify f : Effect σ ε PUnit) (modify g) s s' :=
  ⟨g s', rfl, h⟩

theorem simulates_bind {x y : Effect σ ε α} {f g : α → Effect σ ε β}
    (hx : Simulates R lost x y s s')
    (hf : ∀ a t t', R t t' → Simulates R lost (f a) (g a) t t') :
    Simulates R lost (x >>= f) (y >>= g) s s' := by
  unfold Simulates
  rw [wp_bind]
  refine wp_mono hx ?_ ?_
  · rintro a t ⟨t', hy, hR⟩
    refine wp_mono (hf a t t' hR) ?_ ?_ <;> intro _ _ h <;> rw [bind_ok hy] <;> exact h
  · rintro e t (he | ⟨t', hy, hR⟩)
    · exact .inl he
    · exact .inr ⟨t', bind_error hy, hR⟩

/-- Reading the state gives the two programs the two states. -/
theorem simulates_get_bind {f g : σ → Effect σ ε α}
    (h : Simulates R lost (f s) (g s') s s') :
    Simulates R lost (get >>= f) (get >>= g) s s' := h

theorem simulates_ite {c c' : Prop} [Decidable c] [Decidable c'] {x y x' y' : Effect σ ε α}
    (hc : c ↔ c') (hx : c → Simulates R lost x x' s s') (hy : ¬ c → Simulates R lost y y' s s') :
    Simulates R lost (if c then x else y) (if c' then x' else y') s s' := by
  by_cases h : c
  · rw [if_pos h, if_pos (hc.mp h)]
    exact hx h
  · rw [if_neg h, if_neg fun h' => h (hc.mpr h')]
    exact hy h

/-- What a simulation says about the two outcomes. -/
theorem simulates_apply {x y : Effect σ ε α} (h : Simulates R lost x y s s') :
    (∃ a t t', x s = (.ok a, t) ∧ y s' = (.ok a, t') ∧ R t t') ∨
      (∃ e t, x s = (.error e, t) ∧ (lost e ∨ ∃ t', y s' = (.error e, t') ∧ R t t')) := by
  have happly := wp_apply h
  rcases hx : x s with ⟨e | a, t⟩
  · simp only [hx] at happly
    exact .inr ⟨e, t, rfl, happly⟩
  · simp only [hx] at happly
    obtain ⟨t', hy, hR⟩ := happly
    exact .inl ⟨a, t, t', rfl, hy, hR⟩

end Effect
