import Threadwire.Effect.Coroutine

/-!
# Computations that shadow others

A computation that is observed does what it would do unobserved: it asks for the same in the same
order and ends the same, and what else it does is to a state of its own. `Shadows` says so of two
coroutines over different states, the second of which has no acts left to do, and the rules follow
the text of the two programs.
-/

namespace Coroutine

variable {σ τ ρ : Type} {Answer : ρ → Type} {ε α β : Type}

/-- The first asks and ends as the second one does, whatever its state. -/
def Shadows : Coroutine σ ρ Answer ε α → Coroutine τ ρ Answer ε α → Prop
  | done outcome, y => y = done outcome
  | act _ next, y => ∀ s, (next s).Shadows y
  | await request resume, y => ∃ resume', y = await request resume' ∧
    ∀ answer, (resume answer).Shadows (resume' answer)

variable {x : Coroutine σ ρ Answer ε α} {y : Coroutine τ ρ Answer ε α}

theorem shadows_ask (request : ρ) : (ask request : Coroutine σ ρ Answer ε (Answer request)).Shadows
    (ask request : Coroutine τ ρ Answer ε (Answer request)) :=
  ⟨_, rfl, fun _ => rfl⟩

theorem Shadows.bind (hx : x.Shadows y) {f : α → Coroutine σ ρ Answer ε β}
    {g : α → Coroutine τ ρ Answer ε β} (hf : ∀ a, (f a).Shadows (g a)) :
    (x >>= f).Shadows (y >>= g) := by
  induction x generalizing y with
  | done outcome =>
    obtain rfl : y = done outcome := hx
    cases outcome with
    | ok a => exact hf a
    | error e => exact rfl
  | act move next ih => exact fun s => ih s (hx s)
  | await request resume ih =>
    obtain ⟨resume', rfl, hresume⟩ := hx
    exact ⟨_, rfl, fun answer => ih answer (hresume answer)⟩

/-- What the first one does to its state beforehand. -/
theorem shadows_modify_bind {f : σ → σ} {k : PUnit → Coroutine σ ρ Answer ε α}
    (hk : (k ⟨⟩).Shadows y) : (modify f >>= k).Shadows y :=
  fun _ => hk

/-- What it does to its state at the end. -/
theorem Shadows.andModify {x : Coroutine σ ρ Answer ε Unit} {y : Coroutine τ ρ Answer ε Unit}
    (hx : x.Shadows y) (f : σ → σ) : (x >>= fun _ => modify f).Shadows y := by
  induction x generalizing y with
  | done outcome =>
    obtain rfl : y = done outcome := hx
    cases outcome with
    | ok a => exact fun _ => rfl
    | error e => exact rfl
  | act move next ih => exact fun s => ih s (hx s)
  | await request resume ih =>
    obtain ⟨resume', rfl, hresume⟩ := hx
    exact ⟨_, rfl, fun answer => ih answer (hresume answer)⟩

/-- What it does to its state however it ends. -/
theorem Shadows.finally (hx : x.Shadows y) (f : σ → σ) :
    (attempt x >>= fun outcome => modify f >>= fun _ => settle outcome).Shadows y := by
  induction x generalizing y with
  | done outcome =>
    obtain rfl : y = done outcome := hx
    cases outcome <;> exact fun _ => rfl
  | act move next ih => exact fun s => ih s (hx s)
  | await request resume ih =>
    obtain ⟨resume', rfl, hresume⟩ := hx
    exact ⟨_, rfl, fun answer => ih answer (hresume answer)⟩

/-- It asks and ends where the other one does. -/
theorem Shadows.advance (hx : x.Shadows y) (s : σ) : (x.advance s).1.Shadows y := by
  induction x generalizing s with
  | done outcome => exact hx
  | act move next ih => exact ih s (hx s) (move s)
  | await request resume ih => exact hx

end Coroutine
