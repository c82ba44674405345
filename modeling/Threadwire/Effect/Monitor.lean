import Threadwire.Effect.Coroutine

/-!
# Monitors of awaiting computations

A `Monitor` keeps notes beside the state: of the moves of the state, and of the answers to what is
asked. `watch` gives a coroutine a monitor, which does not change what it does; a law about when
things happen, or about what was asked and answered, is then one about the notes.

`Runs R` are the complete runs of one coroutine, where between a request and its answer the state
moves by `R`. What holds of weakest preconditions holds of runs (`Runs.spec`), and `play` gives a
run for any script of answers.
-/

/-- What is noted: where the state has moved, and where a request was answered. -/
structure Monitor (σ ρ : Type) (Answer : ρ → Type) (τ : Type) where
  moved : σ → σ → τ → τ := fun _ _ notes => notes
  answered : ∀ request, Answer request → τ → τ := fun _ _ notes => notes

/-- A request with its answer. -/
structure Exchange (ρ : Type) (Answer : ρ → Type) where
  request : ρ
  answer : Answer request

namespace Coroutine

variable {σ ρ : Type} {Answer : ρ → Type} {ε α β τ : Type}

/-- The coroutine, with the notes of the monitor beside its state. -/
def watch (monitor : Monitor σ ρ Answer τ) :
    Coroutine σ ρ Answer ε α → Coroutine (σ × τ) ρ Answer ε α
  | done outcome => done outcome
  | act move next =>
    act (fun s => (move s.1, monitor.moved s.1 (move s.1) s.2)) fun s => (next s.1).watch monitor
  | await request resume =>
    await request fun answer =>
      act (fun s => (s.1, monitor.answered request answer s.2)) fun _ =>
        (resume answer).watch monitor

/-- The monitor that keeps every exchange. -/
def transcriber : Monitor σ ρ Answer (List (Exchange ρ Answer)) where
  answered request answer notes := notes ++ [⟨request, answer⟩]

section Watch

variable {monitor : Monitor σ ρ Answer τ}

@[simp] theorem watch_pure (a : α) :
    (pure a : Coroutine σ ρ Answer ε α).watch monitor = pure a := rfl

@[simp] theorem watch_throw (e : ε) :
    (throw e : Coroutine σ ρ Answer ε α).watch monitor = throw e := rfl

@[simp] theorem watch_settle (outcome : Except ε α) :
    (settle outcome : Coroutine σ ρ Answer ε α).watch monitor = settle outcome := rfl

theorem watch_bind (x : Coroutine σ ρ Answer ε α) (f : α → Coroutine σ ρ Answer ε β) :
    (x >>= f).watch monitor = x.watch monitor >>= fun a => (f a).watch monitor := by
  induction x with
  | done outcome => cases outcome <;> rfl
  | act move next ih => exact congrArg (act _) (funext fun s => ih s.1)
  | await request resume ih =>
    exact congrArg (await request) (funext fun answer => congrArg (act _) (funext fun _ => ih answer))

theorem watch_handle (x : Coroutine σ ρ Answer ε α) (h : ε → Coroutine σ ρ Answer ε α) :
    (handle x h).watch monitor = handle (x.watch monitor) fun e => (h e).watch monitor := by
  induction x with
  | done outcome => cases outcome <;> rfl
  | act move next ih => exact congrArg (act _) (funext fun s => ih s.1)
  | await request resume ih =>
    exact congrArg (await request) (funext fun answer => congrArg (act _) (funext fun _ => ih answer))

theorem watch_attempt (x : Coroutine σ ρ Answer ε α) :
    (attempt x).watch monitor = attempt (x.watch monitor) := by
  have hmap : (Except.ok <$> x : Coroutine σ ρ Answer ε (Except ε α)).watch monitor =
      Except.ok <$> x.watch monitor := watch_bind x fun a => pure (Except.ok a)
  rw [attempt, watch_handle, attempt, hmap]
  rfl

end Watch

/-! ## Runs -/

/-- A complete run, in which the state moves by `R` while an answer is awaited. -/
inductive Runs (R : σ → σ → Prop) : Coroutine σ ρ Answer ε α → σ → Except ε α → σ → Prop
  | done (outcome : Except ε α) (s : σ) : Runs R (.done outcome) s outcome s
  | act {move : σ → σ} {next : σ → Coroutine σ ρ Answer ε α} {s s' : σ} {outcome : Except ε α}
    (hrest : Runs R (next s) (move s) outcome s') : Runs R (.act move next) s outcome s'
  | await {request : ρ} {resume : Answer request → Coroutine σ ρ Answer ε α}
    {answer : Answer request} {s s₁ s' : σ} {outcome : Except ε α} (hmove : R s s₁)
    (hrest : Runs R (resume answer) s₁ outcome s') : Runs R (.await request resume) s outcome s'

/-- What a weakest precondition says of the end of a run. -/
theorem Runs.spec {R G : σ → σ → Prop} {Q : α → σ → Prop} {E : ε → σ → Prop}
    {x : Coroutine σ ρ Answer ε α} {s s' : σ} {outcome : Except ε α} (h : Runs R x s outcome s')
    (hwp : wp R G Q E x s) : wp R G Q E (Coroutine.done outcome : Coroutine σ ρ Answer ε α) s' := by
  induction h with
  | done outcome s => exact hwp
  | act _ ih => exact ih hwp.2
  | await hmove _ ih => exact ih (hwp _ _ hmove)

/-- Run the coroutine alone, on a script of answers. -/
def play (answers : ∀ request, Option (Answer request)) :
    Coroutine σ ρ Answer ε α → σ → Option (Except ε α × σ)
  | done outcome, s => some (outcome, s)
  | act move next, s => (next s).play answers (move s)
  | await request resume, s =>
    match answers request with
    | some answer => (resume answer).play answers s
    | none => none

theorem runs_play {R : σ → σ → Prop} [Std.Refl R] {answers : ∀ request, Option (Answer request)}
    {x : Coroutine σ ρ Answer ε α} {s s' : σ} {outcome : Except ε α}
    (h : x.play answers s = some (outcome, s')) : Runs R x s outcome s' := by
  induction x generalizing s with
  | done outcome =>
    cases h
    exact .done outcome _
  | act move next ih => exact .act (ih s h)
  | await request resume ih =>
    rw [play] at h
    split at h
    · exact .await (Std.Refl.refl _) (ih _ h)
    · cases h

end Coroutine
