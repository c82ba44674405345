import Threadwire.Effect.Coroutine

/-!
# What a computation does wherever it is

A specification by `wp` follows a computation through the states that it meets. Some facts need no
state: how each act moves, which requests there are at all, and that some answers are refused, in
that the computation throws on them before it asks for anything else. They are read off the
computation, part by part.
-/

namespace Coroutine

variable {σ ρ : Type} {Answer : ρ → Type} {ε α β : Type}

/-- Every act moves by `G`, and every request is one of `P`. -/
def Conducts (G : σ → σ → Prop) (P : ρ → Prop) : Coroutine σ ρ Answer ε α → Prop
  | done _ => True
  | act move next => ∀ s, G s (move s) ∧ (next s).Conducts G P
  | await request resume => P request ∧ ∀ answer, (resume answer).Conducts G P

/-- The computation throws, before its first request. -/
def Throws (x : Coroutine σ ρ Answer ε α) : Prop := ∀ s, ∃ e, (x.advance s).1 = done (.error e)

/-- Every act moves by `G`, and on every answer that it `refuses` the computation throws, before its
next request. -/
def Heeds (G : σ → σ → Prop) (refuses : (request : ρ) → Answer request → Prop) :
    Coroutine σ ρ Answer ε α → Prop
  | done _ => True
  | act move next => ∀ s, G s (move s) ∧ (next s).Heeds G refuses
  | await request resume => ∀ answer, (resume answer).Heeds G refuses ∧
    (refuses request answer → (resume answer).Throws)

variable {G : σ → σ → Prop} {P : ρ → Prop} {refuses : (request : ρ) → Answer request → Prop}

/-! ## Acts and requests -/

/-- A return does nothing. -/
theorem conducts_pure (a : α) : Conducts G P (pure a : Coroutine σ ρ Answer ε α) := trivial

/-- A throw does nothing. -/
theorem conducts_throw (e : ε) : Conducts G P (throw e : Coroutine σ ρ Answer ε α) := trivial

/-- A settled outcome does nothing. -/
theorem conducts_settle (outcome : Except ε α) :
    Conducts G P (settle outcome : Coroutine σ ρ Answer ε α) := trivial

/-- Reading the state does not move it. -/
theorem conducts_get [Std.Refl G] : Conducts G P (get : Coroutine σ ρ Answer ε σ) :=
  fun s => ⟨refl s, trivial⟩

/-- Changing the state moves by the relation when the function does. -/
theorem conducts_modify {f : σ → σ} (hf : ∀ s, G s (f s)) :
    Conducts G P (modify f : Coroutine σ ρ Answer ε PUnit) :=
  fun s => ⟨hf s, trivial⟩

/-- Changing the state for a result moves by the relation when the function does. -/
theorem conducts_modifyGet {f : σ → α × σ} (hf : ∀ s, G s (f s).2) :
    Conducts G P (modifyGet f : Coroutine σ ρ Answer ε α) :=
  fun s => ⟨hf s, trivial⟩

/-- A request is made of the allowed ones. -/
theorem conducts_ask {request : ρ} (hrequest : P request) :
    Conducts G P (ask request : Coroutine σ ρ Answer ε (Answer request)) :=
  ⟨hrequest, fun _ => trivial⟩

/-- The rule of sequencing. -/
theorem Conducts.bind {x : Coroutine σ ρ Answer ε α} {f : α → Coroutine σ ρ Answer ε β}
    (hx : Conducts G P x) (hf : ∀ a, Conducts G P (f a)) : Conducts G P (x >>= f) := by
  induction x with
  | done outcome =>
    cases outcome with
    | ok a => exact hf a
    | error e => exact trivial
  | act move next ih => exact fun s => ⟨(hx s).1, ih s (hx s).2⟩
  | await request resume ih => exact ⟨hx.1, fun answer => ih answer (hx.2 answer)⟩

/-- The rule of a handler. -/
theorem Conducts.handle {x : Coroutine σ ρ Answer ε α} {h : ε → Coroutine σ ρ Answer ε α}
    (hx : Conducts G P x) (hh : ∀ e, Conducts G P (h e)) : Conducts G P (x.handle h) := by
  induction x with
  | done outcome =>
    cases outcome with
    | ok a => exact trivial
    | error e => exact hh e
  | act move next ih => exact fun s => ⟨(hx s).1, ih s (hx s).2⟩
  | await request resume ih => exact ⟨hx.1, fun answer => ih answer (hx.2 answer)⟩

/-- The rule of an outcome taken as data. -/
theorem Conducts.attempt {x : Coroutine σ ρ Answer ε α} (hx : Conducts G P x) :
    Conducts G P (attempt x) :=
  Conducts.handle (hx.bind fun a => conducts_pure (Except.ok a)) fun e =>
    conducts_pure (Except.error e)

/-- The rule of a choice. -/
theorem Conducts.ite {c : Prop} [Decidable c] {x y : Coroutine σ ρ Answer ε α}
    (hx : Conducts G P x) (hy : Conducts G P y) : Conducts G P (if c then x else y) := by
  split
  · exact hx
  · exact hy

/-- The rule of `if` without `else`. -/
theorem Conducts.onlyIf {condition : Bool} {x : Coroutine σ ρ Answer ε Unit}
    (hx : Conducts G P x) : Conducts G P (onlyIf condition x) :=
  hx.ite (conducts_pure ())

/-! ## Answers that are refused -/

/-- A throw before the first request skips the continuation. -/
theorem advance_bind_error {x : Coroutine σ ρ Answer ε α} {f : α → Coroutine σ ρ Answer ε β} {s : σ}
    {e : ε} (hx : (x.advance s).1 = done (.error e)) :
    ((x >>= f).advance s).1 = done (.error e) := by
  induction x generalizing s with
  | done outcome =>
    cases hx
    rfl
  | act move next ih => exact ih s hx
  | await request resume => cases hx

/-- A computation that throws ends a sequence. -/
theorem Throws.bind {x : Coroutine σ ρ Answer ε α} (hx : Throws x)
    (f : α → Coroutine σ ρ Answer ε β) : Throws (x >>= f) := fun s =>
  have ⟨e, he⟩ := hx s
  ⟨e, advance_bind_error he⟩

/-- A computation without requests whose answers it refuses. -/
theorem Conducts.heeds {x : Coroutine σ ρ Answer ε α} (hx : Conducts G P x)
    (hP : ∀ request answer, P request → ¬ refuses request answer) : Heeds G refuses x := by
  induction x with
  | done outcome => exact trivial
  | act move next ih => exact fun s => ⟨(hx s).1, ih s (hx s).2⟩
  | await request resume ih =>
    exact fun answer => ⟨ih answer (hx.2 answer), fun h => absurd h (hP request answer hx.1)⟩

/-- What heeds a refusal may be followed by what heeds it. -/
theorem Heeds.bind {x : Coroutine σ ρ Answer ε α} {f : α → Coroutine σ ρ Answer ε β}
    (hx : Heeds G refuses x) (hf : ∀ a, Heeds G refuses (f a)) : Heeds G refuses (x >>= f) := by
  induction x with
  | done outcome =>
    cases outcome with
    | ok a => exact hf a
    | error e => exact trivial
  | act move next ih => exact fun s => ⟨(hx s).1, ih s (hx s).2⟩
  | await request resume ih =>
    exact fun answer => ⟨ih answer (hx answer).1, fun h => ((hx answer).2 h).bind f⟩

/-- Acting until the next request moves by `G`. -/
theorem Heeds.advance [Std.Refl G] [IsTrans σ G] {x : Coroutine σ ρ Answer ε α}
    (hx : Heeds G refuses x) (s : σ) :
    G s (x.advance s).2 ∧ Heeds G refuses (x.advance s).1 := by
  induction x generalizing s with
  | done outcome => exact ⟨refl s, hx⟩
  | act move next ih =>
    obtain ⟨hmove, hrest⟩ := ih s (hx s).2 (move s)
    exact ⟨IsTrans.trans _ _ _ (hx s).1 hmove, hrest⟩
  | await request resume ih => exact ⟨refl s, hx⟩

/-- Acting stops at a request or at the end. -/
theorem advance_ne_act (x : Coroutine σ ρ Answer ε α) (s : σ) (move : σ → σ)
    (next : σ → Coroutine σ ρ Answer ε α) : (x.advance s).1 ≠ act move next := by
  induction x generalizing s with
  | done outcome => simp [advance]
  | act move next ih => exact ih s (move s)
  | await request resume ih => simp [advance]

end Coroutine
