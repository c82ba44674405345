import Mathlib.Tactic.Common

/-!
# Computations that await, side by side

A `Coroutine` runs over a state that it shares with others. It acts on the state at once, up to the
next request that it awaits the answer of; there the others go on, and it resumes with the answer
later. A `Pool` is a state with the coroutines that run over it.

`Coroutine.wp R G` is the weakest precondition of a coroutine in company: between a request and its
answer the state moves by the rely `R`, and each act must keep to the guarantee `G`. Where every
guarantee is part of the others' relies, the specifications of the coroutines hold side by side
(`Pool.Sound.resume`), and so does what all the guarantees keep.
-/

/-- A computation over the state `σ` that awaits answers and returns an `α` or throws an `ε`. -/
inductive Coroutine (σ ρ : Type) (Answer : ρ → Type) (ε α : Type) : Type
  | done (outcome : Except ε α)
  | act (move : σ → σ) (next : σ → Coroutine σ ρ Answer ε α)
  | await (request : ρ) (resume : Answer request → Coroutine σ ρ Answer ε α)

namespace Coroutine

variable {σ ρ : Type} {Answer : ρ → Type} {ε α β : Type}

/-- Sequencing: a throw skips the continuation. -/
def andThen (x : Coroutine σ ρ Answer ε α) (f : α → Coroutine σ ρ Answer ε β) :
    Coroutine σ ρ Answer ε β :=
  match x with
  | done (.ok a) => f a
  | done (.error e) => done (.error e)
  | act move next => act move fun s => (next s).andThen f
  | await request resume => await request fun answer => (resume answer).andThen f

/-- Run the handler on a throw. -/
def handle (x : Coroutine σ ρ Answer ε α) (h : ε → Coroutine σ ρ Answer ε α) :
    Coroutine σ ρ Answer ε α :=
  match x with
  | done (.ok a) => done (.ok a)
  | done (.error e) => h e
  | act move next => act move fun s => (next s).handle h
  | await request resume => await request fun answer => (resume answer).handle h

instance : Monad (Coroutine σ ρ Answer ε) where
  pure a := done (.ok a)
  bind := andThen

instance : MonadExceptOf ε (Coroutine σ ρ Answer ε) where
  throw e := done (.error e)
  tryCatch := handle

instance : MonadStateOf σ (Coroutine σ ρ Answer ε) where
  get := act id fun s => done (.ok s)
  set s' := act (fun _ => s') fun _ => done (.ok ())
  modifyGet f := act (fun s => (f s).2) fun s => done (.ok (f s).1)

/-- Await the answer of a request. -/
def ask (request : ρ) : Coroutine σ ρ Answer ε (Answer request) :=
  await request fun answer => done (.ok answer)

/-- Return or throw. -/
def settle (outcome : Except ε α) : Coroutine σ ρ Answer ε α := done outcome

/-- `try` and `catch` as data: the value of `x`, or what it threw. -/
def attempt (x : Coroutine σ ρ Answer ε α) : Coroutine σ ρ Answer ε (Except ε α) :=
  handle (Except.ok <$> x) fun e => pure (.error e)

/-- `if` without `else`. -/
def onlyIf (condition : Bool) (x : Coroutine σ ρ Answer ε Unit) : Coroutine σ ρ Answer ε Unit :=
  if condition then x else pure ()

/-- Sequencing is associative. -/
theorem bind_assoc {γ : Type} (x : Coroutine σ ρ Answer ε α) (f : α → Coroutine σ ρ Answer ε β)
    (g : β → Coroutine σ ρ Answer ε γ) : x >>= f >>= g = x >>= fun a => f a >>= g := by
  induction x with
  | done outcome => cases outcome <;> rfl
  | act move next ih => exact congrArg (act move) (funext ih)
  | await request resume ih => exact congrArg (await request) (funext ih)

/-- Act until the next request, or until the end. -/
def advance : Coroutine σ ρ Answer ε α → σ → Coroutine σ ρ Answer ε α × σ
  | done outcome, s => (done outcome, s)
  | act move next, s => (next s).advance (move s)
  | await request resume, s => (await request resume, s)

/-! ## Weakest preconditions in company -/

section Wp

variable (R G : σ → σ → Prop)

/-- From `s`, with others that move by `R`, every act moves by `G`, and the computation ends in a
return satisfying `Q` or a throw satisfying `E`, if it ends. -/
def wp (Q : α → σ → Prop) (E : ε → σ → Prop) : Coroutine σ ρ Answer ε α → σ → Prop
  | done (.ok a), s => Q a s
  | done (.error e), s => E e s
  | act move next, s => G s (move s) ∧ (next s).wp Q E (move s)
  | await _ resume, s => ∀ answer s', R s s' → (resume answer).wp Q E s'

variable {R G} {Q Q' : α → σ → Prop} {E E' : ε → σ → Prop} {s : σ}

/-- A value ends in the return. -/
@[simp] theorem wp_pure (a : α) :
    wp R G Q E (pure a : Coroutine σ ρ Answer ε α) s ↔ Q a s := Iff.rfl

/-- An error ends in the throw. -/
@[simp] theorem wp_throw (e : ε) :
    wp R G Q E (throw e : Coroutine σ ρ Answer ε α) s ↔ E e s := Iff.rfl

/-- An answer may come after any move of the others. -/
theorem wp_ask (request : ρ) {Q : Answer request → σ → Prop} :
    wp R G Q E (ask request : Coroutine σ ρ Answer ε (Answer request)) s ↔
      ∀ answer s', R s s' → Q answer s' := Iff.rfl

/-- Reading is an act that moves nothing. -/
@[simp] theorem wp_get {Q : σ → σ → Prop} :
    wp R G Q E (get : Coroutine σ ρ Answer ε σ) s ↔ G s s ∧ Q s s := Iff.rfl

/-- A change is an act. -/
@[simp] theorem wp_modify (f : σ → σ) {Q : PUnit → σ → Prop} :
    wp R G Q E (modify f : Coroutine σ ρ Answer ε PUnit) s ↔ G s (f s) ∧ Q ⟨⟩ (f s) := Iff.rfl

/-- An outcome is a return or a throw. -/
@[simp] theorem wp_settle (outcome : Except ε α) :
    wp R G Q E (settle outcome : Coroutine σ ρ Answer ε α) s ↔
      match outcome with | .ok a => Q a s | .error e => E e s := by
  cases outcome <;> exact Iff.rfl

/-- The continuation starts where the first part has returned. -/
theorem wp_bind (x : Coroutine σ ρ Answer ε α) (f : α → Coroutine σ ρ Answer ε β)
    {Q : β → σ → Prop} :
    wp R G Q E (x >>= f) s ↔ wp R G (fun a => wp R G Q E (f a)) E x s := by
  induction x generalizing s with
  | done outcome => cases outcome <;> exact Iff.rfl
  | act move next ih => exact and_congr Iff.rfl (ih s)
  | await request resume ih =>
    exact forall_congr' fun answer => forall_congr' fun s' => imp_congr_right fun _ => ih answer

/-- The handler starts where it has thrown. -/
theorem wp_handle (x : Coroutine σ ρ Answer ε α) (h : ε → Coroutine σ ρ Answer ε α) :
    wp R G Q E (handle x h) s ↔ wp R G Q (fun e => wp R G Q E (h e)) x s := by
  induction x generalizing s with
  | done outcome => cases outcome <;> exact Iff.rfl
  | act move next ih => exact and_congr Iff.rfl (ih s)
  | await request resume ih =>
    exact forall_congr' fun answer => forall_congr' fun s' => imp_congr_right fun _ => ih answer

/-- A function is applied to what is returned. -/
@[simp] theorem wp_map (f : α → β) (x : Coroutine σ ρ Answer ε α) {Q : β → σ → Prop} :
    wp R G Q E (f <$> x) s ↔ wp R G (fun a => Q (f a)) E x s :=
  wp_bind x fun a => pure (f a)

/-- Both ends are a return. -/
theorem wp_attempt (x : Coroutine σ ρ Answer ε α) {Q : Except ε α → σ → Prop} :
    wp R G Q E (attempt x) s ↔ wp R G (fun a => Q (.ok a)) (fun e => Q (.error e)) x s := by
  rw [attempt, wp_handle, wp_map]
  exact Iff.rfl

/-- Either branch. -/
theorem wp_ite (c : Prop) [Decidable c] (x y : Coroutine σ ρ Answer ε α) :
    wp R G Q E (if c then x else y) s ↔ if c then wp R G Q E x s else wp R G Q E y s := by
  split <;> exact Iff.rfl

/-- The branch, or nothing. -/
theorem wp_onlyIf (condition : Bool) (x : Coroutine σ ρ Answer ε Unit) {Q : Unit → σ → Prop} :
    wp R G Q E (onlyIf condition x) s ↔ if condition then wp R G Q E x s else Q () s := by
  rw [onlyIf, wp_ite, wp_pure]

/-- Consequence: a computation that meets a specification meets every weaker one. -/
theorem wp_mono {x : Coroutine σ ρ Answer ε α} (h : wp R G Q E x s)
    (hQ : ∀ a s', Q a s' → Q' a s') (hE : ∀ e s', E e s' → E' e s') : wp R G Q' E' x s := by
  induction x generalizing s with
  | done outcome =>
    cases outcome with
    | ok a => exact hQ a s h
    | error e => exact hE e s h
  | act move next ih => exact ⟨h.1, ih s h.2⟩
  | await request resume ih => exact fun answer s' hs' => ih answer (h answer s' hs')

/-- What others do before the next answer is part of the rely. -/
theorem wp_of_rely [IsTrans σ R] {request : ρ} {resume : Answer request → Coroutine σ ρ Answer ε α}
    (h : wp R G Q E (await request resume) s) {s' : σ} (hs' : R s s') :
    wp R G Q E (await request resume) s' :=
  fun answer s'' hs'' => h answer s'' (IsTrans.trans _ _ _ hs' hs'')

/-- Acting until the next request moves by the guarantee. -/
theorem advance_spec [Std.Refl G] [IsTrans σ G] {x : Coroutine σ ρ Answer ε α}
    (h : wp R G Q E x s) :
    G s (x.advance s).2 ∧ wp R G Q E (x.advance s).1 (x.advance s).2 ∧
      ∀ move next, (x.advance s).1 ≠ act move next := by
  induction x generalizing s with
  | done outcome => exact ⟨refl s, h, fun _ _ heq => nomatch heq⟩
  | act move next ih =>
    obtain ⟨hmove, hrest, hend⟩ := ih s h.2
    exact ⟨IsTrans.trans _ _ _ h.1 hmove, hrest, hend⟩
  | await request resume _ => exact ⟨refl s, h, fun _ _ heq => nomatch heq⟩

end Wp

/-! ## Computations that only look -/

/-- The acts of the computation leave the state as it is. -/
def Inert : Coroutine σ ρ Answer ε α → Prop
  | done _ => True
  | act move next => (∀ s, move s = s) ∧ ∀ s, (next s).Inert
  | await _ resume => ∀ answer, (resume answer).Inert

/-- A value leaves the state. -/
theorem inert_pure (a : α) : Inert (pure a : Coroutine σ ρ Answer ε α) := trivial

/-- So does an error. -/
theorem inert_throw (e : ε) : Inert (throw e : Coroutine σ ρ Answer ε α) := trivial

/-- So does an outcome. -/
theorem inert_settle (outcome : Except ε α) :
    Inert (settle outcome : Coroutine σ ρ Answer ε α) := trivial

/-- So does reading it. -/
theorem inert_get : Inert (get : Coroutine σ ρ Answer ε σ) := ⟨fun _ => rfl, fun _ => trivial⟩

/-- So does a request, before it is answered. -/
theorem inert_ask (request : ρ) :
    Inert (ask request : Coroutine σ ρ Answer ε (Answer request)) := fun _ => trivial

/-- Two inert parts. -/
theorem Inert.bind {x : Coroutine σ ρ Answer ε α} {f : α → Coroutine σ ρ Answer ε β}
    (hx : Inert x) (hf : ∀ a, Inert (f a)) : Inert (x >>= f) := by
  induction x with
  | done outcome =>
    cases outcome with
    | ok a => exact hf a
    | error e => exact trivial
  | act move next ih => exact ⟨hx.1, fun s => ih s (hx.2 s)⟩
  | await request resume ih => exact fun answer => ih answer (hx answer)

/-- An inert part with an inert handler. -/
theorem Inert.handle {x : Coroutine σ ρ Answer ε α} {h : ε → Coroutine σ ρ Answer ε α}
    (hx : Inert x) (hh : ∀ e, Inert (h e)) : Inert (x.handle h) := by
  induction x with
  | done outcome =>
    cases outcome with
    | ok a => exact trivial
    | error e => exact hh e
  | act move next ih => exact ⟨hx.1, fun s => ih s (hx.2 s)⟩
  | await request resume ih => exact fun answer => ih answer (hx answer)

/-- Either branch. -/
theorem Inert.ite {c : Prop} [Decidable c] {x y : Coroutine σ ρ Answer ε α} (hx : Inert x)
    (hy : Inert y) : Inert (if c then x else y) := by
  split
  · exact hx
  · exact hy

/-- The branch, or nothing. -/
theorem Inert.onlyIf {condition : Bool} {x : Coroutine σ ρ Answer ε Unit} (hx : Inert x) :
    Inert (onlyIf condition x) :=
  hx.ite (inert_pure ())

/-- What the others keep, a computation that only looks keeps. -/
theorem Inert.wp {R G : σ → σ → Prop} [Std.Refl G] {P : σ → Prop}
    (hP : ∀ s s', P s → R s s' → P s') {x : Coroutine σ ρ Answer ε α} (hx : Inert x) {s : σ}
    (h : P s) : Coroutine.wp R G (fun _ => P) (fun _ => P) x s := by
  induction x generalizing s with
  | done outcome => cases outcome <;> exact h
  | act move next ih =>
    obtain ⟨hmove, hnext⟩ := hx
    refine ⟨?_, ?_⟩
    · rw [hmove s]
      exact refl s
    · rw [hmove s]
      exact ih s (hnext s) h
  | await request resume ih => exact fun answer s' hs' => ih answer (hx answer) (hP s s' h hs')

end Coroutine

/-! ## Pools -/

/-- A state, and the coroutines that run over it. -/
structure Pool (σ ρ : Type) (Answer : ρ → Type) (ε α : Type) where
  state : σ
  running : List (Coroutine σ ρ Answer ε α) := []

namespace Pool

variable {σ ρ : Type} {Answer : ρ → Type} {ε α : Type}

/-- The state moves by itself. -/
def move (pool : Pool σ ρ Answer ε α) (f : σ → σ) : Pool σ ρ Answer ε α :=
  { pool with state := f pool.state }

/-- A coroutine joins, and acts until its first request. -/
def start (pool : Pool σ ρ Answer ε α) (x : Coroutine σ ρ Answer ε α) : Pool σ ρ Answer ε α :=
  { state := (x.advance pool.state).2, running := pool.running ++ [(x.advance pool.state).1] }

/-- The pending request of a coroutine is answered, if there is an answer, and it acts until its
next one. -/
def resume (pool : Pool σ ρ Answer ε α) (position : ℕ)
    (answers : ∀ request, Option (Answer request)) : Pool σ ρ Answer ε α :=
  match pool.running[position]? with
  | some (.await request resume) =>
    match answers request with
    | some answer =>
      let advanced := (resume answer).advance pool.state
      { state := advanced.2, running := pool.running.set position advanced.1 }
    | none => pool
  | _ => pool

/-- An answer adds no coroutine. -/
theorem length_resume {pool : Pool σ ρ Answer ε α} {position : ℕ}
    {answers : ∀ request, Option (Answer request)} :
    (pool.resume position answers).running.length = pool.running.length := by
  unfold resume
  split
  · split
    · exact List.length_set
    · rfl
  · rfl

/-- A coroutine that has ended stays as it is when another one joins. -/
theorem done_start {pool : Pool σ ρ Answer ε α} {x : Coroutine σ ρ Answer ε α} {position : ℕ}
    {outcome : Except ε α} (h : pool.running[position]? = some (.done outcome)) :
    (pool.start x).running[position]? = some (.done outcome) := by
  rw [start, List.getElem?_append_left (List.getElem?_eq_some_iff.mp h).1]
  exact h

/-- A coroutine that has ended awaits no answer, and stays as it is when another one gets its
answer. -/
theorem done_resume {pool : Pool σ ρ Answer ε α} {position : ℕ} {outcome : Except ε α}
    (h : pool.running[position]? = some (.done outcome)) (other : ℕ)
    (answers : ∀ request, Option (Answer request)) :
    (pool.resume other answers).running[position]? = some (.done outcome) ∧
      (other = position → pool.resume other answers = pool) := by
  unfold resume
  split
  · rename_i request resume hwait
    have hne : other ≠ position := by
      rintro rfl
      rw [h] at hwait
      cases hwait
    split
    · exact ⟨by rw [List.getElem?_set_ne hne, h], fun heq => absurd heq hne⟩
    · exact ⟨h, fun _ => rfl⟩
  · exact ⟨h, fun _ => rfl⟩

/-- Each coroutine that waits does so by its specification. -/
structure Sound (R G : ℕ → σ → σ → Prop) (Q : ℕ → α → σ → Prop) (E : ℕ → ε → σ → Prop)
    (pool : Pool σ ρ Answer ε α) : Prop where
  waiting : ∀ position request resume,
    pool.running[position]? = some (.await request resume) →
      Coroutine.wp (R position) (G position) (Q position) (E position) (.await request resume)
        pool.state

variable {R G : ℕ → σ → σ → Prop} {Q : ℕ → α → σ → Prop} {E : ℕ → ε → σ → Prop}
  {pool : Pool σ ρ Answer ε α} [∀ position, IsTrans σ (R position)]

/-- A move that everybody relies on. -/
theorem Sound.move (h : Sound R G Q E pool) {f : σ → σ}
    (hrely : ∀ position, R position pool.state (f pool.state)) : Sound R G Q E (pool.move f) :=
  ⟨fun position request resume hwait =>
    Coroutine.wp_of_rely (h.waiting position request resume hwait) (hrely position)⟩

variable [∀ position, Std.Refl (G position)] [∀ position, IsTrans σ (G position)]

/-- A coroutine joins; the state moves by its guarantee. -/
theorem Sound.start (h : Sound R G Q E pool)
    (hrely : ∀ position other s s', position ≠ other → G other s s' → R position s s')
    {x : Coroutine σ ρ Answer ε α}
    (hx : Coroutine.wp (R pool.running.length) (G pool.running.length) (Q pool.running.length)
      (E pool.running.length) x pool.state) :
    Sound R G Q E (pool.start x) ∧ G pool.running.length pool.state (pool.start x).state := by
  obtain ⟨hmove, hrest, -⟩ := Coroutine.advance_spec hx
  refine ⟨⟨fun position request resume hwait => ?_⟩, hmove⟩
  rcases Nat.lt_trichotomy position pool.running.length with hlt | rfl | hgt
  · rw [Pool.start, List.getElem?_append_left hlt] at hwait
    exact Coroutine.wp_of_rely (h.waiting position request resume hwait)
      (hrely position _ _ _ (Nat.ne_of_lt hlt) hmove)
  · rw [Pool.start, List.getElem?_concat_length] at hwait
    rw [← Option.some.inj hwait]
    exact hrest
  · have hnone : (pool.start x).running[position]? = none := by
      refine List.getElem?_eq_none ?_
      rw [Pool.start, List.length_append, List.length_singleton]
      exact hgt
    rw [hnone] at hwait
    exact nomatch hwait

/-- An answer; the state moves by the guarantee of the coroutine that is answered. -/
theorem Sound.resume (h : Sound R G Q E pool) [∀ position, Std.Refl (R position)]
    (hrely : ∀ position other s s', position ≠ other → G other s s' → R position s s')
    (position : ℕ) (answers : ∀ request, Option (Answer request)) :
    Sound R G Q E (pool.resume position answers) ∧
      G position pool.state (pool.resume position answers).state := by
  unfold Pool.resume
  split
  · rename_i request resume hrunning
    split
    swap
    · exact ⟨h, refl pool.state⟩
    rename_i answer _
    have hwp := h.waiting position request resume hrunning answer pool.state (refl pool.state)
    obtain ⟨hmove, hrest, -⟩ := Coroutine.advance_spec hwp
    refine ⟨⟨fun other request' resume' hwait => ?_⟩, hmove⟩
    by_cases hother : position = other
    · subst hother
      have hlt := (List.getElem?_eq_some_iff.mp hrunning).1
      rw [List.getElem?_set_self hlt] at hwait
      rw [← Option.some.inj hwait]
      exact hrest
    · rw [List.getElem?_set_ne hother] at hwait
      exact Coroutine.wp_of_rely (h.waiting other request' resume' hwait)
        (hrely other position _ _ (Ne.symm hother) hmove)
  · exact ⟨h, refl pool.state⟩

/-! ### What has ended -/

/-- The postconditions hold of the coroutines that have ended. -/
structure Ended (Q : ℕ → α → σ → Prop) (E : ℕ → ε → σ → Prop) (pool : Pool σ ρ Answer ε α) :
    Prop where
  returned : ∀ position a, pool.running[position]? = some (.done (.ok a)) → Q position a pool.state
  threw : ∀ position e, pool.running[position]? = some (.done (.error e)) → E position e pool.state

section Ended

variable (hQ : ∀ position a s s', Q position a s → R position s s' → Q position a s')
  (hE : ∀ position e s s', E position e s → R position s s' → E position e s')
include hQ hE
omit [∀ position, IsTrans σ (R position)]

omit [∀ position, Std.Refl (G position)] [∀ position, IsTrans σ (G position)] in
/-- Postconditions that the others keep survive a move that everybody relies on. -/
theorem Ended.move (h : Ended Q E pool) {f : σ → σ}
    (hrely : ∀ position, R position pool.state (f pool.state)) : Ended Q E (pool.move f) :=
  ⟨fun position a hdone => hQ position a _ _ (h.returned position a hdone) (hrely position),
    fun position e hdone => hE position e _ _ (h.threw position e hdone) (hrely position)⟩

/-- A coroutine joins, and may end at once. -/
theorem Ended.start (h : Ended Q E pool)
    (hrely : ∀ position other s s', position ≠ other → G other s s' → R position s s')
    {x : Coroutine σ ρ Answer ε α}
    (hx : Coroutine.wp (R pool.running.length) (G pool.running.length) (Q pool.running.length)
      (E pool.running.length) x pool.state) : Ended Q E (pool.start x) := by
  obtain ⟨hmove, hrest, -⟩ := Coroutine.advance_spec hx
  have hcases : ∀ position y, (pool.start x).running[position]? = some y →
      position ≠ pool.running.length ∧ pool.running[position]? = some y ∨
        position = pool.running.length ∧ y = (x.advance pool.state).1 := by
    intro position y hat
    rcases Nat.lt_trichotomy position pool.running.length with hlt | rfl | hgt
    · rw [Pool.start, List.getElem?_append_left hlt] at hat
      exact .inl ⟨Nat.ne_of_lt hlt, hat⟩
    · rw [Pool.start, List.getElem?_concat_length] at hat
      exact .inr ⟨rfl, (Option.some.inj hat).symm⟩
    · have hnone : (pool.start x).running[position]? = none := by
        refine List.getElem?_eq_none ?_
        rw [Pool.start, List.length_append, List.length_singleton]
        exact hgt
      exact nomatch hnone.symm.trans hat
  constructor
  · intro position a hdone
    rcases hcases position _ hdone with ⟨hne, hold⟩ | ⟨rfl, hnew⟩
    · exact hQ position a _ _ (h.returned position a hold) (hrely position _ _ _ hne hmove)
    · rw [← hnew] at hrest
      exact hrest
  · intro position e hdone
    rcases hcases position _ hdone with ⟨hne, hold⟩ | ⟨rfl, hnew⟩
    · exact hE position e _ _ (h.threw position e hold) (hrely position _ _ _ hne hmove)
    · rw [← hnew] at hrest
      exact hrest

/-- An answer, after which the coroutine may end. -/
theorem Ended.resume (h : Ended Q E pool) (hsound : Sound R G Q E pool)
    [∀ position, Std.Refl (R position)]
    (hrely : ∀ position other s s', position ≠ other → G other s s' → R position s s')
    (position : ℕ) (answers : ∀ request, Option (Answer request)) :
    Ended Q E (pool.resume position answers) := by
  unfold Pool.resume
  split
  · rename_i request resume hrunning
    split
    swap
    · exact h
    rename_i answer _
    -- The coroutine goes on from a state that the others have moved within its rely.
    have hwp := hsound.waiting position request resume hrunning answer pool.state (refl pool.state)
    obtain ⟨hmove, hrest, -⟩ := Coroutine.advance_spec hwp
    have hlt := (List.getElem?_eq_some_iff.mp hrunning).1
    constructor
    · intro other a hdone
      by_cases hother : position = other
      · subst hother
        rw [List.getElem?_set_self hlt] at hdone
        rw [Option.some.inj hdone] at hrest
        exact hrest
      · -- A coroutine that has ended keeps what it ended with, since this move is one of its rely.
        rw [List.getElem?_set_ne hother] at hdone
        exact hQ other a _ _ (h.returned other a hdone)
          (hrely other position _ _ (Ne.symm hother) hmove)
    · intro other e hdone
      by_cases hother : position = other
      · subst hother
        rw [List.getElem?_set_self hlt] at hdone
        rw [Option.some.inj hdone] at hrest
        exact hrest
      · rw [List.getElem?_set_ne hother] at hdone
        exact hE other e _ _ (h.threw other e hdone)
          (hrely other position _ _ (Ne.symm hother) hmove)
  · exact h

end Ended

end Pool
