import Mathlib.Tactic.Common

/-!
# Stateful computations with exceptions

`Effect σ ε α` is the meaning of a piece of imperative code: it reads and writes a state `σ` and
either returns an `α` or throws an `ε`. The state survives a throw, as it does in a language whose
objects are mutated in place; only the rest of the computation is lost.

`Effect.wp` is the weakest precondition of a computation for a pair of postconditions, one for each
way of ending. Its equations push `wp` through the program's structure, so a specification is proved
by following the text of the program.

`Interrupt` adds a third way of ending, for code that waits: the awaited operation never settles, or
the step budget of a loop is used up. `Effect.rescue` is a `catch` that sees throws and not these.
-/

/-- A computation over the state `σ` that returns an `α` or throws an `ε`. -/
def Effect (σ ε α : Type) : Type := σ → Except ε α × σ

namespace Effect

variable {σ ε α β : Type}

/-- Return a value; the state is unchanged. -/
def ret (a : α) : Effect σ ε α := fun s => (.ok a, s)

/-- Throw; the state is unchanged. -/
def raise (e : ε) : Effect σ ε α := fun s => (.error e, s)

/-- Sequencing: a throw skips the continuation and keeps the state. -/
def andThen (x : Effect σ ε α) (f : α → Effect σ ε β) : Effect σ ε β := fun s =>
  match x s with
  | (.ok a, s') => f a s'
  | (.error e, s') => (.error e, s')

/-- Run the handler on a throw, from the state the throw left. -/
def handle (x : Effect σ ε α) (h : ε → Effect σ ε α) : Effect σ ε α := fun s =>
  match x s with
  | (.ok a, s') => (.ok a, s')
  | (.error e, s') => h e s'

instance : Monad (Effect σ ε) where
  pure := ret
  bind := andThen

instance : MonadExceptOf ε (Effect σ ε) where
  throw := raise
  tryCatch := handle

instance : MonadStateOf σ (Effect σ ε) where
  get := fun s => (.ok s, s)
  set s' := fun _ => (.ok (), s')
  modifyGet f := fun s => (.ok (f s).1, (f s).2)

/-- Lift a pure result: return or throw, leaving the state alone. -/
def ofExcept : Except ε α → Effect σ ε α
  | .ok a => pure a
  | .error e => throw e

/-! ## What a sequence computes -/

section Outcomes

variable {x : Effect σ ε α} {f : α → Effect σ ε β} {s s' : σ}

/-- Sequencing goes on after a return. -/
theorem bind_ok {a : α} (h : x s = (.ok a, s')) : (x >>= f) s = f a s' := by
  show andThen x f s = f a s'
  rw [andThen, h]

/-- Sequencing ends at a throw. -/
theorem bind_error {e : ε} (h : x s = (.error e, s')) : (x >>= f) s = (.error e, s') := by
  show andThen x f s = (.error e, s')
  rw [andThen, h]

end Outcomes

/-! ## Weakest preconditions -/

/-- From `s`, the computation ends in a return satisfying `Q` or a throw satisfying `E`. -/
def wp (x : Effect σ ε α) (Q : α → σ → Prop) (E : ε → σ → Prop) (s : σ) : Prop :=
  match x s with
  | (.ok a, s') => Q a s'
  | (.error e, s') => E e s'

variable {Q Q' : α → σ → Prop} {E E' : ε → σ → Prop} {s : σ}

/-- A return meets the condition on returns. -/
@[simp] theorem wp_pure (a : α) : wp (pure a : Effect σ ε α) Q E s ↔ Q a s := Iff.rfl

/-- A throw meets the condition on throws. -/
@[simp] theorem wp_throw (e : ε) : wp (throw e : Effect σ ε α) Q E s ↔ E e s := Iff.rfl

/-- The rule of sequencing. -/
theorem wp_bind (x : Effect σ ε α) (f : α → Effect σ ε β) {Q : β → σ → Prop} :
    wp (x >>= f) Q E s ↔ wp x (fun a => wp (f a) Q E) E s := by
  show (match andThen x f s with | (.ok b, s') => Q b s' | (.error e, s') => E e s') ↔
    (match x s with | (.ok a, s') => wp (f a) Q E s' | (.error e, s') => E e s')
  unfold andThen
  rcases x s with ⟨_ | _, _⟩ <;> exact Iff.rfl

/-- The rule of a function applied to the result. -/
@[simp] theorem wp_map (f : α → β) (x : Effect σ ε α) {Q : β → σ → Prop} :
    wp (f <$> x) Q E s ↔ wp x (fun a => Q (f a)) E s :=
  wp_bind x fun a => pure (f a)

/-- The rule of a handler. -/
@[simp] theorem wp_tryCatch (x : Effect σ ε α) (h : ε → Effect σ ε α) :
    wp (tryCatch x h) Q E s ↔ wp x Q (fun e => wp (h e) Q E) s := by
  show (match handle x h s with | (.ok b, s') => Q b s' | (.error e, s') => E e s') ↔
    (match x s with | (.ok a, s') => Q a s' | (.error e, s') => wp (h e) Q E s')
  unfold handle
  rcases x s with ⟨_ | _, _⟩ <;> exact Iff.rfl

/-- The rule of reading the state. -/
@[simp] theorem wp_get {Q : σ → σ → Prop} : wp (get : Effect σ ε σ) Q E s ↔ Q s s := Iff.rfl

/-- The rule of writing the state. -/
@[simp] theorem wp_set (s' : σ) {Q : PUnit → σ → Prop} :
    wp (set s' : Effect σ ε PUnit) Q E s ↔ Q ⟨⟩ s' := Iff.rfl

/-- The rule of changing the state. -/
@[simp] theorem wp_modify (f : σ → σ) {Q : PUnit → σ → Prop} :
    wp (modify f : Effect σ ε PUnit) Q E s ↔ Q ⟨⟩ (f s) := Iff.rfl

/-- The rule of a result that is known already. -/
@[simp] theorem wp_ofExcept (r : Except ε α) :
    wp (ofExcept r : Effect σ ε α) Q E s ↔
      match r with | .ok a => Q a s | .error e => E e s := by
  cases r <;> exact Iff.rfl

/-- The rule of a choice. -/
theorem wp_ite (c : Prop) [Decidable c] (x y : Effect σ ε α) :
    wp (if c then x else y) Q E s ↔ if c then wp x Q E s else wp y Q E s := by
  split <;> exact Iff.rfl

/-- Consequence: a computation that meets a specification meets every weaker one. -/
theorem wp_mono {x : Effect σ ε α} (h : wp x Q E s) (hQ : ∀ a s', Q a s' → Q' a s')
    (hE : ∀ e s', E e s' → E' e s') : wp x Q' E' s := by
  unfold wp at h ⊢
  rcases hx : x s with ⟨_ | _, _⟩ <;> rw [hx] at h
  · exact hE _ _ h
  · exact hQ _ _ h

/-- The weakest specification. -/
theorem wp_trivial (x : Effect σ ε α) : wp x (fun _ _ => True) (fun _ _ => True) s := by
  unfold wp
  split
  · trivial
  · trivial

/-- Conjunction: specifications of one computation combine. -/
theorem wp_and {x : Effect σ ε α} (h : wp x Q E s) (h' : wp x Q' E' s) :
    wp x (fun a s' => Q a s' ∧ Q' a s') (fun e s' => E e s' ∧ E' e s') s := by
  unfold wp at h h' ⊢
  rcases hx : x s with ⟨_ | _, _⟩ <;> rw [hx] at h h' <;> exact ⟨h, h'⟩

/-- What a specification says about the computed outcome. -/
theorem wp_apply {x : Effect σ ε α} (h : wp x Q E s) :
    match x s with | (.ok a, s') => Q a s' | (.error e, s') => E e s' := h

end Effect

/-! ## Computations that may never settle -/

/-- How a computation that waits can fail to return: it throws, or it never settles. -/
inductive Interrupt (ε : Type) where
  | thrown (error : ε)
  | pending
deriving DecidableEq, Repr

namespace Effect

variable {σ ε α : Type}

/-- Throw an ordinary error. -/
def fail (e : ε) : Effect σ (Interrupt ε) α := throw (.thrown e)

/-- `catch`: the handler runs on throws; a computation that never settles still does not. -/
def rescue (x : Effect σ (Interrupt ε) α) (h : ε → Effect σ (Interrupt ε) α) :
    Effect σ (Interrupt ε) α :=
  tryCatch x fun
    | .thrown e => h e
    | .pending => throw .pending

/-- `try` and `catch` as data: the value of `x`, or what it threw. -/
def attempt (x : Effect σ (Interrupt ε) α) : Effect σ (Interrupt ε) (Except ε α) :=
  rescue (Except.ok <$> x) fun e => pure (.error e)

/-- `if` without `else`. -/
def onlyIf (condition : Bool) (x : Effect σ (Interrupt ε) Unit) : Effect σ (Interrupt ε) Unit :=
  if condition then x else pure ()

/-- `finally`: the finalizer runs when `x` settles, and its own throw replaces the outcome. -/
def finalize (x : Effect σ (Interrupt ε) α) (f : Effect σ (Interrupt ε) Unit) :
    Effect σ (Interrupt ε) α := do
  let a ← rescue x fun e => do
    f
    fail e
  f
  pure a

variable {Q : α → σ → Prop} {E : Interrupt ε → σ → Prop} {s : σ}

/-- Throwing an ordinary error meets the condition on it. -/
@[simp] theorem wp_fail (e : ε) :
    wp (fail e : Effect σ (Interrupt ε) α) Q E s ↔ E (.thrown e) s := Iff.rfl

/-- The rule of `catch`: what never settles is not caught. -/
theorem wp_rescue (x : Effect σ (Interrupt ε) α) (h : ε → Effect σ (Interrupt ε) α) :
    wp (rescue x h) Q E s ↔
      wp x Q (fun
        | .thrown e => wp (h e) Q E
        | .pending => E .pending) s := by
  unfold rescue
  rw [wp_tryCatch]
  refine iff_of_eq (congrArg (fun E => wp x Q E s) ?_)
  funext i
  cases i <;> rfl

/-- The rule of an outcome taken as data. -/
theorem wp_attempt (x : Effect σ (Interrupt ε) α) {Q : Except ε α → σ → Prop} :
    wp (attempt x) Q E s ↔
      wp x (fun a => Q (.ok a)) (fun
        | .thrown e => Q (.error e)
        | .pending => E .pending) s := by
  rw [attempt, wp_rescue, wp_map]
  refine iff_of_eq (congrArg (fun E => wp x _ E s) ?_)
  funext i
  cases i <;> rfl

/-- The rule of `if` without `else`. -/
theorem wp_onlyIf (condition : Bool) (x : Effect σ (Interrupt ε) Unit) {Q : Unit → σ → Prop} :
    wp (onlyIf condition x) Q E s ↔ if condition then wp x Q E s else Q () s := by
  rw [onlyIf, wp_ite, wp_pure]

/-- The finalizer runs after a return and after a throw. -/
theorem wp_finalize (x : Effect σ (Interrupt ε) α) (f : Effect σ (Interrupt ε) Unit) :
    wp (finalize x f) Q E s ↔
      wp x (fun a => wp f (fun _ => Q a) E) (fun
        | .thrown e => wp f (fun _ => E (.thrown e)) E
        | .pending => E .pending) s := by
  rw [finalize, wp_bind, wp_rescue]
  refine iff_of_eq (congrArg₂ (fun Q E => wp x Q E s) ?_ ?_)
  · funext a s'
    rw [wp_bind]
    rfl
  · funext i
    cases i with
    | thrown e =>
      funext s'
      exact propext (wp_bind _ _)
    | pending => rfl

end Effect
