import Mathlib.Data.List.Induction
import Mathlib.Tactic.Common
import Mathlib.Logic.Relation

/-!
# Runs of a partial step function

A machine is a function `step : σ → ι → Option σ`: the state after an input, or `none` where the
input cannot occur. `exec` folds it over a list of inputs. The rules below package the induction on
a run once: an invariant kept by every step holds after every run, one that mentions the inputs so
far too, and a preorder that every step respects relates the two ends of every run.
-/

namespace Machine

variable {σ ι : Type} (step : σ → ι → Option σ)

/-- Run the inputs in order; `none` as soon as one of them cannot occur. -/
def exec : σ → List ι → Option σ
  | s, [] => some s
  | s, i :: is => (step s i).bind fun s' => exec s' is

@[simp] theorem exec_nil (s : σ) : exec step s [] = some s := rfl

theorem exec_cons (s : σ) (i : ι) (is : List ι) :
    exec step s (i :: is) = (step s i).bind fun s' => exec step s' is := rfl

variable {step}

/-- A run of a nonempty input list splits into its first step and the rest. -/
theorem exec_cons_eq_some {s t : σ} {i : ι} {is : List ι} :
    exec step s (i :: is) = some t ↔ ∃ s', step s i = some s' ∧ exec step s' is = some t := by
  rw [exec_cons, Option.bind_eq_some_iff]

/-- A run of an appended list is a run and a run from its end. -/
theorem exec_append {s : σ} {is js : List ι} :
    exec step s (is ++ js) = (exec step s is).bind fun s' => exec step s' js := by
  induction is generalizing s with
  | nil => rfl
  | cons i is ih =>
    rw [List.cons_append, exec_cons, exec_cons, Option.bind_assoc]
    exact congrArg (step s i).bind (funext fun s' => ih)

theorem exec_append_eq_some {s t : σ} {is js : List ι} :
    exec step s (is ++ js) = some t ↔
      ∃ s', exec step s is = some s' ∧ exec step s' js = some t := by
  rw [exec_append, Option.bind_eq_some_iff]

/-- The invariant rule: what every step keeps holds after every run. -/
theorem exec_invariant {I : σ → Prop}
    (hstep : ∀ s i s', I s → step s i = some s' → I s')
    {s t : σ} {is : List ι} (hs : I s) (hrun : exec step s is = some t) : I t := by
  induction is generalizing s with
  | nil =>
    cases hrun
    exact hs
  | cons i is ih =>
    obtain ⟨s', hs', hrest⟩ := exec_cons_eq_some.mp hrun
    exact ih (hstep s i s' hs hs') hrest

/-- The invariant rule for what is said of a state and the inputs that have led to it. -/
theorem exec_history {I : List ι → σ → Prop} {s t : σ} {is : List ι} (hs : I [] s)
    (hstep : ∀ past u i u', exec step s past = some u → I past u → step u i = some u' →
      I (past ++ [i]) u')
    (hrun : exec step s is = some t) : I is t := by
  -- the induction is on the inputs from the end, where the past of the last one is at hand
  induction is using List.reverseRecOn generalizing t with
  | nil =>
    cases hrun
    exact hs
  | append_singleton past i ih =>
    obtain ⟨u, hbefore, hlast⟩ := exec_append_eq_some.mp hrun
    obtain ⟨u', hu', hend⟩ := exec_cons_eq_some.mp hlast
    cases hend
    exact hstep past u i _ hbefore (ih hbefore) hu'

variable (step) in
/-- Along the run, every input satisfies `P` in the state it is given to. -/
def Along (P : σ → ι → Prop) : σ → List ι → Prop
  | _, [] => True
  | s, i :: is => P s i ∧
    match step s i with
    | none => True
    | some s' => Along P s' is

instance decidableAlong (P : σ → ι → Prop) [∀ s i, Decidable (P s i)] :
    (s : σ) → (is : List ι) → Decidable (Along step P s is)
  | _, [] => .isTrue trivial
  | s, i :: is =>
    have : Decidable (match step s i with | none => True | some s' => Along step P s' is) :=
      match step s i with
      | none => .isTrue trivial
      | some s' => decidableAlong P s' is
    inferInstanceAs (Decidable (_ ∧ _))

/-- The invariant rule for runs whose inputs all satisfy `P` where they occur. -/
theorem exec_invariant_along {I : σ → Prop} {P : σ → ι → Prop}
    (hstep : ∀ s i s', I s → P s i → step s i = some s' → I s')
    {s t : σ} {is : List ι} (hs : I s) (hP : Along step P s is)
    (hrun : exec step s is = some t) : I t := by
  induction is generalizing s with
  | nil =>
    cases hrun
    exact hs
  | cons i is ih =>
    obtain ⟨s', hs', hrest⟩ := exec_cons_eq_some.mp hrun
    obtain ⟨hi, his⟩ := hP
    rw [hs'] at his
    exact ih (hstep s i s' hs hi hs') his hrest

/-- The relation rule: the ends of a run are related by every preorder the steps respect, along
states that satisfy an invariant. -/
theorem exec_relation {I : σ → Prop} {R : σ → σ → Prop} (hrefl : ∀ s, R s s)
    (htrans : ∀ s t u, R s t → R t u → R s u)
    (hstep : ∀ s i s', I s → step s i = some s' → I s' ∧ R s s')
    {s t : σ} {is : List ι} (hs : I s) (hrun : exec step s is = some t) : R s t := by
  induction is generalizing s with
  | nil =>
    cases hrun
    exact hrefl _
  | cons i is ih =>
    obtain ⟨s', hs', hrest⟩ := exec_cons_eq_some.mp hrun
    obtain ⟨hinv, hrel⟩ := hstep s i s' hs hs'
    exact htrans s s' t hrel (ih hinv hrest)

end Machine
