import Mathlib.Data.List.Induction
import Mathlib.Tactic.Common

/-!
# Segments of a growing sequence

A sequence cut at its separators has complete segments, each ended by a separator, and a remainder
after the last one. A reader that keeps the remainder while the sequence grows finds the same
segments as a reader of the whole: `complete_append` says that the segments of `l ++ m` are those of
`l` followed by those of what was left of `l` and `m`.
-/

namespace Segments

variable {α : Type} (p : α → Bool)

/-- The segments of `l` that a separator ends. -/
def complete (l : List α) : List (List α) := (l.splitOnP p).dropLast

/-- What follows the last separator of `l`. -/
def remainder (l : List α) : List α := (l.splitOnP p).getLast (List.splitOnP_ne_nil p l)

/-- Cutting at every separator gives the complete segments and the remainder. -/
theorem splitOnP_eq (l : List α) : l.splitOnP p = complete p l ++ [remainder p l] :=
  (List.dropLast_concat_getLast (List.splitOnP_ne_nil p l)).symm

variable {p}

/-- The pieces of a list are determined by what `splitOnP` gives. -/
theorem eq_of_splitOnP {l r : List α} (segments : List (List α))
    (h : l.splitOnP p = segments ++ [r]) : complete p l = segments ∧ remainder p l = r := by
  rw [splitOnP_eq] at h
  obtain ⟨hcomplete, hrest⟩ := List.append_inj' h rfl
  exact ⟨hcomplete, List.singleton_inj.mp hrest⟩

@[simp] theorem complete_nil : complete p [] = [] := by simp [complete]

@[simp] theorem remainder_nil : remainder p [] = [] := by simp [remainder]

/-- Without a separator everything is remainder. -/
theorem of_forall {l : List α} (h : ∀ x ∈ l, p x = false) :
    complete p l = [] ∧ remainder p l = l :=
  eq_of_splitOnP _ (by rw [List.splitOnP_eq_singleton h, List.nil_append])

/-- The first segment. -/
theorem of_first {r l : List α} {x : α} (hr : ∀ y ∈ r, p y = false) (hx : p x = true) :
    complete p (r ++ x :: l) = r :: complete p l ∧
      remainder p (r ++ x :: l) = remainder p l :=
  eq_of_splitOnP _ (by
    rw [List.splitOnP_append_cons_of_forall_mem hr x hx, splitOnP_eq, List.cons_append])

/-- A separator at the end completes the remainder. -/
theorem snoc_separator {l : List α} {x : α} (hx : p x = true) :
    complete p (l ++ [x]) = complete p l ++ [remainder p l] ∧ remainder p (l ++ [x]) = [] :=
  eq_of_splitOnP _ (by
    rw [List.splitOnP_append_cons l [] hx, splitOnP_eq, List.splitOnP_nil])

/-- Anything else at the end extends the remainder. -/
theorem snoc_other {l : List α} {x : α} (hx : p x = false) :
    complete p (l ++ [x]) = complete p l ∧ remainder p (l ++ [x]) = remainder p l ++ [x] := by
  refine eq_of_splitOnP _ ?_
  induction l with
  | nil => simp [List.splitOnP_cons_eq_if_modifyHead, hx]
  | cons y l ih =>
    rw [List.cons_append, List.splitOnP_cons_eq_if_modifyHead, ih]
    by_cases hy : p y = true
    · rw [if_pos hy]
      have hsplit := eq_of_splitOnP (p := p) (l := y :: l) _
        (r := remainder p l) (by
          rw [List.splitOnP_cons_eq_if_modifyHead, if_pos hy, splitOnP_eq, List.cons_append])
      rw [hsplit.1, hsplit.2, List.cons_append]
    · rw [if_neg hy]
      cases hc : complete p l with
      | nil =>
        have hsplit := eq_of_splitOnP (p := p) (l := y :: l) []
          (r := y :: remainder p l) (by
            rw [List.splitOnP_cons_eq_if_modifyHead, if_neg hy, splitOnP_eq, hc]
            rfl)
        rw [hsplit.1, hsplit.2]
        rfl
      | cons s ss =>
        have hsplit := eq_of_splitOnP (p := p) (l := y :: l) ((y :: s) :: ss)
          (r := remainder p l) (by
            rw [List.splitOnP_cons_eq_if_modifyHead, if_neg hy, splitOnP_eq, hc]
            rfl)
        rw [hsplit.1, hsplit.2]
        rfl

/-- The remainder has no separator. -/
theorem remainder_free (l : List α) : ∀ x ∈ remainder p l, p x = false := by
  induction l using List.reverseRecOn with
  | nil => simp
  | append_singleton l x ih =>
    by_cases hx : p x = true
    · simp [(snoc_separator hx).2]
    · have hx' : p x = false := by simpa using hx
      rw [(snoc_other hx').2]
      intro y hy
      rcases List.mem_append.mp hy with hy | hy
      · exact ih y hy
      · rwa [List.mem_singleton.mp hy]

/-- The segments of a sequence that grew by `m`. -/
theorem complete_append (l m : List α) :
    complete p (l ++ m) = complete p l ++ complete p (remainder p l ++ m) ∧
      remainder p (l ++ m) = remainder p (remainder p l ++ m) := by
  induction m using List.reverseRecOn with
  | nil =>
    obtain ⟨hcomplete, hremainder⟩ := of_forall (remainder_free (p := p) l)
    rw [List.append_nil, List.append_nil, hcomplete, hremainder, List.append_nil]
    exact ⟨rfl, rfl⟩
  | append_singleton m x ih =>
    rw [← List.append_assoc, ← List.append_assoc]
    by_cases hx : p x = true
    · rw [(snoc_separator hx).1, (snoc_separator hx).2, (snoc_separator hx).1,
        (snoc_separator hx).2, ih.1, ih.2, List.append_assoc]
      exact ⟨rfl, rfl⟩
    · have hx' : p x = false := by simpa using hx
      rw [(snoc_other hx').1, (snoc_other hx').2, (snoc_other hx').1, (snoc_other hx').2, ih.1, ih.2]
      exact ⟨rfl, rfl⟩

end Segments
