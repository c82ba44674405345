import Mathlib.Data.List.Induction
import Mathlib.Tactic.Common

/-!
# Changes in a sequence

The positions of a sequence whose element differs from the one before, the first position counted. A
sequence that goes on after an element `a` has no more changes exactly if it goes on with `a` only.
-/

namespace Changes

variable {α : Type} [DecidableEq α]

/-- Whether position `k` has another element than the position before. -/
def isChange (l : List α) (k : ℕ) : Bool := k == 0 || l[k]? != l[k - 1]?

/-- The number of changes. -/
def count (l : List α) : ℕ := (List.range l.length).countP (isChange l)

theorem isChange_append {l : List α} {k : ℕ} (hk : k < l.length) (m : List α) :
    isChange (l ++ m) k = isChange l k := by
  rw [isChange, isChange, List.getElem?_append_left hk, List.getElem?_append_left (by omega)]

@[simp] theorem count_nil : count ([] : List α) = 0 := rfl

/-- One more element is a change unless it repeats the last one. -/
theorem count_snoc (l : List α) (a : α) :
    count (l ++ [a]) = count l + if l.getLast? = some a then 0 else 1 := by
  have hbefore : (List.range l.length).countP (isChange (l ++ [a])) = count l := by
    refine List.countP_congr fun k hk => ?_
    rw [isChange_append (List.mem_range.mp hk)]
  have hlast : isChange (l ++ [a]) l.length = true ↔ l.getLast? ≠ some a := by
    rw [isChange, List.getElem?_concat_length, List.getLast?_eq_getElem?]
    cases l with
    | nil => simp
    | cons b l =>
      have hpos : ((b :: l).length == 0) = false := rfl
      rw [List.getElem?_append_left (by simp), hpos, Bool.false_or, bne_iff_ne, ne_comm]
  rw [count, List.length_append, List.length_singleton, List.range_succ, List.countP_append, hbefore,
    List.countP_singleton]
  by_cases h : l.getLast? = some a
  · rw [if_neg (fun habsurd => hlast.mp habsurd h), if_pos h]
  · rw [if_pos (hlast.mpr h), if_neg h]

theorem count_le_append (l m : List α) : count l ≤ count (l ++ m) := by
  induction m using List.reverseRecOn with
  | nil => simp
  | append_singleton m a ih =>
    rw [← List.append_assoc, count_snoc]
    omega

/-- After `a` there are no more changes if and only if all that follows is `a`. -/
theorem count_append_eq_iff {l : List α} {a : α} (hlast : l.getLast? = some a) (m : List α) :
    count (l ++ m) = count l ↔ ∀ b ∈ m, b = a := by
  induction m using List.reverseRecOn with
  | nil => simp
  | append_singleton m b ih =>
    have hmono : count l ≤ count (l ++ m) := count_le_append l m
    rw [← List.append_assoc, count_snoc]
    constructor
    · intro heq
      have hm : ∀ c ∈ m, c = a := ih.mp (by split at heq <;> omega)
      have hrepeat : (l ++ m).getLast? = some b := by
        by_contra hchange
        rw [if_neg hchange] at heq
        omega
      intro c hc
      rcases List.mem_append.mp hc with hc | hc
      · exact hm c hc
      · rw [List.mem_singleton.mp hc]
        -- The element before `b` is in `m` or the last one of `l`, and either way it is `a`.
        rw [List.getLast?_append, hlast] at hrepeat
        cases hlastm : m.getLast? with
        | none =>
          rw [hlastm] at hrepeat
          exact (Option.some.inj hrepeat).symm
        | some d =>
          rw [hlastm] at hrepeat
          rw [← Option.some.inj hrepeat]
          exact hm d (List.mem_of_getLast? hlastm)
    · intro hall
      have hm : count (l ++ m) = count l :=
        ih.mpr fun c hc => hall c (List.mem_append_left _ hc)
      have hb : b = a := hall b (List.mem_append_right _ List.mem_cons_self)
      rw [if_pos, hm, Nat.add_zero]
      rw [hb, List.getLast?_append, hlast]
      cases hlastm : m.getLast? with
      | none => rfl
      | some d =>
        rw [hall d (List.mem_append_left _ (List.mem_of_getLast? hlastm))]
        rfl

end Changes
