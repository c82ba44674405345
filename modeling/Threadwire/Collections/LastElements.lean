import Mathlib.Tactic.Common

/-!
# The last elements of a list

`LastAll n P l`: the last `n` elements of `l` all satisfy `P`. This is what a counter says that
counts how often in a row something was seen: it goes up by one with an element that satisfies `P`,
and it may always be lowered.
-/

namespace List

variable {α : Type*} {n m : ℕ} {P Q : α → Prop} {l : List α}

/-- The last `n` elements of the list satisfy the property. -/
def LastAll (n : ℕ) (P : α → Prop) (l : List α) : Prop :=
  ∃ init last, l = init ++ last ∧ last.length = n ∧ ∀ a ∈ last, P a

theorem lastAll_zero : LastAll 0 P l := ⟨l, [], by simp, rfl, by simp⟩

theorem LastAll.snoc (h : LastAll n P l) {a : α} (ha : P a) : LastAll (n + 1) P (l ++ [a]) := by
  obtain ⟨init, last, rfl, hlength, hlast⟩ := h
  refine ⟨init, last ++ [a], by rw [List.append_assoc], by simp [hlength], fun b hb => ?_⟩
  rcases List.mem_append.mp hb with hb | hb
  · exact hlast b hb
  · rw [List.mem_singleton.mp hb]
    exact ha

theorem LastAll.mono (h : LastAll n P l) (hPQ : ∀ a, P a → Q a) : LastAll n Q l := by
  obtain ⟨init, last, hl, hlength, hlast⟩ := h
  exact ⟨init, last, hl, hlength, fun a ha => hPQ a (hlast a ha)⟩

theorem LastAll.of_le (h : LastAll n P l) (hm : m ≤ n) : LastAll m P l := by
  obtain ⟨init, last, rfl, rfl, hlast⟩ := h
  refine ⟨init ++ last.take (last.length - m), last.drop (last.length - m), ?_, ?_, ?_⟩
  · rw [List.append_assoc, List.take_append_drop]
  · rw [List.length_drop]
    omega
  · exact fun a ha => hlast a (List.mem_of_mem_drop ha)

theorem LastAll.append_left (h : LastAll n P l) (init : List α) : LastAll n P (init ++ l) := by
  obtain ⟨init', last, rfl, hlength, hlast⟩ := h
  exact ⟨init ++ init', last, by rw [List.append_assoc], hlength, hlast⟩

end List
