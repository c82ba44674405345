import Mathlib.Data.List.Induction
import Mathlib.Tactic.Common

/-!
# Laws of a log

A log is the list of what has happened, the oldest first. A law `P past e` says when an event `e`
may happen after the events `past`; a log is lawful when every event in it obeys the law at its own
place. Safety statements about an order of events ("nothing of this kind after one of that kind")
are laws, and a log is kept lawful by checking the law once, when an event is appended.
-/

namespace Trace

variable {ε : Type} {P Q : List ε → ε → Prop} {log : List ε}

/-- Every event of the log obeys the law at its place. -/
def Lawful (P : List ε → ε → Prop) (log : List ε) : Prop :=
  ∀ past e future, log = past ++ e :: future → P past e

theorem lawful_nil : Lawful P [] := by
  intro past e future h
  simp at h

/-- Appending one event: the law is checked at the end of the log. -/
theorem lawful_snoc {e : ε} : Lawful P (log ++ [e]) ↔ Lawful P log ∧ P log e := by
  constructor
  · intro h
    refine ⟨fun past e' future hsplit => ?_, h log e [] rfl⟩
    exact h past e' (future ++ [e]) (by rw [hsplit, List.append_assoc, List.cons_append])
  · rintro ⟨hlog, he⟩ past e' future hsplit
    rcases List.eq_nil_or_concat future with rfl | ⟨init, last, rfl⟩
    · obtain ⟨rfl, hlast⟩ := List.append_inj' hsplit rfl
      cases hlast
      exact he
    · rw [List.concat_eq_append, ← List.cons_append, ← List.append_assoc] at hsplit
      exact hlog past e' init (List.append_inj' hsplit rfl).1

/-- Appending events that the law allows anywhere. -/
theorem Lawful.append_of_free (h : Lawful P log) {events : List ε}
    (hfree : ∀ e ∈ events, ∀ past, P past e) : Lawful P (log ++ events) := by
  induction events generalizing log with
  | nil => rwa [List.append_nil]
  | cons e events ih =>
    rw [← List.singleton_append, ← List.append_assoc]
    refine ih (lawful_snoc.mpr ⟨h, hfree e List.mem_cons_self log⟩) fun e' he' => ?_
    exact hfree e' (List.mem_cons_of_mem e he')

theorem Lawful.snoc_of_free (h : Lawful P log) {e : ε} (hfree : ∀ past, P past e) :
    Lawful P (log ++ [e]) :=
  lawful_snoc.mpr ⟨h, hfree log⟩

theorem Lawful.mono (h : Lawful P log) (hPQ : ∀ past e, P past e → Q past e) : Lawful Q log :=
  fun past e future hsplit => hPQ past e (h past e future hsplit)

/-- The law, read forwards: an event the law forbids after `e` does not come after `e`. -/
theorem Lawful.not_after (h : Lawful P log) {past future : List ε} {e e' : ε}
    (hsplit : log = past ++ e :: future) (hforbid : ∀ before, e ∈ before → ¬ P before e') :
    e' ∉ future := by
  intro hmem
  obtain ⟨init, rest, rfl⟩ := List.append_of_mem hmem
  have hlaw := h (past ++ e :: init) e' rest (by
    rw [hsplit, List.append_assoc, List.cons_append])
  exact hforbid _ (List.mem_append_right past List.mem_cons_self) hlaw

/-- Where the law allows an event of a kind only before all others of it, there is at most one. -/
theorem Lawful.countP_le_one (h : Lawful P log) {kind : ε → Bool}
    (hkind : ∀ past e, P past e → kind e = true → ∀ e' ∈ past, ¬ kind e' = true) :
    log.countP kind ≤ 1 := by
  induction log using List.reverseRecOn with
  | nil => exact Nat.zero_le 1
  | append_singleton log e ih =>
    obtain ⟨hlog, he⟩ := lawful_snoc.mp h
    rw [List.countP_append, List.countP_singleton]
    split
    · rename_i heq
      have hnone : log.countP kind = 0 := List.countP_eq_zero.mpr (hkind log e he heq)
      omega
    · exact ih hlog

end Trace
