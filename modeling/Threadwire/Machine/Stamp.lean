import Threadwire.Machine.Runs

/-!
# Stamps

A machine stamps a value when it raises a number by one whenever the value changes. Whoever reads
the number twice and finds it the same knows that the value has been the same all the time in
between, even if he has never read the value.

A machine may have to be open for its stamp to mean anything; once it is shut it stays so.
-/

namespace Machine

variable {σ ι α : Type} (step : σ → ι → Option σ)

/-- While the machine is open, the stamp is raised exactly when the value changes. -/
structure Stamped (Open Shut : σ → Prop) (stamp : σ → ℕ) (value : σ → α) : Prop where
  opens : ∀ s i t, Open s → step s i = some t → Open t ∨ Shut t
  stays : ∀ s i t, Shut s → step s i = some t → Shut t
  exclusive : ∀ s, Shut s → ¬ Open s
  counts : ∀ s i t, Open s → step s i = some t → Open t →
    (stamp t = stamp s ∧ value t = value s) ∨ (stamp t = stamp s + 1 ∧ value t ≠ value s)

namespace Stamped

variable {step} {Open Shut : σ → Prop} {stamp : σ → ℕ} {value : σ → α}

/-- Between two open states of a run all states are open. -/
theorem open_of_step (h : Stamped step Open Shut stamp value) {s s' t : σ} {i : ι} {is : List ι}
    (hs : Open s) (hstep : step s i = some s') (hrun : exec step s' is = some t) (ht : Open t) :
    Open s' := by
  refine (h.opens s i s' hs hstep).resolve_right fun hshut => ?_
  exact h.exclusive t (exec_invariant h.stays hshut hrun) ht

theorem le (h : Stamped step Open Shut stamp value) {s t : σ} {is : List ι} (hs : Open s)
    (hrun : exec step s is = some t) (ht : Open t) : stamp s ≤ stamp t := by
  induction is generalizing s with
  | nil =>
    cases hrun
    exact Nat.le_refl _
  | cons i is ih =>
    obtain ⟨s', hs', hrest⟩ := exec_cons_eq_some.mp hrun
    have hopen := h.open_of_step hs hs' hrest ht
    have hle := ih hopen hrest
    rcases h.counts s i s' hs hs' hopen with ⟨hsame, -⟩ | ⟨hmore, -⟩ <;> omega

/-- One stamp, one value. -/
theorem value_eq (h : Stamped step Open Shut stamp value) {s t : σ} {is : List ι} (hs : Open s)
    (hrun : exec step s is = some t) (ht : Open t) (hstamp : stamp s = stamp t) :
    value t = value s := by
  induction is generalizing s with
  | nil =>
    cases hrun
    rfl
  | cons i is ih =>
    obtain ⟨s', hs', hrest⟩ := exec_cons_eq_some.mp hrun
    have hopen := h.open_of_step hs hs' hrest ht
    have hle := h.le hopen hrest ht
    rcases h.counts s i s' hs hs' hopen with ⟨hsame, hvalue⟩ | ⟨hmore, -⟩
    · exact (ih hopen hrest (hsame.trans hstamp)).trans hvalue
    · omega

/-- The stamp is the same exactly if the value has never changed. -/
theorem stamp_eq_iff (h : Stamped step Open Shut stamp value) {s t : σ} {is : List ι} (hs : Open s)
    (hrun : exec step s is = some t) (ht : Open t) :
    stamp s = stamp t ↔ ∀ before after u, is = before ++ after → exec step s before = some u →
      value u = value s := by
  constructor
  · rintro hstamp before after u rfl hbefore
    obtain ⟨u', hu', hafter⟩ := exec_append_eq_some.mp hrun
    cases hbefore.symm.trans hu'
    -- Once shut, a machine never opens again; it is open at the end, so it was open throughout.
    have hkeeps : ∀ u i u', Open u ∨ Shut u → step u i = some u' → Open u' ∨ Shut u' := by
      rintro u i u' (hopen | hshut) hstep
      · exact h.opens u i u' hopen hstep
      · exact .inr (h.stays u i u' hshut hstep)
    have hopen : Open u := (exec_invariant hkeeps (.inl hs) hbefore).resolve_right fun hshut =>
      h.exclusive t (exec_invariant h.stays hshut hafter) ht
    have hle := h.le hs hbefore hopen
    have hle' := h.le hopen hafter ht
    exact h.value_eq hs hbefore hopen (by omega)
  · intro hvalue
    induction is generalizing s with
    | nil =>
      cases hrun
      rfl
    | cons i is ih =>
      obtain ⟨s', hs', hrest⟩ := exec_cons_eq_some.mp hrun
      have hopen := h.open_of_step hs hs' hrest ht
      have hfirst : value s' = value s :=
        hvalue [i] is s' rfl (by rw [exec_cons, hs', Option.bind_some, exec_nil])
      -- The first step kept both or changed both, and the value has not changed.
      rcases h.counts s i s' hs hs' hopen with ⟨hsame, -⟩ | ⟨-, hchange⟩
      · refine hsame.symm.trans (ih hopen hrest fun before after u hsplit hbefore => ?_)
        refine (hvalue (i :: before) after u (by rw [hsplit]; rfl) ?_).trans hfirst.symm
        rw [exec_cons, hs', Option.bind_some, hbefore]
      · exact absurd hfirst hchange

end Stamped

end Machine
