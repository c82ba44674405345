import Threadwire.Routing.SchedulerAdmission

/-!
# The uncertainty fence

A lease that was marked uncertain is held by one slot, `uncertainLease`, and the admission checks
of any other lease clear it. The slot keeps every marked lease out for as long as each mark finds it
free, or holding the same lease or a superseded one. A mark that overwrites a lease which can still
become current opens the fence.
-/

namespace Threadwire

namespace SchedulerSystem

variable {α : Type} {s t : SchedulerSystem α}

/-- No operation of a lease starts after the lease was marked. -/
def Fence (log : List (SchedulerEvent α)) : Prop :=
  ∀ past lease future, log = past ++ .markedUncertain lease :: future →
    ∀ id, .started id lease ∉ future

/-- A mark that the slot can keep: of a lease the runtime has issued, while the slot is free, holds
the same lease, or holds one that was superseded. -/
def MarkKept (s : SchedulerSystem α) : SchedulerInput α → Prop
  | .markRuntimeMutationStateUncertain lease => s.runtime.Issued lease ∧
    ∀ latched ∈ s.uncertainLease, latched = lease ∨ s.runtime.Superseded latched
  | _ => True

instance (s : SchedulerSystem α) : (input : SchedulerInput α) → Decidable (s.MarkKept input)
  | .markRuntimeMutationStateUncertain _ => inferInstanceAs (Decidable (_ ∧ _))
  | .schedule _ _ | .abort _ _ | .complete _ _ | .resume _ | .changeRuntime _ => .isTrue trivial

/-- When a callback may start: its lease has not been marked. -/
def FenceLaw (past : List (SchedulerEvent α)) : SchedulerEvent α → Prop
  | .started _ lease => .markedUncertain lease ∉ past
  | _ => True

theorem fence_of_lawful {log : List (SchedulerEvent α)} (h : Trace.Lawful FenceLaw log) :
    Fence log := by
  intro past lease future hsplit id
  exact h.not_after hsplit fun before hmem hlaw => hlaw hmem

/-- Every marked lease is superseded or in the slot. -/
structure Fenced (s : SchedulerSystem α) : Prop where
  runtime : s.runtime.WellFormed
  latched : ∀ lease ∈ s.uncertainLease, s.runtime.Issued lease
  marked : ∀ lease, .markedUncertain lease ∈ s.log →
    s.runtime.Superseded lease ∨ s.uncertainLease = some lease
  law : Trace.Lawful FenceLaw s.log

theorem fenced_initial : Fenced ({} : SchedulerSystem α) :=
  ⟨LeaseHistory.wellFormed_empty, by simp, by simp, Trace.lawful_nil⟩

/-- An event that marks and starts nothing. -/
theorem Fenced.logged (h : Fenced s) {t : SchedulerSystem α} (hruntime : t.runtime = s.runtime)
    (hlatch : t.uncertainLease = s.uncertainLease) {events : List (SchedulerEvent α)}
    (hlog : t.log = s.log ++ events)
    (hevents : ∀ e ∈ events,
      (∀ lease, e ≠ .markedUncertain lease) ∧ ∀ id lease, e ≠ .started id lease) :
    Fenced t := by
  refine ⟨hruntime ▸ h.runtime, by rw [hlatch, hruntime]; exact h.latched, ?_, ?_⟩
  · intro lease hmem
    rw [hlog, List.mem_append] at hmem
    rw [hlatch, hruntime]
    exact h.marked lease (hmem.resolve_right fun he => (hevents _ he).1 lease rfl)
  · rw [hlog]
    refine h.law.append_of_free fun e he past => ?_
    cases e with
    | started id lease => exact absurd rfl ((hevents _ he).2 id lease)
    | _ => trivial

/-- Where the admission checks of the current lease pass, every marked lease is superseded; so they
may clear the slot. -/
theorem Fenced.superseded_of_admitted (h : Fenced s) {lease : RuntimeLease}
    (hcurrent : s.runtime.current = some lease) (hunlatched : s.uncertainLease ≠ some lease)
    {marked : RuntimeLease} (hmarked : .markedUncertain marked ∈ s.log) :
    s.runtime.Superseded marked := by
  rcases h.marked marked hmarked with hsuperseded | hlatch
  · exact hsuperseded
  · have hne : marked ≠ lease := fun heq => hunlatched (heq ▸ hlatch)
    exact h.runtime.superseded_of_ne (h.latched marked hlatch) hcurrent hne

theorem Fenced.enqueue (h : Fenced s) (kind : MutationOperationKind) (signal : Option SignalId)
    {lease : RuntimeLease} {latch : Option RuntimeLease}
    (hadmitted : s.admitSchedule signal = .ok (lease, latch)) :
    Fenced (s.enqueue kind signal lease latch) := by
  obtain ⟨hcurrent, hunlatched, rfl⟩ := admitSchedule_eq_ok hadmitted
  refine ⟨h.runtime, by simp [SchedulerSystem.enqueue], ?_, h.law.snoc_of_free fun _ => trivial⟩
  intro marked hmem
  have hmarked : .markedUncertain marked ∈ s.log := by simpa [SchedulerSystem.enqueue] using hmem
  exact .inl (h.superseded_of_admitted hcurrent hunlatched hmarked)

theorem Fenced.drained (h : Fenced s) (hdrained : Drained s t) : Fenced t := by
  cases hdrained with
  | idle => exact { h with }
  | rejected skipped rest id e hqueue hskipped hopen hadmitted =>
    exact h.logged rfl rfl rfl (by simp)
  | started skipped rest id latch hqueue hskipped hopen hadmitted =>
    obtain ⟨-, hcurrent, hunlatched, rfl⟩ := admitStart_eq_ok hadmitted
    refine ⟨h.runtime, by simp, ?_, Trace.lawful_snoc.mpr ⟨h.law, ?_⟩⟩
    · intro marked hmem
      have hmarked : .markedUncertain marked ∈ s.log := by simpa using hmem
      exact .inl (h.superseded_of_admitted hcurrent hunlatched hmarked)
    · intro hmarked
      have hsuperseded := h.superseded_of_admitted hcurrent hunlatched hmarked
      exact h.runtime.not_current hsuperseded hcurrent

theorem Fenced.changeRuntime (h : Fenced s) {next : Option RuntimeLease}
    (hnext : s.runtime.Admits next) :
    Fenced { s with runtime := s.runtime.change next, log := s.log ++ [.runtimeChanged next] } := by
  refine ⟨h.runtime.change hnext, fun lease hlease => (h.latched lease hlease).change next, ?_,
    h.law.snoc_of_free fun _ => trivial⟩
  intro lease hmem
  have hmarked : .markedUncertain lease ∈ s.log := by simpa using hmem
  exact (h.marked lease hmarked).imp_left fun hsuperseded => hsuperseded.change next

theorem Fenced.mark (h : Fenced s) {lease : RuntimeLease}
    (hkept : s.MarkKept (.markRuntimeMutationStateUncertain lease)) :
    Fenced { s with
      uncertainLease := some lease, log := s.log ++ [.markedUncertain lease] } := by
  obtain ⟨hissued, hslot⟩ := hkept
  refine ⟨h.runtime, ?_, ?_, h.law.snoc_of_free fun _ => trivial⟩
  · rintro latched hlatched
    cases hlatched
    exact hissued
  · intro marked hmem
    rcases List.mem_append.mp hmem with hmem | hmem
    · rcases h.marked marked hmem with hsuperseded | hlatch
      · exact .inl hsuperseded
      · rcases hslot marked hlatch with rfl | hsuperseded
        · exact .inr rfl
        · exact .inl hsuperseded
    · simp only [List.mem_singleton, SchedulerEvent.markedUncertain.injEq] at hmem
      exact .inr (congrArg some hmem.symm)

/-- The step lemma: an input that the slot can keep leaves every marked lease fenced. -/
theorem Fenced.step (h : Fenced s) {input : SchedulerInput α} (hkept : s.MarkKept input)
    (hstep : s.step input = some t) : Fenced t := by
  cases input with
  | schedule kind signal =>
    simp only [SchedulerSystem.step] at hstep
    split at hstep <;> cases hstep
    · -- A refused call changes only the log.
      exact h.logged rfl rfl rfl (by simp)
    · rename_i lease latch hadmitted
      have henqueued := h.enqueue kind signal hadmitted
      rw [drain]
      split
      · exact henqueued
      · -- The loop that starts here admits only against the fence.
        have hfenced : Fenced { s.enqueue kind signal lease latch with running := true } :=
          { henqueued with }
        exact hfenced.drained (drained_drainLoop _)
  | abort signal reason =>
    simp only [SchedulerSystem.step] at hstep
    split at hstep <;> cases hstep
    · exact h
    · exact h.logged rfl rfl rfl (by simp)
  | complete frame outcome =>
    simp only [SchedulerSystem.step] at hstep
    split at hstep <;> cases hstep
    exact h.logged rfl rfl rfl (by simp)
  | resume frame =>
    simp only [SchedulerSystem.step] at hstep
    split at hstep <;> cases hstep
    have hfenced : Fenced { s with drains := s.drains.eraseIdx frame } := { h with }
    exact hfenced.drained (drained_drainLoop _)
  | changeRuntime next =>
    simp only [SchedulerSystem.step] at hstep
    split at hstep <;> cases hstep
    -- A change to another runtime keeps the slot.
    rename_i hnext
    exact h.changeRuntime hnext
  | markRuntimeMutationStateUncertain lease =>
    cases hstep
    exact h.mark hkept

/-! ## When an operation starts -/

/-- What holds before a step in which an operation starts: no callback is awaited, and the lease is
current and not in the slot. -/
structure Startable (s : SchedulerSystem α) (lease : RuntimeLease) : Prop where
  idle : ∀ id, .awaiting id ∉ s.drains
  current : s.runtime.current = some lease
  unlatched : s.uncertainLease ≠ some lease

theorem Drained.startable (h : Drained s t) (hidle : ∀ id, .awaiting id ∉ s.drains) {id : ℕ}
    {lease : RuntimeLease} (hstarted : .started id lease ∈ t.log)
    (hnew : .started id lease ∉ s.log) : s.Startable lease := by
  cases h with
  | idle => exact absurd hstarted hnew
  | rejected =>
    exact absurd (List.mem_append.mp hstarted) (not_or.mpr ⟨hnew, by simp⟩)
  | started skipped rest id' latch hqueue hskipped hopen hadmitted =>
    obtain ⟨-, hcurrent, hunlatched, -⟩ := admitStart_eq_ok hadmitted
    rcases List.mem_append.mp hstarted with hmem | hmem
    · exact absurd hmem hnew
    · cases List.mem_singleton.mp hmem
      exact ⟨hidle, hcurrent, hunlatched⟩

/-- A start is the work of a drain, and while that looks for an entry no other is suspended. -/
theorem Single.startable (h : Single s) {input : SchedulerInput α} (hstep : s.step input = some t)
    {id : ℕ} {lease : RuntimeLease} (hstarted : .started id lease ∈ t.log)
    (hnew : .started id lease ∉ s.log) : s.Startable lease := by
  have hlogged : ∀ {event : SchedulerEvent α}, .started id lease ∈ s.log ++ [event] →
      event = .started id lease := fun hmem =>
    ((List.mem_append.mp hmem).resolve_left hnew |> List.mem_singleton.mp).symm
  cases input with
  | schedule kind signal =>
    simp only [SchedulerSystem.step] at hstep
    split at hstep <;> cases hstep
    · cases hlogged hstarted
    · rename_i current latch hadmitted
      have hquiet : .started id lease ∉ (s.enqueue kind signal current latch).log := fun hmem => by
        cases hlogged hmem
      rw [drain] at hstarted
      split at hstarted
      · exact absurd hstarted hquiet
      rename_i hrunning
      have hdrains : s.drains = [] :=
        (h.resolve_right fun hrun => hrunning hrun.1).2.1
      obtain ⟨hidle, hcurrent, -⟩ := (drained_drainLoop
        { s.enqueue kind signal current latch with running := true }).startable
          (fun _ => by simp [SchedulerSystem.enqueue, hdrains]) hstarted hquiet
      -- the checks of `schedule` have looked at the same lease, before they cleared the slot
      obtain ⟨hscheduled, hunlatched, -⟩ := admitSchedule_eq_ok hadmitted
      cases Option.some.inj (hscheduled.symm.trans hcurrent)
      exact ⟨hidle, hcurrent, hunlatched⟩
  | abort signal reason =>
    simp only [SchedulerSystem.step] at hstep
    split at hstep <;> cases hstep
    · exact absurd hstarted hnew
    · simp [SchedulerSystem.abort, hnew] at hstarted
  | complete frame outcome =>
    simp only [SchedulerSystem.step] at hstep
    split at hstep <;> cases hstep
    cases hlogged hstarted
  | resume frame =>
    simp only [SchedulerSystem.step] at hstep
    split at hstep <;> cases hstep
    rename_i hframe
    rcases h with ⟨-, hdrains, -⟩ | ⟨-, hlength⟩
    · simp [hdrains] at hframe
    obtain ⟨drain, hdrains⟩ := List.length_eq_one_iff.mp hlength
    have hresuming : s.drains = [.resuming] := by
      rw [hdrains] at hframe ⊢
      cases frame <;> simp_all
    obtain ⟨-, hcurrent, hunlatched⟩ := (drained_drainLoop
      { s with drains := s.drains.eraseIdx frame }).startable
        (fun _ hmem => by simpa [hresuming] using List.mem_of_mem_eraseIdx hmem) hstarted hnew
    exact ⟨fun _ => by simp [hresuming], hcurrent, hunlatched⟩
  | changeRuntime next =>
    simp only [SchedulerSystem.step] at hstep
    split at hstep <;> cases hstep
    cases hlogged hstarted
  | markRuntimeMutationStateUncertain marked =>
    cases hstep
    cases hlogged hstarted

theorem Drained.superseded (h : Drained s t) {lease : RuntimeLease}
    (hlease : s.runtime.Superseded lease) : t.runtime.Superseded lease := by
  cases h <;> exact hlease

/-- What was superseded before a step is superseded after it. -/
theorem superseded_step {input : SchedulerInput α} (hstep : s.step input = some t)
    {lease : RuntimeLease} (h : s.runtime.Superseded lease) : t.runtime.Superseded lease := by
  cases input with
  | schedule kind signal =>
    simp only [SchedulerSystem.step] at hstep
    split at hstep <;> cases hstep
    · exact h
    · rw [drain]
      split
      · exact h
      · exact (drained_drainLoop { s.enqueue kind signal _ _ with running := true }).superseded h
  | abort signal reason =>
    simp only [SchedulerSystem.step] at hstep
    split at hstep <;> cases hstep <;> exact h
  | complete frame outcome =>
    simp only [SchedulerSystem.step] at hstep
    split at hstep <;> cases hstep
    exact h
  | resume frame =>
    simp only [SchedulerSystem.step] at hstep
    split at hstep <;> cases hstep
    exact (drained_drainLoop { s with drains := s.drains.eraseIdx frame }).superseded h
  | changeRuntime next =>
    simp only [SchedulerSystem.step] at hstep
    split at hstep <;> cases hstep
    exact h.change next
  | markRuntimeMutationStateUncertain marked =>
    cases hstep
    exact h

/-- Every callback starts under the lease its operation was scheduled under, which is the runtime's
current lease at that moment. In a run whose marks the slot can keep, no operation of a lease starts
after the lease was marked. -/
theorem uncertainty_fence {inputs : List (SchedulerInput α)}
    (hrun : Machine.exec step {} inputs = some t) :
    (Machine.Along step MarkKept {} inputs → Fence t.log) ∧
    ∀ past id lease future, t.log = past ++ .started id lease :: future →
      (∃ signal, .scheduled id signal lease ∈ past) ∧ currentLease past = some lease := by
  refine ⟨fun hkept => ?_, fun past id lease future hsplit => ?_⟩
  · have hfenced : Fenced t :=
      Machine.exec_invariant_along (fun _ _ _ h hkept hstep => Fenced.step h hkept hstep)
        fenced_initial hkept hrun
    exact fence_of_lawful hfenced.law
  · obtain ⟨hcurrent, signal, hscheduled, -⟩ :=
      (captured_run captured_initial hrun).law _ _ _ hsplit
    exact ⟨⟨signal, hscheduled⟩, hcurrent⟩

/-- A turn runs under a first runtime, which is then replaced. The second runtime is marked by an
operation of its own, and its operations are refused. -/
def markAfterReplacement : List (SchedulerInput Unit) :=
  [.changeRuntime (some ⟨1, ⟨7, "a"⟩⟩), .schedule .turn none, .complete 0 (.ok ()), .resume 0,
    .changeRuntime (some ⟨2, ⟨8, "b"⟩⟩),
    .markRuntimeMutationStateUncertain ⟨2, ⟨8, "b"⟩⟩, .schedule .route none]

theorem uncertainty_fence_markAfterReplacement :
    ∃ t, Machine.exec step {} markAfterReplacement = some t ∧ Fence t.log ∧ t.scheduled = 1 := by
  have hrun : Machine.exec step {} markAfterReplacement = some _ := rfl
  refine ⟨_, hrun, (uncertainty_fence hrun).1 ?_, rfl⟩
  exact ⟨trivial, trivial, trivial, trivial, trivial, ⟨by decide, by decide⟩, trivial, trivial⟩

/-- The same, but before the next schedule call the completed turn of the first runtime is rolled
back, which marks its lease late. -/
def lateRollback : List (SchedulerInput Unit) :=
  [.changeRuntime (some ⟨1, ⟨7, "a"⟩⟩), .schedule .turn none, .complete 0 (.ok ()), .resume 0,
    .changeRuntime (some ⟨2, ⟨8, "b"⟩⟩),
    .markRuntimeMutationStateUncertain ⟨2, ⟨8, "b"⟩⟩,
    .markRuntimeMutationStateUncertain ⟨1, ⟨7, "a"⟩⟩, .schedule .route none]

/-- The late mark takes the slot, the schedule call clears it, and an operation of the marked second
runtime starts. -/
theorem lateRollback_opens_fence :
    ∃ t, Machine.exec step {} lateRollback = some t ∧ ¬ Fence t.log := by
  have hrun : Machine.exec step {} lateRollback = some _ := rfl
  refine ⟨_, hrun, fun hfence => ?_⟩
  exact hfence [_, _, _, _, _] ⟨2, ⟨8, "b"⟩⟩ [_, _, _] rfl 1 (.tail _ (.tail _ (.head _)))

end SchedulerSystem

end Threadwire
