import Threadwire.Routing.SchedulerSerial

/-!
# What holds when a callback starts

An operation starts under the lease it captured, while that lease is the runtime's current one, and
only if its signal has not aborted. The laws are about the log alone: who was scheduled under which
lease and signal, which signals aborted, and which lease was current.
-/

namespace Threadwire

namespace SchedulerSystem

variable {α : Type}

/-- The lease that is current at the end of a log. -/
def currentLease (log : List (SchedulerEvent α)) : Option RuntimeLease :=
  log.foldl (fun current event =>
    match event with
    | .runtimeChanged next => next
    | _ => current) none

@[simp] theorem currentLease_append (log events : List (SchedulerEvent α))
    (h : ∀ next, SchedulerEvent.runtimeChanged next ∉ events) :
    currentLease (log ++ events) = currentLease log := by
  unfold currentLease
  rw [List.foldl_append]
  generalize List.foldl _ none log = current
  induction events with
  | nil => rfl
  | cons event events ih =>
    rw [List.foldl_cons]
    have hrest := ih fun next hmem => h next (List.mem_cons_of_mem _ hmem)
    cases event with
    | runtimeChanged next => exact absurd List.mem_cons_self (h next)
    | _ => exact hrest

@[simp] theorem currentLease_changed (log : List (SchedulerEvent α)) (next : Option RuntimeLease) :
    currentLease (log ++ [.runtimeChanged next]) = next := by
  simp [currentLease]

/-- When a callback may start: its operation was scheduled under the lease that is current now, with
a signal that has not aborted. -/
def AdmitLaw (past : List (SchedulerEvent α)) : SchedulerEvent α → Prop
  | .started id lease => currentLease past = some lease ∧
    ∃ signal, .scheduled id signal lease ∈ past ∧ ∀ sig ∈ signal, .aborted sig ∉ past
  | _ => True

/-- The entries, the runtime and the signals, against the log. -/
structure Captured (s : SchedulerSystem α) : Prop where
  queued : ∀ id ∈ s.queue, id < s.scheduled
  entry_logged : ∀ id < s.scheduled,
    .scheduled id (s.entries id).signal (s.entries id).lease ∈ s.log
  log_entry : ∀ id signal lease, .scheduled id signal lease ∈ s.log →
    id < s.scheduled ∧ signal = (s.entries id).signal ∧ lease = (s.entries id).lease
  aborted_logged : ∀ sig, .aborted sig ∈ s.log → s.aborted sig ≠ none
  current : currentLease s.log = s.runtime.current
  law : Trace.Lawful AdmitLaw s.log

theorem captured_initial : Captured ({} : SchedulerSystem α) :=
  ⟨by simp, by simp, by simp, by simp, rfl, Trace.lawful_nil⟩

variable {s t : SchedulerSystem α}

theorem Captured.enqueue (h : Captured s) (kind : MutationOperationKind)
    (signal : Option SignalId) (lease : RuntimeLease) (latch : Option RuntimeLease) :
    Captured (s.enqueue kind signal lease latch) := by
  obtain ⟨hqueued, hentry, hlog, haborted, hcurrent, hlaw⟩ := h
  refine ⟨?_, ?_, ?_, ?_, ?_, hlaw.snoc_of_free fun _ => trivial⟩ <;>
    simp only [SchedulerSystem.enqueue]
  · intro id hid
    rcases List.mem_append.mp hid with hid | hid
    · exact Nat.lt_succ_of_lt (hqueued id hid)
    · rw [List.mem_singleton.mp hid]
      exact Nat.lt_succ_self _
  · intro id hid
    rcases Nat.lt_succ_iff_lt_or_eq.mp hid with hlt | rfl
    · rw [Function.update_of_ne (by omega)]
      exact List.mem_append_left _ (hentry id hlt)
    · simp
  · intro id signal' lease' hmem
    rcases List.mem_append.mp hmem with hmem | hmem
    · obtain ⟨hlt, hrest⟩ := hlog id signal' lease' hmem
      rw [Function.update_of_ne (by omega)]
      exact ⟨by omega, hrest⟩
    · simp only [List.mem_singleton, SchedulerEvent.scheduled.injEq] at hmem
      obtain ⟨rfl, rfl, rfl⟩ := hmem
      simp
  · simpa using haborted
  · rw [currentLease_append _ _ (by simp)]
    exact hcurrent

theorem Captured.abort (h : Captured s) (signal : SignalId) (reason : Option ThrownError) :
    Captured (s.abort signal reason) := by
  obtain ⟨hqueued, hentry, hlog, haborted, hcurrent, hlaw⟩ := h
  have hsignal : ∀ id, (if id ∈ s.abortable signal then { s.entries id with settled := true }
      else s.entries id).signal = (s.entries id).signal := fun id => by split <;> rfl
  have hlease : ∀ id, (if id ∈ s.abortable signal then { s.entries id with settled := true }
      else s.entries id).lease = (s.entries id).lease := fun id => by split <;> rfl
  refine ⟨hqueued, ?_, ?_, ?_, ?_, ?_⟩ <;> simp only [SchedulerSystem.abort, hsignal, hlease]
  · exact fun id hid => List.mem_append_left _ (hentry id hid)
  · intro id signal' lease' hmem
    simp only [List.mem_append, List.mem_cons, reduceCtorEq, List.mem_map, and_false, exists_false,
      or_false] at hmem
    exact hlog id signal' lease' hmem
  · intro sig hmem
    by_cases hsig : sig = signal
    · simp [hsig]
    · rw [Function.update_of_ne hsig]
      refine haborted sig ?_
      simpa [hsig] using hmem
  · rw [currentLease_append _ _ (by simp)]
    exact hcurrent
  · refine hlaw.append_of_free fun e he past => ?_
    rcases List.mem_cons.mp he with rfl | he
    · trivial
    · obtain ⟨id, -, rfl⟩ := List.mem_map.mp he
      trivial

/-- An entry is updated in its flags only, and a settlement is logged. -/
theorem Captured.settled (h : Captured s) (id : ℕ) (outcome : Except ThrownError α)
    (started settled : Bool) (queue : List ℕ) (hqueue : ∀ j ∈ queue, j ∈ s.queue)
    (drains : List DrainFrame) :
    Captured { s with
      queue := queue
      entries := Function.update s.entries id
        { s.entries id with started := started, settled := settled }
      log := s.log ++ [.settled id outcome]
      drains := drains } := by
  obtain ⟨hqueued, hentry, hlog, haborted, hcurrent, hlaw⟩ := h
  have hsignal : ∀ j, (Function.update s.entries id
      { s.entries id with started := started, settled := settled } j).signal =
        (s.entries j).signal := fun j => by
    by_cases hj : j = id <;> simp [hj]
  have hlease : ∀ j, (Function.update s.entries id
      { s.entries id with started := started, settled := settled } j).lease =
        (s.entries j).lease := fun j => by
    by_cases hj : j = id <;> simp [hj]
  refine ⟨fun j hj => hqueued j (hqueue j hj), ?_, ?_, ?_, ?_,
    hlaw.snoc_of_free fun _ => trivial⟩ <;> simp only [hsignal, hlease]
  · exact fun j hj => List.mem_append_left _ (hentry j hj)
  · simpa using hlog
  · simpa using haborted
  · rw [currentLease_append _ _ (by simp)]
    exact hcurrent

theorem Captured.drained (h : Captured s) (hdrained : Drained s t) : Captured t := by
  cases hdrained with
  | idle => exact { h with queued := by simp }
  | rejected skipped rest id e hqueue _ _ _ =>
    exact h.settled id _ true true rest (fun j hj => by simp [hqueue, hj]) _
  | started skipped rest id latch hqueue hskipped hopen hadmitted =>
    obtain ⟨hsig, hlive, -, -⟩ := admitStart_eq_ok hadmitted
    have hid := h.queued id (by simp [hqueue])
    obtain ⟨hqueued, hentry, hlog, haborted, hcurrent, hlaw⟩ := h
    have hsignal : ∀ j, (Function.update s.entries id
        { s.entries id with started := true } j).signal = (s.entries j).signal := fun j => by
      by_cases hj : j = id <;> simp [hj]
    have hlease : ∀ j, (Function.update s.entries id
        { s.entries id with started := true } j).lease = (s.entries j).lease := fun j => by
      by_cases hj : j = id <;> simp [hj]
    refine ⟨fun j hj => hqueued j (by simp [hqueue, hj]), ?_, ?_, ?_, ?_, ?_⟩
    · simp only [hsignal, hlease]
      exact fun j hj => List.mem_append_left _ (hentry j hj)
    · simpa [hsignal, hlease] using hlog
    · simpa using haborted
    · rw [currentLease_append _ _ (by simp)]
      exact hcurrent
    · refine Trace.lawful_snoc.mpr ⟨hlaw, hcurrent.trans hlive, _, hentry id hid, ?_⟩
      exact fun sig hmem hlogged => haborted sig hlogged (hsig sig hmem)

/-- The step lemma. -/
theorem Captured.step (h : Captured s) {input : SchedulerInput α}
    (hstep : s.step input = some t) : Captured t := by
  cases input with
  | schedule kind signal =>
    simp only [SchedulerSystem.step] at hstep
    split at hstep <;> cases hstep
    · -- A refused call is logged without an entry.
      obtain ⟨hqueued, hentry, hlog, haborted, hcurrent, hlaw⟩ := h
      refine ⟨hqueued, fun id hid => List.mem_append_left _ (hentry id hid), by simpa using hlog,
        by simpa using haborted, ?_, hlaw.snoc_of_free fun _ => trivial⟩
      rw [currentLease_append _ _ (by simp)]
      exact hcurrent
    · rename_i lease latch _
      have henqueued := h.enqueue kind signal lease latch
      rw [drain]
      -- The loop starts here, unless one runs already.
      split
      · exact henqueued
      · have hcaptured : Captured { s.enqueue kind signal lease latch with running := true } :=
          { henqueued with }
        exact hcaptured.drained (drained_drainLoop _)
  | abort signal reason =>
    simp only [SchedulerSystem.step] at hstep
    split at hstep <;> cases hstep
    · exact h
    · exact h.abort signal reason
  | complete frame outcome =>
    simp only [SchedulerSystem.step] at hstep
    split at hstep <;> cases hstep
    exact h.settled _ outcome _ true _ (fun _ hj => hj) _
  | resume frame =>
    simp only [SchedulerSystem.step] at hstep
    split at hstep <;> cases hstep
    have hcaptured : Captured { s with drains := s.drains.eraseIdx frame } := { h with }
    exact hcaptured.drained (drained_drainLoop _)
  | changeRuntime next =>
    simp only [SchedulerSystem.step] at hstep
    split at hstep <;> cases hstep
    obtain ⟨hqueued, hentry, hlog, haborted, hcurrent, hlaw⟩ := h
    refine ⟨hqueued, fun id hid => List.mem_append_left _ (hentry id hid), by simpa using hlog,
      by simpa using haborted, ?_, hlaw.snoc_of_free fun _ => trivial⟩
    -- The current lease of the log is the one that was just set.
    rw [currentLease_changed]
    cases next <;> rfl
  | markRuntimeMutationStateUncertain lease =>
    cases hstep
    obtain ⟨hqueued, hentry, hlog, haborted, hcurrent, hlaw⟩ := h
    refine ⟨hqueued, fun id hid => List.mem_append_left _ (hentry id hid), by simpa using hlog,
      by simpa using haborted, ?_, hlaw.snoc_of_free fun _ => trivial⟩
    rw [currentLease_append _ _ (by simp)]
    exact hcurrent

/-- The run lemma. -/
theorem captured_run {inputs : List (SchedulerInput α)} (hs : Captured s)
    (hrun : Machine.exec step s inputs = some t) : Captured t :=
  Machine.exec_invariant (fun _ _ _ h hstep => Captured.step h hstep) hs hrun

/-- An operation is scheduled once, so a log names its signal and its lease once. -/
theorem Captured.scheduled_unique (h : Captured s) {id : ℕ} {signal signal' : Option SignalId}
    {lease lease' : RuntimeLease} (hmem : .scheduled id signal lease ∈ s.log)
    (hmem' : .scheduled id signal' lease' ∈ s.log) : signal = signal' ∧ lease = lease' := by
  obtain ⟨-, hsignal, hlease⟩ := h.log_entry _ _ _ hmem
  obtain ⟨-, hsignal', hlease'⟩ := h.log_entry _ _ _ hmem'
  exact ⟨hsignal.trans hsignal'.symm, hlease.trans hlease'.symm⟩

/-- An operation whose signal has aborted does not start any more. -/
theorem Captured.not_started_after_abort (h : Captured s)
    {past future : List (SchedulerEvent α)} {sig : SignalId} {id : ℕ}
    {lease lease' : RuntimeLease} (hsplit : s.log = past ++ .aborted sig :: future)
    (hscheduled : .scheduled id (some sig) lease ∈ s.log) :
    .started id lease' ∉ future := by
  intro hmem
  obtain ⟨init, rest, rfl⟩ := List.append_of_mem hmem
  have hsplit' : s.log = (past ++ .aborted sig :: init) ++ .started id lease' :: rest := by
    rw [hsplit, List.append_assoc, List.cons_append]
  obtain ⟨-, signal, hpast, hlive⟩ := h.law _ _ _ hsplit'
  have hlogged : .scheduled id signal lease' ∈ s.log := by
    rw [hsplit']
    exact List.mem_append_left _ hpast
  obtain ⟨rfl, -⟩ := h.scheduled_unique hscheduled hlogged
  exact hlive sig rfl (List.mem_append_right _ List.mem_cons_self)

end SchedulerSystem

end Threadwire
