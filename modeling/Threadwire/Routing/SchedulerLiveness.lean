import Threadwire.Routing.SchedulerAdmission

/-!
# No operation is stranded

`rank` counts the turns an operation has to wait for at most: completions of the callbacks before
it, and resumptions of the drain. A turn lowers the rank, nothing the callers do raises it, and a
turn is available as long as the promise of an operation is not settled. `forget` erases what
callbacks return or throw; the scheduler takes the same steps without it.
-/

namespace Threadwire

namespace SchedulerSystem

variable {α : Type} {s t : SchedulerSystem α}

/-- A turn of the scheduler: a callback settles, or a drain resumes. -/
def isTurn : SchedulerInput α → Bool
  | .complete _ _ | .resume _ => true
  | _ => false

/-- How many turns there are at most before the promise of the operation is settled. -/
def rank (s : SchedulerSystem α) (id : ℕ) : ℕ :=
  if (s.entries id).settled then 0
  else if .awaiting id ∈ s.drains then 1
  else 2 * s.queue.idxOf id + if .resuming ∈ s.drains then 2 else 3

theorem rank_eq_zero {id : ℕ} : s.rank id = 0 ↔ (s.entries id).settled = true := by
  unfold rank
  split_ifs <;> simp_all

/-- A drain that resumes takes one turn off every operation that is still unsettled. -/
theorem Serial.rank_drained (h : Serial s) (hdrains : s.drains = []) (hdrained : Drained s t)
    {id : ℕ} (hid : id < s.scheduled) :
    t.rank id ≤ if (s.entries id).settled then 0 else 2 * s.queue.idxOf id + 1 := by
  have hplace := h.passed id hid
  simp only [hdrains, List.not_mem_nil, or_false] at hplace
  cases hdrained with
  | idle hall =>
    have hsettled : (s.entries id).settled = true := hplace.elim (hall id) fun h => h
    simp [rank, hsettled]
  | rejected skipped rest next e hqueue hskipped hopen hadmitted =>
    by_cases hnext : id = next
    · simp [rank, hnext]
    by_cases hsettled : (s.entries id).settled = true
    · simp [rank, hsettled, hnext]
    · have hnot : id ∉ skipped := fun hmem => hsettled (hskipped id hmem)
      simp only [rank, Function.update_of_ne hnext, if_neg hsettled, hdrains, hqueue,
        List.idxOf_append_of_notMem hnot, List.idxOf_cons_ne rest (Ne.symm hnext)]
      simp
      omega
  | started skipped rest next latch hqueue hskipped hopen hadmitted =>
    by_cases hnext : id = next
    · subst hnext
      simp [rank, hopen]
    by_cases hsettled : (s.entries id).settled = true
    · simp [rank, hsettled, hnext]
    · have hnot : id ∉ skipped := fun hmem => hsettled (hskipped id hmem)
      simp only [rank, Function.update_of_ne hnext, if_neg hsettled, hdrains, hqueue,
        List.idxOf_append_of_notMem hnot, List.idxOf_cons_ne rest (Ne.symm hnext)]
      simp [hnext]
      omega

/-- The step lemma of the rank: a turn takes one off, and no other input adds to it. -/
theorem Serial.rank_step (h : Serial s) (hsingle : Single s) {input : SchedulerInput α}
    (hstep : s.step input = some t) {id : ℕ} (hid : id < s.scheduled) :
    id < t.scheduled ∧ t.rank id ≤ s.rank id - if isTurn input then 1 else 0 := by
  cases input with
  | schedule kind signal =>
    simp only [SchedulerSystem.step] at hstep
    split at hstep <;> cases hstep
    · exact ⟨hid, Nat.le_refl _⟩
    · rename_i lease latch _
      have hne : id ≠ s.scheduled := by omega
      rw [drain]
      -- An idle scheduler has settled everything, so the entry has nothing to wait for.
      rcases hsingle with ⟨hidle, hdrains, hqueue⟩ | ⟨hrunning, hdrains⟩
      · rw [if_neg (by simp [SchedulerSystem.enqueue, hidle])]
        have hserial : Serial { s.enqueue kind signal lease latch with running := true } :=
          { h.enqueue kind signal lease latch with }
        have hdrained := drained_drainLoop { s.enqueue kind signal lease latch with running := true }
        have hid' : id < (s.enqueue kind signal lease latch).scheduled := Nat.lt_succ_of_lt hid
        have hsettled : (s.entries id).settled = true := by
          have hplace := h.passed id hid
          simpa [hqueue, hdrains] using hplace
        have hrank := hserial.rank_drained hdrains hdrained hid'
        simp only [SchedulerSystem.enqueue, Function.update_of_ne hne, hsettled, if_true] at hrank
        refine ⟨?_, ?_⟩
        · exact Nat.lt_of_lt_of_eq hid' hdrained.scheduled.symm
        · simp only [isTurn]
          exact Nat.le_trans hrank (Nat.zero_le _)
      · rw [if_pos (by simp [SchedulerSystem.enqueue, hrunning])]
        refine ⟨Nat.lt_succ_of_lt hid, ?_⟩
        simp only [isTurn, rank, SchedulerSystem.enqueue, Function.update_of_ne hne]
        by_cases hsettled : (s.entries id).settled = true
        · simp [hsettled]
        by_cases hawait : .awaiting id ∈ s.drains
        · simp [hawait]
        · -- The new entry stands behind this one in the queue.
          have hqueue : id ∈ s.queue := by simpa [hsettled, hawait] using h.passed id hid
          rw [List.idxOf_append_of_mem hqueue]
          exact Nat.le_refl _
  | abort signal reason =>
    simp only [SchedulerSystem.step] at hstep
    split at hstep <;> cases hstep
    · exact ⟨hid, Nat.le_refl _⟩
    · refine ⟨hid, ?_⟩
      -- An abort settles the entry or leaves it in its place.
      by_cases hhit : id ∈ s.abortable signal
      · simp [rank, SchedulerSystem.abort, hhit]
      · simp [rank, SchedulerSystem.abort, hhit, isTurn]
  | complete frame outcome =>
    simp only [SchedulerSystem.step] at hstep
    split at hstep <;> cases hstep
    rename_i running hframe
    refine ⟨hid, ?_⟩
    -- The one drain completes; what it awaited has settled.
    rcases hsingle with ⟨-, hdrains, -⟩ | ⟨-, hlength⟩
    · simp [hdrains] at hframe
    · obtain ⟨d, hd⟩ := List.length_eq_one_iff.mp hlength
      obtain ⟨rfl, rfl⟩ : frame = 0 ∧ d = .awaiting running := by
        rw [hd] at hframe
        cases frame <;> simp_all
      by_cases hsame : id = running
      · simp [rank, settle, hsame]
      · by_cases hsettled : (s.entries id).settled = true
        · simp [rank, settle, hsame, hsettled]
        · simp [rank, settle, hsame, hsettled, hd, isTurn]
  | resume frame =>
    simp only [SchedulerSystem.step] at hstep
    split at hstep <;> cases hstep
    rename_i hframe
    -- The one drain goes on: its turn is taken off by the drain itself.
    rcases hsingle with ⟨-, hdrains, -⟩ | ⟨-, hlength⟩
    · simp [hdrains] at hframe
    · obtain ⟨d, hd⟩ := List.length_eq_one_iff.mp hlength
      obtain ⟨rfl, rfl⟩ : frame = 0 ∧ d = .resuming := by
        rw [hd] at hframe
        cases frame <;> simp_all
      rw [hd]
      have hserial := h.resumed hd
      have hdrained := drained_drainLoop { s with drains := [] }
      have hrank := hserial.rank_drained rfl hdrained hid
      refine ⟨Nat.lt_of_lt_of_eq hid hdrained.scheduled.symm, Nat.le_trans hrank ?_⟩
      by_cases hsettled : (s.entries id).settled = true
      · simp [hsettled]
      · simp [rank, hsettled, hd, isTurn]
  | changeRuntime next =>
    simp only [SchedulerSystem.step] at hstep
    split at hstep <;> cases hstep
    exact ⟨hid, Nat.le_refl _⟩
  | markRuntimeMutationStateUncertain lease =>
    cases hstep
    exact ⟨hid, Nat.le_refl _⟩

/-- The run lemma: once there were as many turns as its rank, the promise is settled. -/
theorem rank_run {inputs : List (SchedulerInput α)} (h : Serial s ∧ Single s)
    (hrun : Machine.exec step s inputs = some t) {id : ℕ} (hid : id < s.scheduled) :
    t.rank id ≤ s.rank id - (inputs.filter isTurn).length := by
  induction inputs generalizing s with
  | nil =>
    cases hrun
    exact Nat.le_refl _
  | cons input inputs ih =>
    obtain ⟨s', hs', hrest⟩ := Machine.exec_cons_eq_some.mp hrun
    obtain ⟨hid', hrank⟩ := h.1.rank_step h.2 hs' hid
    have hrest' := ih (h.1.step h.2 hs') hrest hid'
    rw [List.filter_cons]
    split at hrank
    · rename_i hturn
      rw [if_pos hturn, List.length_cons]
      omega
    · rename_i hturn
      rw [if_neg hturn]
      omega

theorem scheduled_run {inputs : List (SchedulerInput α)} (h : Serial s ∧ Single s)
    (hrun : Machine.exec step s inputs = some t) {id : ℕ} (hid : id < s.scheduled) :
    id < t.scheduled := by
  induction inputs generalizing s with
  | nil =>
    cases hrun
    exact hid
  | cons input inputs ih =>
    obtain ⟨s', hs', hrest⟩ := Machine.exec_cons_eq_some.mp hrun
    exact ih (h.1.step h.2 hs') hrest (h.1.rank_step h.2 hs' hid).1

/-- While a promise is not settled, a turn is available: the drain resumes, or the callback it
awaits settles, in whatever way. -/
theorem Serial.turn_available (h : Serial s) (hsingle : Single s) {id : ℕ}
    (hid : id < s.scheduled) (hopen : (s.entries id).settled = false) :
    (∃ t, s.step (.resume 0) = some t) ∨
      ∃ running, s.drains = [.awaiting running] ∧
        ∀ outcome, ∃ t, s.step (.complete 0 outcome) = some t := by
  rcases hsingle with ⟨-, hdrains, hqueue⟩ | ⟨-, hlength⟩
  · have hplace := h.passed id hid
    simp [hdrains, hqueue, hopen] at hplace
  · obtain ⟨d, hd⟩ := List.length_eq_one_iff.mp hlength
    cases d with
    | resuming => exact .inl ⟨_, by simp [SchedulerSystem.step, hd]; rfl⟩
    | awaiting running =>
      exact .inr ⟨running, hd, fun outcome => ⟨_, by simp [SchedulerSystem.step, hd]; rfl⟩⟩

/-! ## Outcomes do not matter -/

/-- Erase what a callback returned or threw. -/
def forgetInput : SchedulerInput α → SchedulerInput Unit
  | .schedule kind signal => .schedule kind signal
  | .abort signal reason => .abort signal reason
  | .complete frame _ => .complete frame (.ok ())
  | .resume frame => .resume frame
  | .changeRuntime next => .changeRuntime next
  | .markRuntimeMutationStateUncertain lease => .markRuntimeMutationStateUncertain lease

/-- Erase the outcome of a settlement. -/
def forgetEvent : SchedulerEvent α → SchedulerEvent Unit
  | .refused error => .refused error
  | .scheduled id signal lease => .scheduled id signal lease
  | .started id lease => .started id lease
  | .settled id _ => .settled id (.ok ())
  | .aborted signal => .aborted signal
  | .runtimeChanged next => .runtimeChanged next
  | .markedUncertain lease => .markedUncertain lease

/-- Erase the outcomes in the log. -/
def forget (s : SchedulerSystem α) : SchedulerSystem Unit where
  toOperationScheduler := s.toOperationScheduler
  entries := s.entries
  scheduled := s.scheduled
  drains := s.drains
  runtime := s.runtime
  aborted := s.aborted
  log := s.log.map forgetEvent

theorem startedIds_forget (log : List (SchedulerEvent α)) :
    startedIds (log.map forgetEvent) = startedIds log := by
  induction log with
  | nil => rfl
  | cons event log ih =>
    rw [List.map_cons, startedIds_cons, startedIds_cons, ih]
    cases event <;> rfl

/-- Systems that differ in outcomes only are one system with two logs. -/
theorem eq_of_forget_eq {s' : SchedulerSystem α} (h : s.forget = s'.forget) :
    ∃ log, s' = { s with log := log } ∧ log.map forgetEvent = s.log.map forgetEvent := by
  refine ⟨s'.log, ?_, (congrArg SchedulerSystem.log h).symm⟩
  cases s
  cases s'
  simp only [forget, SchedulerSystem.mk.injEq] at h ⊢
  simp [h]

/-- Inputs that differ in outcomes only are equal, or completions of the same frame. -/
theorem eq_of_forgetInput_eq {input input' : SchedulerInput α}
    (h : forgetInput input = forgetInput input') :
    input' = input ∨ ∃ frame outcome outcome',
      input = .complete frame outcome ∧ input' = .complete frame outcome' := by
  cases input <;> cases input' <;> simp_all [forgetInput]

theorem forget_suspend {p p' : SchedulerSystem α × DrainFrame} (h : p.1.forget = p'.1.forget)
    (hframe : p.2 = p'.2) :
    forget { p.1 with drains := p.1.drains ++ [p.2] } =
      forget { p'.1 with drains := p'.1.drains ++ [p'.2] } := by
  obtain ⟨log, hp', hlog⟩ := eq_of_forget_eq h
  rw [hp', hframe]
  simp [forget, hlog]

section Logs

variable {log : List (SchedulerEvent α)} (hlog : log.map forgetEvent = s.log.map forgetEvent)

include hlog

theorem forget_run (id : ℕ) :
    (run { s with log := log } id).1.forget = (run s id).1.forget ∧
      (run { s with log := log } id).2 = (run s id).2 := by
  by_cases hsettled : (s.entries id).settled = true
  · simp [run, hsettled, forget, hlog]
  · have hopen : (s.entries id).settled = false := by simpa using hsettled
    cases hadmitted : s.admitStart (s.entries id) with
    | error e =>
      rw [run_rejected hopen hadmitted, run_rejected (s := { s with log := log }) hopen hadmitted]
      simp [forget, hlog]
    | ok latch =>
      rw [run_started hopen hadmitted, run_started (s := { s with log := log }) hopen hadmitted]
      simp [forget, hlog]

theorem forget_drainLoop (queue : List ℕ) :
    (drainLoop queue { s with log := log }).forget = (drainLoop queue s).forget := by
  induction queue with
  | nil => simp [drainLoop, forget, hlog]
  | cons id rest ih =>
    rw [drainLoop, drainLoop]
    by_cases hsettled : (s.entries id).settled = true
    · rw [if_pos hsettled, if_pos hsettled]
      exact ih
    · rw [if_neg hsettled, if_neg hsettled]
      obtain ⟨hrun, hframe⟩ := forget_run (s := { s with queue := rest }) hlog id
      exact forget_suspend hrun hframe

theorem forget_step (input : SchedulerInput α) :
    (step { s with log := log } input).map forget = (step s input).map forget := by
  cases input with
  | schedule kind signal =>
    have hadmitted : admitSchedule { s with log := log } signal = s.admitSchedule signal := rfl
    simp only [step, hadmitted]
    cases s.admitSchedule signal with
    | error e => simp [forget, hlog]
    | ok admitted =>
      obtain ⟨lease, latch⟩ := admitted
      simp only [Option.map_some, Option.some.injEq]
      have henqueued : (enqueue { s with log := log } kind signal lease latch).log.map forgetEvent =
          (s.enqueue kind signal lease latch).log.map forgetEvent := by
        simp [enqueue, hlog]
      -- The logs differ in outcomes only, so `drain` takes the same branch on both.
      cases hrunning : s.running with
      | true =>
        rw [drain_of_running (s := s.enqueue kind signal lease latch) hrunning,
          drain_of_running (s := enqueue { s with log := log } kind signal lease latch) hrunning]
        simp [enqueue, forget, hlog]
      | false =>
        rw [drain_of_idle (s := s.enqueue kind signal lease latch) hrunning,
          drain_of_idle (s := enqueue { s with log := log } kind signal lease latch) hrunning]
        exact forget_drainLoop (s := { s.enqueue kind signal lease latch with running := true })
          henqueued _
  | abort signal reason =>
    simp only [step]
    cases s.aborted signal with
    | some _ => simp [forget, hlog]
    | none => simp [forget, abort, abortable, hlog]
  | complete frame outcome =>
    simp only [step]
    split <;> simp [forget, settle, hlog]
  | resume frame =>
    simp only [step]
    split
    · simp only [Option.map_some, Option.some.injEq]
      exact forget_drainLoop (s := { s with drains := s.drains.eraseIdx frame }) hlog _
    · rfl
  | changeRuntime next =>
    simp only [step]
    split <;> simp [forget, hlog]
  | markRuntimeMutationStateUncertain lease => simp [step, forget, hlog]

end Logs

/-- Completions of one frame lead to the same system, whatever the outcomes. -/
theorem forget_step_complete (frame : ℕ) (outcome outcome' : Except ThrownError α) :
    (s.step (.complete frame outcome)).map forget =
      (s.step (.complete frame outcome')).map forget := by
  simp only [step]
  split <;> simp [forget, settle, forgetEvent]

/-- Runs whose inputs differ in outcomes only go through the same systems. -/
theorem forget_exec {s' : SchedulerSystem α} {inputs inputs' : List (SchedulerInput α)}
    (hs : s.forget = s'.forget) (hinputs : inputs.map forgetInput = inputs'.map forgetInput) :
    (Machine.exec step s inputs).map forget = (Machine.exec step s' inputs').map forget := by
  -- The inputs are taken pairwise: each pair is the same, or two completions of the same frame.
  induction inputs generalizing s s' inputs' with
  | nil =>
    cases inputs' with
    | nil => simp [hs]
    | cons => simp at hinputs
  | cons input inputs ih =>
    cases inputs' with
    | nil => simp at hinputs
    | cons input' inputs' =>
      simp only [List.map_cons, List.cons.injEq] at hinputs
      obtain ⟨hinput, hrest⟩ := hinputs
      have hstep : (s.step input).map forget = (s'.step input').map forget := by
        obtain ⟨log, rfl, hlog⟩ := eq_of_forget_eq hs
        rw [forget_step hlog]
        rcases eq_of_forgetInput_eq hinput with rfl | ⟨frame, outcome, outcome', rfl, rfl⟩
        · rfl
        · exact forget_step_complete frame outcome outcome'
      rw [Machine.exec_cons, Machine.exec_cons]
      cases ht : s.step input with
      | none =>
        cases ht' : s'.step input' with
        | none => rfl
        | some t' => simp [ht, ht'] at hstep
      | some t =>
        cases ht' : s'.step input' with
        | none => simp [ht, ht'] at hstep
        | some t' =>
          simp only [ht, ht', Option.map_some, Option.some.injEq] at hstep
          exact ih hstep hrest

/-! ## Serialization -/

/-- Any interleaving of schedule calls, aborts, completions, resumptions, lease changes and marks
on a new scheduler. One callback runs at a time; operations start in schedule order, each after all
earlier ones were settled; every promise is settled once, and is settled after as many turns as its
rank, which are available while it is not; an operation whose signal has aborted does not start; what
callbacks return or throw does not change what starts; and an idle scheduler has settled every
operation. -/
theorem scheduler_serialization {inputs : List (SchedulerInput α)}
    (hrun : Machine.exec step {} inputs = some t) :
    (∀ id id', id ∈ startedIds t.log → id ∉ settledIds t.log → id' ∈ startedIds t.log →
      id' ∉ settledIds t.log → id = id') ∧
    scheduledIds t.log = List.range t.scheduled ∧
    (startedIds t.log).Pairwise (· < ·) ∧
    (∀ past id lease future, t.log = past ++ .started id lease :: future →
      ∀ j < id, j ∈ settledIds past) ∧
    (settledIds t.log).Nodup ∧
    (∀ id < t.scheduled, ∀ later u, Machine.exec step t later = some u →
      t.rank id ≤ (later.filter isTurn).length → id ∈ settledIds u.log) ∧
    (∀ id < t.scheduled, id ∉ settledIds t.log →
      (∃ u, t.step (.resume 0) = some u) ∨ ∃ running, t.drains = [.awaiting running] ∧
        ∀ outcome, ∃ u, t.step (.complete 0 outcome) = some u) ∧
    (∀ past sig future id lease lease', t.log = past ++ .aborted sig :: future →
      .scheduled id (some sig) lease ∈ t.log → .started id lease' ∉ future) ∧
    (∀ inputs' : List (SchedulerInput α), inputs.map forgetInput = inputs'.map forgetInput →
      ∃ t', Machine.exec step {} inputs' = some t' ∧ startedIds t'.log = startedIds t.log) ∧
    (t.running = false → t.queue = [] ∧ ∀ id < t.scheduled, id ∈ settledIds t.log) := by
  obtain ⟨hserial, hsingle⟩ := serial_run ⟨serial_initial, single_initial⟩ hrun
  have hcaptured := captured_run captured_initial hrun
  refine ⟨?_, hserial.scheduled_log, ?_, ?_, hserial.settled_once, ?_, ?_, ?_, ?_, ?_⟩
  · intro id id' hid hopen hid' hopen'
    have hawaited := hserial.awaiting_of_running hid hopen
    have hawaited' := hserial.awaiting_of_running hid' hopen'
    -- There is one drain, and it awaits one entry.
    rcases hsingle with ⟨-, hdrains, -⟩ | ⟨-, hlength⟩
    · simp [hdrains] at hawaited
    · obtain ⟨d, hd⟩ := List.length_eq_one_iff.mp hlength
      simp only [hd, List.mem_singleton] at hawaited hawaited'
      cases hawaited.trans hawaited'.symm
      rfl
  · exact startedIds_sorted hserial.started_law
  · exact fun past id lease future hsplit => (hserial.started_law _ _ _ hsplit).1
  · -- The rank has been used up by the end of the run.
    intro id hid later u hlater hrank
    obtain ⟨hserial', -⟩ := serial_run ⟨hserial, hsingle⟩ hlater
    have hzero := rank_run ⟨hserial, hsingle⟩ hlater hid
    have hscheduled := scheduled_run ⟨hserial, hsingle⟩ hlater hid
    exact (hserial'.settled_log id).mpr ⟨hscheduled, rank_eq_zero.mp (by omega)⟩
  · intro id hid hopen
    refine hserial.turn_available hsingle hid ?_
    rw [← Bool.not_eq_true]
    exact fun hsettled => hopen ((hserial.settled_log id).mpr ⟨hid, hsettled⟩)
  · exact fun past sig future id lease lease' => hcaptured.not_started_after_abort
  · intro inputs' hinputs
    have hsame := forget_exec (s := ({} : SchedulerSystem α)) rfl hinputs
    rw [hrun] at hsame
    cases ht' : Machine.exec step {} inputs' with
    | none => simp [ht'] at hsame
    | some t' =>
      simp only [ht', Option.map_some, Option.some.injEq] at hsame
      refine ⟨t', rfl, ?_⟩
      rw [← startedIds_forget t.log, ← startedIds_forget t'.log]
      exact congrArg (fun s => startedIds s.log) hsame.symm
  · intro hidle
    rcases hsingle with ⟨-, hdrains, hqueue⟩ | ⟨hrunning, -⟩
    · refine ⟨hqueue, fun id hid => (hserial.settled_log id).mpr ⟨hid, ?_⟩⟩
      simpa [hqueue, hdrains] using hserial.passed id hid
    · simp [hidle] at hrunning

/-- Three operations are scheduled while the first runs; the second is aborted in the queue and the
first fails; the third then runs to its end. -/
def failureAndAbort : List (SchedulerInput Unit) :=
  [.changeRuntime (some ⟨1, ⟨7, "a"⟩⟩), .schedule .turn none, .schedule .route (some 4),
    .schedule .project none, .abort 4 none, .complete 0 (.error (.ofCode .turnInputFailed)),
    .resume 0, .complete 0 (.ok ()), .resume 0]

theorem scheduler_serialization_failureAndAbort :
    ∃ t, Machine.exec step {} failureAndAbort = some t ∧ startedIds t.log = [0, 2] ∧
      (settledIds t.log).Nodup ∧ ∀ id < t.scheduled, id ∈ settledIds t.log := by
  have hrun : Machine.exec step {} failureAndAbort = some _ := rfl
  obtain ⟨-, -, -, -, honce, -, -, -, -, hidle⟩ := scheduler_serialization hrun
  exact ⟨_, hrun, rfl, honce, (hidle rfl).2⟩

end SchedulerSystem

end Threadwire
