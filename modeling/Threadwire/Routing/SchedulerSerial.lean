import Mathlib.Data.List.Nodup
import Mathlib.Data.List.Range
import Threadwire.Machine.Trace
import Threadwire.Routing.OperationScheduler

/-!
# Serial execution of scheduled operations

Whatever is scheduled, aborted, completed or resumed in whatever order, one callback runs at a time,
callbacks start in schedule order, every promise is settled at most once, and every promise is
settled as soon as the drain has been given enough turns. The invariant `Serial` ties the queue, the
entries and the suspended drains to the log.
-/

namespace Threadwire

namespace SchedulerSystem

variable {α : Type}

/-! ## What the log says -/

/-- The operations scheduled in a log, in order. -/
def scheduledIds (log : List (SchedulerEvent α)) : List ℕ :=
  log.filterMap fun | .scheduled id _ _ => some id | _ => none

/-- The operations whose callback was started in a log, in order. -/
def startedIds (log : List (SchedulerEvent α)) : List ℕ :=
  log.filterMap fun | .started id _ => some id | _ => none

/-- The operations whose promise was settled in a log, in order. -/
def settledIds (log : List (SchedulerEvent α)) : List ℕ :=
  log.filterMap fun | .settled id _ => some id | _ => none

section Projections

variable (log log' : List (SchedulerEvent α)) (event : SchedulerEvent α)

@[simp] theorem scheduledIds_append :
    scheduledIds (log ++ log') = scheduledIds log ++ scheduledIds log' := List.filterMap_append

@[simp] theorem startedIds_append :
    startedIds (log ++ log') = startedIds log ++ startedIds log' := List.filterMap_append

@[simp] theorem settledIds_append :
    settledIds (log ++ log') = settledIds log ++ settledIds log' := List.filterMap_append

@[simp] theorem scheduledIds_cons : scheduledIds (event :: log) =
    (match event with | .scheduled id _ _ => [id] | _ => []) ++ scheduledIds log := by
  cases event <;> rfl

@[simp] theorem startedIds_cons : startedIds (event :: log) =
    (match event with | .started id _ => [id] | _ => []) ++ startedIds log := by
  cases event <;> rfl

@[simp] theorem settledIds_cons : settledIds (event :: log) =
    (match event with | .settled id _ => [id] | _ => []) ++ settledIds log := by
  cases event <;> rfl

@[simp] theorem scheduledIds_nil : scheduledIds ([] : List (SchedulerEvent α)) = [] := rfl
@[simp] theorem startedIds_nil : startedIds ([] : List (SchedulerEvent α)) = [] := rfl
@[simp] theorem settledIds_nil : settledIds ([] : List (SchedulerEvent α)) = [] := rfl

end Projections

/-- A batch of settlements, as an abort makes them. -/
theorem ids_map_settled (ids : List ℕ) (outcome : Except ThrownError α) :
    scheduledIds (ids.map fun id => SchedulerEvent.settled id outcome) = [] ∧
      startedIds (ids.map fun id => SchedulerEvent.settled id outcome) = [] ∧
      settledIds (ids.map fun id => SchedulerEvent.settled id outcome) = ids := by
  induction ids with
  | nil => exact ⟨rfl, rfl, rfl⟩
  | cons id ids ih => simp [ih]

/-- When a callback may start: every earlier operation has been settled, and every callback started
so far was of an earlier one. -/
def StartLaw (past : List (SchedulerEvent α)) : SchedulerEvent α → Prop
  | .started id _ => (∀ j < id, j ∈ settledIds past) ∧ ∀ j ∈ startedIds past, j < id
  | _ => True

/-! ## The invariant -/

/-- The queue, the entries and the suspended drains, against the log. -/
structure Serial (s : SchedulerSystem α) : Prop where
  queue_sorted : s.queue.Pairwise (· < ·)
  queued : ∀ id ∈ s.queue, id < s.scheduled ∧ (s.entries id).started = false
  awaited : ∀ id, .awaiting id ∈ s.drains →
    id < s.scheduled ∧ (s.entries id).started = true ∧ (s.entries id).settled = false
  passed : ∀ id < s.scheduled,
    id ∈ s.queue ∨ (s.entries id).settled = true ∨ .awaiting id ∈ s.drains
  scheduled_log : scheduledIds s.log = List.range s.scheduled
  settled_log : ∀ id, id ∈ settledIds s.log ↔ id < s.scheduled ∧ (s.entries id).settled = true
  settled_once : (settledIds s.log).Nodup
  started_log : ∀ id ∈ startedIds s.log, id < s.scheduled ∧
    ((s.entries id).settled = true ∨ .awaiting id ∈ s.drains) ∧ ∀ j ∈ s.queue, id < j
  started_law : Trace.Lawful StartLaw s.log

/-- There is one suspended drain while the scheduler is running, and none and nothing to drain while
it is not. -/
def Single (s : SchedulerSystem α) : Prop :=
  (s.running = false ∧ s.drains = [] ∧ s.queue = []) ∨ (s.running = true ∧ s.drains.length = 1)

/-- At the beginning there is nothing to be in order. -/
theorem serial_initial : Serial ({} : SchedulerSystem α) where
  queue_sorted := List.Pairwise.nil
  queued := by simp
  awaited := by simp
  passed := by simp
  scheduled_log := rfl
  settled_log := by simp
  settled_once := List.nodup_nil
  started_log := by simp
  started_law := Trace.lawful_nil

/-- And no drain. -/
theorem single_initial : Single ({} : SchedulerSystem α) := .inl ⟨rfl, rfl, rfl⟩

variable {s t : SchedulerSystem α}

/-- An event that is about no operation changes nothing for the invariant. -/
theorem Serial.logged (h : Serial s) {event : SchedulerEvent α}
    (hscheduled : scheduledIds [event] = []) (hstarted : startedIds [event] = [])
    (hsettled : settledIds [event] = []) (runtime : LeaseHistory) (latch : Option RuntimeLease) :
    Serial { s with log := s.log ++ [event], runtime := runtime, uncertainLease := latch } := by
  refine ⟨h.queue_sorted, h.queued, h.awaited, h.passed, ?_, ?_, ?_, ?_, ?_⟩
  · rw [scheduledIds_append, hscheduled, List.append_nil]
    exact h.scheduled_log
  · rw [settledIds_append, hsettled, List.append_nil]
    exact h.settled_log
  · rw [settledIds_append, hsettled, List.append_nil]
    exact h.settled_once
  · rw [startedIds_append, hstarted, List.append_nil]
    exact h.started_log
  · refine h.started_law.snoc_of_free fun past => ?_
    cases event with
    | started => cases hstarted
    | _ => trivial

/-- A new entry comes last, whatever the drain does. -/
theorem Serial.enqueue (h : Serial s) (kind : MutationOperationKind) (signal : Option SignalId)
    (lease : RuntimeLease) (latch : Option RuntimeLease) :
    Serial (s.enqueue kind signal lease latch) := by
  obtain ⟨hsorted, hqueued, hawaited, hpassed, hscheduled, hsettled, honce, hstarted, hlaw⟩ := h
  refine ⟨?_, ?_, ?_, ?_, ?_, ?_, ?_, ?_, hlaw.snoc_of_free fun _ => trivial⟩ <;>
    simp only [SchedulerSystem.enqueue]
  · -- sorted queue, queued, awaited and passed entries, then the three lists of the log, and the law
    -- of the starts
    rw [List.pairwise_append]
    refine ⟨hsorted, List.pairwise_singleton _ _, ?_⟩
    intro a ha b hb
    rw [List.mem_singleton] at hb
    exact hb ▸ (hqueued a ha).1
  · intro id hid
    rcases List.mem_append.mp hid with hid | hid
    · have hlt := (hqueued id hid).1
      rw [Function.update_of_ne (by omega)]
      exact ⟨by omega, (hqueued id hid).2⟩
    · rw [List.mem_singleton] at hid
      subst hid
      simp
  · intro id hid
    have hlt := (hawaited id hid).1
    rw [Function.update_of_ne (by omega)]
    exact ⟨by omega, (hawaited id hid).2⟩
  · intro id hid
    rcases Nat.lt_succ_iff_lt_or_eq.mp hid with hlt | rfl
    · rw [Function.update_of_ne (by omega), List.mem_append]
      rcases hpassed id hlt with hq | hrest
      · exact .inl (.inl hq)
      · exact .inr hrest
    · simp
  · simp [hscheduled, List.range_succ]
  · intro id
    rw [settledIds_append]
    by_cases hid : id = s.scheduled
    · subst hid
      simp [hsettled]
    · rw [Function.update_of_ne hid]
      simp only [settledIds_cons, settledIds_nil, List.append_nil, hsettled]
      constructor
      · rintro ⟨hlt, hs⟩
        exact ⟨by omega, hs⟩
      · rintro ⟨hlt, hs⟩
        exact ⟨by omega, hs⟩
  · simpa using honce
  · intro id hid
    simp only [startedIds_append, startedIds_cons, startedIds_nil, List.append_nil] at hid
    obtain ⟨hlt, hdone, hbefore⟩ := hstarted id hid
    rw [Function.update_of_ne (by omega)]
    refine ⟨by omega, hdone, fun j hj => ?_⟩
    rcases List.mem_append.mp hj with hj | hj
    · exact hbefore j hj
    · rw [List.mem_singleton.mp hj]
      exact hlt

/-- An entry can be aborted while it is queued. -/
theorem mem_abortable {signal : SignalId} {id : ℕ} :
    id ∈ s.abortable signal ↔ id < s.scheduled ∧ (s.entries id).signal = some signal ∧
      (s.entries id).started = false ∧ (s.entries id).settled = false := by
  simp [abortable]

/-- An abort settles entries that were not started. -/
theorem Serial.abort (h : Serial s) (signal : SignalId) (reason : Option ThrownError) :
    Serial (s.abort signal reason) := by
  obtain ⟨hsorted, hqueued, hawaited, hpassed, hscheduled, hsettled, honce, hstarted, hlaw⟩ := h
  have hids := ids_map_settled (α := α) (s.abortable signal)
    (.error ((ThrownError.ofCode .operationAborted).withCause reason))
  obtain ⟨hids₁, hids₂, hids₃⟩ := hids
  refine ⟨hsorted, ?_, ?_, ?_, ?_, ?_, ?_, ?_, ?_⟩ <;> simp only [SchedulerSystem.abort]
  · -- The abort settles entries, so only what says that an entry is unsettled is at stake.
    intro id hid
    have hold := hqueued id hid
    split <;> exact hold
  · intro id hid
    have hold := hawaited id hid
    -- An awaited entry was started, so it is not abortable.
    rw [if_neg fun hmem => by simp [mem_abortable, hold.2.1] at hmem]
    exact hold
  · intro id hid
    have hold := hpassed id hid
    split
    · exact .inr (.inl rfl)
    · exact hold
  · simp [hids₁, hscheduled]
  · intro id
    simp only [settledIds_append, settledIds_cons, hids₃, List.nil_append, List.mem_append,
      hsettled, mem_abortable]
    grind
  · simp only [settledIds_append, settledIds_cons, hids₃, List.nil_append]
    -- What the abort settles was not settled before.
    refine List.nodup_append.mpr ⟨honce, List.Nodup.filter _ List.nodup_range, ?_⟩
    rintro id hid _ hhit rfl
    rw [mem_abortable, ((hsettled id).mp hid).2] at hhit
    simp at hhit
  · intro id hid
    simp only [startedIds_append, startedIds_cons, hids₂, List.append_nil] at hid
    obtain ⟨hlt, hdone, hbefore⟩ := hstarted id hid
    refine ⟨hlt, ?_, hbefore⟩
    split
    · exact .inl rfl
    · exact hdone
  · refine hlaw.append_of_free fun e he past => ?_
    rcases List.mem_cons.mp he with rfl | he
    · trivial
    · obtain ⟨id, -, rfl⟩ := List.mem_map.mp he
      trivial

/-- The callback of the only suspended drain settles. -/
theorem Serial.complete (h : Serial s) {id : ℕ} (hdrains : s.drains = [.awaiting id])
    (outcome : Except ThrownError α) :
    Serial { s.settle id outcome with drains := [.resuming] } := by
  obtain ⟨hsorted, hqueued, hawaited, hpassed, hscheduled, hsettled, honce, hstarted, hlaw⟩ := h
  rw [hdrains] at hawaited hpassed hstarted
  obtain ⟨hlt, hst, hopen⟩ := hawaited id List.mem_cons_self
  refine ⟨hsorted, ?_, by simp, ?_, ?_, ?_, ?_, ?_, hlaw.snoc_of_free fun _ => trivial⟩ <;>
    simp only [settle]
  · -- the entry that was awaited is settled, so it is passed; the others are where they were
    intro j hj
    have hne : j ≠ id := by
      rintro rfl
      rw [(hqueued j hj).2] at hst
      cases hst
    rw [Function.update_of_ne hne]
    exact hqueued j hj
  · intro j hj
    by_cases hne : j = id
    · subst hne
      simp
    · rw [Function.update_of_ne hne]
      rcases hpassed j hj with hq | hs | ha
      · exact .inl hq
      · exact .inr (.inl hs)
      · simp at ha
        exact absurd ha hne
  · simp [hscheduled]
  · intro j
    by_cases hne : j = id
    · subst hne
      simp [hlt]
    · simp [hne, hsettled]
  · simp only [settledIds_append, settledIds_cons, settledIds_nil, List.append_nil]
    refine List.nodup_append.mpr ⟨honce, List.nodup_singleton id, ?_⟩
    rintro j hj _ hid rfl
    rw [List.mem_singleton] at hid
    subst hid
    rw [hsettled, hopen] at hj
    simp at hj
  · intro j hj
    simp only [startedIds_append, startedIds_cons, startedIds_nil, List.append_nil] at hj
    obtain ⟨hjlt, hdone, hbefore⟩ := hstarted j hj
    refine ⟨hjlt, .inl ?_, hbefore⟩
    by_cases hne : j = id
    · subst hne
      simp
    · rw [Function.update_of_ne hne]
      rcases hdone with hs | ha
      · exact hs
      · simp at ha
        exact absurd ha hne

/-- With no drain suspended, every operation before an unsettled one at the front of the queue has
been settled. -/
theorem Serial.settled_before (h : Serial s) (hdrains : s.drains = []) {skipped rest : List ℕ}
    {id : ℕ} (hqueue : s.queue = skipped ++ id :: rest)
    (hskipped : ∀ j ∈ skipped, (s.entries j).settled = true) {j : ℕ} (hj : j < id) :
    (s.entries j).settled = true := by
  have hid : id ∈ s.queue := by simp [hqueue]
  have hlt := (h.queued id hid).1
  rcases h.passed j (by omega) with hq | hs | ha
  · have hsorted := h.queue_sorted
    rw [hqueue, List.pairwise_append, List.pairwise_cons] at hsorted
    rw [hqueue, List.mem_append, List.mem_cons] at hq
    rcases hq with hskip | rfl | hrest
    · exact hskipped j hskip
    · omega
    · have := hsorted.2.1.1 j hrest
      omega
  · exact hs
  · simp [hdrains] at ha

/-- A drain keeps the invariant when no other drain is suspended. -/
theorem Serial.drained (h : Serial s) (hdrains : s.drains = []) (hdrained : Drained s t) :
    Serial t := by
  cases hdrained with
  | idle hall =>
    refine ⟨List.Pairwise.nil, by simp, h.awaited, ?_, h.scheduled_log, h.settled_log,
      h.settled_once, ?_, h.started_law⟩
    · -- Nothing is left in the queue but entries that were settled.
      intro id hid
      rcases h.passed id hid with hq | hrest
      · exact .inr (.inl (hall id hq))
      · exact .inr hrest
    · intro id hid
      obtain ⟨hlt, hdone, -⟩ := h.started_log id hid
      exact ⟨hlt, hdone, by simp⟩
  | rejected skipped rest id e hqueue hskipped hopen hadmitted =>
    have hbefore := fun j => h.settled_before hdrains hqueue hskipped (j := j)
    obtain ⟨hsorted, hqueued, hawaited, hpassed, hscheduled, hsettled, honce, hstarted, hlaw⟩ := h
    rw [hqueue, List.pairwise_append, List.pairwise_cons] at hsorted
    have hlt := (hqueued id (by simp [hqueue])).1
    have hrest : ∀ j ∈ rest, id < j := hsorted.2.1.1
    simp only [hdrains, List.not_mem_nil, or_false] at hpassed hstarted
    refine ⟨hsorted.2.1.2, ?_, by simp [hdrains], ?_, by simp [hscheduled], ?_, ?_, ?_,
      hlaw.snoc_of_free fun _ => trivial⟩
    · intro j hj
      have := hrest j hj
      simp only [Function.update_of_ne (show j ≠ id by omega)]
      exact hqueued j (by simp [hqueue, hj])
    · -- The entries that were skipped are settled, so the place of every other entry is as before.
      intro j hj
      by_cases hne : j = id
      · simp [hne]
      · simp only [Function.update_of_ne hne]
        have hold := hpassed j hj
        rw [hqueue, List.mem_append, List.mem_cons] at hold
        rcases hold with (hskip | rfl | hr) | hs
        · exact .inr (.inl (hskipped j hskip))
        · exact absurd rfl hne
        · exact .inl hr
        · exact .inr (.inl hs)
    · intro j
      by_cases hne : j = id
      · subst hne
        simp [hlt]
      · simp [hne, hsettled]
    · -- The rejected entry was open, so this is its first settlement.
      simp only [settledIds_append, settledIds_cons, settledIds_nil, List.append_nil]
      refine List.nodup_append.mpr ⟨honce, List.nodup_singleton id, ?_⟩
      rintro j hj _ hid rfl
      rw [List.mem_singleton] at hid
      subst hid
      rw [hsettled, hopen] at hj
      simp at hj
    · intro j hj
      simp only [startedIds_append, startedIds_cons, startedIds_nil, List.append_nil] at hj
      obtain ⟨hjlt, hdone, hafter⟩ := hstarted j hj
      have hjid := hafter id (by simp [hqueue])
      simp only [Function.update_of_ne (show j ≠ id by omega)]
      exact ⟨hjlt, .inl hdone, fun k hk => hafter k (by simp [hqueue, hk])⟩
  | started skipped rest id latch hqueue hskipped hopen hadmitted =>
    have hbefore := fun j => h.settled_before hdrains hqueue hskipped (j := j)
    obtain ⟨hsorted, hqueued, hawaited, hpassed, hscheduled, hsettled, honce, hstarted, hlaw⟩ := h
    rw [hqueue, List.pairwise_append, List.pairwise_cons] at hsorted
    have hlt := (hqueued id (by simp [hqueue])).1
    have hrest : ∀ j ∈ rest, id < j := hsorted.2.1.1
    simp only [hdrains, List.not_mem_nil, or_false] at hpassed hstarted
    refine ⟨hsorted.2.1.2, ?_, ?_, ?_, by simp [hscheduled], ?_, by simpa using honce, ?_, ?_⟩
    · intro j hj
      have := hrest j hj
      simp only [Function.update_of_ne (show j ≠ id by omega)]
      exact hqueued j (by simp [hqueue, hj])
    · intro j hj
      simp only [hdrains, List.nil_append, List.mem_singleton, DrainFrame.awaiting.injEq] at hj
      subst hj
      simp [hlt, hopen]
    · -- The started entry is awaited; the others are where they were.
      intro j hj
      by_cases hne : j = id
      · simp [hne, hdrains]
      · simp only [Function.update_of_ne hne]
        have hold := hpassed j hj
        rw [hqueue, List.mem_append, List.mem_cons] at hold
        rcases hold with (hskip | rfl | hr) | hs
        · exact .inr (.inl (hskipped j hskip))
        · exact absurd rfl hne
        · exact .inl hr
        · exact .inr (.inl hs)
    · intro j
      by_cases hne : j = id
      · subst hne
        simp [hsettled, hopen]
      · simp [Function.update_of_ne hne, hsettled]
    · intro j hj
      simp only [startedIds_append, startedIds_cons, startedIds_nil, List.append_nil,
        List.mem_append, List.mem_singleton] at hj
      rcases hj with hj | rfl
      · obtain ⟨hjlt, hdone, hafter⟩ := hstarted j hj
        have hjid := hafter id (by simp [hqueue])
        simp only [Function.update_of_ne (show j ≠ id by omega)]
        exact ⟨hjlt, .inl hdone, fun k hk => hafter k (by simp [hqueue, hk])⟩
      · exact ⟨hlt, .inr (by simp), hrest⟩
    · -- It is started after all those before it: they have settled, and none that was started comes
      -- after it.
      refine Trace.lawful_snoc.mpr ⟨hlaw, fun j hj => ?_, fun j hj => ?_⟩
      · exact (hsettled j).mpr ⟨by omega, hbefore j hj⟩
      · exact (hstarted j hj).2.2 id (by simp [hqueue])

theorem Drained.single (hdrained : Drained s t) (hdrains : s.drains = [])
    (hrunning : s.running = true) : Single t := by
  cases hdrained with
  | idle => exact .inl ⟨rfl, hdrains, rfl⟩
  | rejected | started => exact .inr ⟨hrunning, by simp [hdrains]⟩

/-- The suspended drain is taken up again. -/
theorem Serial.resumed (h : Serial s) (hdrains : s.drains = [.resuming]) :
    Serial { s with drains := [] } := by
  obtain ⟨hsorted, hqueued, -, hpassed, hscheduled, hsettled, honce, hstarted, hlaw⟩ := h
  simp only [hdrains, List.mem_singleton, reduceCtorEq, or_false] at hpassed hstarted
  exact ⟨hsorted, hqueued, by simp, by simpa using hpassed, hscheduled, hsettled, honce,
    by simpa using hstarted, hlaw⟩

/-- The step lemma: every input keeps the invariant and the single drain. -/
theorem Serial.step (h : Serial s) (hsingle : Single s) {input : SchedulerInput α}
    (hstep : s.step input = some t) : Serial t ∧ Single t := by
  cases input with
  | schedule kind signal =>
    simp only [SchedulerSystem.step] at hstep
    split at hstep <;> cases hstep
    · exact ⟨h.logged rfl rfl rfl _ _, hsingle⟩
    · rename_i lease latch _
      have henqueued := h.enqueue kind signal lease latch
      rw [drain]
      -- `drain` starts a loop only where none is running.
      rcases hsingle with ⟨hidle, hdrains, -⟩ | ⟨hrunning, hdrains⟩
      · rw [if_neg (by simp [SchedulerSystem.enqueue, hidle])]
        have hdrained :=
          drained_drainLoop { s.enqueue kind signal lease latch with running := true }
        have hserial : Serial { s.enqueue kind signal lease latch with running := true } :=
          { henqueued with }
        exact ⟨hserial.drained hdrains hdrained, hdrained.single hdrains rfl⟩
      · rw [if_pos (by simp [SchedulerSystem.enqueue, hrunning])]
        exact ⟨henqueued, .inr ⟨hrunning, hdrains⟩⟩
  | abort signal reason =>
    simp only [SchedulerSystem.step] at hstep
    split at hstep <;> cases hstep
    · exact ⟨h, hsingle⟩
    · exact ⟨h.abort signal reason, hsingle⟩
  | complete frame outcome =>
    simp only [SchedulerSystem.step] at hstep
    split at hstep <;> cases hstep
    rename_i id hframe
    rcases hsingle with ⟨-, hdrains, -⟩ | ⟨hrunning, hlength⟩
    · simp [hdrains] at hframe
    · -- The one drain is at its await, so it is this entry that completes.
      obtain ⟨d, hd⟩ := List.length_eq_one_iff.mp hlength
      obtain ⟨rfl, rfl⟩ : frame = 0 ∧ d = .awaiting id := by
        rw [hd] at hframe
        cases frame <;> simp_all
      rw [hd]
      exact ⟨h.complete hd outcome, .inr ⟨hrunning, rfl⟩⟩
  | resume frame =>
    simp only [SchedulerSystem.step] at hstep
    split at hstep <;> cases hstep
    rename_i hframe
    rcases hsingle with ⟨-, hdrains, -⟩ | ⟨hrunning, hlength⟩
    · simp [hdrains] at hframe
    · -- The one drain goes on, and drains until it waits again or the queue is empty.
      obtain ⟨d, hd⟩ := List.length_eq_one_iff.mp hlength
      obtain ⟨rfl, rfl⟩ : frame = 0 ∧ d = .resuming := by
        rw [hd] at hframe
        cases frame <;> simp_all
      rw [hd]
      have hdrained := drained_drainLoop { s with drains := [] }
      exact ⟨(h.resumed hd).drained rfl hdrained, hdrained.single rfl hrunning⟩
  | changeRuntime next =>
    simp only [SchedulerSystem.step] at hstep
    split at hstep <;> cases hstep
    exact ⟨h.logged rfl rfl rfl _ _, hsingle⟩
  | markRuntimeMutationStateUncertain lease =>
    cases hstep
    exact ⟨h.logged rfl rfl rfl _ _, hsingle⟩

/-- The run lemma. -/
theorem serial_run {inputs : List (SchedulerInput α)} (hs : Serial s ∧ Single s)
    (hrun : Machine.exec step s inputs = some t) : Serial t ∧ Single t := by
  have hstep : ∀ (s : SchedulerSystem α) i s', Serial s ∧ Single s → step s i = some s' →
      Serial s' ∧ Single s' := fun s i s' h hstep => h.1.step h.2 hstep
  exact Machine.exec_invariant hstep hs hrun

/-- The callback of an operation that started and was not settled is awaited by a drain. -/
theorem Serial.awaiting_of_running (h : Serial s) {id : ℕ} (hstarted : id ∈ startedIds s.log)
    (hopen : id ∉ settledIds s.log) : .awaiting id ∈ s.drains := by
  obtain ⟨hlt, hdone, -⟩ := h.started_log id hstarted
  exact hdone.resolve_left fun hsettled => hopen ((h.settled_log id).mpr ⟨hlt, hsettled⟩)

/-- Operations start in the order of their numbers, which is the order they were scheduled in. -/
theorem startedIds_sorted {log : List (SchedulerEvent α)} (h : Trace.Lawful StartLaw log) :
    (startedIds log).Pairwise (· < ·) := by
  induction log using List.reverseRecOn with
  | nil => exact List.Pairwise.nil
  | append_singleton log event ih =>
    obtain ⟨hlog, hevent⟩ := Trace.lawful_snoc.mp h
    rw [startedIds_append, List.pairwise_append]
    refine ⟨ih hlog, ?_, ?_⟩
    · cases event <;> simp
    · intro j hj id hid
      cases event with
      | started id' lease =>
        simp only [startedIds_cons, startedIds_nil, List.append_nil, List.mem_singleton] at hid
        exact hid ▸ hevent.2 j hj
      | _ => simp at hid

/-! ## What a step adds to the log -/

/-- The events of a step: a callback is awaited exactly if it was before or has started now, unless
it has ended, and only a callback that was awaited returns. -/
structure News (s t : SchedulerSystem α) (new : List (SchedulerEvent α)) : Prop where
  log : t.log = s.log ++ new
  started : ∀ id lease, .started id lease ∈ new → .awaiting id ∈ t.drains
  awaiting : ∀ id, .awaiting id ∈ t.drains →
    .awaiting id ∈ s.drains ∨ ∃ lease, .started id lease ∈ new
  returned : ∀ id value, .settled id (.ok value) ∈ new → .awaiting id ∈ s.drains

/-- A step that starts nothing and ends no callback. -/
theorem news_of_same {new : List (SchedulerEvent α)} (hlog : t.log = s.log ++ new)
    (hdrains : t.drains = s.drains) (hstarted : startedIds new = [])
    (hreturned : ∀ id value, .settled id (.ok value) ∉ new) : News s t new := by
  refine ⟨hlog, fun id lease hmem => ?_, fun id hmem => .inl (hdrains ▸ hmem),
    fun id value hmem => absurd hmem (hreturned id value)⟩
  have hid : id ∈ startedIds new := List.mem_filterMap.mpr ⟨_, hmem, rfl⟩
  rw [hstarted] at hid
  exact nomatch hid

theorem Drained.news (h : Drained s t) : ∃ new, News s t new := by
  cases h with
  | idle hsettled =>
    exact ⟨[], news_of_same (List.append_nil _).symm rfl rfl fun _ _ h => nomatch h⟩
  | rejected skipped rest id e hqueue hskipped hopen hadmitted =>
    refine ⟨[.settled id (.error e)], rfl, fun id' lease hmem => ?_, fun id' hmem => .inl ?_,
      fun id' value hmem => ?_⟩
    · cases List.mem_singleton.mp hmem
    · exact (List.mem_append.mp hmem).resolve_right fun h => nomatch List.mem_singleton.mp h
    · cases List.mem_singleton.mp hmem
  | started skipped rest id latch hqueue hskipped hopen hadmitted =>
    refine ⟨[.started id (s.entries id).lease], rfl, fun id' lease hmem => ?_, fun id' hmem => ?_,
      fun id' value hmem => ?_⟩
    · cases List.mem_singleton.mp hmem
      exact List.mem_append_right _ List.mem_cons_self
    · rcases List.mem_append.mp hmem with hmem | hmem
      · exact .inl hmem
      · cases List.mem_singleton.mp hmem
        exact .inr ⟨_, List.mem_cons_self⟩
    · cases List.mem_singleton.mp hmem

/-- Events before those of a step that start nothing and end no callback. -/
theorem News.cons {event : SchedulerEvent α} {new : List (SchedulerEvent α)}
    (h : News { s with log := s.log ++ [event] } t new) (hstarted : startedIds [event] = [])
    (hreturned : ∀ id value, event ≠ .settled id (.ok value)) : News s t (event :: new) := by
  refine ⟨by rw [h.log, List.append_assoc, List.singleton_append], fun id lease hmem => ?_,
    fun id hmem => ?_, fun id value hmem => ?_⟩
  · rcases List.mem_cons.mp hmem with rfl | hmem
    · cases hstarted
    · exact h.started id lease hmem
  · exact (h.awaiting id hmem).imp (fun h => h) fun h =>
      h.imp fun _ hmem => List.mem_cons_of_mem _ hmem
  · rcases List.mem_cons.mp hmem with rfl | hmem
    · exact absurd rfl (hreturned id value)
    · exact h.returned id value hmem

theorem step_news {input : SchedulerInput α} (hstep : s.step input = some t) :
    ∃ new, News s t new := by
  cases input with
  | schedule kind signal =>
    simp only [SchedulerSystem.step] at hstep
    split at hstep <;> cases hstep
    · exact ⟨_, news_of_same rfl rfl rfl fun _ _ h => nomatch List.mem_singleton.mp h⟩
    · rename_i lease latch _
      have hquiet : News s (s.enqueue kind signal lease latch)
          [.scheduled s.scheduled signal lease] :=
        news_of_same rfl rfl rfl fun _ _ h => nomatch List.mem_singleton.mp h
      rw [drain]
      split
      · exact ⟨_, hquiet⟩
      · obtain ⟨new, hlog, hstarted, hawaiting, hreturned⟩ := (drained_drainLoop
          { s.enqueue kind signal lease latch with running := true }).news
        have hnews : News { s with log := s.log ++ [.scheduled s.scheduled signal lease] } _ new :=
          ⟨hlog, hstarted, hawaiting, hreturned⟩
        exact ⟨_, hnews.cons rfl fun _ _ h => nomatch h⟩
  | abort signal reason =>
    simp only [SchedulerSystem.step] at hstep
    split at hstep <;> cases hstep
    · -- An abort that was seen already says nothing.
      exact ⟨[], news_of_same (List.append_nil _).symm rfl rfl fun _ _ h => nomatch h⟩
    · refine ⟨_, news_of_same rfl rfl ?_ fun id value hmem => ?_⟩
      · rw [startedIds_cons, (ids_map_settled _ _).2.1]
        rfl
      · rcases List.mem_cons.mp hmem with habsurd | hmem
        · cases habsurd
        · obtain ⟨_, -, habsurd⟩ := List.mem_map.mp hmem
          cases habsurd
  | complete frame outcome =>
    simp only [SchedulerSystem.step] at hstep
    split at hstep <;> cases hstep
    rename_i id hframe
    refine ⟨[.settled id outcome], rfl, fun id' lease hmem => ?_, fun id' hmem => .inl ?_,
      fun id' value hmem => ?_⟩
    · cases List.mem_singleton.mp hmem
    · exact (List.mem_or_eq_of_mem_set hmem).resolve_right fun h => nomatch h
    · cases List.mem_singleton.mp hmem
      exact List.mem_of_getElem? hframe
  | resume frame =>
    simp only [SchedulerSystem.step] at hstep
    split at hstep <;> cases hstep
    obtain ⟨new, hlog, hstarted, hawaiting, hreturned⟩ :=
      (drained_drainLoop { s with drains := s.drains.eraseIdx frame }).news
    refine ⟨new, hlog, hstarted, fun id hmem => ?_, fun id value hmem => ?_⟩
    · exact (hawaiting id hmem).imp List.mem_of_mem_eraseIdx fun h => h
    · exact List.mem_of_mem_eraseIdx (hreturned id value hmem)
  | changeRuntime next =>
    simp only [SchedulerSystem.step] at hstep
    split at hstep <;> cases hstep
    exact ⟨_, news_of_same rfl rfl rfl fun _ _ h => nomatch List.mem_singleton.mp h⟩
  | markRuntimeMutationStateUncertain lease =>
    cases hstep
    exact ⟨_, news_of_same rfl rfl rfl fun _ _ h => nomatch List.mem_singleton.mp h⟩

theorem Drained.awaiting (h : Drained s t) {id : ℕ} (hawaiting : .awaiting id ∈ s.drains) :
    .awaiting id ∈ t.drains := by
  cases h with
  | idle => exact hawaiting
  | rejected => exact List.mem_append_left _ hawaiting
  | started => exact List.mem_append_left _ hawaiting

/-- A callback is awaited until it ends. -/
theorem awaiting_step {input : SchedulerInput α} (hstep : s.step input = some t) {id : ℕ}
    (hawaiting : .awaiting id ∈ s.drains) :
    .awaiting id ∈ t.drains ∨ ∃ frame outcome, input = .complete frame outcome ∧
      s.drains[frame]? = some (.awaiting id) := by
  cases input with
  | schedule kind signal =>
    simp only [SchedulerSystem.step] at hstep
    split at hstep <;> cases hstep
    · exact .inl hawaiting
    · rw [drain]
      split
      · exact .inl hawaiting
      · exact .inl ((drained_drainLoop { s.enqueue kind signal _ _ with running := true }).awaiting
          hawaiting)
  | abort signal reason =>
    simp only [SchedulerSystem.step] at hstep
    split at hstep <;> cases hstep
    · exact .inl hawaiting
    · exact .inl hawaiting
  | complete frame outcome =>
    simp only [SchedulerSystem.step] at hstep
    split at hstep <;> cases hstep
    rename_i id' hframe
    obtain ⟨position, hposition⟩ := List.mem_iff_getElem?.mp hawaiting
    -- The drain that completes is the one that awaits `id`, or another.
    by_cases hsame : frame = position
    · subst hsame
      exact .inr ⟨frame, outcome, rfl, hposition⟩
    · refine .inl (List.mem_iff_getElem?.mpr ⟨position, ?_⟩)
      show (s.drains.set frame .resuming)[position]? = _
      rw [List.getElem?_set_ne hsame, hposition]
  | resume frame =>
    simp only [SchedulerSystem.step] at hstep
    split at hstep <;> cases hstep
    rename_i hframe
    refine .inl ((drained_drainLoop { s with drains := s.drains.eraseIdx frame }).awaiting ?_)
    -- The drain that resumes is not awaiting, so it is not the one of `id`.
    obtain ⟨position, hposition⟩ := List.mem_iff_getElem?.mp hawaiting
    refine List.mem_eraseIdx_iff_getElem?.mpr ⟨position, ?_, hposition⟩
    rintro rfl
    rw [hposition] at hframe
    cases hframe
  | changeRuntime next =>
    simp only [SchedulerSystem.step] at hstep
    split at hstep <;> cases hstep
    exact .inl hawaiting
  | markRuntimeMutationStateUncertain lease =>
    cases hstep
    exact .inl hawaiting

theorem Drained.marked (h : Drained s t) {lease : RuntimeLease}
    (hmem : .markedUncertain lease ∈ t.log) : .markedUncertain lease ∈ s.log := by
  cases h with
  | idle => exact hmem
  | rejected =>
    exact (List.mem_append.mp hmem).resolve_right fun h => nomatch List.mem_singleton.mp h
  | started =>
    exact (List.mem_append.mp hmem).resolve_right fun h => nomatch List.mem_singleton.mp h

/-- A lease is marked only by a call that marks it. -/
theorem marked_step {input : SchedulerInput α} (hstep : s.step input = some t)
    {lease : RuntimeLease} (hmem : .markedUncertain lease ∈ t.log) :
    .markedUncertain lease ∈ s.log ∨ input = .markRuntimeMutationStateUncertain lease := by
  have hsnoc : ∀ {event : SchedulerEvent α}, .markedUncertain lease ∈ s.log ++ [event] →
      event ≠ .markedUncertain lease → .markedUncertain lease ∈ s.log := fun hmem hne =>
    (List.mem_append.mp hmem).resolve_right fun h => hne (List.mem_singleton.mp h).symm
  cases input with
  | schedule kind signal =>
    simp only [SchedulerSystem.step] at hstep
    split at hstep <;> cases hstep
    · exact .inl (hsnoc hmem fun h => nomatch h)
    · rw [drain] at hmem
      split at hmem
      · exact .inl (hsnoc hmem fun h => nomatch h)
      · have henqueued := (drained_drainLoop
          { s.enqueue kind signal _ _ with running := true }).marked hmem
        exact .inl (hsnoc henqueued fun h => nomatch h)
  | abort signal reason =>
    simp only [SchedulerSystem.step] at hstep
    split at hstep <;> cases hstep
    · exact .inl hmem
    · refine .inl ((List.mem_append.mp hmem).resolve_right fun hmem => ?_)
      rcases List.mem_cons.mp hmem with habsurd | hmem
      · cases habsurd
      · obtain ⟨_, -, habsurd⟩ := List.mem_map.mp hmem
        cases habsurd
  | complete frame outcome =>
    simp only [SchedulerSystem.step] at hstep
    split at hstep <;> cases hstep
    exact .inl (hsnoc hmem fun h => nomatch h)
  | resume frame =>
    simp only [SchedulerSystem.step] at hstep
    split at hstep <;> cases hstep
    exact .inl ((drained_drainLoop { s with drains := s.drains.eraseIdx frame }).marked hmem)
  | changeRuntime next =>
    simp only [SchedulerSystem.step] at hstep
    split at hstep <;> cases hstep
    exact .inl (hsnoc hmem fun h => nomatch h)
  | markRuntimeMutationStateUncertain marked =>
    cases hstep
    rcases List.mem_append.mp hmem with hmem | hmem
    · exact .inl hmem
    · cases List.mem_singleton.mp hmem
      exact .inr rfl

end SchedulerSystem

end Threadwire
