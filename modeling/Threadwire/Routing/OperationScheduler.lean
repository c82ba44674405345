import Mathlib.Logic.Function.Basic
import Threadwire.Domain.LeaseCurrency

/-!
# The operation scheduler

`routing/OperationScheduler.ts`: mutating operations run one at a time, in schedule order, each
under the runtime lease it captured when it was scheduled.

`drain` and `run` are asynchronous, so a call of `drain` is suspended while it awaits an entry's
`run`. The system below holds the suspended calls: a call is awaiting the callback of an entry, or
its entry's `run` has returned and the call is due to resume. Between two suspensions the code runs
to the end without interruption, which is one step here. What a callback does synchronously when it
is invoked (schedule again, abort a signal, mark a lease) are steps right after the one that invoked
it. Nothing in the state says that there is only one suspended call.

The abort listener of an entry is registered for one abort event, of which a signal has only one,
and does nothing once the entry has started or settled; so registering and removing it leave no
trace here.
-/

namespace Threadwire

/-- `MutationOperationKind`. -/
inductive MutationOperationKind where
  | route
  | turn
  | project
deriving DecidableEq, Repr

/-- The identity of an `AbortSignal`. -/
abbrev SignalId := ℕ

/-- `QueueEntry`, with the signal its `run` and its abort listener close over. -/
structure QueueEntry where
  kind : MutationOperationKind
  lease : RuntimeLease
  signal : Option SignalId
  settled : Bool := false
  started : Bool := false
deriving DecidableEq, Repr

/-- `OperationScheduler`. The queue holds references to entries. -/
structure OperationScheduler where
  queue : List ℕ := []
  running : Bool := false
  uncertainLease : Option RuntimeLease := none
deriving DecidableEq, Repr

/-- A suspended call of `drain`. -/
inductive DrainFrame where
  | awaiting (id : ℕ)
  | resuming
deriving DecidableEq, Repr

/-- What happens at the scheduler's interface. -/
inductive SchedulerEvent (α : Type) where
  | refused (error : ThrownError)
  | scheduled (id : ℕ) (signal : Option SignalId) (lease : RuntimeLease)
  | started (id : ℕ) (lease : RuntimeLease)
  | settled (id : ℕ) (outcome : Except ThrownError α)
  | aborted (signal : SignalId)
  | runtimeChanged (next : Option RuntimeLease)
  | markedUncertain (lease : RuntimeLease)

/-- A scheduler with the entries it created, its suspended drains, the runtime, the aborted signals
with their reasons, and the log. -/
structure SchedulerSystem (α : Type) extends OperationScheduler where
  entries : ℕ → QueueEntry := fun _ => ⟨.route, ⟨0, ⟨0, ""⟩⟩, none, false, false⟩
  scheduled : ℕ := 0
  drains : List DrainFrame := []
  runtime : LeaseHistory := {}
  aborted : SignalId → Option (Option ThrownError) := fun _ => none
  log : List (SchedulerEvent α) := []

/-- What the environment does. A frame is named by its position. -/
inductive SchedulerInput (α : Type) where
  | schedule (kind : MutationOperationKind) (signal : Option SignalId)
  | abort (signal : SignalId) (reason : Option ThrownError)
  | complete (frame : ℕ) (outcome : Except ThrownError α)
  | resume (frame : ℕ)
  | changeRuntime (next : Option RuntimeLease)
  | markRuntimeMutationStateUncertain (lease : RuntimeLease)

namespace OperationScheduler

/-- `assertMutationStateSafeForLease`: the latch it leaves, or its throw. -/
def assertMutationStateSafeForLease (uncertainLease : Option RuntimeLease) (lease : RuntimeLease) :
    Except ThrownError (Option RuntimeLease) :=
  match uncertainLease with
  | none => .ok none
  | some uncertain =>
    if sameRuntimeLease uncertain lease then .error (.ofCode .turnStateUncertain) else .ok none

end OperationScheduler

namespace SchedulerSystem

open OperationScheduler

variable {α : Type}

/-- `throwIfAborted` of `utils/timeout.ts`. -/
def throwIfAborted (s : SchedulerSystem α) (signal : Option SignalId) : Except ThrownError Unit :=
  match signal.bind s.aborted with
  | none => .ok ()
  | some reason => .error (abortedError reason)

/-- The checks of `schedule`: the lease to capture and the latch they leave. -/
def admitSchedule (s : SchedulerSystem α) (signal : Option SignalId) :
    Except ThrownError (RuntimeLease × Option RuntimeLease) := do
  s.throwIfAborted signal
  let lease ← s.runtime.getCurrentRuntimeLease
  let latch ← assertMutationStateSafeForLease s.uncertainLease lease
  pure (lease, latch)

/-- The checks of an entry's `run`: the latch they leave. -/
def admitStart (s : SchedulerSystem α) (entry : QueueEntry) :
    Except ThrownError (Option RuntimeLease) := do
  s.throwIfAborted entry.signal
  s.runtime.assertRuntimeLeaseCurrent entry.lease
  assertMutationStateSafeForLease s.uncertainLease entry.lease

/-- Settle the promise of an entry. -/
def settle (s : SchedulerSystem α) (id : ℕ) (outcome : Except ThrownError α) : SchedulerSystem α :=
  { s with
    entries := Function.update s.entries id { s.entries id with settled := true }
    log := s.log ++ [.settled id outcome] }

/-- An entry's `run`, up to its first suspension, and how it leaves the drain that awaits it. -/
def run (s : SchedulerSystem α) (id : ℕ) : SchedulerSystem α × DrainFrame :=
  let entry := s.entries id
  if entry.settled then (s, .resuming)
  else
    let s := { s with entries := Function.update s.entries id { entry with started := true } }
    match s.admitStart entry with
    | .error e => (s.settle id (.error e), .resuming)
    | .ok latch =>
      ({ s with uncertainLease := latch, log := s.log ++ [.started id entry.lease] }, .awaiting id)

/-- The loop of `drain`, from its test to its next suspension or to its end. It ends on an empty
queue, so the `finally` block has nothing to drain again. -/
def drainLoop : List ℕ → SchedulerSystem α → SchedulerSystem α
  | [], s => { s with queue := [], running := false }
  | id :: rest, s =>
    if (s.entries id).settled then drainLoop rest s
    else
      let (s, frame) := run { s with queue := rest } id
      { s with drains := s.drains ++ [frame] }

/-- `drain`, when it is called. -/
def drain (s : SchedulerSystem α) : SchedulerSystem α :=
  if s.running then s else drainLoop s.queue { s with running := true }

/-- Append a new entry to the queue. -/
def enqueue (s : SchedulerSystem α) (kind : MutationOperationKind) (signal : Option SignalId)
    (lease : RuntimeLease) (latch : Option RuntimeLease) : SchedulerSystem α :=
  { s with
    uncertainLease := latch
    entries := Function.update s.entries s.scheduled { kind, lease, signal }
    queue := s.queue ++ [s.scheduled]
    scheduled := s.scheduled + 1
    log := s.log ++ [.scheduled s.scheduled signal lease] }

/-- The entries whose abort listener rejects them when the signal aborts, in the order in which the
listeners were registered. -/
def abortable (s : SchedulerSystem α) (signal : SignalId) : List ℕ :=
  (List.range s.scheduled).filter fun id =>
    (s.entries id).signal = some signal ∧ ¬ ((s.entries id).started || (s.entries id).settled)

/-- The signal aborts: `onQueuedAbort` of every entry that listens to it. -/
def abort (s : SchedulerSystem α) (signal : SignalId) (reason : Option ThrownError) :
    SchedulerSystem α :=
  let hit := s.abortable signal
  { s with
    aborted := Function.update s.aborted signal (some reason)
    entries := fun id =>
      if id ∈ hit then { s.entries id with settled := true } else s.entries id
    log := s.log ++ .aborted signal :: hit.map fun id =>
      .settled id (.error ((ThrownError.ofCode .operationAborted).withCause reason)) }

/-- One step of the system. -/
def step (s : SchedulerSystem α) : SchedulerInput α → Option (SchedulerSystem α)
  | .schedule kind signal =>
    match s.admitSchedule signal with
    | .error e => some { s with log := s.log ++ [.refused e] }
    | .ok (lease, latch) => some (drain (s.enqueue kind signal lease latch))
  | .abort signal reason =>
    match s.aborted signal with
    | some _ => some s
    | none => some (s.abort signal reason)
  | .complete frame outcome =>
    match s.drains[frame]? with
    | some (.awaiting id) =>
      some { s.settle id outcome with drains := s.drains.set frame .resuming }
    | _ => none
  | .resume frame =>
    match s.drains[frame]? with
    | some .resuming => some (drainLoop s.queue { s with drains := s.drains.eraseIdx frame })
    | _ => none
  | .changeRuntime next =>
    if s.runtime.Admits next then
      some { s with runtime := s.runtime.change next, log := s.log ++ [.runtimeChanged next] }
    else none
  | .markRuntimeMutationStateUncertain lease =>
    some { s with uncertainLease := some lease, log := s.log ++ [.markedUncertain lease] }

/-! ## The tracker as the runtime of the scheduler -/

/-- Changes that the lease source admits are inputs of the scheduler. -/
theorem exec_changeRuntime {changes : List (Option RuntimeLease)} {s : SchedulerSystem α}
    {r : LeaseHistory} (h : Machine.exec LeaseHistory.step s.runtime changes = some r) :
    Machine.exec step s (changes.map .changeRuntime) =
      some { s with runtime := r, log := s.log ++ changes.map .runtimeChanged } := by
  induction changes generalizing s with
  | nil =>
    cases h
    simp
  | cons next rest ih =>
    obtain ⟨r', hstep, hrest⟩ := Machine.exec_cons_eq_some.mp h
    unfold LeaseHistory.step at hstep
    split at hstep <;> cases hstep
    rename_i hadmits
    have hchanged : s.step (.changeRuntime next) = some { s with
        runtime := s.runtime.change next, log := s.log ++ [.runtimeChanged next] } := if_pos hadmits
    rw [List.map_cons]
    refine Machine.exec_cons_eq_some.mpr ⟨_, hchanged, ?_⟩
    rw [ih hrest]
    simp

/-- Whatever the tracker observes, a scheduler over it takes the leases for current that the tracker
does. -/
theorem exec_observations (observations : List (Option RuntimeIdentity)) :
    ∃ s : SchedulerSystem α,
      Machine.exec step {} ((RuntimeGenerationTracker.leases {} observations).map .changeRuntime) =
        some s ∧
      ∀ lease, s.runtime.assertRuntimeLeaseCurrent lease = .ok () ↔
        (RuntimeGenerationTracker.observeAll observations).assertRuntimeLeaseCurrent lease =
          .ok () := by
  obtain ⟨r, hrun, htracks⟩ :=
    RuntimeGenerationTracker.tracks_initial.observations observations
  exact ⟨_, exec_changeRuntime hrun, fun _ => htracks.assertRuntimeLeaseCurrent_iff⟩

/-! ## What the checks say -/

/-- The latch lets through every lease but its own, and is open afterwards. -/
theorem assertMutationStateSafeForLease_eq_ok {uncertainLease latch : Option RuntimeLease}
    {lease : RuntimeLease} :
    assertMutationStateSafeForLease uncertainLease lease = .ok latch ↔
      uncertainLease ≠ some lease ∧ latch = none := by
  unfold assertMutationStateSafeForLease
  cases uncertainLease with
  | none => simp [eq_comm]
  | some uncertain =>
    by_cases h : uncertain = lease
    · simp [h]
    · simp only [sameRuntimeLease_iff, if_neg h, Except.ok.injEq, ne_eq, Option.some.injEq]
      exact ⟨fun heq => ⟨h, heq.symm⟩, fun heq => heq.2.symm⟩

/-- An operation without a signal is never aborted. -/
theorem throwIfAborted_eq_ok {s : SchedulerSystem α} {signal : Option SignalId} :
    s.throwIfAborted signal = .ok () ↔ ∀ sig ∈ signal, s.aborted sig = none := by
  unfold throwIfAborted
  cases signal with
  | none => simp
  | some sig => cases h : s.aborted sig <;> simp [h]

/-- `schedule` admits an operation under the current lease, which is not the latched one. -/
theorem admitSchedule_eq_ok {s : SchedulerSystem α} {signal : Option SignalId}
    {lease : RuntimeLease} {latch : Option RuntimeLease}
    (h : s.admitSchedule signal = .ok (lease, latch)) :
    s.runtime.current = some lease ∧ s.uncertainLease ≠ some lease ∧ latch = none := by
  unfold admitSchedule LeaseHistory.getCurrentRuntimeLease at h
  cases hthrow : s.throwIfAborted signal with
  | error e =>
    rw [hthrow] at h
    cases h
  | ok _ =>
    rw [hthrow] at h
    cases hcurrent : s.runtime.current with
    | none =>
      rw [hcurrent] at h
      cases h
    | some current =>
      rw [hcurrent] at h
      cases hsafe : assertMutationStateSafeForLease s.uncertainLease current with
      | error e =>
        simp only [bind, Except.bind, hsafe] at h
        cases h
      | ok latch' =>
        simp only [bind, Except.bind, hsafe] at h
        cases h
        exact ⟨rfl, assertMutationStateSafeForLease_eq_ok.mp hsafe⟩

/-- `run` invokes the callback of an entry whose signal has not aborted and whose lease is the
current one and not the latched one. -/
theorem admitStart_eq_ok {s : SchedulerSystem α} {entry : QueueEntry}
    {latch : Option RuntimeLease} (h : s.admitStart entry = .ok latch) :
    (∀ sig ∈ entry.signal, s.aborted sig = none) ∧ s.runtime.current = some entry.lease ∧
      s.uncertainLease ≠ some entry.lease ∧ latch = none := by
  unfold admitStart at h
  cases hthrow : s.throwIfAborted entry.signal with
  | error e =>
    rw [hthrow] at h
    cases h
  | ok _ =>
    rw [hthrow] at h
    cases hcurrent : s.runtime.assertRuntimeLeaseCurrent entry.lease with
    | error e =>
      rw [hcurrent] at h
      cases h
    | ok _ =>
      rw [hcurrent] at h
      exact ⟨throwIfAborted_eq_ok.mp hthrow,
        LeaseHistory.assertRuntimeLeaseCurrent_eq_ok.mp hcurrent,
        assertMutationStateSafeForLease_eq_ok.mp h⟩

/-! ## What one drain can do -/

/-- The ways a drain can go from its loop test to its next suspension: the queue holds settled
entries only, or its first unsettled entry is rejected by the checks, or that entry's callback
starts. -/
inductive Drained (s : SchedulerSystem α) : SchedulerSystem α → Prop
  | idle (hsettled : ∀ id ∈ s.queue, (s.entries id).settled = true) :
    Drained s { s with queue := [], running := false }
  | rejected (skipped rest : List ℕ) (id : ℕ) (e : ThrownError)
    (hqueue : s.queue = skipped ++ id :: rest)
    (hskipped : ∀ j ∈ skipped, (s.entries j).settled = true)
    (hopen : (s.entries id).settled = false) (hadmitted : s.admitStart (s.entries id) = .error e) :
    Drained s { s with
      queue := rest
      entries := Function.update s.entries id
        { s.entries id with started := true, settled := true }
      log := s.log ++ [.settled id (.error e)]
      drains := s.drains ++ [.resuming] }
  | started (skipped rest : List ℕ) (id : ℕ) (latch : Option RuntimeLease)
    (hqueue : s.queue = skipped ++ id :: rest)
    (hskipped : ∀ j ∈ skipped, (s.entries j).settled = true)
    (hopen : (s.entries id).settled = false) (hadmitted : s.admitStart (s.entries id) = .ok latch) :
    Drained s { s with
      queue := rest
      uncertainLease := latch
      entries := Function.update s.entries id { s.entries id with started := true }
      log := s.log ++ [.started id (s.entries id).lease]
      drains := s.drains ++ [.awaiting id] }

/-- A second call of `drain` returns at once. -/
theorem drain_of_running {s : SchedulerSystem α} (h : s.running = true) : s.drain = s :=
  if_pos h

/-- The first one takes the loop. -/
theorem drain_of_idle {s : SchedulerSystem α} (h : s.running = false) :
    s.drain = drainLoop s.queue { s with running := true } :=
  if_neg (by simp [h])

theorem Drained.scheduled {s t : SchedulerSystem α} (h : Drained s t) :
    t.scheduled = s.scheduled := by
  cases h <;> rfl

/-- An open entry that the checks reject is settled by its `run`. -/
theorem run_rejected {s : SchedulerSystem α} {id : ℕ} {e : ThrownError}
    (hopen : (s.entries id).settled = false) (hadmitted : s.admitStart (s.entries id) = .error e) :
    run s id = ({ s with
      entries := Function.update s.entries id
        { s.entries id with started := true, settled := true }
      log := s.log ++ [.settled id (.error e)] }, .resuming) := by
  unfold run
  simp only [hopen, Bool.false_eq_true, if_false]
  split
  · rename_i e' he'
    cases he'.symm.trans hadmitted
    simp [settle]
  · rename_i latch hlatch
    cases hlatch.symm.trans hadmitted

/-- An open entry that passes the checks has its callback invoked. -/
theorem run_started {s : SchedulerSystem α} {id : ℕ} {latch : Option RuntimeLease}
    (hopen : (s.entries id).settled = false) (hadmitted : s.admitStart (s.entries id) = .ok latch) :
    run s id = ({ s with
      uncertainLease := latch
      entries := Function.update s.entries id { s.entries id with started := true }
      log := s.log ++ [.started id (s.entries id).lease] }, .awaiting id) := by
  unfold run
  simp only [hopen, Bool.false_eq_true, if_false]
  split
  · rename_i e he
    cases he.symm.trans hadmitted
  · rename_i latch' hlatch'
    cases hlatch'.symm.trans hadmitted
    rfl

theorem drained_drainLoop (s : SchedulerSystem α) : Drained s (drainLoop s.queue s) := by
  -- The induction is on the rest of the queue, behind entries that were settled already.
  suffices h : ∀ skipped queue, s.queue = skipped ++ queue →
      (∀ j ∈ skipped, (s.entries j).settled = true) → Drained s (drainLoop queue s) from
    h [] s.queue rfl (by simp)
  intro skipped queue hqueue hskipped
  induction queue generalizing skipped with
  | nil =>
    rw [List.append_nil] at hqueue
    exact .idle (hqueue ▸ hskipped)
  | cons id rest ih =>
    rw [drainLoop]
    -- A settled entry is skipped.
    by_cases hsettled : (s.entries id).settled = true
    · rw [if_pos hsettled]
      refine ih (skipped ++ [id]) (by rw [hqueue, List.append_assoc, List.singleton_append]) ?_
      intro j hj
      rcases List.mem_append.mp hj with hj | hj
      · exact hskipped j hj
      · rwa [List.mem_singleton.mp hj]
    · have hopen : (s.entries id).settled = false := by simpa using hsettled
      rw [if_neg hsettled]
      -- The first open entry stops the loop: it is rejected, or its callback is called.
      cases hadmitted : s.admitStart (s.entries id) with
      | error e =>
        have hrun := run_rejected (s := { s with queue := rest }) hopen hadmitted
        rw [hrun]
        exact .rejected skipped rest id e hqueue hskipped hopen hadmitted
      | ok latch =>
        have hrun := run_started (s := { s with queue := rest }) hopen hadmitted
        rw [hrun]
        exact .started skipped rest id latch hqueue hskipped hopen hadmitted

end SchedulerSystem

end Threadwire
