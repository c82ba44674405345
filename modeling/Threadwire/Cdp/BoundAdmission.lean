import Threadwire.Cdp.BoundCdpSessionManager
import Threadwire.Effect.Maintains

/-!
# What a bound manager admits

A bound manager keeps one lease for good. A call that connects it returns only when the owner of the
endpoint's listener was bound from an observation rooted at that lease, and a complete check passed
after the session was attached; where such a call fails, the manager has dropped its session. A
mutation for another lease fails at once.

Every guard operation, also one that was given up, is about the one lease. So whatever is bound was
rooted at it, and every owner that a check observed is the one that was bound (`Standing`). Between
two points of a call the log grows by the observations of the guards (`Checking`).
-/

namespace Threadwire

/-- The methods that connect the manager. -/
def BoundMethod.connects : BoundMethod → Bool
  | .bindExistingRuntime _ | .connect => true
  | .mutation _ => false

namespace BoundCdpSessionManager

open Effect ListenerProvenance

/-- The lease of an event that sets it. -/
def leaseSet? : BoundEvent → Option RuntimeLease
  | .leaseSet lease => some lease
  | _ => none

/-- The leases that were set. -/
def leasesSet (log : List BoundEvent) : List RuntimeLease :=
  log.filterMap leaseSet?

/-- A complete check of the provenance, with the owner that it observed. -/
def completeCheck (lease : RuntimeLease) (ownerIdentity : RuntimeIdentity) : List BoundEvent :=
  [.runtimeObserved lease, .ownerObserved lease ownerIdentity, .runtimeObserved lease]

/-- The owner was bound from an observation that is rooted at the lease. -/
def OwnerBound (log : List BoundEvent) (lease : RuntimeLease) (owner : RuntimeIdentity) : Prop :=
  ∃ observation, .bound lease observation ∈ log ∧ RootedAt observation lease.identity ∧
    observation.ownerIdentity = owner

/-- How the log says that a call has ended. -/
def ending (method : BoundMethod) (returned : Bool) (session : Option SessionId) : BoundEvent :=
  if returned then .returned method session else .rejected method session

/-- What holds between the start and the end of a call, with the events in between. -/
structure CallAdmission (run run' : BoundRun) (method : BoundMethod) (events : List BoundEvent)
    (returned : Bool) : Prop where
  kept : ∀ lease, run.immutableLease = some lease → run'.immutableLease = some lease
  admitted : method.connects = true → returned = true →
    ∃ lease owner before after, run'.immutableLease = some lease ∧
      OwnerBound run'.log lease owner ∧ events = before ++ .attached :: after ∧
      List.Sublist (completeCheck lease owner) after
  dropped : method.connects = true → returned = false → .connectAdmitted ∈ events →
    run'.manager.session = none
  refused : ∀ mutation lease, method = .mutation mutation → mutation.lease? = some lease →
    run.immutableLease ≠ some lease → returned = false ∧ ∀ m, .sessionCalled m ∉ events

/-! ## The lease and what is bound -/

/-- The manager has this lease, and all that is bound or observed of the owner is about it. -/
structure Standing (lease : RuntimeLease) (run : BoundRun) : Prop where
  held : run.immutableLease = some lease
  leases : leasesSet run.log = [lease]
  binding : ∀ owner ∈ run.binding, OwnerBound run.log lease owner
  observed : ∀ lease' owner, .ownerObserved lease' owner ∈ run.log →
    OwnerBound run.log lease owner
  late : ∀ guard ∈ run.late, guard.lease = lease

/-- The events that happen inside the parts of a call. -/
def isInner : BoundEvent → Bool
  | .bound _ _ | .runtimeObserved _ | .ownerObserved _ _ | .sessionCalled _ => true
  | .called _ | .leaseSet _ | .connectAdmitted | .attached | .returned _ _ | .rejected _ _ => false

/-- From `start` on the log has grown by inner events only, these among them in this order. -/
structure Checking (lease : RuntimeLease) (start : BoundRun) (passed : List BoundEvent)
    (run : BoundRun) : Prop where
  standing : Standing lease run
  grown : ∃ events, run.log = start.log ++ events ∧ (∀ event ∈ events, isInner event = true) ∧
    List.Sublist passed events

variable {lease : RuntimeLease} {start run : BoundRun} {passed : List BoundEvent}

/-- An owner that was bound stays bound as the log grows. -/
theorem OwnerBound.append {log : List BoundEvent} {owner : RuntimeIdentity}
    (h : OwnerBound log lease owner) (events : List BoundEvent) :
    OwnerBound (log ++ events) lease owner := by
  obtain ⟨observation, hbound, hroot⟩ := h
  exact ⟨observation, List.mem_append_left events hbound, hroot⟩

/-- An event that neither sets the lease nor observes the owner. -/
theorem Standing.record (h : Standing lease run) {event : BoundEvent}
    (hlease : leaseSet? event = none)
    (howner : ∀ lease' owner, event = .ownerObserved lease' owner → OwnerBound run.log lease owner) :
    Standing lease { run with log := run.log ++ [event] } where
  held := h.held
  leases := by
    show leasesSet (run.log ++ [event]) = [lease]
    rw [leasesSet, List.filterMap_append, List.filterMap_cons_none hlease, List.filterMap_nil,
      List.append_nil]
    exact h.leases
  binding owner howner' := (h.binding owner howner').append [event]
  observed lease' owner hmem := by
    refine OwnerBound.append ?_ [event]
    rcases List.mem_append.mp hmem with hmem | hmem
    · exact h.observed lease' owner hmem
    · exact howner lease' owner (List.mem_singleton.mp hmem).symm
  late := h.late

/-- No check has been passed at the start. -/
theorem Checking.refl (h : Standing lease start) : Checking lease start [] start :=
  ⟨h, [], (List.append_nil _).symm, (fun _ hmem => nomatch hmem), List.Sublist.refl []⟩

/-- Who has passed some checks more has passed the first of them. -/
theorem Checking.before {checks : List BoundEvent}
    (h : Checking lease start (passed ++ checks) run) : Checking lease start passed run := by
  obtain ⟨hstanding, events, hlog, hinner, hsublist⟩ := h
  exact ⟨hstanding, events, hlog, hinner, (List.sublist_append_left passed checks).trans hsublist⟩

/-- The log is the same. -/
theorem Checking.of_log {run' : BoundRun} (h : Checking lease start passed run)
    (hstanding : Standing lease run') (hlog : run'.log = run.log) :
    Checking lease start passed run' :=
  ⟨hstanding, by rw [hlog]; exact h.grown⟩

/-- An inner event that is noted as passed. -/
theorem Checking.record (h : Checking lease start passed run) {event : BoundEvent}
    (hinner : isInner event = true)
    (howner : ∀ lease' owner, event = .ownerObserved lease' owner → OwnerBound run.log lease owner) :
    Checking lease start (passed ++ [event]) { run with log := run.log ++ [event] } := by
  obtain ⟨events, hlog, hevents, hsublist⟩ := h.grown
  refine ⟨h.standing.record ?_ howner, events ++ [event], ?_, fun event' hmem => ?_,
    hsublist.append (List.Sublist.refl [event])⟩
  · cases event <;> first | rfl | cases hinner
  · show run.log ++ [event] = start.log ++ (events ++ [event])
    rw [hlog, List.append_assoc]
  · rcases List.mem_append.mp hmem with hmem | hmem
    · exact hevents event' hmem
    · rw [List.mem_singleton.mp hmem]
      exact hinner

/-- An inner event that is not noted. -/
theorem Checking.skip (h : Checking lease start passed run) {event : BoundEvent}
    (hinner : isInner event = true)
    (howner : ∀ lease' owner, event = .ownerObserved lease' owner → OwnerBound run.log lease owner) :
    Checking lease start passed { run with log := run.log ++ [event] } :=
  (h.record hinner howner).before

/-- An accepted observation is bound. -/
theorem Checking.bind (h : Checking lease start passed run)
    {observation : ListenerProvenanceObservation} (hroot : RootedAt observation lease.identity) :
    Checking lease start passed { run with
      binding := some observation.ownerIdentity
      log := run.log ++ [.bound lease observation] } := by
  have hrecord : Checking lease start passed
      { run with log := run.log ++ [.bound lease observation] } :=
    h.skip rfl (fun _ _ h => nomatch h)
  refine hrecord.of_log ⟨hrecord.standing.held, hrecord.standing.leases, fun owner howner => ?_,
    hrecord.standing.observed, hrecord.standing.late⟩ rfl
  cases howner
  exact ⟨observation, List.mem_append_right run.log (List.mem_singleton_self _), hroot, rfl⟩

/-! ## What happens meanwhile -/

section Background

variable {r : BoundCdpSessionManager}

/-- Guards that were given up for this lease. -/
theorem Checking.setLate (h : Checking lease start passed run) {late : List LateGuard}
    (hlate : ∀ guard ∈ late, guard.lease = lease) :
    Checking lease start passed { run with late } :=
  h.of_log ⟨h.standing.held, h.standing.leases, h.standing.binding, h.standing.observed, hlate⟩ rfl

/-- What the tracker knows is no matter of the log. -/
theorem Checking.setTracker (h : Checking lease start passed run)
    (tracker : RuntimeGenerationTracker) : Checking lease start passed { run with tracker } :=
  h.of_log ⟨h.standing.held, h.standing.leases, h.standing.binding, h.standing.observed,
    h.standing.late⟩ rfl

/-- Neither is the session of the manager. -/
theorem Checking.setManager (h : Checking lease start passed run) (manager : CdpSessionManager) :
    Checking lease start passed { run with manager } :=
  h.of_log ⟨h.standing.held, h.standing.leases, h.standing.binding, h.standing.observed,
    h.standing.late⟩ rfl

/-- The answer to a late inspection of processes is about the lease that the guard was started
for. -/
theorem Checking.lateProcesses (h : Checking lease start passed run) {guard : LateGuard}
    (hguard : guard.lease = lease) (outcome : Except ThrownError (List ClassicProcessInfo)) :
    Checking lease start passed (lateProcesses run guard outcome) := by
  cases outcome with
  | error error => exact h
  | ok processes =>
    unfold BoundCdpSessionManager.lateProcesses
    dsimp only
    have htracker := h.setTracker (run.tracker.assertObserved processes guard.lease).2
    split
    all_goals first
      | exact htracker
      | refine htracker.setLate fun late hlate => ?_
        rcases List.mem_append.mp hlate with hlate | hlate
        · exact h.standing.late late hlate
        · rw [List.mem_singleton.mp hlate]
          exact hguard

/-- A late answer about the listener binds its owner to that lease only. -/
theorem Checking.lateListener (h : Checking lease start passed run) {guard : LateGuard}
    (hguard : guard.lease = lease) (outcome : Except ThrownError ListenerProvenanceOutput) :
    Checking lease start passed (lateListener r run guard outcome) := by
  cases outcome with
  | error error => exact h
  | ok output =>
    unfold BoundCdpSessionManager.lateListener
    dsimp only
    split
    · rename_i observation _ _ hparse
      rw [hguard] at hparse ⊢
      exact h.bind (rootedAt_of_parse hparse)
    · exact h

/-- What happens in the background while a call waits breaks no check that it has passed. -/
theorem Checking.settleBackground (h : Checking lease start passed run) (input : BackgroundInput) :
    Checking lease start passed (settleBackground r run input) := by
  have herase : ∀ position, Checking lease start passed
      { run with late := run.late.eraseIdx position } := fun position =>
    h.setLate fun guard hguard => h.standing.late guard (List.mem_of_mem_eraseIdx hguard)
  -- a late answer is taken out of the list before it is judged
  cases input with
  | disconnected session =>
    dsimp only [BoundCdpSessionManager.settleBackground]
    split
    · exact h.setManager _
    · exact h
  | observed identity => exact h.setTracker _
  | lateProcesses position outcome =>
    dsimp only [BoundCdpSessionManager.settleBackground]
    split
    · rename_i guard hguard
      split
      · exact h
      · exact (herase position).lateProcesses
          (h.standing.late guard (List.mem_of_getElem? hguard)) outcome
    · exact h
  | lateListener position outcome =>
    dsimp only [BoundCdpSessionManager.settleBackground]
    split
    · rename_i guard hguard
      split
      · exact (herase position).lateListener
          (h.standing.late guard (List.mem_of_getElem? hguard)) outcome
      · exact h
    · exact h

/-- Nor does any number of such happenings. -/
theorem Checking.background (h : Checking lease start passed run) (inputs : List BackgroundInput) :
    Checking lease start passed (inputs.foldl (BoundCdpSessionManager.settleBackground r) run) := by
  induction inputs generalizing run with
  | nil => exact h
  | cons input inputs ih => exact ih (h.settleBackground input)

/-- A session that the manager has lost stays lost. -/
theorem session_settleBackground (h : run.manager.session = none) (input : BackgroundInput) :
    (settleBackground r run input).manager.session = none := by
  cases input with
  | disconnected session =>
    dsimp only [settleBackground, CdpSessionManager.disconnectCallback]
    split
    · split
      · exact h
      · rfl
    · exact h
  | observed identity => exact h
  | lateProcesses position outcome =>
    dsimp only [settleBackground, lateProcesses]
    repeat' split
    all_goals exact h
  | lateListener position outcome =>
    dsimp only [settleBackground, lateListener]
    repeat' split
    all_goals exact h

/-- A manager without a session gets none in the background. -/
theorem session_background (h : run.manager.session = none) (inputs : List BackgroundInput) :
    (inputs.foldl (settleBackground r) run).manager.session = none := by
  induction inputs generalizing run with
  | nil => exact h
  | cons input inputs ih => exact ih (session_settleBackground h input)

end Background

/-! ## The parts of a call -/

/-- A part of a call that does no more than wait and observe. -/
def Observes (lease : RuntimeLease) {α : Type} (x : BoundM α) : Prop :=
  ∀ start passed, Maintains (Checking lease start passed) (Settled (Checking lease start passed)) x

/-- A part of a call that passes these checks, one after the other. -/
def Passes (lease : RuntimeLease) (checks : List BoundEvent) {α : Type} (x : BoundM α) : Prop :=
  ∀ start passed run, Checking lease start passed run →
    wp x (fun _ => Checking lease start (passed ++ checks)) (Settled (Checking lease start passed))
      run

section Rules

variable {α β : Type} {x : BoundM α}

/-- A record and what follows it, from the grown log. -/
theorem wp_record {event : BoundEvent} {f : Unit → BoundM α} {Q : α → BoundRun → Prop}
    {E : Interrupt ThrownError → BoundRun → Prop} :
    wp (record event >>= f) Q E run ↔
      wp (f ()) Q E { run with log := run.log ++ [event] } :=
  wp_bind _ _

/-- A value is no event. -/
theorem observes_pure (a : α) : Observes lease (pure a : BoundM α) :=
  fun _ _ => maintains_pure a

/-- Reading the state is no event. -/
theorem observes_get : Observes lease (get : BoundM BoundRun) :=
  fun _ _ => maintains_get

/-- An error is thrown with the checks passed so far. -/
theorem observes_fail (error : ThrownError) : Observes lease (fail error : BoundM α) :=
  fun _ _ => maintains_fail fun _ h => h

/-- The session may be replaced between the checks. -/
theorem observes_setManager (f : CdpSessionManager → CdpSessionManager) :
    Observes lease (setManager f) :=
  fun _ _ => maintains_modify fun _ h => h.setManager _

/-- One observing part after the other. -/
theorem Observes.bind {f : α → BoundM β} (hx : Observes lease x) (hf : ∀ a, Observes lease (f a)) :
    Observes lease (x >>= f) :=
  fun start passed => (hx start passed).bind fun a => hf a start passed

/-- A part that is skipped observes nothing. -/
theorem Observes.onlyIf {condition : Bool} {x : BoundM Unit} (hx : Observes lease x) :
    Observes lease (onlyIf condition x) :=
  fun start passed => Maintains.onlyIf fun _ => hx start passed

/-- Either branch only observes. -/
theorem Observes.ite {c : Prop} [Decidable c] {y : BoundM α} (hx : Observes lease x)
    (hy : Observes lease y) : Observes lease (if c then x else y) :=
  fun start passed => Maintains.ite (fun _ => hx start passed) fun _ => hy start passed

/-- What is caught has only observed, and so does the handler. -/
theorem Observes.rescue {handler : ThrownError → BoundM α} (hx : Observes lease x)
    (hh : ∀ error, Observes lease (handler error)) : Observes lease (rescue x handler) :=
  fun start passed run h =>
    wp_rescue_of_settled (hx start passed run h) fun error run' h' => hh error start passed run' h'

/-- An outcome that is kept as a value has only observed. -/
theorem Observes.attempt (hx : Observes lease x) : Observes lease (attempt x) :=
  fun start passed run h => wp_attempt_of_settled (hx start passed run h)

/-- Who only observes passes no check of its own. -/
theorem Observes.passes (hx : Observes lease x) : Passes lease [] x := by
  intro start passed run h
  rw [List.append_nil]
  exact hx start passed run h

/-- The checks of the second part come after those of the first. -/
theorem Passes.bind {checks checks' : List BoundEvent} {f : α → BoundM β}
    (hx : Passes lease checks x) (hf : ∀ a, Passes lease checks' (f a)) :
    Passes lease (checks ++ checks') (x >>= f) := by
  intro start passed run h
  rw [wp_bind, ← List.append_assoc]
  refine wp_mono (hx start passed run h) (fun a run' h' => ?_) fun _ _ h => h
  exact wp_mono (hf a start _ run' h') (fun _ _ h => h) (Settled.mono fun _ h => h.before)

/-- A part that passes checks also only observes, if one forgets them. -/
theorem Passes.observes {checks : List BoundEvent} (hx : Passes lease checks x) :
    Observes lease x :=
  fun start passed run h => wp_mono (hx start passed run h) (fun _ _ h => h.before) fun _ _ h => h

end Rules

section Guards

variable {r : BoundCdpSessionManager} {signal : BoundSignal}

/-- Waiting for an answer lets the background run, and nothing else. -/
theorem await_observes {α : Type} (answers : ℕ → α) : Observes lease (await r answers) := by
  intro start passed run h
  have hasked : Checking lease start passed { run with asked := run.asked + 1 } :=
    h.of_log ⟨h.standing.held, h.standing.leases, h.standing.binding, h.standing.observed,
      h.standing.late⟩ rfl
  exact hasked.background (r.environment.background run.asked)

/-- An answer is a value or an error. -/
theorem ofAnswer_observes {α : Type} (answer : Except ThrownError α) :
    Observes lease (ofAnswer answer) := by
  cases answer with
  | ok a => exact observes_pure a
  | error error => exact observes_fail error

/-- A signal that is aborted ends the part before it does anything. -/
theorem throwIfAborted_observes : Observes lease (throwIfAborted signal) := by
  refine observes_get.bind fun run => ?_
  cases signal with
  | none => exact observes_pure ()
  | some aborted => exact (observes_fail _).onlyIf

/-- The guard's own test of its signal does nothing else. -/
theorem guardNotAborted_observes : Observes lease (guardNotAborted signal) :=
  throwIfAborted_observes.rescue fun error => observes_fail (guardError error)

/-- A stage of the guard waits for its answer; where the signal wins, the answer is left to be
late. -/
theorem awaitStage_observes {α : Type} (operation : RuntimeProvenanceGuardOperation)
    (stage : GuardStage) (answers : ℕ → Except ThrownError α) :
    Observes lease (awaitStage r ⟨operation, lease, stage⟩ answers) := by
  intro start passed run h
  rw [awaitStage, wp_bind, wp_get]
  split
  · -- the operation is given up, and waits on its own from here
    have hlate : Checking lease start passed
        { run with late := run.late ++ [⟨operation, lease, stage⟩] } := by
      refine h.setLate fun late hlate => ?_
      rcases List.mem_append.mp hlate with hlate | hlate
      · exact h.standing.late late hlate
      · rw [List.mem_singleton.mp hlate]
    rw [wp_bind, wp_set]
    exact ((await_observes fun _ => ()).bind fun _ => observes_fail _) start passed _ hlate
  · exact ((await_observes answers).bind ofAnswer_observes) start passed run h

/-- The runtime was observed and has the lease. -/
theorem assertRuntimeLeaseCurrentObserved_passes (operation : RuntimeProvenanceGuardOperation)
    (stage : GuardStage) :
    Passes lease [.runtimeObserved lease]
      (assertRuntimeLeaseCurrentObserved r ⟨operation, lease, stage⟩ signal) := by
  show Passes lease ([] ++ ([] ++ [.runtimeObserved lease])) _
  refine guardNotAborted_observes.passes.bind fun _ => ?_
  refine (awaitStage_observes operation stage _).passes.bind fun processes => ?_
  intro start passed run h
  rw [wp_bind, wp_get, wp_bind, wp_set, wp_bind]
  refine wp_mono (ofAnswer_observes _ start passed _ (h.setTracker _)) (fun _ run' h' => ?_)
    fun _ _ h => h
  exact h'.record rfl (fun _ _ h => nomatch h)

/-- An observation of the endpoint's provenance is rooted at the lease. -/
theorem observe_rooted (operation : RuntimeProvenanceGuardOperation)
    (h : Checking lease start passed run) :
    wp (observe r operation lease)
      (fun observation run' => RootedAt observation lease.identity ∧
        Checking lease start passed run')
      (Settled (Checking lease start passed)) run := by
  rw [observe, wp_bind]
  refine wp_mono (awaitStage_observes operation .endpoint _ start passed run h) (fun output run' h' => ?_)
    fun _ _ h => h
  cases hparse : parseListenerProvenanceOutput output r.config lease with
  | ok observation => exact ⟨rootedAt_of_parse hparse, h'⟩
  | error error => exact h'

/-- What BIND observes of the listener is recorded as bound. -/
theorem bindOwnedEndpoint_observes : Observes lease (bindOwnedEndpoint r lease) := by
  refine observes_get.bind fun run => ?_
  refine (observes_fail unverified).onlyIf.bind fun _ => ?_
  intro start passed run' h
  rw [wp_bind]
  refine wp_mono (observe_rooted .BIND h) (fun observation run'' h' => ?_) fun _ _ h => h
  exact h'.2.bind h'.1

/-- The owner of the listener was observed, and is the one that was bound. -/
theorem assertOwnedEndpointCurrent_passes (h : Checking lease start passed run) :
    wp (assertOwnedEndpointCurrent r lease)
      (fun _ run' => ∃ owner, Checking lease start (passed ++ [.ownerObserved lease owner]) run')
      (Settled (Checking lease start passed)) run := by
  rw [assertOwnedEndpointCurrent, wp_bind, wp_get]
  split
  · exact h
  rename_i ownerIdentity hbinding
  have hbound := h.standing.binding ownerIdentity hbinding
  rw [wp_bind]
  refine wp_mono (wp_and (observe_rooted .ASSERT_CURRENT h)
    (observe_rooted .ASSERT_CURRENT (Checking.refl h.standing))) ?_ fun _ _ h' => h'.1
  rintro observation run' ⟨⟨-, h'⟩, -, hsince⟩
  rw [wp_bind, wp_onlyIf]
  split
  · exact h'
  rename_i hsame
  have howner : observation.ownerIdentity = ownerIdentity := by simpa using hsame
  have hlog : OwnerBound run'.log lease observation.ownerIdentity := by
    obtain ⟨events, hevents, -⟩ := hsince.grown
    rw [hevents, howner]
    exact hbound.append events
  refine ⟨observation.ownerIdentity, h'.record rfl fun lease' owner hevent => ?_⟩
  cases hevent
  exact hlog

/-- The whole of BIND only observes. -/
theorem bind_observes : Observes lease (runGuard r .BIND lease signal) := by
  have hruntime : ∀ stage,
      Observes lease (assertRuntimeLeaseCurrentObserved r ⟨.BIND, lease, stage⟩ signal) :=
    fun stage => (assertRuntimeLeaseCurrentObserved_passes .BIND stage).observes
  refine guardNotAborted_observes.bind fun _ => ?_
  refine (hruntime .initialRuntime).bind fun _ => ?_
  refine bindOwnedEndpoint_observes.bind fun _ => ?_
  exact (hruntime .finalRuntime).bind fun _ => guardNotAborted_observes

/-- A complete check of the provenance. -/
theorem assertCurrent_passes (h : Checking lease start passed run) :
    wp (assertCurrent r lease signal)
      (fun _ run' => ∃ owner, Checking lease start (passed ++ completeCheck lease owner) run')
      (Settled (Checking lease start passed)) run := by
  rw [assertCurrent, runGuard, wp_bind]
  refine wp_mono (guardNotAborted_observes start passed run h) (fun _ run h => ?_) fun _ _ h => h
  rw [wp_bind]
  refine wp_mono (assertRuntimeLeaseCurrentObserved_passes .ASSERT_CURRENT _ start passed run h)
    (fun _ run h => ?_) fun _ _ h => h
  rw [wp_bind]
  refine wp_mono (assertOwnedEndpointCurrent_passes h) (fun _ run h => ?_)
    (Settled.mono fun _ h => h.before)
  obtain ⟨owner, h⟩ := h
  rw [wp_bind]
  refine wp_mono (assertRuntimeLeaseCurrentObserved_passes .ASSERT_CURRENT _ start _ run h)
    (fun _ run h => ?_) (Settled.mono fun _ h => h.before.before)
  have hchecks : passed ++ [.runtimeObserved lease] ++ [.ownerObserved lease owner] ++
      [.runtimeObserved lease] = passed ++ completeCheck lease owner := by
    simp [completeCheck]
  rw [hchecks] at h
  exact wp_mono (guardNotAborted_observes start _ run h) (fun _ run h => ⟨owner, h⟩)
    (Settled.mono fun _ h => h.before)

/-- So does the whole of ASSERT_CURRENT, whatever it proves. -/
theorem assertCurrent_observes : Observes lease (assertCurrent r lease signal) :=
  fun _ _ _ h => wp_mono (assertCurrent_passes h) (fun _ _ ⟨_, h⟩ => h.before) fun _ _ h => h

/-! ## Connecting -/

/-- The lease that the manager has. -/
theorem wp_requireImmutableLease {α : Type} {f : RuntimeLease → BoundM α} {Q : α → BoundRun → Prop}
    {E : Interrupt ThrownError → BoundRun → Prop} (h : Standing lease run)
    (hf : wp (f lease) Q E run) : wp (requireImmutableLease >>= f) Q E run := by
  rw [wp_bind, requireImmutableLease, wp_bind, wp_get, h.held]
  exact hf

/-- The lease that is required is the one that the manager has. -/
theorem Observes.withLease {α : Type} {f : RuntimeLease → BoundM α} (hf : Observes lease (f lease)) :
    Observes lease (requireImmutableLease >>= f) :=
  fun start passed run h => wp_requireImmutableLease h.standing (hf start passed run h)

/-- The check that guards a call only observes. -/
theorem guardCurrent_observes : Observes lease (guardCurrent r signal) :=
  Observes.withLease assertCurrent_observes

/-- Where it returns, it has been a complete check of that lease. -/
theorem guardCurrent_passes (h : Checking lease start passed run) :
    wp (guardCurrent r signal)
      (fun _ run' => ∃ owner, Checking lease start (passed ++ completeCheck lease owner) run')
      (Settled (Checking lease start passed)) run :=
  wp_requireImmutableLease h.standing (assertCurrent_passes h)

/-- The search for the target only waits for its answer. -/
theorem findPrimaryTarget_observes : Observes lease (findPrimaryTarget r signal) := by
  refine Observes.withLease (assertCurrent_observes.bind fun _ => ?_)
  refine (await_observes _).bind fun answer => (ofAnswer_observes answer).bind fun targetId => ?_
  refine (ofAnswer_observes _).bind fun _ => assertCurrent_observes.bind fun _ => ?_
  exact observes_pure targetId

/-- Closing a session does nothing to the provenance. -/
theorem closeSession_observes : Observes lease (closeSession r) :=
  (await_observes _).bind ofAnswer_observes

/-- The base class attaches a session, which the provenance does not see. -/
theorem baseAttachTransport_observes : Observes lease (baseAttachTransport r) := by
  refine (await_observes _).bind fun answer => (ofAnswer_observes answer).bind fun _ => ?_
  intro start passed run h
  exact h.of_log ⟨h.standing.held, h.standing.leases, h.standing.binding, h.standing.observed,
    h.standing.late⟩ rfl

/-- Neither does it see the checked attachment, which closes the session where it fails. -/
theorem attachTransport_observes : Observes lease (attachTransport r signal) := by
  refine Observes.withLease (assertCurrent_observes.bind fun _ => ?_)
  refine baseAttachTransport_observes.bind fun session => ?_
  refine (assertCurrent_observes.rescue fun error => ?_).bind fun _ => observes_pure session
  exact closeSession_observes.bind fun _ => observes_fail error

/-- The readiness observation is initialized by the session alone. -/
theorem initializeReadinessObservation_observes :
    Observes lease (initializeReadinessObservation r signal) := by
  refine Observes.withLease (assertCurrent_observes.bind fun _ => ?_)
  refine (await_observes _).bind fun answer => (ofAnswer_observes answer).bind fun _ => ?_
  exact assertCurrent_observes

/-- The lease is compared with the tracker's, nothing is sent. -/
theorem assertRuntimeLeaseCurrent_observes (expected : RuntimeLease) :
    Observes lease (assertRuntimeLeaseCurrent expected) :=
  observes_get.bind fun _ => ofAnswer_observes _

/-- A session is dropped and disposed of in the background's time. -/
theorem disposeSession_observes : Observes lease (disposeSession r) := by
  refine observes_get.bind fun run => (observes_setManager _).bind fun _ => ?_
  cases run.manager.session <;> exact await_observes _

/-- The base class disconnects by disposing of its session. -/
theorem baseDisconnect_observes : Observes lease (baseDisconnect r) := by
  refine disposeSession_observes.bind fun outcome => (observes_setManager _).bind fun _ => ?_
  exact ofAnswer_observes _

/-- Attaching asks for the lease, the target and the transport. -/
theorem attach_observes (expected : RuntimeLease) : Observes lease (attach r expected signal) := by
  refine findPrimaryTarget_observes.bind fun targetId => ?_
  refine (assertRuntimeLeaseCurrent_observes expected).bind fun _ => ?_
  refine (observes_setManager _).bind fun _ => attachTransport_observes.bind fun session => ?_
  refine Observes.bind (Observes.rescue ?_ fun error => ?_) fun _ => observes_setManager _
  · refine (assertRuntimeLeaseCurrent_observes expected).bind fun _ => ?_
    refine initializeReadinessObservation_observes.bind fun _ => ?_
    exact assertRuntimeLeaseCurrent_observes expected
  · exact closeSession_observes.attempt.bind fun _ => observes_fail _

/-- Connecting, as the base class does it, is an attachment and its initialization. -/
theorem baseConnect_observes : Observes lease (baseConnect r signal) := by
  refine observes_get.bind fun run => (ofAnswer_observes _).bind fun expected => ?_
  refine (observes_pure ()).ite (disposeSession_observes.bind fun disposed => ?_)
  cases disposed with
  | error error => exact (observes_setManager _).bind fun _ => observes_fail _
  | ok _ =>
    refine (observes_setManager _).bind fun _ => (attach_observes expected).rescue fun error => ?_
    exact (observes_setManager _).bind fun _ => observes_fail _

/-- The last look at the tracker before `connect` returns. -/
theorem assertCurrentRuntime_observes : Observes lease assertCurrentRuntime := by
  refine observes_get.bind fun run => ?_
  cases run.manager.boundLease with
  | none => exact observes_fail _
  | some boundLease =>
  cases run.manager.session with
  | none => exact observes_fail _
  | some session => exact (observes_fail _).ite (assertRuntimeLeaseCurrent_observes boundLease)

/-- A disconnected manager has no session, also where the close has failed. -/
theorem baseDisconnect_dropped :
    wp (baseDisconnect r) (fun _ run' => run'.manager.session = none)
      (fun _ run' => run'.manager.session = none) run := by
  -- waiting keeps the session dropped, whatever the background does meanwhile
  have hawait : ∀ {α : Type} (answers : ℕ → α),
      Maintains (fun run : BoundRun => run.manager.session = none)
        (fun _ run => run.manager.session = none) (await r answers) := by
    intro α answers run h
    have hasked : ({ run with asked := run.asked + 1 } : BoundRun).manager.session = none := h
    exact session_background hasked (r.environment.background run.asked)
  have hforget : wp (disposeSession r) (fun _ run' => run'.manager.session = none)
      (fun _ run' => run'.manager.session = none) run := by
    rw [disposeSession, wp_bind, wp_get, wp_bind]
    show wp _ _ _ { run with manager := run.manager.forget }
    split <;> exact hawait _ _ rfl
  rw [baseDisconnect, wp_bind]
  refine wp_mono hforget (fun outcome run' h => ?_) fun _ _ h => h
  cases outcome <;> exact h

/-- The manager disconnects, and what it has failed with is thrown. -/
theorem disconnectAndFail (error : ThrownError) (h : Checking lease start passed run) :
    wp (do let _ ← attempt (baseDisconnect r); fail error : BoundM Unit) (fun _ _ => False)
      (Settled fun run' => Checking lease start passed run' ∧ run'.manager.session = none) run := by
  rw [wp_bind]
  refine wp_mono (wp_attempt_of_settled (wp_mono
    (wp_and (baseDisconnect_observes start passed run h) baseDisconnect_dropped)
    (fun _ _ h => h) fun i run' h => ?_)) (fun _ _ h => h) fun _ _ h => h
  cases i with
  | thrown error => exact h
  | pending => exact h.1

/-! ## What a call comes to -/

/-- A call that connects has failed: where it was admitted, there is no session. -/
structure Failed (lease : RuntimeLease) (start run : BoundRun) : Prop where
  standing : Standing lease run
  grown : ∃ events, run.log = start.log ++ events ∧
    (.connectAdmitted ∈ events → run.manager.session = none)

/-- A call that connects has returned. -/
structure Connected (lease : RuntimeLease) (start run : BoundRun) : Prop where
  standing : Standing lease run
  grown : ∃ owner before after, run.log = start.log ++ (before ++ .attached :: after) ∧
    List.Sublist (completeCheck lease owner) after

/-- Inner events do not admit a call. -/
theorem Checking.grownBefore (h : Checking lease start passed run) :
    ∃ events, run.log = start.log ++ events ∧ .connectAdmitted ∉ events := by
  obtain ⟨-, events, hlog, hinner, -⟩ := h
  exact ⟨events, hlog, fun hmem => nomatch hinner _ hmem⟩

/-- A call that fails while it is checking has admitted nothing. -/
theorem Checking.failed (h : Checking lease start passed run) : Failed lease start run := by
  obtain ⟨events, hlog, hnot⟩ := h.grownBefore
  exact ⟨h.standing, events, hlog, fun hmem => absurd hmem hnot⟩

/-- A failure is one of the longer call too, if that admitted nothing before. -/
theorem Failed.after {run' : BoundRun} (h : Failed lease run run')
    (hrun : ∃ events, run.log = start.log ++ events ∧ .connectAdmitted ∉ events) :
    Failed lease start run' := by
  obtain ⟨hstanding, events', hlog', hdropped⟩ := h
  obtain ⟨events, hlog, hnot⟩ := hrun
  refine ⟨hstanding, events ++ events', by rw [hlog', hlog, List.append_assoc], fun hmem => ?_⟩
  rcases List.mem_append.mp hmem with hmem | hmem
  · exact absurd hmem hnot
  · exact hdropped hmem

/-- And a return is one of the longer call. -/
theorem Connected.after {run' : BoundRun} (h : Connected lease run run')
    (hrun : ∃ events, run.log = start.log ++ events ∧ .connectAdmitted ∉ events) :
    Connected lease start run' := by
  obtain ⟨hstanding, owner, before, after, hlog', hcheck⟩ := h
  obtain ⟨events, hlog, -⟩ := hrun
  refine ⟨hstanding, owner, events ++ before, after, ?_, hcheck⟩
  rw [hlog', hlog]
  simp only [List.append_assoc]

/-- The owner of a complete check was bound. -/
theorem Connected.ownerBound (h : Connected lease start run) :
    ∃ owner before after, OwnerBound run.log lease owner ∧
      run.log = start.log ++ (before ++ .attached :: after) ∧
      List.Sublist (completeCheck lease owner) after := by
  obtain ⟨hstanding, owner, before, after, hlog, hcheck⟩ := h
  refine ⟨owner, before, after, hstanding.observed lease owner ?_, hlog, hcheck⟩
  have hmem : .ownerObserved lease owner ∈ after := hcheck.subset (by simp [completeCheck])
  rw [hlog]
  simp [hmem]

/-- A later state of a call. -/
structure Later (lease : RuntimeLease) (start run : BoundRun) : Prop where
  standing : Standing lease run
  grown : ∃ events, run.log = start.log ++ events

/-- What is checking from a later state is checking from the first one. -/
theorem Checking.later {first : BoundRun} (h : Checking lease start passed run)
    (hstart : Later lease first start) : Later lease first run := by
  obtain ⟨-, events, hfirst⟩ := hstart
  obtain ⟨hstanding, events', hlog, -, -⟩ := h
  exact ⟨hstanding, events ++ events', by rw [hlog, hfirst, List.append_assoc]⟩

/-- One event more that sets no lease and observes no owner. -/
theorem Later.record (h : Later lease start run) {event : BoundEvent}
    (hlease : leaseSet? event = none) (howner : ∀ lease' owner, event ≠ .ownerObserved lease' owner) :
    Later lease start { run with log := run.log ++ [event] } := by
  obtain ⟨hstanding, events, hlog⟩ := h
  refine ⟨hstanding.record hlease fun lease' owner h => absurd h (howner lease' owner),
    events ++ [event], ?_⟩
  show run.log ++ [event] = start.log ++ (events ++ [event])
  rw [hlog, List.append_assoc]

/-- `connect` returns only after the check that comes behind the attachment, and fails without a
session where it was admitted. -/
theorem connect_connected (h : Standing lease run) :
    wp (connect r signal) (fun _ => Connected lease run) (Settled (Failed lease run)) run := by
  rw [connect, wp_bind]
  refine wp_mono (guardCurrent_observes run [] run (Checking.refl h)) (fun _ run₁ h₁ => ?_)
    (Settled.mono fun _ h => h.failed)
  have hadmitted : Later lease run { run₁ with log := run₁.log ++ [.connectAdmitted] } :=
    (h₁.later ⟨h, [], (List.append_nil _).symm⟩).record rfl (fun _ _ h => nomatch h)
  rw [wp_record]
  -- the attachment and all after it is inside the `try`, whose handler disconnects
  refine wp_rescue_of_settled (?_ : wp _ _ (Settled (Later lease run)) _) fun error run' h' => ?_
  · rw [wp_bind]
    refine wp_mono (baseConnect_observes _ [] _ (Checking.refl hadmitted.standing))
      (fun _ run₂ h₂ => ?_) (Settled.mono fun _ h => h.later hadmitted)
    have hattached : Later lease run { run₂ with log := run₂.log ++ [.attached] } :=
      (h₂.later hadmitted).record rfl (fun _ _ h => nomatch h)
    rw [wp_record, wp_bind]
    refine wp_mono (guardCurrent_passes (Checking.refl hattached.standing))
      (fun _ run₃ ⟨owner, h₃⟩ => ?_) (Settled.mono fun _ h => h.later hattached)
    refine wp_mono (assertCurrentRuntime_observes _ _ run₃ h₃) (fun _ run₄ h₄ => ?_)
      (Settled.mono fun _ h => h.later hattached)
    -- the log is read backwards: the last checks, the attachment, the admission
    refine ⟨h₄.standing, owner, ?_⟩
    obtain ⟨events, hlog, -, hcheck⟩ := h₄.grown
    obtain ⟨before, hbefore⟩ := (h₂.later hadmitted).grown
    refine ⟨before, events, ?_, hcheck⟩
    rw [hlog, hbefore]
    simp
  · refine wp_mono (disconnectAndFail error (Checking.refl h'.standing))
      (fun _ _ h => False.elim h) (Settled.mono fun run'' h'' => ?_)
    obtain ⟨hstanding, events, hlog⟩ := h''.1.later h'
    exact ⟨hstanding, events, hlog, fun _ => h''.2⟩

/-- The first call binds the lease; the others are refused unless they have the same. -/
theorem bindExistingRuntime_connected (h : Standing lease run) (expected : RuntimeLease) :
    wp (bindExistingRuntime r expected signal) (fun _ => Connected lease run)
      (Settled (Failed lease run)) run := by
  rw [bindExistingRuntime, wp_bind]
  refine wp_mono (throwIfAborted_observes run [] run (Checking.refl h)) (fun _ run₁ h₁ => ?_)
    (Settled.mono fun _ h => h.failed)
  rw [wp_bind, wp_get, h₁.standing.held]
  dsimp only
  rw [wp_bind, wp_onlyIf]
  split
  · exact h₁.failed
  · exact wp_mono (connect_connected h₁.standing) (fun _ _ h => h.after h₁.grownBefore)
      (Settled.mono fun _ h => h.after h₁.grownBefore)

/-! ## Mutations -/

/-- The call of the session's method is an inner event. -/
theorem sessionCalled_observes (mutation : BoundMutation) :
    Observes lease (record (.sessionCalled mutation)) :=
  fun _ _ => maintains_modify fun _ h => h.skip rfl (fun _ _ h => nomatch h)

/-- The session is compared with the manager's, nothing is sent. -/
theorem assertSessionForLeaseCurrent_observes (session : SessionId) (expected : RuntimeLease) :
    Observes lease (assertSessionForLeaseCurrent session expected) := by
  refine (assertRuntimeLeaseCurrent_observes expected).bind fun _ => ?_
  exact observes_get.bind fun _ => ofAnswer_observes _

/-- The session of a lease is found without an event, or an error is thrown. -/
theorem requireSessionForLease_observes (expected : RuntimeLease) :
    Observes lease (requireSessionForLease expected) := by
  refine (assertRuntimeLeaseCurrent_observes expected).bind fun _ => observes_get.bind fun run => ?_
  cases run.manager.boundLease with
  | none => exact observes_fail _
  | some boundLease =>
  cases run.manager.session with
  | none => exact observes_fail _
  | some session =>
    refine (observes_fail _).ite ?_
    exact (observes_fail _).onlyIf.bind fun _ => observes_pure session

/-- A session whose operation was aborted in flight is dropped. -/
theorem invalidateSessionAfterInFlightAbort_observes (session : SessionId) :
    Observes lease (invalidateSessionAfterInFlightAbort r session) := by
  refine observes_get.bind fun run => (observes_pure ()).ite ?_
  refine (observes_setManager _).bind fun _ => closeSession_observes.attempt.bind fun _ => ?_
  exact observes_pure ()

/-- An operation of the session is called at most once, between the two tests of its lease. -/
theorem runSessionOperation_observes (mutation : BoundMutation) (session : SessionId)
    (expected : RuntimeLease) :
    Observes lease (runSessionOperation r mutation session expected signal) := by
  refine (assertSessionForLeaseCurrent_observes session expected).bind fun _ => ?_
  refine throwIfAborted_observes.bind fun _ => (sessionCalled_observes mutation).bind fun _ => ?_
  refine (await_observes _).bind fun answer => ?_
  have hrest : Observes lease (do
      ofAnswer answer
      throwIfAborted signal
      assertSessionForLeaseCurrent session expected) :=
    (ofAnswer_observes answer).bind fun _ => throwIfAborted_observes.bind fun _ =>
      assertSessionForLeaseCurrent_observes session expected
  cases mutation.kind with
  | readiness =>
    refine Observes.bind (throwIfAborted_observes.rescue fun error => ?_) fun _ => hrest
    exact (invalidateSessionAfterInFlightAbort_observes session).bind fun _ => observes_fail error
  | turn => exact hrest

/-- A mutation, as the base class does it. -/
theorem baseMutate_observes (mutation : BoundMutation) :
    Observes lease (baseMutate r mutation signal) := by
  unfold baseMutate
  cases mutation.lease? with
  | some expected =>
    exact (requireSessionForLease_observes expected).bind fun session =>
      runSessionOperation_observes mutation session expected
  | none =>
    refine assertCurrentRuntime_observes.bind fun _ => throwIfAborted_observes.bind fun _ => ?_
    refine (sessionCalled_observes mutation).bind fun _ => (await_observes _).bind fun answer => ?_
    exact ofAnswer_observes answer

/-- A mutation for the manager's lease, or for none. -/
theorem mutate_observes (mutation : BoundMutation)
    (hlease : ∀ expected, mutation.lease? = some expected → expected = lease) :
    Observes lease (mutate r mutation signal) := by
  unfold mutate
  cases hexpected : mutation.lease? with
  | some expected =>
    rw [hlease expected hexpected]
    refine Observes.bind (Observes.withLease ?_) fun _ => baseMutate_observes mutation
    exact (observes_fail _).onlyIf.bind fun _ => assertCurrent_observes
  | none => exact guardCurrent_observes.bind fun _ => baseMutate_observes mutation

/-- A mutation for another lease throws, and nothing has happened. -/
theorem mutate_refused {mutation : BoundMutation} {expected : RuntimeLease}
    (hlease : mutation.lease? = some expected) (h : run.immutableLease ≠ some expected) :
    wp (mutate r mutation signal) (fun _ _ => False) (Settled fun run' => run' = run) run := by
  rw [mutate, hlease]
  dsimp only
  rw [wp_bind, guardExpectedLease, wp_bind, requireImmutableLease, wp_bind, wp_get]
  cases hheld : run.immutableLease with
  | none => exact rfl
  | some held =>
    have hne : sameRuntimeLease held expected = false := by
      rw [Bool.eq_false_iff, ne_eq, sameRuntimeLease_iff]
      rintro rfl
      exact h hheld
    rw [wp_pure, wp_bind, wp_onlyIf, hne]
    exact rfl

end Guards

/-! ## Calls -/

/-- Before the first call of `bindExistingRuntime` nothing is set or bound. -/
structure Unbound (run : BoundRun) : Prop where
  lease : run.immutableLease = none
  leases : leasesSet run.log = []
  binding : run.binding = none
  observed : ∀ lease owner, .ownerObserved lease owner ∉ run.log
  late : run.late = []

/-- What is so between the calls. -/
def Between (run : BoundRun) : Prop := Unbound run ∨ ∃ lease, Standing lease run

/-- A manager that nobody has bound, with one event more. -/
theorem Unbound.record (h : Unbound run) {event : BoundEvent} (hlease : leaseSet? event = none)
    (howner : ∀ lease owner, event ≠ .ownerObserved lease owner) :
    Unbound { run with log := run.log ++ [event] } where
  lease := h.lease
  leases := by
    show leasesSet (run.log ++ [event]) = []
    rw [leasesSet, List.filterMap_append, List.filterMap_cons_none hlease, List.filterMap_nil,
      List.append_nil]
    exact h.leases
  binding := h.binding
  observed lease owner hmem := by
    rcases List.mem_append.mp hmem with hmem | hmem
    · exact h.observed lease owner hmem
    · exact howner lease owner (List.mem_singleton.mp hmem).symm
  late := h.late

/-- Either way, one event more that sets no lease and observes no owner. -/
theorem Between.record (h : Between run) {event : BoundEvent} (hlease : leaseSet? event = none)
    (howner : ∀ lease owner, event ≠ .ownerObserved lease owner) :
    Between { run with log := run.log ++ [event] } := by
  rcases h with h | ⟨lease, h⟩
  · exact .inl (h.record hlease howner)
  · exact .inr ⟨lease, h.record hlease fun lease' owner hevent => absurd hevent (howner lease' owner)⟩

/-- The lease is set. -/
theorem Unbound.setLease (h : Unbound run) (lease : RuntimeLease) :
    Standing lease { run with
      immutableLease := some lease
      log := run.log ++ [.leaseSet lease] } where
  held := rfl
  leases := by
    show leasesSet (run.log ++ [.leaseSet lease]) = [lease]
    rw [leasesSet, List.filterMap_append]
    exact congrArg (· ++ [lease]) h.leases
  binding owner howner := by
    rw [h.binding] at howner
    exact nomatch howner
  observed lease' owner hmem := by
    rcases List.mem_append.mp hmem with hmem | hmem
    · exact absurd hmem (h.observed lease' owner)
    · exact nomatch List.mem_singleton.mp hmem
  late guard hguard := by
    rw [h.late] at hguard
    exact nomatch hguard

/-- What a call comes to, from one state between calls to another. -/
structure CallOutcome (run : BoundRun) (method : BoundMethod) (returned : Bool)
    (run' : BoundRun) : Prop where
  between : Between run'
  admission : ∃ events, run'.log = run.log ++ events ∧
    CallAdmission run run' method events returned

section Outcomes

variable {run' : BoundRun} {method : BoundMethod}

/-- What a call that connects comes to where it returns. -/
theorem Connected.outcome (h : Connected lease run run') (hmethod : method.connects = true)
    (hkept : ∀ held, run.immutableLease = some held → held = lease) :
    CallOutcome run method true run' := by
  obtain ⟨owner, before, after, hbound, hlog, hcheck⟩ := h.ownerBound
  refine ⟨.inr ⟨lease, h.standing⟩, _, hlog, fun held hheld => ?_, fun _ _ => ?_,
    (fun _ h => nomatch h), fun mutation _ heq => ?_⟩
  · rw [hkept held hheld]
    exact h.standing.held
  · exact ⟨lease, owner, before, after, h.standing.held, hbound, rfl, hcheck⟩
  · rw [heq] at hmethod
    exact nomatch hmethod

/-- What it comes to where it fails. -/
theorem Failed.outcome (h : Failed lease run run') (hmethod : method.connects = true)
    (hkept : ∀ held, run.immutableLease = some held → held = lease) :
    CallOutcome run method false run' := by
  obtain ⟨events, hlog, hdropped⟩ := h.grown
  refine ⟨.inr ⟨lease, h.standing⟩, events, hlog, fun held hheld => ?_, (fun _ h => nomatch h),
    fun _ _ => hdropped, fun mutation _ heq => ?_⟩
  · rw [hkept held hheld]
    exact h.standing.held
  · rw [heq] at hmethod
    exact nomatch hmethod

/-- Nothing has happened. -/
theorem Between.refused (h : Between run) : CallOutcome run method false run :=
  ⟨h, [], (List.append_nil _).symm, fun _ h => h, (fun _ h => nomatch h),
    (fun _ _ hmem => nomatch hmem), fun _ _ _ _ _ => ⟨rfl, fun _ hmem => nomatch hmem⟩⟩

/-- A mutation that the lease allows. -/
theorem Checking.outcome {mutation : BoundMutation} (h : Checking lease run [] run')
    (hheld : run.immutableLease = some lease)
    (hlease : ∀ expected, mutation.lease? = some expected → expected = lease) (returned : Bool) :
    CallOutcome run (.mutation mutation) returned run' := by
  obtain ⟨events, hlog, -, -⟩ := h.grown
  refine ⟨.inr ⟨lease, h.standing⟩, events, hlog, fun held hheld' => ?_, (fun h => nomatch h),
    (fun h => nomatch h), fun mutation' expected heq hexpected hne => ?_⟩
  · rw [← hheld', hheld]
    exact h.standing.held
  · cases heq
    rw [hlease expected hexpected] at hne
    exact absurd hheld hne

end Outcomes

section Calls

variable (r : BoundCdpSessionManager)

/-- A test of the signal changes nothing, also where it throws. -/
theorem throwIfAborted_unchanged (signal : BoundSignal) :
    wp (throwIfAborted signal) (fun _ run' => run' = run) (Settled fun run' => run' = run) run := by
  rw [throwIfAborted, wp_bind, wp_get]
  cases signal with
  | none => exact rfl
  | some aborted =>
    rw [wp_onlyIf]
    split <;> exact rfl

/-- Without a lease there is no connection. -/
theorem guardCurrent_unbound (h : run.immutableLease = none) (signal : BoundSignal) :
    wp (guardCurrent r signal) (fun _ _ => False) (Settled fun run' => run' = run) run := by
  rw [guardCurrent, wp_bind, requireImmutableLease, wp_bind, wp_get, h]
  exact rfl

/-- The first call of `bindExistingRuntime` sets the lease and binds its endpoint. -/
theorem bindExistingRuntime_unbound (h : Unbound run) (lease : RuntimeLease)
    (signal : BoundSignal) :
    wp (bindExistingRuntime r lease signal)
      (fun _ => CallOutcome run (.bindExistingRuntime lease) true)
      (Settled (CallOutcome run (.bindExistingRuntime lease) false)) run := by
  have hkept : ∀ held, run.immutableLease = some held → held = lease := fun held hheld => by
    rw [h.lease] at hheld
    exact nomatch hheld
  rw [bindExistingRuntime, wp_bind]
  refine wp_mono (throwIfAborted_unchanged signal) (fun _ run' heq => ?_)
    (Settled.mono fun run' heq => ?_)
  · -- the lease is set first, so whatever fails after that fails with the lease held
    subst heq
    have hset : ∃ events, run'.log ++ [.leaseSet lease] = run'.log ++ events ∧
        BoundEvent.connectAdmitted ∉ events :=
      ⟨[.leaseSet lease], rfl, fun hmem => nomatch List.mem_singleton.mp hmem⟩
    have hstanding := h.setLease lease
    rw [wp_bind, wp_get, h.lease]
    dsimp only
    rw [wp_bind, wp_modify, wp_record, wp_bind]
    refine wp_mono (bind_observes _ [] _ (Checking.refl hstanding)) (fun _ run₁ h₁ => ?_)
      (Settled.mono fun _ h => (h.failed.after hset).outcome rfl hkept)
    rw [wp_bind]
    refine wp_mono (throwIfAborted_observes _ [] run₁ h₁) (fun _ run₂ h₂ => ?_)
      (Settled.mono fun _ h => (h.failed.after hset).outcome rfl hkept)
    refine wp_mono (connect_connected h₂.standing) (fun _ _ h => ?_) (Settled.mono fun _ h => ?_)
    · exact ((h.after h₂.grownBefore).after hset).outcome rfl hkept
    · exact ((h.after h₂.grownBefore).after hset).outcome rfl hkept
  · rw [heq]
    exact Between.refused (.inl h)

/-- A mutation is refused for a lease that is not the manager's; any other only observes. -/
theorem mutate_outcome (h : Between run) (mutation : BoundMutation) (signal : BoundSignal) :
    wp (mutate r mutation signal) (fun _ => CallOutcome run (.mutation mutation) true)
      (Settled (CallOutcome run (.mutation mutation) false)) run := by
  have hrefused : ∀ run', run' = run → CallOutcome run (.mutation mutation) false run' := by
    rintro run' rfl
    exact h.refused
  by_cases hother : ∃ expected, mutation.lease? = some expected ∧ run.immutableLease ≠ some expected
  · obtain ⟨expected, hexpected, hne⟩ := hother
    exact wp_mono (mutate_refused hexpected hne) (fun _ _ h => False.elim h)
      (Settled.mono hrefused)
  rcases h with h | ⟨lease, h⟩
  · -- there is no lease, so the mutation expects none
    have hnone : mutation.lease? = none := by
      cases hexpected : mutation.lease? with
      | none => rfl
      | some expected =>
        refine absurd ⟨expected, hexpected, ?_⟩ hother
        rw [h.lease]
        exact fun h => nomatch h
    rw [mutate, hnone]
    dsimp only
    rw [wp_bind]
    exact wp_mono (guardCurrent_unbound r h.lease signal) (fun _ _ h => False.elim h)
      (Settled.mono hrefused)
  · have hlease : ∀ expected, mutation.lease? = some expected → expected = lease := by
      intro expected hexpected
      by_contra hne
      refine hother ⟨expected, hexpected, ?_⟩
      rw [h.held]
      exact fun heq => hne (Option.some.inj heq).symm
    refine wp_mono (mutate_observes mutation hlease run [] run (Checking.refl h))
      (fun _ _ h' => ?_) (Settled.mono fun _ h' => ?_)
    · exact h'.outcome h.held hlease true
    · exact h'.outcome h.held hlease false

/-- Every call comes to an outcome of its method. -/
theorem call_outcome (h : Between run) (boundCall : BoundCall) :
    wp (call r boundCall) (fun _ => CallOutcome run boundCall.method true)
      (Settled (CallOutcome run boundCall.method false)) run := by
  obtain ⟨method, signal⟩ := boundCall
  have hkept : ∀ {lease}, Standing lease run → ∀ held, run.immutableLease = some held →
      held = lease := fun h _ hheld => Option.some.inj (hheld.symm.trans h.held)
  cases method with
  | bindExistingRuntime expected =>
    rcases h with h | ⟨lease, h⟩
    · exact bindExistingRuntime_unbound r h expected signal
    · exact wp_mono (bindExistingRuntime_connected h expected)
        (fun _ _ h' => h'.outcome rfl (hkept h)) (Settled.mono fun _ h' => h'.outcome rfl (hkept h))
  | connect =>
    rcases h with h | ⟨lease, h⟩
    · show wp (connect r signal) _ _ run
      rw [connect, wp_bind]
      refine wp_mono (guardCurrent_unbound r h.lease signal) (fun _ _ h => False.elim h)
        (Settled.mono fun run' heq => ?_)
      rw [heq]
      exact Between.refused (.inl h)
    · exact wp_mono (connect_connected h) (fun _ _ h' => h'.outcome rfl (hkept h))
        (Settled.mono fun _ h' => h'.outcome rfl (hkept h))
  | mutation mutation => exact mutate_outcome r h mutation signal

/-- One call with its record: what it has done, and how it ended. -/
structure Performed (run : BoundRun) (method : BoundMethod) (run' : BoundRun) : Prop where
  between : Between run'
  admission : ∃ events returned,
    run'.log = run.log ++ .called method ::
      (events ++ [ending method returned run'.manager.session]) ∧
    CallAdmission run run' method events returned

/-- The outcome of a call, with the event that says how it ended. -/
theorem CallOutcome.performed {method : BoundMethod} {returned : Bool} {run' : BoundRun}
    (h : CallOutcome { run with log := run.log ++ [.called method] } method returned run') :
    Performed run method
      { run' with log := run'.log ++ [ending method returned run'.manager.session] } := by
  obtain ⟨hbetween, events, hlog, hadmission⟩ := h
  refine ⟨hbetween.record ?_ ?_, events, returned, ?_, hadmission.kept, fun hmethod hreturned => ?_,
    hadmission.dropped, hadmission.refused⟩
  · cases returned <;> rfl
  · cases returned <;> exact fun _ _ h => nomatch h
  · show run'.log ++ [ending method returned run'.manager.session] = _
    rw [hlog]
    simp
  · obtain ⟨lease, owner, before, after, hheld, hbound, hrest⟩ :=
      hadmission.admitted hmethod hreturned
    exact ⟨lease, owner, before, after, hheld, hbound.append _, hrest⟩

/-- One call, from its record to the record of its ending. -/
theorem perform_performed (h : Between run) (boundCall : BoundCall) :
    Performed run boundCall.method (perform r boundCall run).2 := by
  have hspec : wp (perform r boundCall) (fun _ => Performed run boundCall.method)
      (Settled (Performed run boundCall.method)) run := by
    have hcalled : Between { run with log := run.log ++ [.called boundCall.method] } :=
      h.record rfl (fun _ _ h => nomatch h)
    rw [perform, wp_record, wp_bind, wp_attempt]
    refine wp_mono (call_outcome r hcalled boundCall) (fun _ run' h' => h'.performed)
      fun i run' h' => ?_
    cases i with
    | thrown error => exact CallOutcome.performed h'
    | pending => exact False.elim h'
  have happly := wp_apply hspec
  rcases hperform : perform r boundCall run with ⟨_ | _, run'⟩ <;> rw [hperform] at happly
  · rename_i i
    cases i with
    | thrown error => exact happly
    | pending => exact False.elim happly
  · exact happly

/-- Between the calls of any sequence the manager is bound to one lease or to none. -/
theorem between_performAll (calls : List BoundCall) (h : Between run) :
    Between (performAll r calls run) := by
  induction calls generalizing run with
  | nil => exact h
  | cons boundCall calls ih => exact ih (perform_performed r h boundCall).between

/-- The last call of a sequence starts where the ones before it have ended. -/
theorem performAll_snoc (calls : List BoundCall) (boundCall : BoundCall) :
    performAll r (calls ++ [boundCall]) run = (perform r boundCall (performAll r calls run)).2 := by
  induction calls generalizing run with
  | nil => rfl
  | cons first calls ih => exact ih

/-- The lease is set at most once, and what is set is the manager's lease. Each call keeps the
lease; one that connects and returns had the owner of the listener bound from an observation rooted
at the lease, and passed a complete check after the session was attached; one that connects and
fails after its first check leaves no session; and a mutation for another lease fails without
anything being called on the session. -/
theorem bound_admission (calls : List BoundCall) (boundCall : BoundCall) :
    let run := performAll r calls {}
    let run' := performAll r (calls ++ [boundCall]) {}
    leasesSet run'.log = run'.immutableLease.toList ∧
      ∃ events returned,
        run'.log = run.log ++ .called boundCall.method ::
          (events ++ [ending boundCall.method returned run'.manager.session]) ∧
        CallAdmission run run' boundCall.method events returned := by
  have hinitial : Between {} := .inl ⟨rfl, rfl, rfl, (fun _ _ hmem => nomatch hmem), rfl⟩
  have hperformed := perform_performed r (between_performAll r calls hinitial) boundCall
  rw [← performAll_snoc] at hperformed
  refine ⟨?_, hperformed.admission⟩
  rcases hperformed.between with h | ⟨lease, h⟩
  · rw [h.leases, h.lease]
    rfl
  · rw [h.leases, h.held]
    rfl

end Calls

/-- A manager that finds the endpoint rooted at the process 4 whenever it looks. -/
def rootedManager : BoundCdpSessionManager :=
  let listener : ListenerSnapshot := ⟨1, "127.0.0.1", 9222, 7⟩
  let chain : List ObservedProcessIdentity := [⟨⟨7, "02"⟩, 4⟩, ⟨⟨4, "01"⟩, 1⟩]
  { config := ⟨"127.0.0.1", 9222⟩
    environment := {
      getClassicProcesses := fun _ => .ok [⟨⟨4, 1, "01", .MAIN⟩, none⟩]
      listener := fun _ => .ok ⟨listener, chain, listener, chain⟩
      interrupt := fun _ => none
      findPrimaryTarget := fun _ => .ok "page"
      assertTargetDebuggerEndpoint := fun _ => .ok ()
      transportConnect := fun _ => .ok ()
      initializeReadinessObservation := fun _ => .ok ()
      sessionOperation := fun _ => .ok ()
      close := fun _ => .ok ()
      background := fun _ => [] } }

/-- It binds its lease, and admits a mutation for this lease only. -/
example :
    let lease : RuntimeLease := ⟨1, ⟨4, "01"⟩⟩
    let insert (generation : ℕ) : BoundMutation := .insertText ⟨generation, ⟨4, "01"⟩⟩
    let log := (performAll rootedManager [⟨.bindExistingRuntime lease, none⟩,
      ⟨.mutation (insert 2), none⟩, ⟨.mutation (insert 1), none⟩] {}).log
    log.filter (fun event =>
        event matches .attached | .sessionCalled _ | .returned _ _ | .rejected _ _) =
      [.attached, .returned (.bindExistingRuntime lease) (some 0),
        .rejected (.mutation (insert 2)) (some 0), .sessionCalled (insert 1),
        .returned (.mutation (insert 1)) (some 0)] := by
  decide +kernel

end BoundCdpSessionManager

end Threadwire
