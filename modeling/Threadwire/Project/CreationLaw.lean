import Threadwire.Project.CreationOperation
import Threadwire.Routing.SchedulerSerial

/-!
# A project is not created twice, and no attempt is forgotten

In every run with a call of `create`: a confirmation is dispatched only after `onMutationAttempted`
was called and before the call settles; `createProjectThroughUi` is not called after that; a call
that rejects after a confirmation has marked its lease, and one that rejects before
`onMutationAttempted` was called never marks; and a handle that is returned resolves to the locator
that the UI returned.

While the signal of `withTimeout` is not aborted, the only operation that runs is the one that the
loop awaits: the loop goes on when the operation is over, and is abandoned by an abort only. So the
race ends with an abort, after which nothing is confirmed, or with nothing that runs.
-/

namespace Threadwire

namespace ProjectCreator

open Coroutine ChromeRemoteInterfaceSession MutationGuardedChromeRemoteInterfaceSession
open SchedulerSystem (startedIds settledIds)

/-! ## The operations that run -/

/-- All operations are over, except for this one. -/
def Rest (pool : CreationPool) (pending : Option ℕ) : Prop :=
  ∀ position x, pool.running[position]? = some x →
    some position = pending ∨ ∃ outcome, x = .done outcome

section Rest

variable {pool : CreationPool} {pending : Option ℕ}

/-- An operation starts. -/
theorem Rest.start (h : Rest pool none)
    (x : Coroutine CreationWorld SessionRequest SessionRequest.Answer ThrownError ProjectLocator) :
    Rest (pool.start x) (some pool.running.length) := by
  intro position y hy
  by_cases hposition : position = pool.running.length
  · exact .inl (congrArg some hposition)
  · rw [Pool.start, List.getElem?_append] at hy
    split at hy
    · exact (h position y hy).imp_left fun h => by cases h
    · have hlt := (List.getElem?_eq_some_iff.mp hy).1
      rw [List.length_singleton] at hlt
      omega

/-- Nothing runs, so there is nothing to answer. -/
theorem Rest.resume_eq (h : Rest pool none) (position : ℕ)
    (answers : ∀ request, Option (SessionRequest.Answer request)) :
    pool.resume position answers = pool := by
  unfold Pool.resume
  split
  · rename_i request resume hrunning
    rcases h position _ hrunning with habsurd | ⟨_, habsurd⟩
    · cases habsurd
    · cases habsurd
  · rfl

/-- An answer ends at most the operation that is pending. -/
theorem Rest.resume (h : Rest pool pending) (position : ℕ)
    (answers : ∀ request, Option (SessionRequest.Answer request)) :
    Rest (pool.resume position answers) pending := by
  intro other x hx
  have hlt := (List.getElem?_eq_some_iff.mp hx).1
  rw [Pool.length_resume] at hlt
  rcases h other _ (List.getElem?_eq_getElem hlt) with hpending | ⟨outcome, hdone⟩
  · exact .inl hpending
  · have hover := List.getElem?_eq_getElem hlt
    rw [hdone] at hover
    rw [(Pool.done_resume hover position answers).1] at hx
    exact .inr ⟨outcome, (Option.some.inj hx).symm⟩

/-- The operation that the loop awaits is over. -/
theorem Rest.over {operation : ℕ} {outcome : Except ThrownError ProjectLocator}
    (h : Rest pool (some operation)) (hover : pool.running[operation]? = some (.done outcome)) :
    Rest pool none := by
  intro position x hx
  rcases h position x hx with hposition | hdone
  · rw [Option.some.inj hposition, hover] at hx
    exact .inr ⟨outcome, (Option.some.inj hx).symm⟩
  · exact .inr hdone

end Rest

/-! ## The invariant -/

/-- The callback or its loop has something to do. -/
def Active : CreationLoop → Prop
  | .unstarted | .finished _ => False
  | _ => True

/-- Nothing is confirmed any more: the signal is aborted, or the loop has ended and nothing runs. -/
def Closed (s : CreatorSystem) (loop : CreationLoop) : Prop :=
  Aborted s.pool.state ∨ Rest s.pool none ∧ ¬ Active loop

/-- The call has not settled. -/
def Unsettled (s : CreatorSystem) : Prop := ∀ outcome, .settled outcome ∉ events s

/-- The callback of the call runs. -/
def Running (s : CreatorSystem) (call : CreationCall) : Prop :=
  ∃ entry, call.entry = some entry ∧ .awaiting entry ∈ s.scheduler.drains ∧
    entry ∈ startedIds s.scheduler.log

/-- The UI has returned the locator, and it is registered with the handle. -/
structure Registered (config : CreatorConfig) (s : CreatorSystem) (locator : ProjectLocator)
    (handle : ProjectHandle) : Prop where
  returned : .returned locator ∈ events s
  registered : (locator, handle) ∈ s.registry.registered
  accepted : Accepted config locator s.pool.state

/-- What runs, by where the loop is. -/
def LoopSound (config : CreatorConfig) (s : CreatorSystem) : CreationLoop → Prop
  | .unstarted | .due | .entering | .delaying => Rest s.pool none ∧ .mutationAttempted ∉ events s
  | .calling operation => Rest s.pool (some operation)
  | .finished outcome => (Aborted s.pool.state ∨ Rest s.pool none) ∧
    ∀ locator, outcome = .ok locator →
      .returned locator ∈ events s ∧ Accepted config locator s.pool.state

/-- What the call is due, by where it is. -/
def StageSound (config : CreatorConfig) (s : CreatorSystem) (call : CreationCall) :
    CreationStage → Prop
  | .queued => events s = [] ∧ call.loop = .unstarted ∧ ∃ entry, call.entry = some entry ∧
    .awaiting entry ∉ s.scheduler.drains ∧ entry ∉ settledIds s.scheduler.log
  | .racing lease => Unsettled s ∧ Running s call ∧ .started lease ∈ events s
  | .leaving outcome => Unsettled s ∧ Running s call ∧ Closed s call.loop ∧
    match outcome with
    | .ok handle => ∃ locator, Registered config s locator handle
    | .error _ => .confirmed ∈ events s →
      ∃ lease, .started lease ∈ events s ∧ .marked lease ∈ events s
  | .settled => Closed s call.loop ∧
    ∀ entry, call.entry = some entry → entry ∈ settledIds s.scheduler.log

/-- The call. -/
def CallSound (config : CreatorConfig) (s : CreatorSystem) : Option CreationCall → Prop
  | none => events s = [] ∧ Rest s.pool none
  | some call => LoopSound config s call.loop ∧ StageSound config s call call.stage

/-- What does not depend on where the call is. The leases that others mark are `others`. -/
structure Base (config : CreatorConfig) (others : RuntimeLease → Prop) (s : CreatorSystem) :
    Prop where
  serial : SchedulerSystem.Serial s.scheduler
  single : SchedulerSystem.Single s.scheduler
  registry : s.registry.Sound config.platform
  running : Pool.Sound (fun _ => Later) (fun _ => Progress) (fun _ => Accepted config)
    (fun _ _ _ => True) s.pool
  ended : Pool.Ended (fun _ => Accepted config) (fun _ _ _ => True) s.pool
  coherent : Coherent s.pool.state
  lawful : Trace.Lawful Allowed (events s)
  marks : ∀ lease, .marked lease ∈ events s → .markedUncertain lease ∈ s.scheduler.log
  ours : ∀ lease, .markedUncertain lease ∈ s.scheduler.log → .marked lease ∈ events s ∨ others lease
  handles : ∀ handle, .settled (.ok handle) ∈ events s →
    ∃ locator, Registered config s locator handle

/-- The invariant. -/
structure Sound (config : CreatorConfig) (others : RuntimeLease → Prop) (s : CreatorSystem) :
    Prop where
  base : Base config others s
  call : CallSound config s s.call

/-- At the beginning there is no call. -/
theorem sound_initial (config : CreatorConfig) (others : RuntimeLease → Prop) :
    Sound config others {} where
  base :=
    { serial := SchedulerSystem.serial_initial
      single := SchedulerSystem.single_initial
      registry := ProjectRegistrySystem.sound_init
      running := ⟨fun _ _ _ h => nomatch h⟩
      ended := ⟨(fun _ _ h => nomatch h), fun _ _ h => nomatch h⟩
      coherent := ⟨(fun h => nomatch h), fun h => nomatch h⟩
      lawful := Trace.lawful_nil
      marks := fun _ h => nomatch h
      ours := fun _ h => nomatch h
      handles := fun _ h => nomatch h }
  call := ⟨rfl, fun _ _ h => nomatch h⟩

section Moves

variable {config : CreatorConfig} {others : RuntimeLease → Prop} {s s' : CreatorSystem}
  {call : CreationCall} {loop : CreationLoop} {stage : CreationStage} {event : CreationEvent}

/-- The signal is aborted where there is a reason. -/
theorem aborted_iff : Aborted s.pool.state ↔ ∃ reason, abortReason s = some reason :=
  Option.isSome_iff_exists

/-- A confirmation comes after the call of `onMutationAttempted`. -/
theorem Base.attempted_of_confirmed (h : Base config others s) (hmem : .confirmed ∈ events s) :
    .mutationAttempted ∈ events s := by
  obtain ⟨past, future, hsplit⟩ := List.append_of_mem hmem
  rw [hsplit]
  exact List.mem_append_left _ (h.lawful past .confirmed future hsplit).1

/-- Who marks the leases that the call has not marked. -/
theorem Base.weaken (h : Base config others s) {others' : RuntimeLease → Prop}
    (himp : ∀ lease, others lease → others' lease ∨ .marked lease ∈ events s) :
    Base config others' s :=
  ⟨h.serial, h.single, h.registry, h.running, h.ended, h.coherent, h.lawful, h.marks,
    fun lease hmem => (h.ours lease hmem).elim .inl fun h => (himp lease h).symm, h.handles⟩

/-- What does not depend on the call. -/
theorem Base.setCall (h : Base config others s) (call : Option CreationCall) :
    Base config others { s with call } :=
  ⟨h.serial, h.single, h.registry, h.running, h.ended, h.coherent, h.lawful, h.marks,
    h.ours, fun handle hmem => (h.handles handle hmem).imp fun _ h =>
      ⟨h.returned, h.registered, h.accepted⟩⟩

/-- Where the loop is says nothing of the call's other fields. -/
theorem loopSound_call {c : Option CreationCall} :
    LoopSound config { s with call := c } loop ↔ LoopSound config s loop := by
  cases loop <;> exact Iff.rfl

/-- Nor does the stage. -/
theorem stageSound_call {c : Option CreationCall} :
    StageSound config { s with call := c } call stage ↔ StageSound config s call stage := by
  have hregistered : ∀ {locator handle}, Registered config { s with call := c } locator handle ↔
      Registered config s locator handle :=
    ⟨fun h => ⟨h.returned, h.registered, h.accepted⟩,
      fun h => ⟨h.returned, h.registered, h.accepted⟩⟩
  cases stage with
  | leaving outcome =>
    cases outcome with
    | ok handle => exact and_congr_right' (and_congr_right' (and_congr_right'
        (exists_congr fun _ => hregistered)))
    | error error => exact Iff.rfl
  | _ => exact Iff.rfl

/-- The invariant, from its two parts. -/
theorem sound_of_callSound {call : Option CreationCall} (hbase : Base config others s)
    (hcall : s.call = call) (h : CallSound config s call) : Sound config others s := by
  subst hcall
  exact ⟨hbase, h⟩

/-- The invariant, with another state of the call. -/
theorem sound_of_call (call : CreationCall) (hbase : Base config others s)
    (hloop : LoopSound config s call.loop) (hstage : StageSound config s call call.stage) :
    Sound config others { s with call := some call } :=
  ⟨hbase.setCall _, loopSound_call.mpr hloop, stageSound_call.mpr hstage⟩

/-! ### Moves of the sessions -/

/-- A move of the sessions that starts no operation. -/
structure Moved (s s' : CreatorSystem) : Prop where
  scheduler : s'.scheduler = s.scheduler
  registry : s'.registry = s.registry
  aborted : Aborted s.pool.state → Aborted s'.pool.state
  rest : ∀ pending, Rest s.pool pending → Rest s'.pool pending
  grown : ∃ new, events s' = events s ++ new ∧ ∀ event ∈ new,
    event = .mutationAttempted ∨ event = .confirmed ∧ ¬ Aborted s.pool.state
  idle : Rest s.pool none → events s' = events s

section Moved

variable (h : Moved s s')
include h

/-- An event stays in the log. -/
theorem Moved.mem (hmem : event ∈ events s) : event ∈ events s' := by
  obtain ⟨new, hgrown, -⟩ := h.grown
  rw [hgrown]
  exact List.mem_append_left _ hmem

/-- A move adds that the UI was changed, or a confirmation while the signal is open. -/
theorem Moved.mem_cases (hmem : event ∈ events s') : event ∈ events s ∨
    event = .mutationAttempted ∨ event = .confirmed ∧ ¬ Aborted s.pool.state := by
  obtain ⟨new, hgrown, hnew⟩ := h.grown
  rw [hgrown] at hmem
  exact (List.mem_append.mp hmem).imp_right (hnew event)

/-- It settles nothing. -/
theorem Moved.unsettled (hunsettled : Unsettled s) : Unsettled s' := by
  intro outcome hmem
  rcases h.mem_cases hmem with hmem | habsurd | ⟨habsurd, -⟩
  · exact hunsettled outcome hmem
  · cases habsurd
  · cases habsurd

/-- It ends no callback. -/
theorem Moved.running (hrunning : Running s call) : Running s' call := by
  rw [Running, h.scheduler]
  exact hrunning

/-- It opens nothing that is closed. -/
theorem Moved.closed (hclosed : Closed s loop) : Closed s' loop :=
  hclosed.imp h.aborted fun hrest => ⟨h.rest none hrest.1, hrest.2⟩

/-- And confirms nothing where all is closed. -/
theorem Moved.confirmed (hclosed : Closed s loop) (hmem : .confirmed ∈ events s') :
    .confirmed ∈ events s := by
  rcases hclosed with haborted | ⟨hrest, -⟩
  · rcases h.mem_cases hmem with hmem | habsurd | ⟨-, hnot⟩
    · exact hmem
    · cases habsurd
    · exact absurd haborted hnot
  · rwa [h.idle hrest] at hmem

/-- What is registered stays registered. -/
theorem Moved.registered {locator : ProjectLocator} {handle : ProjectHandle}
    (hregistered : Registered config s locator handle) : Registered config s' locator handle :=
  ⟨h.mem hregistered.returned, h.registry ▸ hregistered.registered, hregistered.accepted⟩

/-- The loop is where it was. -/
theorem Moved.loopSound (hloop : LoopSound config s loop) : LoopSound config s' loop := by
  have hwaiting : Rest s.pool none ∧ .mutationAttempted ∉ events s →
      Rest s'.pool none ∧ .mutationAttempted ∉ events s' := fun ⟨hrest, hnot⟩ =>
    ⟨h.rest none hrest, h.idle hrest ▸ hnot⟩
  cases loop with
  | calling operation => exact h.rest _ hloop
  | finished outcome =>
    exact ⟨hloop.1.imp h.aborted (h.rest none), fun locator heq =>
      (hloop.2 locator heq).imp_left h.mem⟩
  | _ => exact hwaiting hloop

/-- The call is due what it was due. -/
theorem Moved.callSound {call : Option CreationCall} (hcall : CallSound config s call) :
    CallSound config s' call := by
  cases call with
  | none => exact ⟨(h.idle hcall.2).trans hcall.1, h.rest none hcall.2⟩
  | some call =>
    obtain ⟨hloop, hstage⟩ := hcall
    refine ⟨h.loopSound hloop, ?_⟩
    -- Each stage keeps its own due: the entry, the running callback, the outcome, the settled
    -- entry.
    cases hcase : call.stage with
    | queued =>
      rw [hcase] at hstage
      obtain ⟨hevents, hunstarted, entry, hentry, hawaiting, hsettled⟩ := hstage
      have hrest : Rest s.pool none := by
        rw [hunstarted] at hloop
        exact hloop.1
      exact ⟨(h.idle hrest).trans hevents, hunstarted, entry, hentry, h.scheduler ▸ hawaiting,
        h.scheduler ▸ hsettled⟩
    | racing lease =>
      rw [hcase] at hstage
      obtain ⟨hunsettled, hrunning, hstarted⟩ := hstage
      exact ⟨h.unsettled hunsettled, h.running hrunning, h.mem hstarted⟩
    | leaving outcome =>
      rw [hcase] at hstage
      obtain ⟨hunsettled, hrunning, hclosed, houtcome⟩ := hstage
      refine ⟨h.unsettled hunsettled, h.running hrunning, h.closed hclosed, ?_⟩
      cases outcome with
      | ok handle => exact houtcome.imp fun _ => h.registered
      | error error =>
        exact fun hmem => (houtcome (h.confirmed hclosed hmem)).imp fun _ hlease =>
          ⟨h.mem hlease.1, h.mem hlease.2⟩
    | settled =>
      rw [hcase] at hstage
      exact ⟨h.closed hstage.1, h.scheduler.symm ▸ hstage.2⟩

end Moved

/-- The pool moves as an operation does, while the call is open. -/
theorem Base.progress (h : Base config others s) {pool : CreationPool}
    (hrunning : Pool.Sound (fun _ => Later) (fun _ => Progress) (fun _ => Accepted config)
      (fun _ _ _ => True) pool)
    (hended : Pool.Ended (fun _ => Accepted config) (fun _ _ _ => True) pool)
    (hprogress : Progress s.pool.state pool.state) (hopen : Open s.pool.state) :
    Base config others { s with pool } := by
  have hcases : ∀ event ∈ pool.state.2, event ∈ events s ∨ event = .mutationAttempted ∨
      event = .confirmed := by
    intro event hmem
    obtain ⟨new, hgrown, hnew⟩ := hprogress.grown
    rw [hgrown] at hmem
    exact (List.mem_append.mp hmem).imp_right fun hmem => (hnew event hmem).imp_right And.left
  refine ⟨h.serial, h.single, h.registry, hrunning, hended, hprogress.coherent h.coherent,
    hprogress.lawful hopen h.lawful, fun lease hmem => ?_, fun lease hmem => ?_,
    fun handle hmem => ?_⟩
  · rcases hcases _ hmem with hmem | habsurd | habsurd
    · exact h.marks lease hmem
    · cases habsurd
    · cases habsurd
  · exact (h.ours lease hmem).imp_left fun hmem => hprogress.later.grown.subset hmem
  · rcases hcases _ hmem with hmem | habsurd | habsurd
    · exact (h.handles handle hmem).imp fun _ hregistered =>
        ⟨hprogress.later.grown.subset hregistered.returned, hregistered.registered,
          hregistered.accepted⟩
    · cases habsurd
    · cases habsurd

/-- A move of the sessions that the events do not see. -/
theorem Base.move (h : Base config others s) {f : CreationWorld → CreationWorld}
    (hevents : (f s.pool.state).2 = s.pool.state.2)
    (houter : (f s.pool.state).1.outer = s.pool.state.1.outer) :
    Base config others { s with pool := s.pool.move f } := by
  have hcoherent : Coherent s.pool.state → Coherent (f s.pool.state) := fun hcoherent => by
    rw [Coherent, hevents, houter]
    exact hcoherent
  have hlater : Later s.pool.state (f s.pool.state) :=
    ⟨hcoherent, hevents ▸ List.prefix_rfl⟩
  have hsame : events { s with pool := s.pool.move f } = events s := hevents
  refine ⟨h.serial, h.single, h.registry, h.running.move fun _ => hlater,
    h.ended.move (fun _ _ _ _ h _ => h) (fun _ _ _ _ h _ => h) fun _ => hlater,
    hcoherent h.coherent, hsame.symm ▸ h.lawful, hsame.symm ▸ h.marks, hsame.symm ▸ h.ours,
    fun handle hmem => ?_⟩
  rw [hsame] at hmem
  exact (h.handles handle hmem).imp fun _ hregistered =>
    ⟨hsame.symm ▸ hregistered.returned, hregistered.registered, hregistered.accepted⟩

/-- A move of the world that makes no event. -/
theorem moved_of_move {f : CreationWorld → CreationWorld}
    (hevents : (f s.pool.state).2 = s.pool.state.2)
    (haborted : Aborted s.pool.state → Aborted (f s.pool.state)) :
    Moved s { s with pool := s.pool.move f } where
  scheduler := rfl
  registry := rfl
  aborted := haborted
  rest _ hrest := hrest
  grown := ⟨[], hevents.trans (List.append_nil _).symm, fun _ h => by cases h⟩
  idle _ := hevents

/-- While something runs, or the loop has something to do, a call that has settled is aborted. -/
theorem Sound.open (h : Sound config others s)
    (hopen : ∀ call, s.call = some call → Closed s call.loop → Aborted s.pool.state) :
    Open s.pool.state := by
  intro outcome hmem
  have hcall := h.call
  cases hcase : s.call with
  | none =>
    rw [hcase] at hcall
    have hnone : s.pool.state.2 = [] := hcall.1
    rw [hnone] at hmem
    exact nomatch hmem
  | some call =>
    rw [hcase] at hcall
    obtain ⟨-, hstage⟩ := hcall
    cases hcases : call.stage with
    | queued =>
      rw [hcases] at hstage
      have hnone : s.pool.state.2 = [] := hstage.1
      rw [hnone] at hmem
      exact nomatch hmem
    | racing lease =>
      rw [hcases] at hstage
      exact absurd hmem (hstage.1 outcome)
    | leaving outcome' =>
      rw [hcases] at hstage
      exact absurd hmem (hstage.1 outcome)
    | settled =>
      rw [hcases] at hstage
      exact hopen call hcase hstage.1

/-- An answer of the client. -/
theorem Sound.answer (h : Sound config others s) (operation : ℕ)
    (answers : ∀ request, Option (SessionRequest.Answer request)) :
    Sound config others { s with pool := s.pool.resume operation answers } := by
  by_cases hrest : Rest s.pool none
  · rw [hrest.resume_eq]
    exact h
  have hrely : ∀ (position other : ℕ) (s s' : CreationWorld), position ≠ other → Progress s s' →
      Later s s' := fun _ _ _ _ _ hprogress => hprogress.later
  obtain ⟨hrunning, hprogress⟩ := h.base.running.resume hrely operation answers
  have hended := h.base.ended.resume (fun _ _ _ _ h _ => h) (fun _ _ _ _ h _ => h) h.base.running
    hrely operation answers
  have hopen : Open s.pool.state := h.open fun call _ hclosed =>
    hclosed.resolve_right fun hclosed => hrest hclosed.1
  have hmoved : Moved s { s with pool := s.pool.resume operation answers } :=
    { scheduler := rfl
      registry := rfl
      aborted := hprogress.open_iff.mpr
      rest := fun _ hrest => hrest.resume operation answers
      grown := hprogress.grown
      idle := fun habsurd => absurd habsurd hrest }
  exact ⟨h.base.progress hrunning hended hprogress hopen, hmoved.callSound h.call⟩

/-- A change of a session. -/
theorem Sound.session (h : Sound config others s) (session : SessionId)
    (f : SessionFields → SessionFields) : Sound config others { s with
      pool := s.pool.move fun world => (setFields session f world.1, world.2) } :=
  ⟨h.base.move rfl rfl, (moved_of_move rfl fun haborted => haborted).callSound h.call⟩

/-- An abort of the signal of `withTimeout`. -/
theorem Sound.abortDeadline (h : Sound config others s) (reason : ThrownError) :
    Sound config others (abortDeadline s reason) := by
  have houter : (abort deadlineSignal (some reason) s.pool.state.1).outer =
      s.pool.state.1.outer := by
    rcases abort_cases deadlineSignal (some reason) s.pool.state.1 with ⟨hsame, -⟩ | habort
    · rw [hsame]
    · rw [habort]
  have haborted : Aborted s.pool.state →
      Aborted (abort deadlineSignal (some reason) s.pool.state.1, s.pool.state.2) := by
    intro haborted
    rcases abort_cases deadlineSignal (some reason) s.pool.state.1 with ⟨hsame, -⟩ | habort
    · rwa [hsame]
    · rw [habort, Aborted, List.lookup_append, Option.isSome_or, show _ = true from haborted,
        Bool.true_or]
  exact ⟨h.base.move rfl houter, (moved_of_move rfl haborted).callSound h.call⟩

end Moves

/-! ## The loop -/

section Loop

variable {config : CreatorConfig} {others : RuntimeLease → Prop} {s : CreatorSystem}
  {call : CreationCall} {loop : CreationLoop} {stage : CreationStage} {event : CreationEvent}

/-- An event of the call itself. -/
theorem Base.recorded (h : Base config others s) (event : CreationEvent)
    (hallowed : Allowed (events s) event)
    (hattempted : event ≠ .mutationAttempted)
    (hmarked : ∀ lease, event = .marked lease → .markedUncertain lease ∈ s.scheduler.log)
    (hsettled : ∀ handle, event = .settled (.ok handle) →
      ∃ locator, Registered config s locator handle) : Base config others (record s event) := by
  have hcoherent : Coherent s.pool.state → Coherent (record s event).pool.state := fun hcoherent =>
    hcoherent.trans ⟨List.mem_append_left _, fun hmem => (List.mem_append.mp hmem).resolve_right
      fun hmem => hattempted (List.mem_singleton.mp hmem).symm⟩
  have hlater : Later s.pool.state (record s event).pool.state :=
    ⟨hcoherent, List.prefix_append _ _⟩
  have hregistered : ∀ {handle}, (∃ locator, Registered config s locator handle) →
      ∃ locator, Registered config (record s event) locator handle := fun h =>
    h.imp fun _ h => ⟨List.mem_append_left _ h.returned, h.registered, h.accepted⟩
  have hrunning := h.running.move (f := fun world => (world.1, world.2 ++ [event])) fun _ => hlater
  have hended := h.ended.move (f := fun world => (world.1, world.2 ++ [event]))
    (fun _ _ _ _ h _ => h) (fun _ _ _ _ h _ => h) fun _ => hlater
  refine ⟨h.serial, h.single, h.registry, hrunning, hended, hcoherent h.coherent,
    Trace.lawful_snoc.mpr ⟨h.lawful, hallowed⟩, fun lease hmem => ?_,
    fun lease hmem => (h.ours lease hmem).imp_left (List.mem_append_left _), fun handle hmem => ?_⟩
  · rcases List.mem_append.mp hmem with hmem | hmem
    · exact h.marks lease hmem
    · exact hmarked lease (List.mem_singleton.mp hmem).symm
  · rcases List.mem_append.mp hmem with hmem | hmem
    · exact hregistered (h.handles handle hmem)
    · exact hregistered (hsettled handle (List.mem_singleton.mp hmem).symm)

/-- An event that is no settlement. -/
theorem unsettled_record (h : Unsettled s) (hevent : ∀ outcome, event ≠ .settled outcome) :
    Unsettled (record s event) := by
  intro outcome hmem
  rcases List.mem_append.mp hmem with hmem | hmem
  · exact h outcome hmem
  · exact hevent outcome (List.mem_singleton.mp hmem).symm

/-- An event that is no attempt leaves the loop where it is. -/
theorem loopSound_record (h : LoopSound config s loop) (hattempted : event ≠ .mutationAttempted) :
    LoopSound config (record s event) loop := by
  have hwaiting : Rest s.pool none ∧ .mutationAttempted ∉ events s →
      Rest s.pool none ∧ .mutationAttempted ∉ events (record s event) := fun ⟨hrest, hnot⟩ =>
    ⟨hrest, fun hmem => (List.mem_append.mp hmem).elim hnot fun hmem =>
      hattempted (List.mem_singleton.mp hmem).symm⟩
  cases loop with
  | calling operation => exact h
  | finished outcome =>
    exact ⟨h.1, fun locator heq => (h.2 locator heq).imp_left (List.mem_append_left _)⟩
  | _ => exact hwaiting h

/-- An event of the loop changes nothing about where the call is. -/
theorem stageSound_record (event : CreationEvent) (h : StageSound config s call stage)
    (hactive : Active call.loop)
    (hsettled : ∀ outcome, event ≠ .settled outcome) (hconfirmed : event ≠ .confirmed) :
    StageSound config (record s event) call stage := by
  have hmem : ∀ {e}, e ∈ events s → e ∈ events (record s event) := List.mem_append_left _
  cases stage with
  | queued =>
    obtain ⟨-, hloop, -⟩ := h
    rw [hloop] at hactive
    exact hactive.elim
  | racing lease => exact ⟨unsettled_record h.1 hsettled, h.2.1, hmem h.2.2⟩
  | leaving outcome =>
    obtain ⟨hunsettled, hrunning, hclosed, houtcome⟩ := h
    refine ⟨unsettled_record hunsettled hsettled, hrunning, hclosed, ?_⟩
    cases outcome with
    | ok handle =>
      exact houtcome.imp fun _ h => ⟨hmem h.returned, h.registered, h.accepted⟩
    | error error =>
      intro hconfirm
      rcases List.mem_append.mp hconfirm with hconfirm | hconfirm
      · exact (houtcome hconfirm).imp fun _ h => ⟨hmem h.1, hmem h.2⟩
      · exact absurd (List.mem_singleton.mp hconfirm).symm hconfirmed
  | settled => exact h

/-- The loop moves on. -/
theorem stageSound_loop (h : StageSound config s call stage) (hactive : Active call.loop) :
    StageSound config s { call with loop } stage := by
  have hclosed : Closed s call.loop → Closed s loop := fun h =>
    .inl (h.resolve_right fun h => h.2 hactive)
  cases stage with
  | queued =>
    obtain ⟨-, hloop, -⟩ := h
    rw [hloop] at hactive
    exact hactive.elim
  | racing lease => exact h
  | leaving outcome => exact ⟨h.1, h.2.1, hclosed h.2.2.1, h.2.2.2⟩
  | settled => exact ⟨hclosed h.1, h.2⟩

/-- The loop goes on, and the call with it. -/
theorem Base.looped (h : Base config others s) (hstage : StageSound config s call call.stage)
    (hactive : Active call.loop) (hloop : LoopSound config s loop) :
    Sound config others (setLoop s call loop) :=
  sound_of_call { call with loop } h hloop (stageSound_loop hstage hactive)

/-- The `catch` in the loop, with nothing left that runs or after an abort. -/
theorem Base.caught (h : Base config others s) (hstage : StageSound config s call call.stage)
    (hactive : Active call.loop) (hquiet : Aborted s.pool.state ∨ Rest s.pool none)
    (error : ThrownError) : Sound config others (catchError s call error) := by
  have hfinished : ∀ error, LoopSound config s (.finished (.error error)) := fun _ =>
    ⟨hquiet, fun _ habsurd => nomatch habsurd⟩
  unfold catchError
  split
  · exact h.looped hstage hactive (hfinished error)
  rename_i hretry
  split
  · exact h.looped hstage hactive (hfinished _)
  rename_i hnone
  rw [Bool.or_eq_true, not_or] at hretry
  have hopen : ¬ Aborted s.pool.state := fun haborted => by
    obtain ⟨reason, hreason⟩ := aborted_iff.mp haborted
    rw [hnone] at hreason
    cases hreason
  exact h.looped hstage hactive
    ⟨hquiet.resolve_left hopen, fun hattempted => hretry.1 (h.coherent.mpr hattempted)⟩

/-- The loop calls `createProjectThroughUi`, where the mutation was not attempted. -/
theorem Base.called (h : Base config others s) (hstage : StageSound config s call call.stage)
    (hactive : Active call.loop) (hrest : Rest s.pool none)
    (hattempted : .mutationAttempted ∉ events s) : Sound config others (callUi s call) := by
  have hrecord : Base config others (record s .called) :=
    h.recorded .called hattempted (fun h => nomatch h) (fun _ h => nomatch h) fun _ h => nomatch h
  have hstage' := stageSound_record .called hstage hactive (fun _ h => nomatch h)
    fun h => nomatch h
  refine hrecord.looped hstage' hactive ⟨hrest, fun hmem => ?_⟩
  rcases List.mem_append.mp hmem with hmem | hmem
  · exact hattempted hmem
  · exact nomatch List.mem_singleton.mp hmem

/-- The operation starts, where the signal is not aborted. -/
theorem Base.admitted (h : Base config others s) (hstage : StageSound config s call call.stage)
    (hactive : Active call.loop) (hrest : Rest s.pool none)
    (outcome : Except ThrownError SessionId) :
    Sound config others (enter config s call outcome) := by
  unfold enter
  split
  · exact h.caught hstage hactive (.inr hrest) _
  rename_i session
  split
  · exact h.caught hstage hactive (.inr hrest) _
  rename_i hnone
  -- no reason was found, so the signal is open and the call has not been closed
  have hopen : ¬ Aborted s.pool.state := fun haborted => by
    obtain ⟨reason, hreason⟩ := aborted_iff.mp haborted
    rw [hnone] at hreason
    cases hreason
  have hnotClosed : ¬ Closed s call.loop := fun hclosed =>
    hclosed.elim hopen fun hclosed => hclosed.2 hactive
  -- a callback that enters is racing: in the other stages there is nothing for the loop to do
  obtain ⟨lease, hracing⟩ : ∃ lease, call.stage = .racing lease := by
    cases hcase : call.stage with
    | queued =>
      rw [hcase] at hstage
      rw [hstage.2.1] at hactive
      exact hactive.elim
    | racing lease => exact ⟨lease, rfl⟩
    | leaving outcome =>
      rw [hcase] at hstage
      exact absurd hstage.2.2.1 hnotClosed
    | settled =>
      rw [hcase] at hstage
      exact absurd hstage.1 hnotClosed
  rw [hracing] at hstage
  obtain ⟨hunsettled, hrunning, hstarted⟩ := hstage
  have hrely : ∀ (position other : ℕ) (s s' : CreationWorld), position ≠ other → Progress s s' →
      Later s s' := fun _ _ _ _ _ hprogress => hprogress.later
  have hspec := uiOperation_spec s.pool.running.length config session call.name
    h.coherent
  obtain ⟨hsound, hprogress⟩ := h.running.start hrely hspec
  have hended := h.ended.start (fun _ _ _ _ h _ => h) (fun _ _ _ _ h _ => h) hrely hspec
  have hopenLog : Open s.pool.state := fun outcome hmem => absurd hmem (hunsettled outcome)
  refine sound_of_call { call with loop := .calling s.pool.running.length }
    (h.progress hsound hended hprogress hopenLog) (hrest.start _) ?_
  rw [hracing]
  exact ⟨fun outcome hmem => hunsettled outcome (hprogress.mem_settled hmem), hrunning,
    hprogress.later.grown.subset hstarted⟩

/-- The operation is over, and the manager checks again. -/
theorem Base.completed (h : Base config others s) (hstage : StageSound config s call call.stage)
    (hactive : Active call.loop) {operation : ℕ} {outcome : Except ThrownError ProjectLocator}
    (hrest : Rest s.pool (some operation))
    (hover : s.pool.running[operation]? = some (.done outcome)) (check : Except ThrownError Unit) :
    Sound config others (completeUi s call check outcome) := by
  have hnone := hrest.over hover
  unfold completeUi
  split
  · exact h.caught hstage hactive (.inr hnone) _
  rename_i locator
  split
  · exact h.caught hstage hactive (.inr hnone) _
  · exact h.caught hstage hactive (.inr hnone) _
  have hrecord : Base config others (record s (.returned locator)) :=
    h.recorded _ trivial (fun h => nomatch h) (fun _ h => nomatch h) fun _ h => nomatch h
  have hstage' := stageSound_record (.returned locator) hstage hactive
    (fun _ h => nomatch h) fun h => nomatch h
  refine hrecord.looped hstage' hactive ⟨.inr hnone, fun found heq => ?_⟩
  cases heq
  exact ⟨List.mem_append_right _ List.mem_cons_self, h.ended.returned operation locator hover⟩

end Loop

/-! ## The scheduler -/

section Scheduler

variable {config : CreatorConfig} {others : RuntimeLease → Prop} {s : CreatorSystem}
  {t : SchedulerSystem ProjectHandle} {new : List (SchedulerEvent ProjectHandle)}
  {call : CreationCall} {loop : CreationLoop}
  {entry : ℕ}

/-- A callback that runs is not started again, and its promise does not settle. -/
theorem findSome?_of_running (ht : SchedulerSystem.Serial t)
    (hnews : SchedulerSystem.News s.scheduler t new) (hawaiting : .awaiting entry ∈ t.drains)
    (hstarted : entry ∈ startedIds s.scheduler.log) : new.findSome? (ownEvent? entry) = none := by
  refine List.findSome?_eq_none_iff.mpr fun event hmem => ?_
  cases event with
  | started id lease =>
    refine if_neg ?_
    rintro rfl
    have hsorted := SchedulerSystem.startedIds_sorted ht.started_law
    rw [hnews.log, SchedulerSystem.startedIds_append, List.pairwise_append] at hsorted
    exact Nat.lt_irrefl _ (hsorted.2.2 id hstarted id (List.mem_filterMap.mpr ⟨_, hmem, rfl⟩))
  | settled id outcome =>
    refine if_neg ?_
    rintro rfl
    have hsettled : id ∈ settledIds t.log := by
      rw [hnews.log]
      exact List.mem_filterMap.mpr ⟨_, List.mem_append_right _ hmem, rfl⟩
    have hopen := (ht.awaited id hawaiting).2.2
    rw [((ht.settled_log id).mp hsettled).2] at hopen
    cases hopen
  | _ => rfl

/-- Neither does anything happen to an entry that has settled. -/
theorem findSome?_of_settled (ht : SchedulerSystem.Serial t)
    (hnews : SchedulerSystem.News s.scheduler t new)
    (hsettled : entry ∈ settledIds s.scheduler.log) : new.findSome? (ownEvent? entry) = none := by
  refine List.findSome?_eq_none_iff.mpr fun event hmem => ?_
  cases event with
  | started id lease =>
    refine if_neg ?_
    rintro rfl
    have hopen := (ht.awaited id (hnews.started id lease hmem)).2.2
    have hmem : id ∈ settledIds t.log := by
      rw [hnews.log, SchedulerSystem.settledIds_append]
      exact List.mem_append_left _ hsettled
    rw [((ht.settled_log id).mp hmem).2] at hopen
    cases hopen
  | settled id outcome =>
    refine if_neg ?_
    rintro rfl
    have honce := ht.settled_once
    rw [hnews.log, SchedulerSystem.settledIds_append, List.nodup_append] at honce
    exact honce.2.2 id hsettled id (List.mem_filterMap.mpr ⟨_, hmem, rfl⟩) rfl
  | _ => rfl

/-- The scheduler has said nothing about the entry of the call. -/
theorem follow_of_none (hlog : t.log = s.scheduler.log ++ new) (hcall : s.call = some call)
    (hown : ∀ entry, call.entry = some entry → new.findSome? (ownEvent? entry) = none) :
    follow s t = { s with scheduler := t } := by
  have hnone : (call.entry.bind fun entry => new.findSome? (ownEvent? entry)) = none := by
    cases hentry : call.entry with
    | none => rfl
    | some entry => exact hown entry hentry
  simp only [follow, hlog, List.drop_left, hcall, hnone]

/-- It has started the entry. -/
theorem follow_of_started (hlog : t.log = s.scheduler.log ++ new) (hcall : s.call = some call)
    (hentry : call.entry = some entry) {lease : RuntimeLease}
    (hown : new.findSome? (ownEvent? entry) = some (.started lease)) :
    follow s t = { record { s with scheduler := t } (.started lease) with
      call := some { call with stage := .racing lease, loop := .due } } := by
  simp only [follow, hlog, List.drop_left, hcall, hentry, Option.bind_some, hown]

/-- It has settled it. -/
theorem follow_of_settled (hlog : t.log = s.scheduler.log ++ new) (hcall : s.call = some call)
    (hentry : call.entry = some entry) {outcome : Except ThrownError ProjectHandle}
    (hown : new.findSome? (ownEvent? entry) = some (.settled outcome)) :
    follow s t = { record { s with scheduler := t } (.settled outcome) with
      call := some { call with stage := .settled } } := by
  simp only [follow, hlog, List.drop_left, hcall, hentry, Option.bind_some, hown]

/-- The scheduler moves. -/
theorem Base.scheduled (h : Base config others s) (hserial : SchedulerSystem.Serial t)
    (hsingle : SchedulerSystem.Single t) (hlog : t.log = s.scheduler.log ++ new)
    (hmarks : ∀ lease, .markedUncertain lease ∈ t.log →
      .markedUncertain lease ∈ s.scheduler.log ∨ others lease) :
    Base config others { s with scheduler := t } := by
  refine ⟨hserial, hsingle, h.registry, h.running, h.ended, h.coherent, h.lawful,
    fun lease hmem => ?_, fun lease hmem => (hmarks lease hmem).elim (h.ours lease) .inr,
    fun handle hmem => ?_⟩
  · show _ ∈ t.log
    rw [hlog]
    exact List.mem_append_left _ (h.marks lease hmem)
  · exact (h.handles handle hmem).imp fun _ h => ⟨h.returned, h.registered, h.accepted⟩

/-- The loop is not about the scheduler. -/
theorem loopSound_scheduler : LoopSound config { s with scheduler := t } loop ↔
    LoopSound config s loop := by
  cases loop <;> exact Iff.rfl

/-- A registration. -/
theorem Base.registered (h : Base config others s) {registry : ProjectRegistrySystem}
    {registration : String × ThreadHandleFactory}
    (hstep : s.registry.step config.platform registration = some registry) :
    Base config others { s with registry } := by
  have hgrown := ProjectRegistrySystem.registered_step hstep
  refine ⟨h.serial, h.single, h.registry.step hstep, h.running, h.ended, h.coherent, h.lawful,
    h.marks, h.ours, fun handle hmem => ?_⟩
  exact (h.handles handle hmem).imp fun _ h => ⟨h.returned, hgrown h.registered, h.accepted⟩

/-- Nor about the registry. -/
theorem loopSound_registry {registry : ProjectRegistrySystem} :
    LoopSound config { s with registry } loop ↔ LoopSound config s loop := by
  cases loop <;> exact Iff.rfl

/-- The registry only grows, so what was registered is. -/
theorem stageSound_registry {registry : ProjectRegistrySystem}
    {registration : String × ThreadHandleFactory} {stage : CreationStage}
    (hstep : s.registry.step config.platform registration = some registry)
    (h : StageSound config s call stage) : StageSound config { s with registry } call stage := by
  cases stage with
  | leaving outcome =>
    cases outcome with
    | ok handle =>
      exact ⟨h.1, h.2.1, h.2.2.1, h.2.2.2.imp fun _ h =>
        ⟨h.returned, ProjectRegistrySystem.registered_step hstep h.registered, h.accepted⟩⟩
    | error error => exact h
  | _ => exact h

/-- The scheduler makes a step while the entry of the call waits in its queue. -/
theorem Base.followed_queued (h : Base config others s) (call : CreationCall) (entry : ℕ)
    (hserial : SchedulerSystem.Serial t)
    (hsingle : SchedulerSystem.Single t) (hnews : SchedulerSystem.News s.scheduler t new)
    (hmarks : ∀ lease, .markedUncertain lease ∈ t.log →
      .markedUncertain lease ∈ s.scheduler.log ∨ others lease)
    (hcall : s.call = some call) (hstage : call.stage = .queued) (hevents : events s = [])
    (hrest : Rest s.pool none) (hloop : call.loop = .unstarted) (hentry : call.entry = some entry)
    (hawaiting : .awaiting entry ∉ s.scheduler.drains)
    (hsettled : entry ∉ settledIds s.scheduler.log) : Sound config others (follow s t) := by
  have hbase := h.scheduled hserial hsingle hnews.log hmarks
  have hnil : ∀ event, event ∉ events s := fun event hmem => by
    rw [hevents] at hmem
    cases hmem
  cases hfind : new.findSome? (ownEvent? entry) with
  | none =>
    have hnone : ∀ event ∈ new, ownEvent? entry event = none := List.findSome?_eq_none_iff.mp hfind
    rw [follow_of_none hnews.log hcall fun other hother =>
      Option.some.inj (hentry.symm.trans hother) ▸ hfind]
    refine sound_of_callSound hbase hcall ⟨?_, ?_⟩
    · rw [hloop]
      exact ⟨hrest, hnil _⟩
    rw [hstage]
    refine ⟨hevents, hloop, entry, hentry, fun hmem => ?_, fun hmem => ?_⟩
    · rcases hnews.awaiting entry hmem with hmem | ⟨lease, hmem⟩
      · exact hawaiting hmem
      · cases (if_pos rfl).symm.trans (hnone _ hmem)
    · have hnew : entry ∈ settledIds s.scheduler.log ++ settledIds new := by
        rw [← SchedulerSystem.settledIds_append, ← hnews.log]
        exact hmem
      obtain ⟨event, hmem, hevent⟩ :=
        List.mem_filterMap.mp ((List.mem_append.mp hnew).resolve_left hsettled)
      cases event with
      | settled id outcome =>
        cases hevent
        cases (if_pos rfl).symm.trans (hnone _ hmem)
      | _ => cases hevent
  | some own =>
    obtain ⟨event, hmem, hown⟩ := List.exists_of_findSome?_eq_some hfind
    cases event with
    | started id lease =>
      rw [ownEvent?] at hown
      split at hown
      swap
      · cases hown
      rename_i hid
      subst hid
      cases hown
      rw [follow_of_started hnews.log hcall hentry hfind]
      have hrecord : Base config others (record { s with scheduler := t } (.started lease)) :=
        hbase.recorded _ hevents (fun h => by cases h) (fun _ h => by cases h) fun _ h => by cases h
      have hstartedLog : id ∈ startedIds t.log := by
        rw [hnews.log]
        exact List.mem_filterMap.mpr ⟨_, List.mem_append_right _ hmem, rfl⟩
      refine sound_of_call { call with stage := .racing lease, loop := .due } hrecord
        ⟨hrest, fun hmem => ?_⟩ ⟨?_, ?_, List.mem_append_right _ List.mem_cons_self⟩
      · rcases List.mem_append.mp hmem with hmem | hmem
        · exact hnil _ hmem
        · cases List.mem_singleton.mp hmem
      · exact unsettled_record (fun outcome => hnil _) fun _ h => by cases h
      · exact ⟨id, hentry, hnews.started id lease hmem, hstartedLog⟩
    | settled id outcome =>
      rw [ownEvent?] at hown
      split at hown
      swap
      · cases hown
      rename_i hid
      subst hid
      cases hown
      rw [follow_of_settled hnews.log hcall hentry hfind]
      -- only a callback that runs returns
      have herror : ∃ error, outcome = .error error := by
        cases outcome with
        | ok handle => exact absurd (hnews.returned id handle hmem) hawaiting
        | error error => exact ⟨error, rfl⟩
      obtain ⟨error, rfl⟩ := herror
      have hrecord : Base config others
          (record { s with scheduler := t } (.settled (.error error))) := by
        refine hbase.recorded _ ⟨fun outcome => hnil _, fun hmem => absurd hmem (hnil _)⟩
          (fun h => by cases h) (fun _ h => by cases h) fun _ h => by cases h
      have hsettledLog : id ∈ settledIds t.log := by
        rw [hnews.log]
        exact List.mem_filterMap.mpr ⟨_, List.mem_append_right _ hmem, rfl⟩
      refine sound_of_call { call with stage := .settled } hrecord ?_
        ⟨.inr ⟨hrest, ?_⟩, fun other hother => ?_⟩
      · show LoopSound config _ call.loop
        rw [hloop]
        refine ⟨hrest, fun hmem => ?_⟩
        rcases List.mem_append.mp hmem with hmem | hmem
        · exact hnil _ hmem
        · cases List.mem_singleton.mp hmem
      · show ¬ Active call.loop
        rw [hloop]
        exact fun h => h
      · cases hentry.symm.trans hother
        exact hsettledLog
    | _ => cases hown

/-- The scheduler makes a step that does not end the callback of the call. -/
theorem Sound.followed (h : Sound config others s) (input : SchedulerInput ProjectHandle)
    (hstep : s.scheduler.step input = some t) (hown : completesOwn s input = false)
    (hothers : ∀ lease, input = .markRuntimeMutationStateUncertain lease → others lease) :
    Sound config others (follow s t) := by
  obtain ⟨new, hnews⟩ := SchedulerSystem.step_news hstep
  obtain ⟨hserial, hsingle⟩ := h.base.serial.step h.base.single hstep
  have hmarks : ∀ lease, .markedUncertain lease ∈ t.log →
      .markedUncertain lease ∈ s.scheduler.log ∨ others lease := fun lease hmem =>
    (SchedulerSystem.marked_step hstep hmem).imp_right (hothers lease)
  have hbase := h.base.scheduled hserial hsingle hnews.log hmarks
  have hcallSound := h.call
  cases hcall : s.call with
  | none =>
    have hfollow : follow s t = { s with scheduler := t } := by simp only [follow, hcall]
    rw [hfollow]
    rw [hcall] at hcallSound
    exact sound_of_callSound hbase hcall hcallSound
  | some call =>
    rw [hcall] at hcallSound
    obtain ⟨hloop, hstage⟩ := hcallSound
    -- a callback that runs is not settled by anybody else: its drain is still waiting for it
    have hrunning : Running s call → Running { s with scheduler := t } call ∧
        ∀ entry, call.entry = some entry → new.findSome? (ownEvent? entry) = none := by
      rintro ⟨entry, hentry, hawaiting, hstarted⟩
      have hstill : .awaiting entry ∈ t.drains := by
        refine (SchedulerSystem.awaiting_step hstep hawaiting).resolve_right ?_
        rintro ⟨frame, outcome, rfl, hframe⟩
        rw [completesOwn, hcall, Option.any_some, hentry, Option.any_some, hframe] at hown
        exact Bool.false_ne_true (hown.symm.trans (beq_self_eq_true _))
      refine ⟨⟨entry, hentry, hstill, ?_⟩, fun other hother => ?_⟩
      · rw [hnews.log, SchedulerSystem.startedIds_append]
        exact List.mem_append_left _ hstarted
      · cases hentry.symm.trans hother
        exact findSome?_of_running hserial hnews hstill hstarted
    have hquiet : (∀ entry, call.entry = some entry → new.findSome? (ownEvent? entry) = none) →
        StageSound config { s with scheduler := t } call call.stage →
        Sound config others (follow s t) := by
      intro hnone hstage'
      rw [follow_of_none hnews.log hcall hnone]
      exact sound_of_callSound hbase hcall ⟨loopSound_scheduler.mpr hloop, hstage'⟩
    -- a call that is queued may be started now; in the other stages the scheduler has nothing to
    -- say to it
    cases hcase : call.stage with
    | queued =>
      rw [hcase] at hstage
      obtain ⟨hevents, hunstarted, entry, hentry, hawaiting, hsettled⟩ := hstage
      rw [hunstarted] at hloop
      exact h.base.followed_queued call entry hserial hsingle hnews hmarks hcall hcase hevents
        hloop.1 hunstarted hentry hawaiting hsettled
    | racing lease =>
      rw [hcase] at hstage
      obtain ⟨hrun, hnone⟩ := hrunning hstage.2.1
      refine hquiet hnone ?_
      rw [hcase]
      exact ⟨hstage.1, hrun, hstage.2.2⟩
    | leaving outcome =>
      rw [hcase] at hstage
      obtain ⟨hrun, hnone⟩ := hrunning hstage.2.1
      refine hquiet hnone ?_
      rw [hcase]
      refine ⟨hstage.1, hrun, hstage.2.2.1, ?_⟩
      cases outcome with
      | ok handle =>
        exact hstage.2.2.2.imp fun _ h => ⟨h.returned, h.registered, h.accepted⟩
      | error error => exact hstage.2.2.2
    | settled =>
      rw [hcase] at hstage
      refine hquiet (fun entry hentry =>
        findSome?_of_settled hserial hnews (hstage.2 entry hentry)) ?_
      rw [hcase]
      refine ⟨hstage.1, fun entry hentry => ?_⟩
      rw [hnews.log, SchedulerSystem.settledIds_append]
      exact List.mem_append_left _ (hstage.2 entry hentry)

end Scheduler

/-! ## The call -/

section Call

variable {config : CreatorConfig} {others : RuntimeLease → Prop} {s s' : CreatorSystem}
  {call : CreationCall}

/-- An abort of the caller's signal. -/
theorem Sound.followAbort (h : Sound config others s) (input : SchedulerInput ProjectHandle) :
    Sound config others (followAbort s input) := by
  unfold ProjectCreator.followAbort
  split
  · split
    · split
      · exact h.abortDeadline _
      · exact h
    · exact h
  · exact h

/-- An abort that follows the signal is no move of the scheduler. -/
theorem followAbort_scheduler (input : SchedulerInput ProjectHandle) :
    (followAbort s input).scheduler = s.scheduler ∧ (followAbort s input).call = s.call := by
  unfold followAbort
  split
  · split
    · split
      · exact ⟨rfl, rfl⟩
      · exact ⟨rfl, rfl⟩
    · exact ⟨rfl, rfl⟩
  · exact ⟨rfl, rfl⟩

/-- A call that is refused has done nothing else. -/
theorem Base.refused (h : Base config others s) (hevents : events s = []) (hrest : Rest s.pool none)
    (error : ThrownError) (name : Text) (signal : Option SignalId) :
    Sound config others { record s (.settled (.error error)) with
      call := some { entry := none, name, signal, stage := .settled } } := by
  have hnil : ∀ event, event ∉ events s := fun event hmem => by
    rw [hevents] at hmem
    cases hmem
  have hrecord : Base config others (record s (.settled (.error error))) :=
    h.recorded _ ⟨fun outcome => hnil _, fun hmem => absurd hmem (hnil _)⟩ (fun h => by cases h)
      (fun _ h => by cases h) fun _ h => by cases h
  refine sound_of_call { entry := none, name, signal, stage := .settled } hrecord
    ⟨hrest, fun hmem => ?_⟩ ⟨.inr ⟨hrest, fun h => h⟩, fun _ h => by cases h⟩
  rcases List.mem_append.mp hmem with hmem | hmem
  · exact hnil _ hmem
  · cases List.mem_singleton.mp hmem

/-- A new call is queued, or rejected at once. -/
theorem Sound.created (h : Sound config others s) (hcall : s.call = none) {name : Text}
    {signal : Option SignalId} (hcreate : create config s name signal = some s') :
    Sound config others s' := by
  obtain ⟨hevents, hrest⟩ : CallSound config s none := hcall ▸ h.call
  unfold create at hcreate
  dsimp only at hcreate
  split at hcreate
  · cases hcreate
    exact h.base.refused hevents hrest _ name signal
  obtain ⟨t, hstep, rfl⟩ := Option.map_eq_some_iff.mp hcreate
  obtain ⟨new, hnews⟩ := SchedulerSystem.step_news hstep
  obtain ⟨hserial, hsingle⟩ := h.base.serial.step h.base.single hstep
  have hmarks : ∀ lease, .markedUncertain lease ∈ t.log →
      .markedUncertain lease ∈ s.scheduler.log ∨ others lease := fun lease hmem =>
    (SchedulerSystem.marked_step hstep hmem).imp_right fun habsurd => nomatch habsurd
  split
  · exact (h.base.scheduled hserial hsingle hnews.log hmarks).refused hevents hrest _ name signal
  rename_i validatedName _ _ _ _
  refine (h.base.setCall _).followed_queued
    { entry := some s.scheduler.scheduled, name := validatedName, signal } s.scheduler.scheduled
    hserial hsingle hnews hmarks rfl rfl hevents hrest rfl rfl (fun hmem => ?_) fun hmem => ?_
  · exact Nat.lt_irrefl _ (h.base.serial.awaited _ hmem).1
  · exact Nat.lt_irrefl _ ((h.base.serial.settled_log _).mp hmem).1

/-- The callback throws, and marks the lease where the mutation was attempted. -/
theorem Base.failed (h : Base config others s) (hloop : LoopSound config s call.loop)
    {lease : RuntimeLease} (hracing : StageSound config s call (.racing lease))
    (hclosed : Closed s call.loop) {error : ThrownError}
    (hfail : fail s call lease error = some s') : Sound config others s' := by
  obtain ⟨hunsettled, hrunning, hstarted⟩ := hracing
  unfold fail at hfail
  dsimp only at hfail
  split at hfail
  · rename_i houter
    obtain ⟨t, hstep, rfl⟩ := Option.map_eq_some_iff.mp hfail
    obtain ⟨hserial, hsingle⟩ := h.serial.step h.single hstep
    cases hstep
    -- until it is recorded, the mark is as if it were another's
    have hothers : Base config (fun other => others other ∨ other = lease) s :=
      h.weaken fun _ h => .inl (.inl h)
    have hbase := hothers.scheduled hserial hsingle rfl fun other hmem => by
      rcases List.mem_append.mp hmem with hmem | hmem
      · exact .inl hmem
      · cases List.mem_singleton.mp hmem
        exact .inr (.inr rfl)
    have hrecord := hbase.recorded (.marked lease)
      ⟨h.coherent.mp houter, hstarted, hunsettled⟩ (fun h => nomatch h)
      (fun _ heq => by
        cases heq
        exact List.mem_append_right _ List.mem_cons_self)
      fun _ h => nomatch h
    have hmine : Base config others (record { s with scheduler := _ } (.marked lease)) :=
      hrecord.weaken fun other h => h.imp_right fun heq => by
        rw [heq]
        exact List.mem_append_right _ List.mem_cons_self
    refine sound_of_call { call with stage := .leaving (.error (creationError error)) }
      hmine ?_ ⟨?_, ?_, hclosed, fun _ => ⟨lease, ?_, ?_⟩⟩
    · exact loopSound_record (loopSound_scheduler.mpr hloop) fun h => nomatch h
    · exact unsettled_record hunsettled fun _ h => nomatch h
    · obtain ⟨entry, hentry, hawaiting, hlog⟩ := hrunning
      refine ⟨entry, hentry, hawaiting, ?_⟩
      show entry ∈ startedIds (s.scheduler.log ++ [.markedUncertain lease])
      rw [SchedulerSystem.startedIds_append]
      exact List.mem_append_left _ hlog
    · exact List.mem_append_left _ hstarted
    · exact List.mem_append_right _ List.mem_cons_self
  · rename_i houter
    cases hfail
    refine sound_of_call { call with stage := .leaving (.error (creationError error)) } h
      hloop ⟨hunsettled, hrunning, hclosed, fun hconfirmed => ?_⟩
    exact absurd (h.coherent.mpr (h.attempted_of_confirmed hconfirmed)) houter

/-- The callback is left with the outcome of its race. -/
theorem Base.left (h : Base config others s) (hloop : LoopSound config s call.loop)
    {lease : RuntimeLease} (hracing : StageSound config s call (.racing lease))
    (hclosed : Closed s call.loop)
    {outcome : Except ThrownError ProjectLocator}
    (hreturned : ∀ locator, outcome = .ok locator →
      .returned locator ∈ events s ∧ Accepted config locator s.pool.state)
    {handleFactory : ThreadHandleFactory}
    (hleave : leave config s call lease handleFactory outcome = some s') :
    Sound config others s' := by
  unfold leave at hleave
  split at hleave
  · exact h.failed hloop hracing hclosed hleave
  rename_i locator
  split at hleave
  · exact h.failed hloop hracing hclosed hleave
  rename_i handle registry hregister
  cases hleave
  obtain ⟨hunsettled, hrunning, hstarted⟩ := hracing
  obtain ⟨hmem, haccepted⟩ := hreturned locator rfl
  have hstep : s.registry.step config.platform (locator, handleFactory) =
      some { registry with registered := s.registry.registered ++ [(locator, handle)] } := by
    rw [ProjectRegistrySystem.step, hregister]
  have hbase := h.registered hstep
  refine sound_of_call { call with stage := .leaving (.ok handle) } hbase
    (loopSound_registry.mpr hloop) ⟨hunsettled, hrunning, hclosed, locator, hmem, ?_, haccepted⟩
  exact List.mem_append_right _ List.mem_cons_self

/-- The scheduler sees the end of the callback, and settles the promise. -/
theorem Base.settled (h : Base config others s) (hcall : s.call = some call)
    (hloop : LoopSound config s call.loop) {outcome : Except ThrownError ProjectHandle}
    (hleaving : StageSound config s call (.leaving outcome)) {entry frame : ℕ}
    (hentry : call.entry = some entry)
    (hframe : s.scheduler.drains[frame]? = some (.awaiting entry))
    {t : SchedulerSystem ProjectHandle}
    (hstep : s.scheduler.step (.complete frame outcome) = some t) :
    Sound config others (follow s t) := by
  obtain ⟨hunsettled, -, hclosed, houtcome⟩ := hleaving
  obtain ⟨hserial, hsingle⟩ := h.serial.step h.single hstep
  have hlog : t.log = s.scheduler.log ++ [.settled entry outcome] := by
    simp only [SchedulerSystem.step, hframe] at hstep
    cases hstep
    rfl
  have hown : [SchedulerEvent.settled entry outcome].findSome? (ownEvent? entry) =
      some (.settled outcome) := by
    simp [ownEvent?]
  have hbase := h.scheduled hserial hsingle hlog fun lease hmem =>
    (SchedulerSystem.marked_step hstep hmem).imp_right fun habsurd => by cases habsurd
  rw [follow_of_settled hlog hcall hentry hown]
  -- The handle is registered before the promise settles with it.
  have hregistered : ∀ handle, outcome = .ok handle →
      ∃ locator, Registered config { s with scheduler := t } locator handle := by
    rintro handle rfl
    exact houtcome.imp fun _ h => ⟨h.returned, h.registered, h.accepted⟩
  -- Settling is allowed once, and with a handle only where a locator was returned for it.
  have hallowed : Allowed (events s) (.settled outcome) := by
    cases outcome with
    | ok handle => exact ⟨hunsettled, houtcome.imp fun _ h => h.returned⟩
    | error error => exact ⟨hunsettled, houtcome⟩
  have hrecord : Base config others (record { s with scheduler := t } (.settled outcome)) := by
    refine hbase.recorded _ hallowed (fun h => by cases h) (fun _ h => by cases h)
      fun handle heq => ?_
    cases heq
    exact hregistered handle rfl
  refine sound_of_call { call with stage := .settled } hrecord ?_ ⟨hclosed, ?_⟩
  · exact loopSound_record (loopSound_scheduler.mpr hloop) fun h => by cases h
  · intro other hother
    cases hentry.symm.trans hother
    show entry ∈ settledIds t.log
    rw [hlog, SchedulerSystem.settledIds_append]
    exact List.mem_append_right _ List.mem_cons_self

/-- What the call does. -/
theorem Sound.stepCall (h : Sound config others s) (hcall : s.call = some call)
    {input : CreatorInput} (hstep : stepCall config s call input = some s') :
    Sound config others s' := by
  obtain ⟨hloop, hstage⟩ : CallSound config s (some call) := hcall ▸ h.call
  unfold ProjectCreator.stepCall at hstep
  -- each of these inputs is for a call at one place of its loop
  cases input with
  | deadline =>
    dsimp only at hstep
    split at hstep
    · cases hstep
      exact h.abortDeadline _
    · cases hstep
  | begin =>
    dsimp only at hstep
    split at hstep
    · rename_i hdue
      cases hstep
      rw [hdue] at hloop
      exact h.base.called hstage (hdue ▸ trivial) hloop.1 hloop.2
    · cases hstep
  | admitted outcome =>
    dsimp only at hstep
    split at hstep
    · rename_i hentering
      cases hstep
      rw [hentering] at hloop
      exact h.base.admitted hstage (hentering ▸ trivial) hloop.1 outcome
    · cases hstep
  | returned check =>
    dsimp only at hstep
    split at hstep
    · rename_i operation hcalling
      split at hstep
      · rename_i outcome hover
        cases hstep
        rw [hcalling] at hloop
        exact h.base.completed hstage (hcalling ▸ trivial) hloop hover check
      · cases hstep
    · cases hstep
  | abandoned =>
    dsimp only at hstep
    split at hstep
    · rename_i operation hcalling
      obtain ⟨reason, hreason, rfl⟩ := Option.map_eq_some_iff.mp hstep
      exact h.base.caught hstage (hcalling ▸ trivial) (.inl (aborted_iff.mpr ⟨reason, hreason⟩)) _
    · cases hstep
  | delayed =>
    dsimp only at hstep
    split at hstep
    · rename_i hdelaying
      cases hstep
      rw [hdelaying] at hloop
      exact h.base.called hstage (hdelaying ▸ trivial) hloop.1 hloop.2
    · cases hstep
  | delayAborted =>
    dsimp only at hstep
    split at hstep
    · rename_i hdelaying
      obtain ⟨reason, hreason, rfl⟩ := Option.map_eq_some_iff.mp hstep
      exact h.base.looped hstage (hdelaying ▸ trivial)
        ⟨.inl (aborted_iff.mpr ⟨reason, hreason⟩), fun _ habsurd => nomatch habsurd⟩
    · cases hstep
  | raced byAbort handleFactory =>
    dsimp only at hstep
    split at hstep
    · rename_i lease hracing
      rw [hracing] at hstage
      obtain ⟨outcome, hrace, hleave⟩ := Option.bind_eq_some_iff.mp hstep
      unfold raceOutcome at hrace
      split at hrace
      · obtain ⟨reason, hreason, rfl⟩ := Option.map_eq_some_iff.mp hrace
        refine h.base.left hloop hstage (.inl (aborted_iff.mpr ⟨reason, hreason⟩)) ?_ hleave
        exact fun _ habsurd => nomatch habsurd
      · split at hrace
        · rename_i hfinished
          cases hrace
          have hdone : LoopSound config s (.finished outcome) := hfinished ▸ hloop
          refine h.base.left hloop hstage ?_ hdone.2 hleave
          exact hdone.1.imp_right fun hrest => ⟨hrest, hfinished ▸ fun h => h⟩
        · cases hrace
    · cases hstep
  | left frame =>
    dsimp only at hstep
    split at hstep
    · rename_i outcome entry hleaving hentry
      split at hstep
      · rename_i hframe
        obtain ⟨t, hcomplete, rfl⟩ := Option.map_eq_some_iff.mp hstep
        rw [hleaving] at hstage
        exact h.base.settled hcall hloop hstage hentry hframe hcomplete
      · cases hstep
    · cases hstep
  | create name signal => cases hstep
  | scheduler input => cases hstep
  | register value handleFactory => cases hstep
  | session session f => cases hstep
  | answer operation answers => cases hstep

/-- The step lemma. -/
theorem Sound.step (h : Sound config others s) {input : CreatorInput}
    (hothers : ∀ lease, input = .scheduler (.markRuntimeMutationStateUncertain lease) →
      others lease) (hstep : step config s input = some s') : Sound config others s' := by
  have hcall : ∀ input, (s.call.bind fun call => ProjectCreator.stepCall config s call input) =
      some s' → Sound config others s' := fun input hstep => by
    obtain ⟨call, hcall, hstep⟩ := Option.bind_eq_some_iff.mp hstep
    exact h.stepCall hcall hstep
  unfold ProjectCreator.step at hstep
  cases input with
  | create name signal =>
    dsimp only at hstep
    split at hstep
    · cases hstep
    · rename_i hnone
      exact h.created (Option.not_isSome_iff_eq_none.mp hnone) hstep
  | scheduler input =>
    dsimp only at hstep
    -- The scheduler does not complete the callback's own entry by itself.
    split at hstep
    · cases hstep
    rename_i hown
    obtain ⟨t, hscheduler, rfl⟩ := Option.map_eq_some_iff.mp hstep
    obtain ⟨hsame, hcall⟩ := followAbort_scheduler (s := s) input
    refine (h.followAbort input).followed input (hsame.symm ▸ hscheduler) ?_ fun lease heq =>
      hothers lease (congrArg _ heq)
    -- Following an abort changes no entry, so the same input completes the same callback.
    have hcompletes : completesOwn (ProjectCreator.followAbort s input) input =
        completesOwn s input := by
      unfold completesOwn
      rw [hsame, hcall]
    rw [hcompletes]
    exact Bool.not_eq_true _ ▸ hown
  | register value handleFactory =>
    obtain ⟨registry, hregistry, rfl⟩ := Option.map_eq_some_iff.mp hstep
    have hcallSound : ∀ call, CallSound config s call →
        CallSound config { s with registry } call := by
      intro call hcall
      cases call with
      | none => exact hcall
      | some call =>
        exact ⟨loopSound_registry.mpr hcall.1, stageSound_registry hregistry hcall.2⟩
    exact ⟨h.base.registered hregistry, hcallSound _ h.call⟩
  | session session f =>
    cases hstep
    exact h.session session f
  | answer operation answers =>
    cases hstep
    exact h.answer operation answers
  -- The other inputs are the call's own.
  | deadline => exact hcall _ hstep
  | begin => exact hcall _ hstep
  | admitted outcome => exact hcall _ hstep
  | returned check => exact hcall _ hstep
  | abandoned => exact hcall _ hstep
  | delayed => exact hcall _ hstep
  | delayAborted => exact hcall _ hstep
  | raced byAbort handleFactory => exact hcall _ hstep
  | left frame => exact hcall _ hstep

/-- The run lemma. -/
theorem sound_run (config : CreatorConfig) (inputs : List CreatorInput) :
    Sound config (fun lease =>
      .scheduler (.markRuntimeMutationStateUncertain lease) ∈ inputs) (run config inputs) := by
  have hsound : ∀ inputs' ⊆ inputs, ∀ s, Sound config (fun lease =>
      .scheduler (.markRuntimeMutationStateUncertain lease) ∈ inputs) s →
      Sound config (fun lease => .scheduler (.markRuntimeMutationStateUncertain lease) ∈ inputs)
        (inputs'.foldl (fun s input => (step config s input).getD s) s) := by
    intro inputs' hsubset
    induction inputs' with
    | nil => exact fun _ h => h
    | cons input inputs' ih =>
      intro s h
      have hmem := hsubset List.mem_cons_self
      refine ih (fun _ h => hsubset (List.mem_cons_of_mem _ h)) _ ?_
      show Sound config _ ((step config s input).getD s)
      cases hstep : step config s input with
      | none => exact h
      | some s' => exact h.step (fun lease heq => heq ▸ hmem) hstep
  exact hsound inputs (List.Subset.refl _) _ (sound_initial config _)

end Call

/-! ## The theorem -/

/-- What holds of one call of `create`, after these inputs. -/
structure CreationLaw (inputs : List CreatorInput) (s : CreatorSystem) : Prop where
  lawful : Trace.Lawful Allowed (events s)
  marked : ∀ error, .settled (.error error) ∈ events s → .confirmed ∈ events s →
    ∃ lease, (events s).head? = some (.started lease) ∧ .markedUncertain lease ∈ s.scheduler.log
  unmarked : ∀ past error future, events s = past ++ .settled (.error error) :: future →
    .mutationAttempted ∉ past → ∀ lease, .markedUncertain lease ∈ s.scheduler.log →
    .scheduler (.markRuntimeMutationStateUncertain lease) ∈ inputs
  resolves : ∀ handle, .settled (.ok handle) ∈ events s → ∃ locator,
    .returned locator ∈ events s ∧ s.registry.resolve handle = .ok locator

/-- In every run, whatever the client, the scheduler and the signals do, a call of `create` confirms
only after `onMutationAttempted` and before it settles, does not call `createProjectThroughUi` after
it, marks its lease where it rejects after a confirmation, leaves the marking to others where it
rejects before `onMutationAttempted`, and resolves to a handle of the locator that the UI has
returned. -/
theorem creation_law (config : CreatorConfig) (inputs : List CreatorInput) :
    CreationLaw inputs (run config inputs) := by
  have h := (sound_run config inputs).base
  refine ⟨h.lawful, fun error hsettled hconfirmed => ?_,
    fun past error future hsplit hnot lease hmarked => ?_, fun handle hsettled => ?_⟩
  · obtain ⟨past, future, hsplit⟩ := List.append_of_mem hsettled
    have hallowed := h.lawful past _ future hsplit
    -- the confirmation came before, for nothing is confirmed after the call has settled
    have hbefore : .confirmed ∈ past := by
      rw [hsplit] at hconfirmed
      rcases List.mem_append.mp hconfirmed with hmem | hmem
      · exact hmem
      · have hforbid : ∀ before, .settled (.error error) ∈ before → ¬ Allowed before .confirmed :=
          fun before hmem hallowed => hallowed.2 _ hmem
        have hafter := h.lawful.not_after hsplit hforbid
        rcases List.mem_cons.mp hmem with habsurd | hmem
        · cases habsurd
        · exact absurd hmem hafter
    obtain ⟨lease, hstarted, hmarked⟩ := hallowed.2 hbefore
    obtain ⟨before, after, hstart⟩ := List.append_of_mem hstarted
    have hfirst : before = [] := h.lawful before (.started lease)
      (after ++ .settled (.error error) :: future) (by
        rw [hsplit, hstart, List.append_assoc, List.cons_append])
    refine ⟨lease, ?_, h.marks lease ?_⟩
    · rw [hsplit, hstart, hfirst]
      rfl
    · rw [hsplit]
      exact List.mem_append_left _ hmarked
  · refine (h.ours lease hmarked).resolve_left fun hmem => ?_
    rw [hsplit] at hmem
    rcases List.mem_append.mp hmem with hmem | hmem
    · obtain ⟨before, after, rfl⟩ := List.append_of_mem hmem
      have hallowed := h.lawful before (.marked lease) (after ++ .settled (.error error) :: future)
        (by rw [hsplit, List.append_assoc, List.cons_append])
      exact hnot (List.mem_append_left _ hallowed.1)
    · have hforbid : ∀ before, .settled (.error error) ∈ before →
          ¬ Allowed before (.marked lease) := fun before hmem hallowed => hallowed.2.2 _ hmem
      have hafter := h.lawful.not_after hsplit hforbid
      rcases List.mem_cons.mp hmem with habsurd | hmem
      · cases habsurd
      · exact hafter hmem
  · obtain ⟨locator, hreturned, hregistered, url, haccepted⟩ := h.handles handle hsettled
    obtain ⟨locator', hlocator, -⟩ := h.registry.registered locator handle hregistered
    have hsame := createProjectLocator_of_locator haccepted hlocator
    rw [hsame] at hlocator
    exact ⟨locator, hreturned, h.registry.resolve hregistered hlocator⟩

end ProjectCreator

end Threadwire
