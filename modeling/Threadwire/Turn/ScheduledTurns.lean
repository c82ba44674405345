import Threadwire.Routing.SchedulerFence
import Threadwire.Turn.TurnOwnership

/-!
# Turns as operations of the scheduler

`executeInternal` hands `executeScheduled` to the scheduler as the callback of an entry. Here the
turns run inside the scheduler: a turn performs the actions of its execution one by one, with
anything else in between, its marks are calls of `markRuntimeMutationStateUncertain`, and its promise
settles when all are performed. `post_commit_ownership` says what its ownership of the write is good
for: while that write may be active, no operation of the turn's lease starts.
-/

namespace Threadwire

/-- A turn whose execution has been called by the callback of an entry, and how many of its actions
it has performed. -/
structure ScheduledTurn where
  call : TurnCall
  registry : ThreadRegistry
  fuel : ℕ
  performed : ℕ := 0

namespace ScheduledTurn

open TurnExecutor

/-- The call of `executeScheduled`. -/
def execution (turn : ScheduledTurn) : Except (Interrupt ThrownError) TurnResult × TurnRun :=
  executeScheduled turn.call turn.fuel { registry := turn.registry }

/-- All the actions of the turn. -/
def actions (turn : ScheduledTurn) : List TurnAction := turn.execution.2.trace

/-- The actions performed so far. -/
def done (turn : ScheduledTurn) : List TurnAction := turn.actions.take turn.performed

/-- The turn is committed, and has not seen the end of its write. -/
def MayBeWriting (turn : ScheduledTurn) : Prop :=
  .committed ∈ turn.done ∧ isTerminal (latestWrite turn.done) = false

instance (turn : ScheduledTurn) : Decidable turn.MayBeWriting :=
  inferInstanceAs (Decidable (_ ∧ _))

end ScheduledTurn

/-- A scheduler, and the turns that run in its entries. -/
structure TurnSystem where
  scheduler : SchedulerSystem TurnResult := {}
  turns : ℕ → Option ScheduledTurn := fun _ => none

/-- What happens: the callback of an entry calls `executeScheduled`, a turn performs its next action,
the turn that a drain awaits settles, or something else happens to the scheduler. -/
inductive TurnInput where
  | execute (id : ℕ) (call : TurnCall) (registry : ThreadRegistry) (fuel : ℕ)
  | perform (id : ℕ)
  | settle (frame : ℕ)
  | scheduler (input : SchedulerInput TurnResult)

namespace TurnSystem

open TurnExecutor SchedulerSystem

/-- A step of the scheduler. -/
def schedulerStep (s : TurnSystem) (input : SchedulerInput TurnResult) : Option TurnSystem :=
  (s.scheduler.step input).map fun scheduler => { s with scheduler }

/-- What an action does to the scheduler. -/
def act (s : TurnSystem) : TurnAction → Option TurnSystem
  | .markedUncertain lease => s.schedulerStep (.markRuntimeMutationStateUncertain lease)
  | _ => some s

/-- How the promise of an execution settles, if it does. -/
def settlement : Except (Interrupt ThrownError) TurnResult → Option (Except ThrownError TurnResult)
  | .ok result => some (.ok result)
  | .error (.thrown error) => some (.error error)
  | .error .pending => none

/-- The entry that the drain at this position awaits. -/
def awaited (s : TurnSystem) (frame : ℕ) : Option ℕ :=
  match s.scheduler.drains[frame]? with
  | some (.awaiting id) => some id
  | _ => none

/-- The turn in the entry that the drain at this position awaits. -/
def awaitedTurn (s : TurnSystem) (frame : ℕ) : Option ScheduledTurn :=
  (s.awaited frame).bind s.turns

/-- Whether the input ends the callback of an entry in which a turn runs. Only the turn does that. -/
def endsTurn (s : TurnSystem) : SchedulerInput TurnResult → Bool
  | .complete frame _ => (s.awaitedTurn frame).isSome
  | _ => false

/-- One step; `none` where the input cannot occur. -/
def step (s : TurnSystem) : TurnInput → Option TurnSystem
  | .execute id call registry fuel =>
    if .awaiting id ∈ s.scheduler.drains ∧ (s.turns id).isNone ∧
        call.lease = (s.scheduler.entries id).lease then
      some { s with turns := Function.update s.turns id (some { call, registry, fuel }) }
    else none
  | .perform id => do
    let turn ← s.turns id
    let action ← turn.actions[turn.performed]?
    let s ← s.act action
    some { s with
      turns := Function.update s.turns id (some { turn with performed := turn.performed + 1 }) }
  | .settle frame => do
    let turn ← s.awaitedTurn frame
    let outcome ← settlement turn.execution.1
    if turn.performed < turn.actions.length then none
    else s.schedulerStep (.complete frame outcome)
  | .scheduler input => if s.endsTurn input then none else s.schedulerStep input

/-- No operation of a lease starts in the step while a turn of the lease may be writing. -/
def StartsSafely (s t : TurnSystem) : Prop :=
  ∀ id lease, .started id lease ∈ t.scheduler.log → .started id lease ∉ s.scheduler.log →
    ∀ place turn, s.turns place = some turn → turn.call.lease = lease → ¬ turn.MayBeWriting

/-- What an action of a turn must meet for the fence to hold: a mark is one that the slot can keep,
and the port says that the generation has changed only where another lease has taken the place of
the turn's. -/
def ActionKept (s : TurnSystem) (turn : ScheduledTurn) (action : TurnAction) : Prop :=
  match action with
  | .markedUncertain lease => s.scheduler.MarkKept (.markRuntimeMutationStateUncertain lease)
  | action => saysGenerationChanged action = true →
      s.scheduler.runtime.Superseded turn.call.lease

instance (s : TurnSystem) (turn : ScheduledTurn) :
    (action : TurnAction) → Decidable (s.ActionKept turn action)
  | .markedUncertain lease => inferInstanceAs
      (Decidable (s.scheduler.MarkKept (.markRuntimeMutationStateUncertain lease)))
  | .generationChanged | .releasedTurnObservation _ | .dispatched _ | .returned _
  | .armedTurnObservation _ | .observed _ | .committed | .polled _ | .checkedCancellation _ _
  | .routeRead _ | .delivered _ _ | .failedResponse _ | .registered _ _ | .reserved _ _
  | .rolledBack _ => inferInstanceAs (Decidable (_ = true → _))

/-- What every step must meet: a turn that is committed keeps the ownership of its write, its actions
are as above, and so is every other mark. -/
def Kept (s : TurnSystem) : TurnInput → Prop
  | .execute _ call registry fuel =>
    let turn : ScheduledTurn := { call, registry, fuel }
    .committed ∈ turn.actions → KeepsOwnership call turn.actions
  | .perform id => ∀ turn ∈ s.turns id, ∀ action ∈ turn.actions[turn.performed]?,
      s.ActionKept turn action
  | .settle _ => True
  | .scheduler input => s.scheduler.MarkKept input

instance (s : TurnSystem) : (input : TurnInput) → Decidable (s.Kept input)
  | .execute _ _ _ _ => inferInstanceAs (Decidable (_ → KeepsOwnership _ _))
  | .perform id => inferInstanceAs (Decidable (∀ turn ∈ s.turns id, ∀ action ∈ _, _))
  | .settle _ => .isTrue trivial
  | .scheduler input => inferInstanceAs (Decidable (s.scheduler.MarkKept input))

/-! ## The invariant -/

/-- The callback of a turn is awaited until the turn has performed everything and settles. Its marks
are in the scheduler's log, and where the port said that the generation has changed, it has. -/
structure TurnGuarded (scheduler : SchedulerSystem TurnResult) (id : ℕ) (turn : ScheduledTurn) :
    Prop where
  ongoing : .awaiting id ∈ scheduler.drains ∨
    (turn.done = turn.actions ∧ ∃ outcome, settlement turn.execution.1 = some outcome)
  keeps : .committed ∈ turn.actions → KeepsOwnership turn.call turn.actions
  marked : ∀ lease, .markedUncertain lease ∈ turn.done → .markedUncertain lease ∈ scheduler.log
  gone : ∀ action ∈ turn.done, saysGenerationChanged action = true →
    scheduler.runtime.Superseded turn.call.lease

/-- The scheduler's own invariants, and that of every turn. -/
structure Guarded (s : TurnSystem) : Prop where
  serial : Serial s.scheduler
  single : Single s.scheduler
  fenced : Fenced s.scheduler
  turns : ∀ id turn, s.turns id = some turn → TurnGuarded s.scheduler id turn

theorem guarded_initial : Guarded {} where
  serial := serial_initial
  single := single_initial
  fenced := fenced_initial
  turns _ _ h := by cases h

variable {s t : TurnSystem}

theorem awaited_eq_some {frame id : ℕ} :
    s.awaited frame = some id ↔ s.scheduler.drains[frame]? = some (.awaiting id) := by
  unfold awaited
  split
  · rename_i id' hframe
    rw [hframe, Option.some.injEq, Option.some.injEq, DrainFrame.awaiting.injEq]
  · rename_i hother
    exact iff_of_false (by simp) fun hframe => hother id hframe

/-- A turn, over a step of the scheduler that does not end its callback before its time. -/
theorem TurnGuarded.step {scheduler scheduler' : SchedulerSystem TurnResult} {id : ℕ}
    {turn : ScheduledTurn} (h : TurnGuarded scheduler id turn) {input : SchedulerInput TurnResult}
    (hstep : scheduler.step input = some scheduler')
    (hends : ∀ frame outcome, input = .complete frame outcome →
      scheduler.drains[frame]? = some (.awaiting id) →
        turn.done = turn.actions ∧ ∃ outcome, settlement turn.execution.1 = some outcome) :
    TurnGuarded scheduler' id turn where
  ongoing := by
    rcases h.ongoing with hawaiting | hover
    · rcases awaiting_step hstep hawaiting with hstill | ⟨frame, outcome, hinput, hframe⟩
      · exact .inl hstill
      · exact .inr (hends frame outcome hinput hframe)
    · exact .inr hover
  keeps := h.keeps
  marked lease hmem := by
    obtain ⟨new, hnews⟩ := step_news hstep
    rw [hnews.log]
    exact List.mem_append_left _ (h.marked lease hmem)
  gone action hmem hsays := superseded_step hstep (h.gone action hmem hsays)

theorem Guarded.schedulerStep (h : Guarded s) {input : SchedulerInput TurnResult}
    (hkept : s.scheduler.MarkKept input)
    (hends : ∀ frame outcome, input = .complete frame outcome → ∀ turn,
      s.awaitedTurn frame = some turn →
        turn.done = turn.actions ∧ ∃ outcome, settlement turn.execution.1 = some outcome)
    (hstep : s.schedulerStep input = some t) : Guarded t := by
  obtain ⟨scheduler, hscheduler, rfl⟩ := Option.map_eq_some_iff.mp hstep
  obtain ⟨hserial, hsingle⟩ := h.serial.step h.single hscheduler
  refine ⟨hserial, hsingle, h.fenced.step hkept hscheduler, fun id turn hturn => ?_⟩
  refine (h.turns id turn hturn).step hscheduler fun frame outcome hinput hframe => ?_
  refine hends frame outcome hinput turn ?_
  rw [awaitedTurn, awaited_eq_some.mpr hframe]
  exact hturn

/-- One turn is another one now. -/
theorem Guarded.setTurn (h : Guarded s) {id : ℕ} {turn : ScheduledTurn}
    (hturn : TurnGuarded s.scheduler id turn) :
    Guarded { s with turns := Function.update s.turns id (some turn) } := by
  refine { h with turns := fun place turn' hplace => ?_ }
  dsimp only at hplace
  by_cases hne : place = id
  · subst hne
    rw [Function.update_self] at hplace
    cases hplace
    exact hturn
  · rw [Function.update_of_ne hne] at hplace
    exact h.turns place turn' hplace

/-- The turn has performed one action more, whose mark is in the log. -/
theorem Guarded.performed (h : Guarded s) {id : ℕ} {turn : ScheduledTurn} {action : TurnAction}
    (hturn : s.turns id = some turn) (haction : turn.actions[turn.performed]? = some action)
    (hmark : ∀ lease, action = .markedUncertain lease →
      .markedUncertain lease ∈ s.scheduler.log)
    (hgone : saysGenerationChanged action = true →
      s.scheduler.runtime.Superseded turn.call.lease) :
    Guarded { s with
      turns := Function.update s.turns id
        (some { turn with performed := turn.performed + 1 }) } := by
  obtain ⟨hlt, hget⟩ := List.getElem?_eq_some_iff.mp haction
  have hdone : ({ turn with performed := turn.performed + 1 } : ScheduledTurn).done =
      turn.done ++ [action] := by
    show turn.actions.take (turn.performed + 1) = turn.actions.take turn.performed ++ [action]
    rw [List.take_succ_eq_append_getElem hlt, hget]
  have hguarded := h.turns id turn hturn
  refine h.setTurn ⟨.inl ?_, hguarded.keeps, fun lease hmem => ?_, fun action' hmem hsays => ?_⟩
  · refine hguarded.ongoing.resolve_right fun hover => ?_
    -- a turn that has an action left has not performed all of them
    have hlength := congrArg List.length hover.1
    rw [ScheduledTurn.done, List.length_take] at hlength
    omega
  · rw [hdone] at hmem
    rcases List.mem_append.mp hmem with hmem | hmem
    · exact hguarded.marked lease hmem
    · exact hmark lease (List.mem_singleton.mp hmem).symm
  · rw [hdone] at hmem
    rcases List.mem_append.mp hmem with hmem | hmem
    · exact hguarded.gone action' hmem hsays
    · rw [List.mem_singleton.mp hmem] at hsays
      exact hgone hsays

/-- What an action does to the scheduler keeps everything but the count of the turn's actions. -/
theorem Guarded.act (h : Guarded s) {turn : ScheduledTurn} {action : TurnAction}
    (hkept : s.ActionKept turn action) (hstep : s.act action = some t) :
    Guarded t ∧ t.turns = s.turns ∧
      (∀ lease, action = .markedUncertain lease → .markedUncertain lease ∈ t.scheduler.log) ∧
      (saysGenerationChanged action = true →
        t.scheduler.runtime.Superseded turn.call.lease) := by
  cases action with
  | markedUncertain lease =>
    have hmark : s.scheduler.MarkKept (.markRuntimeMutationStateUncertain lease) := hkept
    have hguarded := h.schedulerStep hmark (by rintro _ _ ⟨⟩) hstep
    cases hstep
    refine ⟨hguarded, rfl, ?_, by rintro ⟨⟩⟩
    rintro _ ⟨⟩
    exact List.mem_append_right _ List.mem_cons_self
  | _ =>
    cases hstep
    exact ⟨h, rfl, by rintro _ ⟨⟩, hkept⟩

/-- The step lemma. -/
theorem Guarded.step (h : Guarded s) {input : TurnInput} (hkept : s.Kept input)
    (hstep : s.step input = some t) : Guarded t := by
  cases input with
  | execute id call registry fuel =>
    simp only [TurnSystem.step] at hstep
    split at hstep <;> cases hstep
    rename_i hstarts
    -- The turn has done nothing yet.
    have hnone : ∀ action, action ∉ ({ call, registry, fuel } : ScheduledTurn).done :=
      fun action => by simp [ScheduledTurn.done]
    exact h.setTurn ⟨.inl hstarts.1, hkept, fun lease hmem => absurd hmem (hnone _),
      fun action hmem => absurd hmem (hnone action)⟩
  | perform id =>
    simp only [TurnSystem.step, Option.bind_eq_bind, Option.bind_eq_some_iff] at hstep
    obtain ⟨turn, hturn, action, haction, u, hact, hlast⟩ := hstep
    cases hlast
    -- A mark goes to the scheduler, which must be able to keep it; the other actions move only the
    -- turn.
    obtain ⟨hguarded, hturns, hmark, hgone⟩ := h.act (hkept turn hturn action haction) hact
    exact hguarded.performed (hturns ▸ hturn) haction hmark hgone
  | settle frame =>
    simp only [TurnSystem.step, Option.bind_eq_bind, Option.bind_eq_some_iff] at hstep
    obtain ⟨turn, hturn, outcome, houtcome, hlast⟩ := hstep
    split at hlast
    · cases hlast
    rename_i hperformed
    -- Completing the callback's frame is the only input that ends a turn, and it marks nothing.
    have hunmarked : s.scheduler.MarkKept (.complete frame outcome) := trivial
    refine h.schedulerStep hunmarked ?_ hlast
    rintro _ _ ⟨⟩ turn' hturn'
    cases hturn.symm.trans hturn'
    exact ⟨List.take_of_length_le (not_lt.mp hperformed), outcome, houtcome⟩
  | scheduler input =>
    simp only [TurnSystem.step] at hstep
    split at hstep
    · cases hstep
    rename_i hends
    refine h.schedulerStep hkept ?_ hstep
    -- No other input of the scheduler ends a turn.
    rintro frame outcome rfl turn hturn
    simp [endsTurn, hturn] at hends

/-! ## What the ownership of the write is good for -/

/-- A step in which an operation starts is one of the scheduler. -/
theorem Guarded.startable (h : Guarded s) {input : TurnInput} (hstep : s.step input = some t)
    {id : ℕ} {lease : RuntimeLease} (hstarted : .started id lease ∈ t.scheduler.log)
    (hnew : .started id lease ∉ s.scheduler.log) : s.scheduler.Startable lease := by
  have hscheduler : ∀ {u : TurnSystem} {input : SchedulerInput TurnResult},
      s.schedulerStep input = some u → u.scheduler.log = t.scheduler.log →
        s.scheduler.Startable lease := by
    intro u input hstep hlog
    obtain ⟨scheduler, hscheduler, rfl⟩ := Option.map_eq_some_iff.mp hstep
    exact h.single.startable hscheduler (hlog ▸ hstarted) hnew
  cases input with
  | execute id' call registry fuel =>
    simp only [TurnSystem.step] at hstep
    split at hstep <;> cases hstep
    -- What a turn does by itself starts nothing.
    exact absurd hstarted hnew
  | perform id' =>
    simp only [TurnSystem.step, Option.bind_eq_bind, Option.bind_eq_some_iff] at hstep
    obtain ⟨turn, -, action, -, u, hact, hlast⟩ := hstep
    cases hlast
    cases action with
    | markedUncertain marked => exact hscheduler hact rfl
    | _ =>
      cases hact
      exact absurd hstarted hnew
  | settle frame =>
    simp only [TurnSystem.step, Option.bind_eq_bind, Option.bind_eq_some_iff] at hstep
    obtain ⟨turn, -, outcome, -, hlast⟩ := hstep
    split at hlast
    · cases hlast
    · exact hscheduler hlast rfl
  | scheduler input =>
    simp only [TurnSystem.step] at hstep
    split at hstep
    · cases hstep
    · exact hscheduler hstep rfl

/-- Where an operation of its lease starts, a turn cannot be writing any more: it is over, and as it
owns its write, it has seen the end of it, or its lease is marked or gone. -/
theorem Guarded.not_mayBeWriting (h : Guarded s) {id : ℕ} {turn : ScheduledTurn}
    (hturn : s.turns id = some turn) (hstart : s.scheduler.Startable turn.call.lease) :
    ¬ turn.MayBeWriting := by
  rintro ⟨hcommitted, hwriting⟩
  have hguarded := h.turns id turn hturn
  obtain ⟨hdone, outcome, houtcome⟩ := hguarded.ongoing.resolve_left (hstart.idle id)
  have hmarked : .markedUncertain turn.call.lease ∉ turn.done := fun hmem => by
    rcases h.fenced.marked _ (hguarded.marked _ hmem) with hsuperseded | hlatched
    · exact h.fenced.runtime.not_current hsuperseded hstart.current
    · exact hstart.unlatched hlatched
  have hgone : ∀ action ∈ turn.done, saysGenerationChanged action = false := fun action hmem => by
    by_contra hsays
    exact h.fenced.runtime.not_current (hguarded.gone action hmem (by simpa using hsays))
      hstart.current
  rw [hdone] at hcommitted hwriting hmarked hgone
  have hsettled : turn.execution.1 ≠ .error .pending := fun hpending => by
    rw [hpending] at houtcome
    cases houtcome
  have howned : SettlesOwned turn.call turn.execution.1 turn.execution.2 :=
    settlesOwned_of_executeScheduled rfl hsettled
  obtain ⟨howns, hport⟩ := howned hcommitted
  rcases howns.mpr (hguarded.keeps hcommitted) with hended | hmark | ⟨error, herror, hchanged⟩
  · simp [ScheduledTurn.actions, hended] at hwriting
  · exact hmarked hmark
  · rcases hport error herror hchanged with hended | hmark | ⟨action, hmem, hsays⟩
    · simp [ScheduledTurn.actions, hended] at hwriting
    · exact hmarked hmark
    · rw [hgone action hmem] at hsays
      cases hsays

/-- When a committed turn settles, it owns its write exactly where it keeps the ownership: it has
seen the end of the write, has marked its lease, or says that the lease is gone. And in a run in
which every committed turn keeps it, every mark is one that the slot can keep, and the port says that
a lease is gone only where it is, no operation starts while a turn of its lease may be writing. -/
theorem post_commit_ownership (c : TurnCall) (fuel : ℕ) (registry : ThreadRegistry)
    (inputs : List TurnInput) (input : TurnInput) (s t : TurnSystem) :
    (∀ (outcome : Except (Interrupt ThrownError) TurnResult) (run : TurnRun),
      executeScheduled c fuel { registry } = (outcome, run) → outcome ≠ .error .pending →
        .committed ∈ run.trace → (OwnsWrite c outcome run.trace ↔ KeepsOwnership c run.trace)) ∧
    (Machine.exec step {} inputs = some s → Machine.Along step Kept {} inputs →
      s.step input = some t → StartsSafely s t) := by
  refine ⟨ownsWrite_iff_keepsOwnership c fuel registry, ?_⟩
  intro hrun hkept hstep id lease hstarted hnew place turn hturn hlease
  have hguarded : Guarded s := Machine.exec_invariant_along
    (fun _ _ _ h hkept hstep => Guarded.step h hkept hstep) guarded_initial hkept hrun
  exact hguarded.not_mayBeWriting hturn (hlease ▸ hguarded.startable hstep hstarted hnew)

/-- A turn runs, from its schedule call to its settlement. A route is scheduled meanwhile, and the
drain goes on to it in the end. -/
def turnThenRoute (turn : ScheduledTurn) : List TurnInput :=
  [.scheduler (.changeRuntime (some turn.call.lease)), .scheduler (.schedule .turn none),
    .scheduler (.schedule .route none), .execute 0 turn.call turn.registry turn.fuel] ++
    List.replicate turn.actions.length (.perform 0) ++ [.settle 0]

/-- The cancelled turn of a thread, in a registry that knows it. -/
def cancelledThread (secondPoll : CdpWriteLifecycleState) : ScheduledTurn where
  call := cancelledTurn secondPoll
  registry := oneThread
  fuel := 2

/-- The operations that were started, with their leases. -/
def starts (s : TurnSystem) : List (ℕ × RuntimeLease) :=
  s.scheduler.log.filterMap fun | .started id lease => some (id, lease) | _ => none

theorem mem_starts {id : ℕ} {lease : RuntimeLease} :
    (id, lease) ∈ s.starts ↔ .started id lease ∈ s.scheduler.log := by
  rw [starts, List.mem_filterMap]
  constructor
  · rintro ⟨event, hmem, heq⟩
    cases event <;> cases heq
    exact hmem
  · exact fun hmem => ⟨_, hmem, rfl⟩

/-- What such a run has started, once the drain has gone on. -/
def startedAfter (turn : ScheduledTurn) : Option (List (ℕ × RuntimeLease)) :=
  (Machine.exec step {} (turnThenRoute turn ++ [.scheduler (.resume 0)])).map starts

/-- Where the second poll finds the write finished, the cancelled turn rejects and owns its write,
and the route may start. -/
theorem post_commit_ownership_finished :
    OwnsWrite (cancelledTurn .FINISHED) (cancelledThread .FINISHED).execution.1
        (cancelledThread .FINISHED).actions ∧
      startedAfter (cancelledThread .FINISHED) =
        some [(0, (cancelledTurn .FINISHED).lease), (1, (cancelledTurn .FINISHED).lease)] ∧
      ∃ s t, Machine.exec step {} (turnThenRoute (cancelledThread .FINISHED)) = some s ∧
        s.step (.scheduler (.resume 0)) = some t ∧ StartsSafely s t := by
  have hrun : (Machine.exec step {} (turnThenRoute (cancelledThread .FINISHED) ++
      [.scheduler (.resume 0)])).isSome = true := by decide +kernel
  obtain ⟨t, ht⟩ := Option.isSome_iff_exists.mp hrun
  obtain ⟨s, hs, hlast⟩ := Machine.exec_append_eq_some.mp ht
  obtain ⟨t', hstep, hend⟩ := Machine.exec_cons_eq_some.mp hlast
  obtain ⟨howns, hsafe⟩ := post_commit_ownership (cancelledTurn .FINISHED) 2 oneThread
    (turnThenRoute (cancelledThread .FINISHED)) (.scheduler (.resume 0)) s t'
  refine ⟨?_, by decide +kernel, s, t', hs, hstep, hsafe hs (by decide +kernel) hstep⟩
  exact (howns _ _ rfl (by decide +kernel) (by decide +kernel)).mpr (by decide +kernel)

/-- Where it finds the write still active, the turn rejects all the same, with the write active and
the lease not marked; and the route starts while the turn may be writing. -/
theorem cancelledTurn_loses_write :
    (cancelledThread .ACTIVE).execution.1 =
        .error (.thrown (operationAborted (cancelledTurn .ACTIVE))) ∧
      ¬ OwnsWrite (cancelledTurn .ACTIVE) (cancelledThread .ACTIVE).execution.1
        (cancelledThread .ACTIVE).actions ∧
      ∃ s t, Machine.exec step {} (turnThenRoute (cancelledThread .ACTIVE)) = some s ∧
        s.step (.scheduler (.resume 0)) = some t ∧ ¬ StartsSafely s t := by
  have haborted : (cancelledThread .ACTIVE).execution.1 =
      .error (.thrown (operationAborted (cancelledTurn .ACTIVE))) := by decide +kernel
  refine ⟨haborted, ?_, ?_⟩
  · rintro (hended | hmarked | ⟨error, hthrown, hchanged⟩)
    · exact absurd hended (by decide +kernel)
    · exact absurd hmarked (by decide +kernel)
    · cases haborted.symm.trans hthrown
      exact absurd hchanged (by decide +kernel)
  · have hrun : (Machine.exec step {} (turnThenRoute (cancelledThread .ACTIVE) ++
        [.scheduler (.resume 0)])).isSome = true := by decide +kernel
    obtain ⟨t, ht⟩ := Option.isSome_iff_exists.mp hrun
    obtain ⟨s, hs, hlast⟩ := Machine.exec_append_eq_some.mp ht
    obtain ⟨t', hstep, hend⟩ := Machine.exec_cons_eq_some.mp hlast
    cases hend
    have hbefore : ∀ s ∈ Machine.exec step {} (turnThenRoute (cancelledThread .ACTIVE)),
        (1, (cancelledTurn .ACTIVE).lease) ∉ s.starts ∧ ∃ turn ∈ s.turns 0,
          turn.call.lease = (cancelledTurn .ACTIVE).lease ∧ turn.MayBeWriting := by
      decide +kernel
    have hafter : ∀ t ∈ Machine.exec step {} (turnThenRoute (cancelledThread .ACTIVE) ++
        [.scheduler (.resume 0)]), (1, (cancelledTurn .ACTIVE).lease) ∈ t.starts := by
      decide +kernel
    obtain ⟨hnew, turn, hturn, hlease, hwriting⟩ := hbefore s hs
    refine ⟨s, t, hs, hstep, fun hsafe => ?_⟩
    exact hsafe 1 _ (mem_starts.mp (hafter t ht)) (fun hmem => hnew (mem_starts.mpr hmem)) 0 turn
      hturn hlease hwriting

end TurnSystem

end Threadwire
