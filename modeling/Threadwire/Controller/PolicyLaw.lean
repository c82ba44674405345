import Threadwire.Controller.ProjectCompletion
import Threadwire.Controller.RuntimePolicy

/-!
# The runtime policy over a run

The queue lets one operation run at a time, in the order in which they were queued, and each keeps
to its script; so the runtime sees the scripts one after another, whatever is answered and whatever
happens in between.
-/

namespace Threadwire

/-! ## The order of the queue -/

namespace ControllerTurnQueue

variable {α : Type} {s t : ControllerTurnQueue α}

/-- The active entry is the last one that has started. -/
def Latest (s : ControllerTurnQueue α) : Prop :=
  ∀ c ∈ s.chains, ∀ id, .started id ∈ s.log → id ≤ c.1

theorem Sound.latest_drain (h : Sound s) (hlatest : Latest s) : Latest s.drain := by
  have hdrained := drained_drain s
  generalize s.drain = t at hdrained
  cases hdrained with
  | idle => exact hlatest
  | rejected id rest hactive =>
    intro c hc
    rw [h.chains_nil hactive] at hc
    cases hc
  | started id rest hactive hpending =>
    intro c hc id' hstarted
    simp only [h.chains_nil hactive, List.nil_append, List.mem_singleton] at hc
    subst hc
    rcases List.mem_append.mp hstarted with hbefore | hnew
    · exact Nat.le_of_lt ((h.overtaken id' hbefore).2 id (hpending ▸ List.mem_cons_self))
    · cases List.mem_singleton.mp hnew
      exact Nat.le_refl id

/-- An event that is not a start, and the chains of the same entries. -/
theorem Latest.snoc (h : Latest s) {event : TurnQueueEvent α} (hevent : ∀ id, event ≠ .started id)
    (hlog : t.log = s.log ++ [event]) (hchains : ∀ c ∈ t.chains, ∃ c' ∈ s.chains, c'.1 = c.1) :
    Latest t := by
  intro c hc id hstarted
  obtain ⟨c', hc', hsame⟩ := hchains c hc
  rw [hlog, List.mem_append, List.mem_singleton] at hstarted
  exact hsame ▸ h c' hc' id (hstarted.resolve_right fun heq => hevent id heq.symm)

theorem Sound.latest_step (h : Sound s) (hlatest : Latest s) {input : TurnQueueInput α}
    (hstep : s.step input = some t) : Latest t := by
  have hsame : ∀ c ∈ s.chains, ∃ c' ∈ s.chains, c'.1 = c.1 := fun c hc => ⟨c, hc, rfl⟩
  cases input with
  | schedule signal =>
    cases hstep
    unfold schedule
    split
    · exact hlatest.snoc (by simp) rfl hsame
    next hcapacity =>
    have henroll : ∀ onAbort, Latest (s.enroll signal onAbort) := fun onAbort =>
      hlatest.snoc (by simp) rfl hsame
    split
    · exact (henroll false).snoc (by simp) rfl hsame
    · exact (h.enqueue signal (Nat.lt_of_not_le hcapacity)).latest_drain (henroll signal.isSome)
  | abort signal =>
    rw [ControllerTurnQueue.step] at hstep
    split at hstep
    · cases hstep
      exact hlatest
    · cases hstep
      exact hlatest.snoc (by simp) rfl hsame
  | onAbort id =>
    rw [ControllerTurnQueue.step] at hstep
    split at hstep
    · next hregistered =>
      cases hstep
      rw [Bool.and_eq_true] at hregistered
      have hmem := h.listening id hregistered.1
      have hwaiting : ¬ (s.entries id).started = true := by simp [h.waiting id hmem]
      rw [ControllerTurnQueue.onAbort, if_neg hwaiting]
      refine (h.reject hmem hregistered.2 (s.entries id).started s.drains).latest_drain ?_
      exact hlatest.snoc (by simp) rfl hsame
    · cases hstep
  | drain =>
    rw [ControllerTurnQueue.step] at hstep
    split at hstep
    · cases hstep
    · cases hstep
      exact Sound.latest_drain { h with } hlatest
  | invoke chain =>
    simp only [ControllerTurnQueue.step] at hstep
    split at hstep
    · next id hat =>
      cases hstep
      obtain ⟨rfl, hchains⟩ := h.chain_at hat
      exact hlatest.snoc (by simp) rfl (by simp [hchains])
    · cases hstep
  | complete chain outcome =>
    simp only [ControllerTurnQueue.step] at hstep
    split at hstep
    · next id hat =>
      cases hstep
      obtain ⟨rfl, hchains⟩ := h.chain_at hat
      exact hlatest.snoc (by simp) rfl (by simp [hchains])
    · cases hstep
  | settle chain =>
    simp only [ControllerTurnQueue.step] at hstep
    split at hstep
    · next id outcome hat =>
      cases hstep
      obtain ⟨rfl, hchains⟩ := h.chain_at hat
      exact hlatest.snoc (by simp) rfl (by simp [hchains])
    · cases hstep
  | finish chain =>
    -- The last chain ends here, so there is none that the next operation could be behind.
    simp only [ControllerTurnQueue.step] at hstep
    split at hstep
    · next id hat =>
      cases hstep
      obtain ⟨rfl, hchains⟩ := h.chain_at hat
      rw [hchains]
      refine (h.finish hchains).latest_drain fun c hc => ?_
      cases hc
    · cases hstep

end ControllerTurnQueue

namespace ControllerSystem

open ThreadwireController ControllerWorld Coroutine

/-! ## The operations and the queue -/

/-- What the operations have to do with the queue, whatever they do. -/
structure Booked (s : ControllerSystem) : Prop where
  queue : s.queue.Sound
  latest : s.queue.Latest
  called : ∀ operation, s.bodies operation ≠ none ↔ .invoked operation ∈ s.queue.log
  halted : ∀ operation x, s.bodies operation = some x → ∀ move next, x ≠ .act move next
  heeds : ∀ operation x, s.bodies operation = some x → Heeds (Appends operation) Refuses x
  awaiting : ∀ operation request resume, s.bodies operation = some (.await request resume) →
    (operation, .running) ∈ s.queue.chains
  completed : ∀ operation outcome, .completed operation outcome ∈ s.queue.log →
    s.bodies operation = some (.done outcome)

/-- What a step does to the world: it has nothing to do with the policy, or the one operation whose
turn it is goes on until its next request. -/
inductive Moves (settings : ControllerSettings) (s t : ControllerSystem) : Prop
  | aside (hworld : Aside s.world t.world) (hbodies : t.bodies = s.bodies)
    (hoperations : ∀ operation, s.bodies operation ≠ none →
      t.operations operation = s.operations operation)
  | acts (operation : ℕ) (x : ControllerM ControllerReturn)
    (hworld : t.world = (x.advance s.world).2)
    (hbodies : t.bodies = Function.update s.bodies operation (some (x.advance s.world).1))
    (hoperations : t.operations = s.operations)
    (hturn : (s.bodies operation = none ∧
        ∃ signal, x = body settings operation signal (s.operations operation)) ∨
      ∃ request resume answer, s.bodies operation = some (.await request resume) ∧
        x = resume answer)
    (hlatest : ∀ other, s.bodies other ≠ none → other ≤ operation)
    (hothers : ∀ other, other ≠ operation → ∀ request resume,
      s.bodies other ≠ some (.await request resume))

variable {settings : ControllerSettings} {s t : ControllerSystem} {operation : ℕ}

theorem booked_initial (settings : ControllerSettings) : Booked (initial settings) where
  queue := ControllerTurnQueue.sound_init _
  latest _ hc := by cases hc
  called operation := iff_of_false (fun h => h rfl) (by rintro ⟨⟩)
  halted _ _ h := by cases h
  heeds _ _ h := by cases h
  awaiting _ _ _ h := by cases h
  completed _ _ h := by cases h

theorem Booked.lt_promises (h : Booked s) (hbody : s.bodies operation ≠ none) :
    operation < s.queue.promises ∧ .started operation ∈ s.queue.log := by
  obtain ⟨past, future, hsplit⟩ := List.append_of_mem ((h.called operation).mp hbody)
  have hstarted : .started operation ∈ s.queue.log :=
    hsplit ▸ List.mem_append_left _ (h.queue.lawful past _ future hsplit).1
  exact ⟨(h.queue.overtaken operation hstarted).1, hstarted⟩

/-- The queue makes a step that does not concern the operations. -/
theorem Booked.passive (h : Booked s) {queue : ControllerTurnQueue ControllerReturn}
    (hqueue : queue.Sound) (hlatest : queue.Latest) (hpassive : s.queue.Passive queue) :
    Booked { s with queue } where
  queue := hqueue
  latest := hlatest
  called operation := (h.called operation).trans (hpassive.invoked operation).symm
  halted := h.halted
  heeds := h.heeds
  awaiting operation request resume hbody :=
    (hpassive.running operation).mpr (h.awaiting operation request resume hbody)
  completed operation outcome hc :=
    h.completed operation outcome (hpassive.completed operation outcome hc)

theorem Booked.stepQueue (h : Booked s) {input : TurnQueueInput ControllerReturn}
    (hinput : ControllerTurnQueue.isPassive input = true) (hstep : s.stepQueue input = some t) :
    Booked t ∧ t.world = s.world ∧ t.bodies = s.bodies ∧ t.operations = s.operations := by
  obtain ⟨queue, hqueue, rfl⟩ := Option.map_eq_some_iff.mp hstep
  exact ⟨h.passive (h.queue.step hqueue) (h.queue.latest_step h.latest hqueue)
    (h.queue.passive hinput hqueue), rfl, rfl, rfl⟩

/-- The world moves, and nothing else. -/
theorem Booked.move (h : Booked s) {world : ControllerWorld} (hworld : Aside s.world world) :
    Booked { s with world } ∧ Moves settings s { s with world } :=
  ⟨⟨h.queue, h.latest, h.called, h.halted, h.heeds, h.awaiting, h.completed⟩,
    .aside hworld rfl fun _ _ => rfl⟩

theorem Booked.moves_stepQueue (h : Booked s) {input : TurnQueueInput ControllerReturn}
    (hinput : ControllerTurnQueue.isPassive input = true) (hstep : s.stepQueue input = some t) :
    Booked t ∧ Moves settings s t := by
  obtain ⟨ht, hworld, hbodies, hoperations⟩ := h.stepQueue hinput hstep
  refine ⟨ht, .aside ?_ hbodies fun operation _ => congrFun hoperations operation⟩
  rw [hworld]
  exact aside_of_eq rfl rfl rfl rfl

/-- An operation is queued. -/
theorem Booked.schedule (h : Booked s) (op : ControllerOperation) (signal : Option SignalId) :
    Booked (s.schedule op signal) ∧ Moves settings s (s.schedule op signal) := by
  have hstep : s.queue.step (.schedule signal) = some (s.queue.schedule signal) := rfl
  have hbooked := h.passive (h.queue.step hstep) (h.queue.latest_step h.latest hstep)
    (ControllerTurnQueue.passive_schedule signal)
  refine ⟨⟨hbooked.queue, hbooked.latest, hbooked.called, hbooked.halted, hbooked.heeds,
    hbooked.awaiting, hbooked.completed⟩, .aside (aside_of_eq rfl rfl rfl rfl)
      rfl fun operation hbody => ?_⟩
  exact Function.update_of_ne (Nat.ne_of_lt (h.lt_promises hbody).1) _ _

/-- There is one promise chain at most. -/
theorem Booked.chains_eq (h : Booked s) {stage : TurnStage ControllerReturn}
    (hchain : (operation, stage) ∈ s.queue.chains) : s.queue.chains = [(operation, stage)] := by
  rcases h.queue.single with ⟨-, hnil⟩ | ⟨c, -, hone⟩
  · rw [hnil] at hchain
    cases hchain
  · rw [hone, List.mem_singleton] at hchain
    rw [hone, hchain]

/-- An operation that runs is the only one, so no other one awaits anything. -/
theorem Booked.not_awaiting (h : Booked s) {stage : TurnStage ControllerReturn}
    (hchain : (operation, stage) ∈ s.queue.chains) {other : ℕ} (hne : other ≠ operation)
    (request : ControllerRequest) (resume : request.Answer → ControllerM ControllerReturn) :
    s.bodies other ≠ some (.await request resume) := by
  intro hbody
  have hother := h.awaiting other request resume hbody
  rw [h.chains_eq hchain, List.mem_singleton] at hother
  exact hne (congrArg Prod.fst hother)

/-- It is also the last one that has started. -/
theorem Booked.le_chain (h : Booked s) {stage : TurnStage ControllerReturn}
    (hchain : (operation, stage) ∈ s.queue.chains) {other : ℕ} (hbody : s.bodies other ≠ none) :
    other ≤ operation :=
  h.latest _ hchain other (h.lt_promises hbody).2

/-- The operation acts until its next request. -/
theorem Booked.advance (h : Booked s) {x : ControllerM ControllerReturn}
    (hheeds : Heeds (Appends operation) Refuses x)
    {queue : ControllerTurnQueue ControllerReturn} (hqueue : queue.Sound) (hlatest : queue.Latest)
    (hrunning : (operation, .running) ∈ queue.chains)
    (hinvoked : ∀ other, .invoked other ∈ queue.log ↔
      other = operation ∨ .invoked other ∈ s.queue.log)
    (hcompleted : ∀ other outcome, .completed other outcome ∈ queue.log →
      other ≠ operation ∧ .completed other outcome ∈ s.queue.log)
    (hothers : ∀ other, other ≠ operation → ∀ request resume,
      s.bodies other ≠ some (.await request resume)) :
    Booked ({ s with queue }.advance operation x) := by
  have hbodies : ∀ other, ({ s with queue }.advance operation x).bodies other =
      if other = operation then some (x.advance s.world).1 else s.bodies other := fun other =>
    Function.update_apply _ _ _ _
  -- Only the operation that advances has a new body.
  have hown : ∀ {other y}, ({ s with queue }.advance operation x).bodies other = some y →
      (other = operation ∧ y = (x.advance s.world).1) ∨
        (other ≠ operation ∧ s.bodies other = some y) := by
    intro other y hy
    rw [hbodies] at hy
    split at hy
    · next heq => exact .inl ⟨heq, (Option.some.inj hy).symm⟩
    · next hne => exact .inr ⟨hne, hy⟩
  refine ⟨hqueue, hlatest, fun other => ?_, fun other y hy => ?_, fun other y hy => ?_,
    fun other request resume hy => ?_, fun other outcome hc => ?_⟩
  · refine Iff.trans ?_ (hinvoked other).symm
    rw [hbodies, ← h.called]
    split
    · next heq => exact iff_of_true (Option.some_ne_none _) (.inl heq)
    · next hne => exact (or_iff_right hne).symm
  · rcases hown hy with ⟨-, rfl⟩ | ⟨-, hold⟩
    · exact advance_ne_act x s.world
    · exact h.halted other y hold
  · rcases hown hy with ⟨rfl, rfl⟩ | ⟨-, hold⟩
    · exact (hheeds.advance s.world).2
    · exact h.heeds other y hold
  · rcases hown hy with ⟨rfl, -⟩ | ⟨hne, hold⟩
    · exact hrunning
    · exact absurd hold (hothers other hne request resume)
  · obtain ⟨hne, hold⟩ := hcompleted other outcome hc
    rw [hbodies, if_neg hne]
    exact h.completed other outcome hold

/-- The queue calls an operation. -/
theorem Booked.invoke (h : Booked s) {chain : ℕ}
    (hstep : s.step settings (.invoke chain) = some t) :
    Booked t ∧ Moves settings s t := by
  rw [ControllerSystem.step] at hstep
  split at hstep
  · cases hstep
  next operation stage hat =>
  obtain ⟨s', hs', rfl⟩ := Option.map_eq_some_iff.mp hstep
  obtain ⟨queue, hqueue, rfl⟩ := Option.map_eq_some_iff.mp hs'
  have hsound := h.queue.step hqueue
  have hlatest := h.queue.latest_step h.latest hqueue
  rw [ControllerTurnQueue.step, hat] at hqueue
  cases stage with
  | invoking =>
    cases hqueue
    obtain ⟨rfl, hchains⟩ := h.queue.chain_at hat
    have hchain : (operation, .invoking) ∈ s.queue.chains := hchains ▸ List.mem_cons_self
    -- The chain is still to be invoked, so the operation has no body yet.
    have hnotInvoked : .invoked operation ∉ s.queue.log := (h.queue.chained _ hchain).2
    have hnone : s.bodies operation = none :=
      not_not.mp fun hsome => hnotInvoked ((h.called operation).mp hsome)
    have hothers : ∀ other, other ≠ operation → ∀ request resume,
        s.bodies other ≠ some (.await request resume) := fun other hne => h.not_awaiting hchain hne
    refine ⟨h.advance (heeds_body _) hsound hlatest (by simp [hchains])
      (fun other => by simp [or_comm])
      (fun other outcome hc => ?_) hothers, .acts operation _ rfl rfl rfl (.inl ⟨hnone, _, rfl⟩)
      (fun other => h.le_chain hchain) hothers⟩
    have hold : .completed other outcome ∈ s.queue.log := by simpa using hc
    refine ⟨?_, hold⟩
    rintro rfl
    rw [h.completed other outcome hold] at hnone
    cases hnone
  | running | settling | finishing => cases hqueue

/-- The request of an operation is answered. -/
theorem Booked.resume (h : Booked s) {raceEnd : RaceEnd}
    {answers : ∀ call : ControllerCall, call.Answer}
    (hstep : s.step settings (.resume operation raceEnd answers) = some t) :
    Booked t ∧ Moves settings s t := by
  rw [ControllerSystem.step] at hstep
  split at hstep
  · next request resume hbody =>
    obtain ⟨answer, hanswer, rfl⟩ := Option.map_eq_some_iff.mp hstep
    have hrunning := h.awaiting operation request resume hbody
    have hothers : ∀ other, other ≠ operation → ∀ request resume,
        s.bodies other ≠ some (.await request resume) := fun other hne =>
          h.not_awaiting hrunning hne
    have hinvoked : .invoked operation ∈ s.queue.log :=
      (h.called operation).mp (by rw [hbody]; exact Option.some_ne_none _)
    have hheeds := (h.heeds operation _ hbody answer).1
    refine ⟨@Booked.advance s operation h _ hheeds s.queue h.queue h.latest hrunning
      (fun other => ?_) (fun other outcome hc => ⟨?_, hc⟩) hothers,
      .acts operation _ rfl rfl rfl (.inr ⟨request, resume, answer, hbody, rfl⟩)
      (fun other => h.le_chain hrunning) hothers⟩
    · refine ⟨.inr, fun hor => hor.elim ?_ id⟩
      rintro rfl
      exact hinvoked
    · rintro rfl
      have hdone := h.completed other outcome hc
      rw [hbody] at hdone
      cases hdone
  · cases hstep

/-- An operation has ended. -/
theorem Booked.complete (h : Booked s) {chain : ℕ}
    (hstep : s.step settings (.complete chain) = some t) :
    Booked t ∧ Moves settings s t := by
  rw [ControllerSystem.step] at hstep
  split at hstep
  · cases hstep
  next operation stage hat =>
  split at hstep
  · next outcome hbody =>
    obtain ⟨queue, hqueue, rfl⟩ := Option.map_eq_some_iff.mp hstep
    have hsound := h.queue.step hqueue
    have hlatest := h.queue.latest_step h.latest hqueue
    rw [ControllerTurnQueue.step, hat] at hqueue
    cases stage with
    | running =>
      cases hqueue
      obtain ⟨rfl, hchains⟩ := h.queue.chain_at hat
      have hchain : (operation, .running) ∈ s.queue.chains := hchains ▸ List.mem_cons_self
      -- The operation that completes is the only one that could be waiting.
      refine ⟨⟨hsound, hlatest, fun other => (h.called other).trans (by simp), h.halted, h.heeds,
        fun other request resume hawait => ?_, fun other outcome' hc => ?_⟩,
        .aside (aside_of_eq rfl rfl rfl rfl) rfl fun _ _ => rfl⟩
      · by_cases hne : other = operation
        · rw [hne, hbody] at hawait
          cases hawait
        · exact absurd hawait (h.not_awaiting hchain hne request resume)
      · rcases List.mem_append.mp hc with hold | hnew
        · exact h.completed other outcome' hold
        · cases List.mem_singleton.mp hnew
          exact hbody
    | invoking | settling | finishing => cases hqueue
  · cases hstep

/-! ### What has nothing to do with the policy -/

theorem aside_confirmTurnCompletion (w : ControllerWorld) (result : ResultId) :
    Aside w (w.confirmTurnCompletion result) := by
  have hconfirm : ∀ w : ControllerWorld, Aside w (w.confirmCompletedTurn result) := fun w => by
    rw [confirmCompletedTurn]
    split <;> exact aside_of_eq rfl rfl rfl rfl
  exact ((aside_record (by simp) w).trans (hconfirm _)).trans (aside_settleCompletionBarrier _ _ _)

theorem aside_rollbackTurnCompletion (w : ControllerWorld) (result : ResultId) :
    Aside w (w.rollbackTurnCompletion result) := by
  have hrollback : ∀ w : ControllerWorld, Aside w (w.rollbackCompletedTurn result) := fun w => by
    rw [rollbackCompletedTurn]
    split
    · exact aside_of_eq rfl rfl rfl rfl
    dsimp only
    split
    · refine aside_of_eq ?_ rfl rfl rfl
      rw [calls, ControllerWorld.record, List.filterMap_append]
      exact List.append_nil _
    · exact aside_of_eq rfl rfl rfl rfl
  exact ((aside_record (by simp) w).trans (hrollback _)).trans (aside_settleCompletionBarrier _ _ _)

/-- What a step does, and what it keeps. -/
theorem Booked.step (h : Booked s) {input : ControllerInput}
    (hstep : s.step settings input = some t) :
    Booked t ∧ Moves settings s t := by
  have hquiet : Booked s ∧ Moves settings s s :=
    ⟨h, .aside (aside_of_eq rfl rfl rfl rfl) rfl fun _ _ => rfl⟩
  cases input with
  | executeTurn request signal =>
    rw [ControllerSystem.step] at hstep
    split at hstep <;> cases hstep
    · exact hquiet
    · exact h.schedule _ signal
  | executeTurnDuring threadHandle registrationState prompt signal =>
    rw [ControllerSystem.step] at hstep
    split at hstep <;> cases hstep
    exact h.schedule _ signal
  | createProject name signal =>
    cases hstep
    exact h.schedule _ signal
  | recoverRuntime signal =>
    cases hstep
    exact h.schedule _ signal
  | confirmTurnCompletion result =>
    rw [ControllerSystem.step] at hstep
    split at hstep <;> cases hstep
    exact h.move (aside_confirmTurnCompletion s.world result)
  | rollbackTurnCompletion result =>
    rw [ControllerSystem.step] at hstep
    split at hstep <;> cases hstep
    exact h.move (aside_rollbackTurnCompletion s.world result)
  | initializeController =>
    rw [ControllerSystem.step] at hstep
    split at hstep <;> cases hstep
    · next hunbegun => exact h.move (aside_initializeController hunbegun.2)
    · exact hquiet
  | initialized lease outcome =>
    rw [ControllerSystem.step] at hstep
    split at hstep <;> cases hstep
    next helsewhere => exact h.move (aside_initialized helsewhere lease outcome)
  | register value handleFactory =>
    rw [ControllerSystem.step] at hstep
    split at hstep <;> cases hstep
    · exact hquiet
    · exact h.move (aside_of_eq rfl rfl rfl rfl)
  | abort signal =>
    -- The queue hears the abort first, the world after it.
    obtain ⟨s', hs', rfl⟩ := Option.map_eq_some_iff.mp hstep
    obtain ⟨hbooked, hworld, hbodies, hoperations⟩ := h.stepQueue rfl hs'
    have hmove := @Booked.move settings s' hbooked
      { s'.world with aborted := Function.update s'.world.aborted signal true }
      (aside_of_eq rfl rfl rfl rfl)
    refine ⟨hmove.1, .aside ?_ hbodies fun operation _ => congrFun hoperations operation⟩
    rw [← hworld]
    exact aside_of_eq rfl rfl rfl rfl
  | onAbort operation => exact h.moves_stepQueue rfl hstep
  | drain => exact h.moves_stepQueue rfl hstep
  | invoke chain => exact h.invoke hstep
  | resume operation raceEnd answers => exact h.resume hstep
  | complete chain => exact h.complete hstep
  | settle chain => exact h.moves_stepQueue rfl hstep
  | finish chain => exact h.moves_stepQueue rfl hstep

/-! ## The invariant -/

/-- The scripts of the operations so far, one after another. -/
structure Obeys (settings : ControllerSettings) (s : ControllerSystem) : Prop extends Booked s where
  admitted : Admitted s.world
  unbegun : ∀ operation, s.bodies operation = none → s.world.callsOf operation = []
  follows : ∀ operation x, s.bodies operation = some x →
    (policyCompany settings operation (s.operations operation)).wp
      (fun _ => EndsScript settings operation (s.operations operation))
      (fun _ => KeepsScript settings operation (s.operations operation)) x s.world
  serial : (s.world.calls.map Prod.fst).Pairwise (· ≤ ·)

theorem obeys_initial (settings : ControllerSettings) : Obeys settings (initial settings) where
  toBooked := booked_initial settings
  admitted := by
    refine ⟨fun _ _ _ h => ?_, fun _ => ⟨rfl, rfl, fun _ h => ?_⟩, fun h => ?_, Nat.zero_le 1⟩
    all_goals cases h
  unbegun _ _ := rfl
  follows _ _ h := by cases h
  serial := .nil

/-- An operation makes its own calls only. -/
theorem calls_of_appends {w w' : ControllerWorld} (h : Appends operation w w') :
    ∃ own, w'.calls = w.calls ++ own ∧ ∀ call ∈ own, call.1 = operation := by
  obtain ⟨⟨events, hlog, hevents⟩, -⟩ := h
  refine ⟨_, by rw [calls, hlog, List.filterMap_append]; rfl, fun call hcall => ?_⟩
  obtain ⟨event, hmem, hevent⟩ := List.mem_filterMap.mp hcall
  cases event with
  | called operation' call' =>
    cases hevent
    exact Option.some.inj ((hevents _ hmem).resolve_left (Option.some_ne_none _))
  | _ => cases hevent

theorem callsOf_of_appends {w w' : ControllerWorld} (h : Appends operation w w') {other : ℕ}
    (hne : other ≠ operation) : w'.callsOf other = w.callsOf other := by
  obtain ⟨own, hcalls, hown⟩ := calls_of_appends h
  rw [callsOf, hcalls, List.filterMap_append]
  refine (congrArg (_ ++ ·) (List.filterMap_eq_nil_iff.mpr ?_)).trans (List.append_nil _)
  rintro ⟨operation', call⟩ hmem
  exact if_neg fun heq => hne (heq.symm.trans (hown _ hmem))

/-- Only operations that have begun have called. -/
theorem Obeys.begun (h : Obeys settings s) {call : ControllerCall}
    (hcall : (operation, call) ∈ s.world.calls) : s.bodies operation ≠ none := by
  intro hnone
  have hnil := h.unbegun operation hnone
  rw [callsOf, List.filterMap_eq_nil_iff] at hnil
  have habsurd := hnil _ hcall
  simp at habsurd

/-- The step lemma. -/
theorem Obeys.step (h : Obeys settings s) {input : ControllerInput}
    (hstep : s.step settings input = some t) : Obeys settings t := by
  obtain ⟨hbooked, hmoves⟩ := h.toBooked.step hstep
  cases hmoves with
  | aside hworld hbodies hoperations =>
    -- Nothing is called. What each operation owes is stable under what the others may do.
    refine ⟨hbooked, hworld.admitted h.admitted, fun operation hnone => ?_,
      fun operation x hx => ?_, ?_⟩
    · rw [hworld.callsOf]
      exact h.unbegun operation (hbodies ▸ hnone)
    · rw [hbodies] at hx
      rw [hoperations operation (by rw [hx]; exact Option.some_ne_none _)]
      exact policyCompany_stable.wp (h.halted operation x hx) (h.follows operation x hx) hworld
    · rw [hworld.calls]
      exact h.serial
  | acts operation x hworld hbodies hoperations hturn hlatest hothers =>
    have hheeds : Heeds (Appends operation) Refuses x := by
      rcases hturn with ⟨-, signal, rfl⟩ | ⟨request, resume, answer, hbody, rfl⟩
      · exact heeds_body _
      · exact (h.heeds operation _ hbody answer).1
    have happends : Appends operation s.world t.world := hworld ▸ (hheeds.advance s.world).1
    -- The operation begins, or goes on with an answer; what it owes is the whole script in the one
    -- case and the rest of it in the other.
    have hwp : (policyCompany settings operation (s.operations operation)).wp
        (fun _ => EndsScript settings operation (s.operations operation))
        (fun _ => KeepsScript settings operation (s.operations operation)) x s.world := by
      rcases hturn with ⟨hnone, signal, rfl⟩ | ⟨request, resume, answer, hbody, rfl⟩
      · exact carries_body operation signal _ s.world ⟨h.admitted, h.unbegun operation hnone⟩
      · exact (h.follows operation _ hbody).2 s.world answer (aside_of_eq rfl rfl rfl rfl) trivial
    have hwp' := (Company.wp_advance hwp).1
    rw [← hworld] at hwp'
    have hadmitted : Admitted t.world := by
      have hhalted := advance_ne_act x s.world
      cases hx : (x.advance s.world).1 with
      | done outcome =>
        rw [hx] at hwp'
        cases outcome with
        | ok value => exact hwp'.admitted
        | error error => exact hwp'.admitted
      | act move next => exact absurd hx (hhalted move next)
      | await request resume =>
        rw [hx] at hwp'
        exact hwp'.1.admitted
    -- The others have called nothing and do not wait, so that what they have come to is as before.
    refine ⟨hbooked, hadmitted, fun other hnone => ?_, fun other y hy => ?_, ?_⟩
    · rw [hbodies, Function.update_apply] at hnone
      split at hnone
      · cases hnone
      · next hne => exact (callsOf_of_appends happends hne).trans (h.unbegun other hnone)
    · rw [hoperations]
      rw [hbodies, Function.update_apply] at hy
      split at hy
      · next heq =>
        cases hy
        exact heq ▸ hwp'
      · next hne =>
        have hold := h.follows other y hy
        have hcalls := callsOf_of_appends happends hne
        cases y with
        | done outcome =>
          cases outcome with
          | ok value => exact ⟨hadmitted, hcalls ▸ hold.completes⟩
          | error error => exact ⟨hadmitted, hcalls ▸ hold.scripted⟩
        | act move next => exact absurd rfl (h.halted other _ hy move next)
        | await request resume => exact absurd hy (hothers other hne request resume)
    -- The new calls are all of one operation, and it is the latest that has begun.
    · obtain ⟨own, hcalls, hown⟩ := calls_of_appends happends
      rw [hcalls, List.map_append, List.pairwise_append]
      refine ⟨h.serial, ?_, fun earlier hearlier later hlater => ?_⟩
      · refine List.pairwise_map.mpr (List.pairwise_of_forall_mem_list fun a ha b hb => ?_)
        rw [hown a ha, hown b hb]
      · obtain ⟨⟨earlier, call⟩, hcall, rfl⟩ := List.mem_map.mp hearlier
        obtain ⟨call', hcall', rfl⟩ := List.mem_map.mp hlater
        rw [hown call' hcall']
        exact hlatest earlier (h.begun hcall)

/-! ## The law -/

/-- What holds of the calls at every point of a run. -/
structure RuntimePolicy (settings : ControllerSettings) (s : ControllerSystem) : Prop where
  scripted : ∀ operation,
    Scripted settings.classicPolicy (s.operations operation) (s.world.callsOf operation)
  completes : ∀ operation value, .settled operation (.ok value) ∈ s.queue.log →
    Completes settings.classicPolicy (s.operations operation) (s.world.callsOf operation)
  serial : (s.world.calls.map Prod.fst).Pairwise (· ≤ ·)
  lease : ∀ operation call lease, (operation, call) ∈ s.world.calls → leaseOf call = some lease →
    s.world.boundRuntimeLease = some lease
  admitted_once : (s.world.calls.map Prod.snd).count .requireExisting ≤ 1

/-- Where an operation is, it has made the beginning of its script. -/
theorem Obeys.scripted (h : Obeys settings s) (operation : ℕ) :
    Scripted settings.classicPolicy (s.operations operation) (s.world.callsOf operation) := by
  cases hbody : s.bodies operation with
  | none =>
    rw [h.unbegun operation hbody]
    exact scripted_nil _ _
  | some x =>
    have hfollows := h.follows operation x hbody
    cases x with
    | done outcome =>
      cases outcome with
      | ok value => exact hfollows.keepsScript.scripted
      | error error => exact hfollows.scripted
    | act move next => exact absurd rfl (h.halted operation _ hbody move next)
    | await request resume => exact hfollows.1.scripted

/-- The runtime sees what the policy allows at every point of every run. -/
theorem runtime_policy (settings : ControllerSettings) (inputs : List ControllerInput)
    (s : ControllerSystem) (hrun : Machine.exec (step settings) (initial settings) inputs =
      some s) :
    RuntimePolicy settings s := by
  have h : Obeys settings s :=
    Machine.exec_invariant (fun _ _ _ h hstep => h.step hstep) (obeys_initial settings) hrun
  refine ⟨h.scripted, fun operation value hsettled => ?_, h.serial, h.admitted.bound,
    h.admitted.once⟩
  obtain ⟨past, future, hsplit⟩ := List.append_of_mem hsettled
  have hcompleted : .completed operation (.ok value) ∈ s.queue.log := by
    rcases h.queue.lawful past _ future hsplit with hcompleted | ⟨herror, -⟩
    · exact hsplit ▸ List.mem_append_left _ hcompleted
    · cases herror
  exact (h.follows operation _ (h.completed operation _ hcompleted)).completes

/-- A controller that is bound to the runtime that it finds. -/
def boundSettings : ControllerSettings := { smoothSettings with classicPolicy := .boundExisting }

/-- Two projects are created, one after the other. -/
def boundInputs : List ControllerInput :=
  [.createProject (Text.of "p") none, .createProject (Text.of "q") none, .invoke 0] ++
  List.replicate 7 (.resume 0 .settled smoothAnswers) ++
  [.complete 0, .settle 0, .finish 0, .invoke 0]
    ++ List.replicate 4 (.resume 1 .settled smoothAnswers)

/-- The law, in a run in which the first operation admits the runtime. -/
theorem runtime_policy_bound :
    ∃ s, Machine.exec (step boundSettings) (initial boundSettings) boundInputs = some s ∧
      s.world.callsOf 0 = [.requireExisting, .bindExistingRuntime ⟨1, ⟨7, "a"⟩⟩,
        .assertBoundRuntimeCurrent ⟨1, ⟨7, "a"⟩⟩, .connect,
        .assertBoundRuntimeCurrent ⟨1, ⟨7, "a"⟩⟩, .assertBoundRuntimeCurrent ⟨1, ⟨7, "a"⟩⟩,
        .create (Text.of "p")] ∧
      RuntimePolicy boundSettings s := by
  exact ⟨_, rfl, rfl, runtime_policy boundSettings boundInputs _ rfl⟩

end ControllerSystem

end Threadwire
