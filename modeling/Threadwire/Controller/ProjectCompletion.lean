import Threadwire.Controller.BarrierDiscipline
import Threadwire.Controller.TurnQueueInvariant
import Threadwire.Project.LocatorIdentity

/-!
# The completion barrier

The queue lets one operation run at a time, and each keeps to its discipline; so the world stays
sound through every step of the controller, in whichever order operations are queued and settled,
signals abort, deadlines pass, and completions are confirmed and rolled back.
-/

namespace Threadwire

/-! ## Steps of the queue -/

namespace ControllerTurnQueue

variable {α : Type} {s t : ControllerTurnQueue α}

/-- No operation is called between the two queues and none completes, and those that run go on. -/
structure Passive (s t : ControllerTurnQueue α) : Prop where
  invoked : ∀ id, .invoked id ∈ t.log ↔ .invoked id ∈ s.log
  completed : ∀ id outcome, .completed id outcome ∈ t.log → .completed id outcome ∈ s.log
  running : ∀ id, (id, .running) ∈ t.chains ↔ (id, .running) ∈ s.chains

theorem Passive.refl (s : ControllerTurnQueue α) : Passive s s :=
  ⟨fun _ => Iff.rfl, fun _ _ h => h, fun _ => Iff.rfl⟩

/-- Neither the calls nor the ends of operations. -/
def isQuiet : TurnQueueEvent α → Bool
  | .invoked _ => false
  | .completed _ _ => false
  | _ => true

/-- An event that is neither. -/
theorem Passive.snoc (h : Passive s t) {u : ControllerTurnQueue α} {event : TurnQueueEvent α}
    (hevent : isQuiet event = true) (hlog : u.log = t.log ++ [event])
    (hchains : ∀ id, (id, .running) ∈ u.chains ↔ (id, .running) ∈ t.chains) : Passive s u := by
  have hmem : ∀ {e : TurnQueueEvent α}, isQuiet e = false → (e ∈ u.log ↔ e ∈ t.log) := by
    intro e he
    rw [hlog, List.mem_append, List.mem_singleton]
    refine or_iff_left ?_
    rintro rfl
    rw [hevent] at he
    cases he
  exact ⟨fun id => (hmem rfl).trans (h.invoked id),
    fun id outcome hc => h.completed id outcome ((hmem rfl).mp hc),
    fun id => (hchains id).trans (h.running id)⟩

theorem Passive.drain (h : Passive s t) : Passive s t.drain := by
  have hdrained := drained_drain t
  generalize t.drain = u at hdrained
  cases hdrained with
  | idle => exact h
  | rejected => exact h.snoc rfl rfl fun _ => Iff.rfl
  | started id rest => exact h.snoc rfl rfl fun id' => by simp

theorem passive_schedule (signal : Option SignalId) : Passive s (s.schedule signal) := by
  have hrefl := Passive.refl s
  have henroll : ∀ onAbort, Passive s (s.enroll signal onAbort) := fun onAbort =>
    hrefl.snoc rfl rfl fun _ => Iff.rfl
  unfold schedule
  split
  · exact hrefl.snoc rfl rfl fun _ => Iff.rfl
  split
  · exact (henroll false).snoc rfl rfl fun _ => Iff.rfl
  · have hpending := henroll signal.isSome
    exact Passive.drain ⟨hpending.invoked, hpending.completed, hpending.running⟩

/-- Only `invoke` and `complete` concern the operations. -/
def isPassive : TurnQueueInput α → Bool
  | .invoke _ => false
  | .complete _ _ => false
  | _ => true

theorem Sound.passive (h : Sound s) {input : TurnQueueInput α} (hinput : isPassive input = true)
    (hstep : s.step input = some t) : Passive s t := by
  have hrefl := Passive.refl s
  cases input with
  | invoke | complete => cases hinput
  -- What the queue does by itself calls no operation and completes none.
  | schedule signal =>
    cases hstep
    exact passive_schedule signal
  | abort signal =>
    rw [ControllerTurnQueue.step] at hstep
    split at hstep
    · cases hstep
      exact hrefl
    · cases hstep
      exact hrefl.snoc rfl rfl fun _ => Iff.rfl
  | onAbort id =>
    rw [ControllerTurnQueue.step] at hstep
    split at hstep
    · cases hstep
      unfold onAbort
      split
      · exact hrefl
      · refine Passive.drain ?_
        exact hrefl.snoc rfl rfl fun _ => Iff.rfl
    · cases hstep
  | drain =>
    rw [ControllerTurnQueue.step] at hstep
    split at hstep
    · cases hstep
    · cases hstep
      exact Passive.drain ⟨hrefl.invoked, hrefl.completed, hrefl.running⟩
  | settle chain =>
    simp only [ControllerTurnQueue.step] at hstep
    split at hstep
    · rename_i id outcome hat
      cases hstep
      obtain ⟨rfl, hchains⟩ := h.chain_at hat
      exact hrefl.snoc rfl rfl fun id' => by simp [hchains]
    · cases hstep
  | finish chain =>
    simp only [ControllerTurnQueue.step] at hstep
    split at hstep
    · rename_i id hat
      cases hstep
      obtain ⟨rfl, hchains⟩ := h.chain_at hat
      exact Passive.drain ⟨hrefl.invoked, hrefl.completed, fun id' => by simp [hchains]⟩
    · cases hstep

end ControllerTurnQueue

/-! ## Sound worlds -/

namespace ControllerWorld

variable {settings : ControllerSettings} {w : ControllerWorld} {current : Option OpenCompletion}
  {operation : ℕ} {barrier : BarrierId} {result : ResultId} {handle : ThreadHandle}
  {lease : RuntimeLease}

/-- The pending barrier is the one that is installed and not released. -/
theorem Sound.pending_iff (h : Sound settings w current) :
    w.pendingCompletionBarrier = some barrier ↔ ∃ result, .installed barrier result ∈ w.log ∧
      ∀ committed, .released barrier committed ∉ w.log := by
  rw [h.keeps.barrier, Option.map_eq_some_iff]
  constructor
  · rintro ⟨o, rfl, rfl⟩
    exact ⟨o.result, (h.results.current o rfl).2.2, fun _ => h.unreleased⟩
  · rintro ⟨result, hinstalled, hunreleased⟩
    obtain ⟨handle, lease, hcreated⟩ := h.barriers.created barrier result hinstalled
    have hundecided : decision w.log result = none := by
      rw [← h.barriers.settled barrier result hinstalled]
      refine Option.eq_none_iff_forall_not_mem.mpr fun committed hsettled => ?_
      exact hunreleased committed ((h.barriers.released barrier committed).mpr hsettled)
    obtain ⟨o, ho, rfl, -⟩ := h.results.opened result handle lease hcreated hundecided
    exact ⟨o, ho, (h.barriers.unique _ _ _ _ (h.results.current o ho).2.2 hinstalled).mpr rfl⟩

/-- A created handle can be resolved exactly if its result was confirmed first. -/
theorem Sound.resolve_iff (h : Sound settings w current) (hcreated : Created w.log result handle lease) :
    (∃ locator, w.registry.resolve handle = .ok locator) ↔ decision w.log result = some true := by
  have hresolve : (∃ locator, w.registry.resolve handle = .ok locator) ↔
      ∃ locator, w.registry.committedHandleToLocator.get? handle = some locator := by
    rw [ThreadRegistry.resolve]
    cases w.registry.committedHandleToLocator.get? handle <;> simp
  rw [hresolve]
  cases hdecided : decision w.log result with
  | none =>
    obtain ⟨o, ho, -, rfl, -⟩ := h.results.opened result handle lease hcreated hdecided
    obtain ⟨transaction, entry, -, hopen⟩ := h.keeps.held o ho
    refine iff_of_false ?_ (by rintro ⟨⟩)
    rintro ⟨locator, hlocator⟩
    have hnone := h.consistent.disjoint _ _ hlocator
    rw [hopen.entry_eq] at hnone
    cases hnone
  | some committed =>
    have hfate := h.results.decided result handle lease committed hcreated hdecided
    cases committed with
    | true => exact iff_of_true hfate rfl
    | false =>
      refine iff_of_false ?_ (by rintro ⟨⟩)
      rintro ⟨locator, hlocator⟩
      rw [(ThreadRegistry.handleExists_eq_false hfate).1] at hlocator
      cases hlocator

/-- An operation that has waited for a completion that was rolled back has not worked: not before the
wait, nor after it. -/
theorem Sound.not_went (h : Sound settings w current) (hwaiting : .waiting operation barrier ∈ w.log)
    (hinstalled : .installed barrier result ∈ w.log) (hdecided : decision w.log result = some false) :
    ¬ Went w.log operation := by
  have hwork : ∀ event, event ∈ w.log → (∀ past, event ∈ past → Went past operation) →
      event ≠ .waiting operation barrier →
      (∀ past, Allowed past event → Through past operation) → False := by
    intro event hmem hwent hne hthrough
    obtain ⟨past, future, hsplit⟩ := List.append_of_mem hmem
    have hpast : .waiting operation barrier ∈ past := by
      have hafter : .waiting operation barrier ∉ future := h.lawful.not_after hsplit
        fun before hbefore hallowed => hallowed (hwent before hbefore)
      rw [hsplit] at hwaiting
      rcases List.mem_append.mp hwaiting with hpast | hrest
      · exact hpast
      · rcases List.mem_cons.mp hrest with heq | hfuture
        · exact absurd heq.symm hne
        · exact absurd hfuture hafter
    obtain ⟨result', hinstalled', htrue⟩ := hthrough past (h.lawful past event future hsplit) barrier hpast
    have hsame : result = result' := (h.barriers.unique _ _ _ _ hinstalled
      (hsplit ▸ List.mem_append_left _ hinstalled')).mp rfl
    have htrue' : decision (past ++ event :: future) result' = some true := decision_of_append htrue
    rw [← hsplit, ← hsame, hdecided] at htrue'
    cases htrue'
  rintro (hmem | ⟨call, hmem⟩)
  · exact hwork _ hmem (fun _ => .inl) nofun fun _ hallowed => hallowed.2
  · exact hwork _ hmem (fun _ hpast => .inr ⟨call, hpast⟩) nofun fun _ hallowed => hallowed.2

end ControllerWorld

/-! ## The invariant of the controller -/

namespace ControllerSystem

open ThreadwireController ControllerWorld Coroutine

/-- An operation that has got this far keeps to its discipline, and acts no further before it is
answered. -/
structure Follows (settings : ControllerSettings) (operation : ℕ) (w : ControllerWorld)
    (x : ControllerM ControllerReturn) : Prop where
  heeds : Heeds (Appends operation) Refuses x
  waits : ∀ move next, x ≠ .act move next
  disciplined : (company settings operation).wp (fun _ => Resolves settings operation)
    (fun _ => Orderly settings) x w

/-- What the queue, the world and the operation have to do with each other. -/
structure Tracked (settings : ControllerSettings) (s : ControllerSystem) (operation : ℕ) :
    Prop where
  called : s.bodies operation ≠ none ↔ .invoked operation ∈ s.queue.log
  stepped : s.bodies operation = none → ∀ event ∈ s.world.log, event.operation? ≠ some operation
  follows : ∀ x, s.bodies operation = some x → Follows settings operation s.world x
  awaiting : ∀ request resume, s.bodies operation = some (.await request resume) →
    (operation, .running) ∈ s.queue.chains
  completed : ∀ outcome, .completed operation outcome ∈ s.queue.log →
    s.bodies operation = some (.done outcome)

/-- The invariant of the controller. -/
structure Sound (settings : ControllerSettings) (s : ControllerSystem) : Prop where
  queue : s.queue.Sound
  world : Orderly settings s.world
  projects : ∀ handle locator, s.world.projectRegistry.projects.get? handle = some locator →
    (urlParser settings.platform locator).isSome = true
  operations : ∀ operation, ValidOperation settings (s.operations operation)
  tracked : ∀ operation, Tracked settings s operation

variable {settings : ControllerSettings} {s t : ControllerSystem} {operation : ℕ}

/-- A new controller. -/
theorem sound_initial (settings : ControllerSettings) : Sound settings (initial settings) where
  queue := ControllerTurnQueue.sound_init _
  world := by
    refine ⟨none, ThreadRegistry.consistent_empty, Trace.lawful_nil, ⟨rfl, ?_, fun _ _ => rfl, nofun⟩,
      ⟨nofun, fun _ _ => rfl, ?_, ?_, ?_, nofun⟩, ⟨nofun, nofun, nofun, nofun, ?_, fun _ _ => rfl,
      nofun⟩⟩
    · exact fun result => iff_of_false (Finset.notMem_empty result) nofun
    · rintro result handle lease ⟨project, hmem⟩
      cases hmem
    · rintro result handle lease ⟨project, hmem⟩
      cases hmem
    · rintro result handle lease committed ⟨project, hmem⟩
      cases hmem
    · exact fun barrier committed => iff_of_false nofun nofun
  projects _ _ h := by
    rw [show (initial settings).world.projectRegistry.projects = .empty from rfl,
      OrderedMap.get?_empty] at h
    cases h
  operations _ := trivial
  tracked operation := by
    refine ⟨iff_of_false (fun h => h rfl) nofun, fun _ => nofun, nofun, nofun, nofun⟩

/-! ### The others -/

/-- What an operation has come to, or waits for, outlasts what others do. -/
theorem Follows.later {w w' : ControllerWorld} {x : ControllerM ControllerReturn}
    (h : Follows settings operation w x) (hlater : Later settings w w') :
    Follows settings operation w' x :=
  ⟨h.heeds, h.waits, company_stable.wp h.waits h.disciplined hlater⟩

theorem Follows.orderly {w : ControllerWorld} {x : ControllerM ControllerReturn}
    (h : Follows settings operation w x) : Orderly settings w := by
  have hdisciplined := h.disciplined
  cases x with
  | done outcome =>
    cases outcome with
    | ok value => exact hdisciplined.1
    | error error => exact hdisciplined
  | act move next => exact absurd rfl (h.waits move next)
  | await request resume => exact hdisciplined.1.1

/-- The queue makes a step that does not concern the operations. -/
theorem Sound.passive (h : Sound settings s) {queue : ControllerTurnQueue ControllerReturn}
    (hqueue : queue.Sound) (hpassive : s.queue.Passive queue) :
    Sound settings { s with queue } where
  queue := hqueue
  world := h.world
  projects := h.projects
  operations := h.operations
  tracked operation := by
    obtain ⟨hcalled, hstepped, hfollows, hawaiting, hcompleted⟩ := h.tracked operation
    exact ⟨hcalled.trans (hpassive.invoked operation).symm, hstepped, hfollows,
      fun request resume hbody => (hpassive.running operation).mpr (hawaiting request resume hbody),
      fun outcome hc => hcompleted outcome (hpassive.completed operation outcome hc)⟩

/-- An operation is queued. -/
theorem Sound.schedule (h : Sound settings s) {op : ControllerOperation}
    (hvalid : ValidOperation settings op) (signal : Option SignalId) :
    Sound settings (s.schedule op signal) := by
  have hstep : s.queue.step (.schedule signal) = some (s.queue.schedule signal) := rfl
  have hqueue := h.queue.step hstep
  have hpassive := h.passive hqueue (ControllerTurnQueue.passive_schedule signal)
  refine ⟨hqueue, hpassive.world, hpassive.projects, fun operation => ?_, fun operation => ?_⟩
  · show ValidOperation settings (Function.update s.operations s.queue.promises op operation)
    rw [Function.update_apply]
    split
    · exact hvalid
    · exact h.operations operation
  · obtain ⟨hcalled, hstepped, hfollows, hawaiting, hcompleted⟩ := hpassive.tracked operation
    exact ⟨hcalled, hstepped, hfollows, hawaiting, hcompleted⟩

/-- The world moves. -/
theorem Sound.move (h : Sound settings s) {world : ControllerWorld}
    (hlater : Later settings s.world world)
    (hprojects : ∀ handle locator, world.projectRegistry.projects.get? handle = some locator →
      (urlParser settings.platform locator).isSome = true) :
    Sound settings { s with world } where
  queue := h.queue
  world := hlater.orderly h.world
  projects := hprojects
  operations := h.operations
  tracked operation := by
    obtain ⟨hcalled, hstepped, hfollows, hawaiting, hcompleted⟩ := h.tracked operation
    exact ⟨hcalled, fun hbody event hmem hevent =>
        hstepped hbody event ((hlater.mem_iff hevent).mp hmem) hevent,
      fun x hbody => (hfollows x hbody).later hlater, hawaiting, hcompleted⟩

/-! ### The operation that runs -/

/-- There is one promise chain at most. -/
theorem Sound.chains_eq (h : Sound settings s) {stage : TurnStage ControllerReturn}
    (hchain : (operation, stage) ∈ s.queue.chains) : s.queue.chains = [(operation, stage)] := by
  rcases h.queue.single with ⟨-, hnil⟩ | ⟨c, -, hone⟩
  · rw [hnil] at hchain
    cases hchain
  · rw [hone, List.mem_singleton] at hchain
    rw [hone, hchain]

/-- An operation that runs is the only one, so no other one awaits anything. -/
theorem Sound.not_awaiting (h : Sound settings s) {stage : TurnStage ControllerReturn}
    (hchain : (operation, stage) ∈ s.queue.chains) {other : ℕ} (hne : other ≠ operation)
    (request : ControllerRequest) (resume : request.Answer → ControllerM ControllerReturn) :
    s.bodies other ≠ some (.await request resume) := by
  intro hbody
  have hother := (h.tracked other).awaiting request resume hbody
  rw [h.chains_eq hchain, List.mem_singleton] at hother
  exact hne (congrArg Prod.fst hother)

/-- What an operation has come to outlasts the steps of another one. -/
theorem Follows.ended {w w' : ControllerWorld} {other : ℕ} {outcome : Except ThrownError ControllerReturn}
    (h : Follows settings other w (.done outcome)) (happends : Appends operation w w')
    (horderly : Orderly settings w') : Follows settings other w' (.done outcome) := by
  refine ⟨h.heeds, h.waits, ?_⟩
  cases outcome with
  | ok value =>
    obtain ⟨events, hlog, -⟩ := happends.log
    have hwent : Went w.log other := h.disciplined.2
    exact ⟨horderly, hlog ▸ went_append hwent⟩
  | error error => exact horderly

/-- The operation acts until its next request. -/
theorem Sound.advance (h : Sound settings s) {x : ControllerM ControllerReturn}
    (hheeds : Heeds (Appends operation) Refuses x)
    (hdisciplined : (company settings operation).wp (fun _ => Resolves settings operation)
      (fun _ => Orderly settings) x s.world)
    {queue : ControllerTurnQueue ControllerReturn} (hqueue : queue.Sound)
    (hrunning : (operation, .running) ∈ queue.chains)
    (hinvoked : .invoked operation ∈ queue.log)
    (hcompleted : ∀ outcome, .completed operation outcome ∉ queue.log)
    (hothers : ∀ other, other ≠ operation → (.invoked other ∈ queue.log ↔ .invoked other ∈ s.queue.log) ∧
      (∀ outcome, .completed other outcome ∈ queue.log → .completed other outcome ∈ s.queue.log) ∧
      ∀ request resume, s.bodies other ≠ some (.await request resume)) :
    Sound settings ({ s with queue }.advance operation x) := by
  obtain ⟨happends, hheeds'⟩ := hheeds.advance s.world
  obtain ⟨hdisciplined', hwaits⟩ := Company.wp_advance hdisciplined
  have hfollows : Follows settings operation (x.advance s.world).2 (x.advance s.world).1 :=
    ⟨hheeds', hwaits, hdisciplined'⟩
  have hbodies : ∀ other, ({ s with queue }.advance operation x).bodies other =
      if other = operation then some (x.advance s.world).1 else s.bodies other := fun other =>
    Function.update_apply _ _ _ _
  refine ⟨hqueue, hfollows.orderly, ?_, h.operations, fun other => ?_⟩
  · show ∀ handle locator, (x.advance s.world).2.projectRegistry.projects.get? handle = some locator → _
    rw [happends.projectRegistry]
    exact h.projects
  -- The operation that advances is the one that its body follows; the others only see its events.
  by_cases hne : other = operation
  · subst hne
    have hbody := (hbodies other).trans (if_pos rfl)
    refine ⟨iff_of_true (by rw [hbody]; exact nofun) hinvoked, fun hnone => ?_, fun y hy => ?_,
      fun _ _ _ => hrunning, fun outcome hc => absurd hc (hcompleted outcome)⟩
    · rw [hbody] at hnone
      cases hnone
    · rw [hbody] at hy
      cases hy
      exact hfollows
  · obtain ⟨hinvoked', hcompleted', hended⟩ := hothers other hne
    have hbody := (hbodies other).trans (if_neg hne)
    have hold := h.tracked other
    refine ⟨?_, fun hnone event hmem hevent => ?_, fun y hy => ?_, fun request resume hawait => ?_,
      fun outcome hc => ?_⟩
    · rw [hbody]
      exact hold.called.trans hinvoked'.symm
    · rw [hbody] at hnone
      -- An event of this operation is none of another's steps.
      obtain ⟨events, hlog, hevents⟩ := happends.log
      have hmem : event ∈ (x.advance s.world).2.log := hmem
      rw [hlog] at hmem
      rcases List.mem_append.mp hmem with hpast | hnew
      · exact hold.stepped hnone event hpast hevent
      · rcases hevents event hnew with hquiet | hown
        · rw [hquiet] at hevent
          cases hevent
        · exact hne (Option.some.inj (hevent.symm.trans hown))
    · rw [hbody] at hy
      have hfollowed := hold.follows y hy
      -- The others are not awaiting, so there is nothing else to follow.
      cases y with
      | done outcome => exact hfollowed.ended happends hfollows.orderly
      | act move next => exact absurd rfl (hfollowed.waits move next)
      | await request resume => exact absurd hy (hended request resume)
    · rw [hbody] at hawait
      exact absurd hawait (hended request resume)
    · rw [hbody]
      exact hold.completed outcome (hcompleted' outcome hc)

/-- The queue calls an operation. -/
theorem Sound.invoke (h : Sound settings s) (hfresh : DrawsOnce settings.randomUUID) {chain : ℕ}
    (hstep : s.step settings (.invoke chain) = some t) : Sound settings t := by
  rw [ControllerSystem.step] at hstep
  cases hat : s.queue.chains[chain]? with
  | none =>
    rw [hat] at hstep
    cases hstep
  | some c =>
    obtain ⟨operation, stage⟩ := c
    rw [hat] at hstep
    obtain ⟨s', hs', rfl⟩ := Option.map_eq_some_iff.mp hstep
    obtain ⟨queue, hqueue, rfl⟩ := Option.map_eq_some_iff.mp hs'
    have hsound := h.queue.step hqueue
    rw [ControllerTurnQueue.step, hat] at hqueue
    -- The chain is at its start: the operation was not called before.
    cases stage with
    | invoking =>
      cases hqueue
      obtain ⟨rfl, hchains⟩ := h.queue.chain_at hat
      have hchain : (operation, .invoking) ∈ s.queue.chains := hchains ▸ List.mem_cons_self
      have hold := h.tracked operation
      have hnotInvoked : .invoked operation ∉ s.queue.log := (h.queue.chained _ hchain).2
      have hnone : s.bodies operation = none :=
        not_not.mp fun hsome => hnotInvoked (hold.called.mp hsome)
      have hinvoked : ∀ other, other ≠ operation →
          (.invoked other ∈ s.queue.log ++ [.invoked operation] ↔ .invoked other ∈ s.queue.log) := by
        intro other hne
        simp [hne]
      have hcompleted : ∀ other outcome,
          .completed other outcome ∈ s.queue.log ++ [.invoked operation] →
            .completed other outcome ∈ s.queue.log := by
        intro other outcome hc
        simpa using hc
      refine h.advance (heeds_body _)
        (leads_body hfresh (h.operations operation) s.world ⟨h.world, hold.stepped hnone⟩) hsound ?_
        (List.mem_append_right _ List.mem_cons_self) (fun outcome hc => ?_)
        fun other hne => ⟨hinvoked other hne, hcompleted other, fun request resume =>
          h.not_awaiting hchain hne request resume⟩
      · simp [hchains]
      · have hbody := hold.completed outcome (hcompleted operation outcome hc)
        rw [hnone] at hbody
        cases hbody
    | running | settling | finishing => cases hqueue

/-- The request of an operation is answered. -/
theorem Sound.resume (h : Sound settings s) {raceEnd : RaceEnd}
    {answers : ∀ call : ControllerCall, call.Answer}
    (hstep : s.step settings (.resume operation raceEnd answers) = some t) : Sound settings t := by
  rw [ControllerSystem.step] at hstep
  split at hstep
  · rename_i request resume hbody
    obtain ⟨answer, hanswer, rfl⟩ := Option.map_eq_some_iff.mp hstep
    have hold := h.tracked operation
    have hfollows := hold.follows _ hbody
    have hrunning := hold.awaiting request resume hbody
    refine h.advance (hfollows.heeds answer).1
      (hfollows.disciplined.2 s.world answer (later_of_core rfl) ⟨raceEnd, answers, hanswer⟩) h.queue
      hrunning (hold.called.mp (by rw [hbody]; exact nofun)) (fun outcome hc => ?_)
      fun other hne => ⟨Iff.rfl, fun _ hc => hc, fun request resume =>
        h.not_awaiting hrunning hne request resume⟩
    have hdone := hold.completed outcome hc
    rw [hbody] at hdone
    cases hdone
  · cases hstep

/-- An operation has ended. -/
theorem Sound.complete (h : Sound settings s) {chain : ℕ}
    (hstep : s.step settings (.complete chain) = some t) : Sound settings t := by
  rw [ControllerSystem.step] at hstep
  cases hat : s.queue.chains[chain]? with
  | none =>
    rw [hat] at hstep
    cases hstep
  | some c =>
    obtain ⟨operation, stage⟩ := c
    rw [hat] at hstep
    dsimp only at hstep
    split at hstep
    · rename_i outcome hbody
      obtain ⟨queue, hqueue, rfl⟩ := Option.map_eq_some_iff.mp hstep
      have hsound := h.queue.step hqueue
      rw [ControllerTurnQueue.step, hat] at hqueue
      cases stage with
      | running =>
        cases hqueue
        obtain ⟨rfl, hchains⟩ := h.queue.chain_at hat
        have hchain : (operation, .running) ∈ s.queue.chains := hchains ▸ List.mem_cons_self
        refine ⟨hsound, h.world, h.projects, h.operations, fun other => ?_⟩
        obtain ⟨hcalled, hstepped, hfollows, hawaiting, hcompleted⟩ := h.tracked other
        refine ⟨hcalled.trans (by simp), hstepped, hfollows, fun request resume hawait => ?_,
          fun outcome' hc => ?_⟩
        · by_cases hne : other = operation
          · -- Only this operation is running, so no other is awaiting.
            rw [hne, hbody] at hawait
            cases hawait
          · exact absurd hawait (h.not_awaiting hchain hne request resume)
        · rcases List.mem_append.mp hc with hold | hnew
          · exact hcompleted outcome' hold
          · cases List.mem_singleton.mp hnew
            exact hbody
      | invoking | settling | finishing => cases hqueue
    · cases hstep

/-! ### Every step -/

/-- The locator of a registered project is a URL. -/
theorem isSome_urlParser_locator {platform : Whatwg.UrlPlatform}
    (hhost : platform.parseHost "chatgpt.com".toList = some "chatgpt.com".toList) {value : String}
    {locator : ProjectLocator} (h : createProjectLocator platform value = .ok locator) :
    (urlParser platform locator).isSome = true := by
  obtain ⟨url, component, hspells, rfl⟩ := createProjectLocator_eq_ok.mp h
  rw [urlParser, Option.isSome_map, locatorOf, String.toList_ofList, Whatwg.parse_href_map platform
    (isPlain_project hspells.canonical hspells.query hspells.fragment), Option.isSome_map, hhost]
  rfl

/-- A project that an `executeTurn` finds is named by a URL. -/
theorem Sound.resolveTarget (h : Sound settings s) {request : ControllerTurnTarget}
    {target : TurnTarget} {registrationState : Option ThreadRegistrationState} (prompt : Text)
    (hresolve : resolveTarget s.world request = .ok (target, registrationState)) :
    ValidOperation settings (.executeTurn target registrationState prompt) := by
  rintro project rfl
  cases request with
  | thread threadHandle =>
    rw [ControllerSystem.resolveTarget] at hresolve
    cases hstate : s.world.registry.registrationState threadHandle <;> rw [hstate] at hresolve <;>
      cases hresolve
  | fresh => cases hresolve
  | project projectHandle =>
    rw [ControllerSystem.resolveTarget, ProjectRegistry.resolve] at hresolve
    cases hget : s.world.projectRegistry.projects.get? projectHandle with
    | none =>
      rw [hget] at hresolve
      cases hresolve
    | some locator =>
      rw [hget] at hresolve
      cases hresolve
      exact h.projects projectHandle project hget

/-- A registration of a project. -/
theorem Sound.register (h : Sound settings s)
    (hhost : settings.platform.parseHost "chatgpt.com".toList = some "chatgpt.com".toList)
    {value : String} {handleFactory : ThreadHandleFactory} {handle : ProjectHandle}
    {projectRegistry : ProjectRegistry}
    (hregister : s.world.projectRegistry.register settings.platform handleFactory value =
      .ok (handle, projectRegistry)) :
    Sound settings { s with world := { s.world with projectRegistry } } := by
  refine h.move (later_of_core rfl) fun other locator hget => ?_
  obtain ⟨validated, hvalidated, ⟨-, rfl⟩ | ⟨-, -, rfl⟩⟩ := ProjectRegistry.register_eq_ok hregister
  · exact h.projects other locator hget
  · rw [OrderedMap.get?_set] at hget
    split at hget
    · cases hget
      exact isSome_urlParser_locator hhost hvalidated
    · exact h.projects other locator hget

/-- A step of the queue that does not concern the operations. -/
theorem Sound.stepQueue (h : Sound settings s) {input : TurnQueueInput ControllerReturn}
    (hinput : ControllerTurnQueue.isPassive input = true) (hstep : s.stepQueue input = some t) :
    Sound settings t := by
  obtain ⟨queue, hqueue, rfl⟩ := Option.map_eq_some_iff.mp hstep
  exact h.passive (h.queue.step hqueue) (h.queue.passive hinput hqueue)

/-- A change of the world that completions have nothing to do with. -/
theorem Sound.moveAside (h : Sound settings s) {world : ControllerWorld}
    (hcore : world.core = s.world.core) (hprojects : world.projectRegistry = s.world.projectRegistry) :
    Sound settings { s with world } :=
  h.move (later_of_core hcore) fun handle locator hget => h.projects handle locator (hprojects ▸ hget)

/-- The step lemma. -/
theorem Sound.step (h : Sound settings s) (hfresh : DrawsOnce settings.randomUUID)
    (hhost : settings.platform.parseHost "chatgpt.com".toList = some "chatgpt.com".toList)
    {input : ControllerInput} (hstep : s.step settings input = some t) : Sound settings t := by
  -- Calls of the controller move the queue or the world; the other inputs are the queue's and the
  -- body's.
  cases input with
  | executeTurn request signal =>
    rw [ControllerSystem.step] at hstep
    split at hstep
    · cases hstep
      exact h
    · rename_i target registrationState hresolve
      cases hstep
      exact h.schedule (h.resolveTarget request.prompt hresolve) signal
  | executeTurnDuring threadHandle registrationState prompt signal =>
    rw [ControllerSystem.step] at hstep
    split at hstep
    · cases hstep
      exact h.schedule (by rintro project ⟨⟩) signal
    · cases hstep
  | createProject name signal =>
    have hvalid : ValidOperation settings (.createProject name) := trivial
    cases hstep
    exact h.schedule hvalid signal
  | recoverRuntime signal =>
    have hvalid : ValidOperation settings .recoverRuntime := trivial
    cases hstep
    exact h.schedule hvalid signal
  | confirmTurnCompletion result =>
    rw [ControllerSystem.step] at hstep
    split at hstep
    · rename_i hissued
      cases hstep
      -- Confirming is synchronous: it ends in an orderly world.
      obtain ⟨current, hsound⟩ := h.world
      obtain ⟨horderly, hmoved, hprojects⟩ := hsound.confirmTurnCompletion hissued
      exact h.move ⟨hmoved, fun _ => horderly⟩ fun handle locator hget =>
        h.projects handle locator (hprojects ▸ hget)
    · cases hstep
  | rollbackTurnCompletion result =>
    rw [ControllerSystem.step] at hstep
    split at hstep
    · rename_i hissued
      cases hstep
      obtain ⟨current, hsound⟩ := h.world
      obtain ⟨horderly, hmoved, hprojects⟩ := hsound.rollbackTurnCompletion hissued
      exact h.move ⟨hmoved, fun _ => horderly⟩ fun handle locator hget =>
        h.projects handle locator (hprojects ▸ hget)
    · cases hstep
  | initializeController =>
    rw [ControllerSystem.step] at hstep
    split at hstep
    · cases hstep
      exact h.moveAside rfl rfl
    · cases hstep
      exact h
  | initialized lease outcome =>
    rw [ControllerSystem.step] at hstep
    split at hstep
    · cases hstep
      exact h.moveAside rfl rfl
    · cases hstep
  | register value handleFactory =>
    rw [ControllerSystem.step] at hstep
    split at hstep
    · cases hstep
      exact h
    · rename_i handle projectRegistry hregister
      cases hstep
      exact h.register hhost hregister
  | abort signal =>
    obtain ⟨s', hs', rfl⟩ := Option.map_eq_some_iff.mp hstep
    exact (h.stepQueue rfl hs').moveAside rfl rfl
  | onAbort operation => exact h.stepQueue rfl hstep
  | drain => exact h.stepQueue rfl hstep
  | invoke chain => exact h.invoke hfresh hstep
  | resume operation raceEnd answers => exact h.resume hstep
  | complete chain => exact h.complete hstep
  | settle chain => exact h.stepQueue rfl hstep
  | finish chain => exact h.stepQueue rfl hstep

/-- The log only grows. -/
theorem Sound.log_step (h : Sound settings s) {input : ControllerInput}
    (hstep : s.step settings input = some t) : s.world.log <+: t.world.log := by
  -- Only the decisions and the body of an operation write to the log.
  have hqueue : ∀ {s'} {input : TurnQueueInput ControllerReturn}, s.stepQueue input = some s' →
      s'.world = s.world := fun hs' => by
    obtain ⟨queue, -, rfl⟩ := Option.map_eq_some_iff.mp hs'
    rfl
  have hadvance : ∀ {operation} {x : ControllerM ControllerReturn},
      Heeds (Appends operation) Refuses x → s.world.log <+: (x.advance s.world).2.log := fun hx => by
    obtain ⟨⟨⟨events, hlog, -⟩, -⟩, -⟩ := hx.advance s.world
    exact ⟨events, hlog.symm⟩
  cases input with
  | executeTurn | executeTurnDuring | initializeController | initialized | register =>
    rw [ControllerSystem.step] at hstep
    split at hstep <;> cases hstep <;> exact List.prefix_refl _
  | createProject | recoverRuntime =>
    cases hstep
    exact List.prefix_refl _
  | confirmTurnCompletion result =>
    rw [ControllerSystem.step] at hstep
    split at hstep
    · rename_i hissued
      cases hstep
      obtain ⟨current, hsound⟩ := h.world
      obtain ⟨-, ⟨-, -, events, hlog, -⟩, -⟩ := hsound.confirmTurnCompletion hissued
      exact ⟨events, hlog.symm⟩
    · cases hstep
  | rollbackTurnCompletion result =>
    rw [ControllerSystem.step] at hstep
    split at hstep
    · rename_i hissued
      cases hstep
      obtain ⟨current, hsound⟩ := h.world
      obtain ⟨-, ⟨-, -, events, hlog, -⟩, -⟩ := hsound.rollbackTurnCompletion hissued
      exact ⟨events, hlog.symm⟩
    · cases hstep
  | abort signal =>
    obtain ⟨s', hs', rfl⟩ := Option.map_eq_some_iff.mp hstep
    rw [hqueue hs']
  | onAbort | drain | settle | finish =>
    rw [hqueue hstep]
  | invoke chain =>
    rw [ControllerSystem.step] at hstep
    split at hstep
    · cases hstep
    · obtain ⟨s', hs', rfl⟩ := Option.map_eq_some_iff.mp hstep
      have hworld := hqueue hs'
      rw [ControllerSystem.advance, hworld]
      exact hadvance (heeds_body _)
  | resume operation raceEnd answers =>
    rw [ControllerSystem.step] at hstep
    split at hstep
    · rename_i request resume hbody
      obtain ⟨answer, -, rfl⟩ := Option.map_eq_some_iff.mp hstep
      exact hadvance (((h.tracked operation).follows _ hbody).heeds answer).1
    · cases hstep
  | complete chain =>
    rw [ControllerSystem.step] at hstep
    split at hstep
    · cases hstep
    split at hstep
    · rw [hqueue hstep]
    · cases hstep

/-! ## The law -/

/-- What holds of the controller at every point of a run. -/
structure CompletionBarrier (settings : ControllerSettings) (s : ControllerSystem) : Prop where
  lawful : Trace.Lawful Allowed s.world.log
  log_grows : ∀ inputs t, Machine.exec (step settings) s inputs = some t →
    s.world.log <+: t.world.log
  pending : ∀ barrier, s.world.pendingCompletionBarrier = some barrier ↔
    ∃ result, .installed barrier result ∈ s.world.log ∧
      ∀ committed, .released barrier committed ∉ s.world.log
  settled : ∀ barrier committed, s.world.settled barrier = some committed ↔
    .released barrier committed ∈ s.world.log
  resolvable : ∀ result handle lease, Created s.world.log result handle lease →
    ((∃ locator, s.world.registry.resolve handle = .ok locator) ↔
      decision s.world.log result = some true)
  rejected : ∀ operation barrier result, .waiting operation barrier ∈ s.world.log →
    .installed barrier result ∈ s.world.log → decision s.world.log result = some false →
      ¬ Went s.world.log operation ∧ (∀ value, .settled operation (.ok value) ∉ s.queue.log) ∧
        ∀ answers, ∃ inputs t error,
          inputs <:+ [.resume operation .settled answers, .complete 0, .settle 0] ∧
            Machine.exec (step settings) s inputs = some t ∧
              .settled operation (.error error) ∈ t.queue.log

/-- An operation that has waited for a completion that was rolled back does not resolve. -/
theorem Sound.not_resolved (h : Sound settings s) {value : ControllerReturn}
    (hunwent : ¬ Went s.world.log operation) : s.bodies operation ≠ some (.done (.ok value)) :=
  fun hbody => hunwent ((h.tracked operation).follows _ hbody).disciplined.2

/-- What the promise of an entry is settled with is what its operation has come to, if that was
called. -/
theorem Sound.settled_outcome (h : Sound settings s) {value : ControllerReturn}
    (hsettled : .settled operation (.ok value) ∈ s.queue.log) :
    s.bodies operation = some (.done (.ok value)) := by
  obtain ⟨past, future, hsplit⟩ := List.append_of_mem hsettled
  rcases h.queue.lawful past _ future hsplit with hcompleted | ⟨herror, -⟩
  · exact (h.tracked operation).completed _ (hsplit ▸ List.mem_append_left _ hcompleted)
  · cases herror

/-- The microtask that settles a promise. -/
theorem exec_settle {outcome : Except ThrownError ControllerReturn}
    (hchains : s.queue.chains = [(operation, .settling outcome)]) :
    ∃ t, Machine.exec (step settings) s [.settle 0] = some t ∧
      .settled operation outcome ∈ t.queue.log := by
  refine ⟨_, by
    simp only [Machine.exec, ControllerSystem.step, ControllerSystem.stepQueue,
      ControllerTurnQueue.step, hchains, List.getElem?_cons_zero, Option.map_some, Option.bind_some]
    rfl, ?_⟩
  exact List.mem_append_right _ List.mem_cons_self

/-- What is left when an operation has ended. -/
theorem exec_complete {outcome : Except ThrownError ControllerReturn}
    (hchains : s.queue.chains = [(operation, .running)])
    (hbody : s.bodies operation = some (.done outcome)) :
    ∃ t, Machine.exec (step settings) s [.complete 0, .settle 0] = some t ∧
      .settled operation outcome ∈ t.queue.log := by
  have hstep : ∃ s', s.step settings (.complete 0) = some s' ∧
      s'.queue.chains = [(operation, .settling outcome)] := by
    refine ⟨_, by
      simp only [ControllerSystem.step, ControllerSystem.stepQueue, ControllerTurnQueue.step, hchains,
        List.getElem?_cons_zero, hbody, Option.map_some]
      rfl, ?_⟩
    rfl
  obtain ⟨s', hs', hchains'⟩ := hstep
  obtain ⟨t, ht, hsettled⟩ := @exec_settle settings _ _ _ hchains'
  exact ⟨t, Machine.exec_cons_eq_some.mpr ⟨s', hs', ht⟩, hsettled⟩

/-- An operation that has ended, and does not resolve, rejects by what is left of its microtasks. -/
theorem Sound.rejects_ended (h : Sound settings s) {error : ThrownError}
    (hbody : s.bodies operation = some (.done (.error error))) :
    ∃ inputs t error, inputs <:+ [.complete 0, .settle 0] ∧
      Machine.exec (ControllerSystem.step settings) s inputs = some t ∧
        .settled operation (.error error) ∈ t.queue.log := by
  have htracked := h.tracked operation
  have hinvoked : .invoked operation ∈ s.queue.log := htracked.called.mp (by rw [hbody]; exact nofun)
  obtain ⟨past, future, hsplit⟩ := List.append_of_mem hinvoked
  have hstarted : .started operation ∈ s.queue.log :=
    hsplit ▸ List.mem_append_left _ (h.queue.lawful past _ future hsplit).1
  -- An operation that was called is in the chain, or its promise has settled.
  rcases h.queue.settled operation (h.queue.overtaken operation hstarted).1 with hunsettled | hsettled
  · rcases hunsettled with hpending | ⟨⟨operation', stage⟩, hchain, rfl, hstage⟩
    · exact absurd hstarted (h.queue.not_started hpending)
    have hchains : s.queue.chains = [(operation', stage)] := h.chains_eq hchain
    have hat := (h.queue.chained _ hchain).2
    cases stage with
    | invoking => exact absurd hinvoked hat
    | running =>
      obtain ⟨t, ht, hmem⟩ := @exec_complete settings _ _ _ hchains hbody
      exact ⟨_, t, error, List.suffix_refl _, ht, hmem⟩
    | settling outcome =>
      have hsame := htracked.completed outcome hat
      rw [hbody] at hsame
      cases hsame
      obtain ⟨t, ht, hmem⟩ := @exec_settle settings _ _ _ hchains
      exact ⟨_, t, error, List.suffix_cons _ _, ht, hmem⟩
    | finishing => cases hstage
  · obtain ⟨event, hmem, hevent⟩ := List.countP_pos_iff.mp (hsettled ▸ Nat.one_pos)
    cases event with
    | settled operation' outcome =>
      obtain rfl : operation' = operation := by simpa [ControllerTurnQueue.isSettled] using hevent
      cases outcome with
      | error error' => exact ⟨[], s, error', List.nil_suffix, rfl, hmem⟩
      | ok value =>
        have hsame := h.settled_outcome hmem
        rw [hbody] at hsame
        cases hsame
    | _ => cases hevent

/-- An operation that has waited for a completion that was rolled back rejects by what is left of its
microtasks: it is still waiting, and is answered that it was rolled back, or it has ended. -/
theorem Sound.rejects (h : Sound settings s) {barrier : BarrierId}
    (hwaiting : .waiting operation barrier ∈ s.world.log)
    (hsettled : s.world.settled barrier = some false) (hunwent : ¬ Went s.world.log operation)
    (answers : ∀ call : ControllerCall, call.Answer) :
    ∃ inputs t error, inputs <:+ [.resume operation .settled answers, .complete 0, .settle 0] ∧
      Machine.exec (ControllerSystem.step settings) s inputs = some t ∧
        .settled operation (.error error) ∈ t.queue.log := by
  have htracked := h.tracked operation
  obtain ⟨x, hbody⟩ : ∃ x, s.bodies operation = some x :=
    Option.ne_none_iff_exists'.mp fun hnone => htracked.stepped hnone _ hwaiting rfl
  have hfollows := htracked.follows x hbody
  -- The operation is at the barrier, or has ended already.
  cases x with
  | done outcome =>
    cases outcome with
    | ok value => exact absurd hbody (h.not_resolved hunwent)
    | error error =>
      obtain ⟨inputs, t, error', hinputs, ht, hmem⟩ := h.rejects_ended hbody
      exact ⟨inputs, t, error', hinputs.trans (List.suffix_cons _ _), ht, hmem⟩
  | act move next => exact absurd rfl (hfollows.waits move next)
  | await request resume =>
    obtain ⟨signal, rfl⟩ : ∃ signal, request = .race (.barrier barrier) signal := by
      -- An operation that has waited for a barrier still does, unless it was confirmed.
      refine (hfollows.disciplined.1.2 barrier hwaiting).resolve_left fun htrue => ?_
      rw [hsettled] at htrue
      cases htrue
    have hanswer : s.world.answer .settled answers (.race (.barrier barrier) signal) =
        some (.settled (.ok false)) := by
      rw [ControllerWorld.answer, ControllerWorld.settlement, hsettled]
      rfl
    have hresume : s.step settings (.resume operation .settled answers) =
        some (s.advance operation (resume (.settled (.ok false)))) := by
      rw [ControllerSystem.step, hbody]
      exact (congrArg (Option.map _) hanswer).trans rfl
    obtain ⟨error, herror⟩ := (hfollows.heeds (.settled (.ok false))).2 rfl s.world
    have hbody' : (s.advance operation (resume (.settled (.ok false)))).bodies operation =
        some (.done (.error error)) := by
      rw [ControllerSystem.advance, herror]
      exact Function.update_self _ _ _
    have hrunning := htracked.awaiting _ resume hbody
    have hchains : (s.advance operation (resume (.settled (.ok false)))).queue.chains =
        [(operation, .running)] := h.chains_eq hrunning
    obtain ⟨t, ht, hmem⟩ := @exec_complete settings _ _ _ hchains hbody'
    exact ⟨_, t, error, List.suffix_refl _, Machine.exec_cons_eq_some.mpr ⟨_, hresume, ht⟩, hmem⟩

/-- The run lemma. -/
theorem sound_of_exec (hfresh : DrawsOnce settings.randomUUID)
    (hhost : settings.platform.parseHost "chatgpt.com".toList = some "chatgpt.com".toList)
    {inputs : List ControllerInput} (hrun : Machine.exec (step settings) (initial settings) inputs = some s) :
    Sound settings s :=
  Machine.exec_invariant (fun _ _ _ h hstep => h.step hfresh hhost hstep) (sound_initial settings) hrun

/-- The controller obeys the law of its completion barrier at every point of every run. -/
theorem completion_barrier (settings : ControllerSettings) (hfresh : DrawsOnce settings.randomUUID)
    (hhost : settings.platform.parseHost "chatgpt.com".toList = some "chatgpt.com".toList)
    (inputs : List ControllerInput) (s : ControllerSystem)
    (hrun : Machine.exec (step settings) (initial settings) inputs = some s) :
    CompletionBarrier settings s := by
  have h := sound_of_exec hfresh hhost hrun
  obtain ⟨current, hworld⟩ := h.world
  refine ⟨hworld.lawful, fun inputs' t hrun' => ?_, fun barrier => hworld.pending_iff,
    fun barrier committed => (hworld.barriers.released barrier committed).symm,
    fun result handle lease hcreated => hworld.resolve_iff hcreated,
    fun operation barrier result hwaiting hinstalled hdecided => ?_⟩
  · have hstep : ∀ s input t, Sound settings s → s.step settings input = some t →
        Sound settings t ∧ s.world.log <+: t.world.log :=
      fun _ _ _ h hstep => ⟨h.step hfresh hhost hstep, h.log_step hstep⟩
    exact Machine.exec_relation (R := fun s t => s.world.log <+: t.world.log)
      (fun _ => List.prefix_refl _) (fun _ _ _ => List.IsPrefix.trans) hstep h hrun'
  · have hunwent := hworld.not_went hwaiting hinstalled hdecided
    have hsettled := (hworld.barriers.settled barrier result hinstalled).trans hdecided
    exact ⟨hunwent, fun value hvalue => h.not_resolved hunwent (h.settled_outcome hvalue),
      h.rejects hwaiting hsettled hunwent⟩

/-! ## A completion that is rolled back -/

/-- An identifier for each turn. -/
def identifierOf (turn : ℕ) : ℕ → ThreadHandleFactory :=
  fun _ _ => .ok (String.ofList (List.replicate (turn + 1) 'u'))

theorem drawsOnce_identifierOf : DrawsOnce identifierOf := by
  have hdraws : ∀ {turn question handle},
      ThreadRegistry.Draws (identifierOf turn question) handle →
        handle.toList = "tw_".toList ++ List.replicate (turn + 1) 'u' := by
    rintro turn question handle ⟨attempt, h⟩
    have h : createOpaqueThreadHandle (String.ofList (List.replicate (turn + 1) 'u')) = .ok handle := h
    unfold createOpaqueThreadHandle at h
    split at h
    · rw [← Except.ok.inj h, String.toList_append]
      exact congrArg _ String.toList_ofList
    · cases h
  intro turn question turn' question' handle h h'
  have hlength := congrArg List.length ((hdraws h).symm.trans (hdraws h'))
  simpa using hlength

/-- A project, and a conversation of it. -/
def projectAddress : ProjectLocator :=
  "https://chatgpt.com/g/g-p-00000000000000000000000000000030/project"

def conversationAddress : ConversationLocator :=
  "https://chatgpt.com/g/g-p-00000000000000000000000000000030/c/x"

/-- From its second poll on the write of the turn is finished and its response completed. -/
def projectEnvironment : TurnEnvironment :=
  { smoothEnvironment fun question =>
      { prepareCount := 1
        write := if question < 10 then none else some .FINISHED
        response := some ⟨if question < 10 then .STREAMING else .COMPLETED, none⟩ } with
    getCurrentConversationLocator := fun _ => .settled (.ok (some conversationAddress))
    takeTurnResponseEvents := fun question => .ok
      (if question < 12 then [.textDelta (Text.of "an")]
      else [.textDelta (Text.of "swer"), .completed]) }

/-- Every collaborator answers at once. -/
def smoothAnswers : ∀ call : ControllerCall, call.Answer
  | .requireExisting => .ok ⟨1, ⟨7, "a"⟩⟩
  | .executeStreaming _ _ => ⟨⟨1, ⟨7, "a"⟩⟩, projectEnvironment, 3⟩
  | .create _ => .ok "prj_p"
  | .ensureStarted | .restart | .connect | .disconnect | .assertCurrentRuntime | .routeFresh => .ok ()
  | .bindExistingRuntime _ | .assertBoundRuntimeCurrent _ => .ok ()
  | .routeToThread _ | .routeToProject _ => .ok ()

/-- A controller with these identifiers. -/
def smoothSettings : ControllerSettings where
  platform := asciiHosts
  randomUUID := identifierOf

/-- A recovery is queued behind a turn of the project, and waits for its completion, which is rolled
back. -/
def rolledBackInputs : List ControllerInput :=
  [.register projectAddress fun _ => .ok "p",
    .executeTurn ⟨.project "prj_p", Text.of "hi"⟩ none, .recoverRuntime none, .invoke 0] ++
  List.replicate 5 (.resume 0 .settled smoothAnswers) ++
  [.complete 0, .settle 0, .finish 0, .invoke 0, .rollbackTurnCompletion 0]

/-- The law, in a run in which an operation waits for a completion that is rolled back. -/
theorem completion_barrier_rolledBack :
    ∃ s, Machine.exec (step smoothSettings) (initial smoothSettings) rolledBackInputs = some s ∧
      Created s.world.log 0 "tw_u" ⟨1, ⟨7, "a"⟩⟩ ∧ .waiting 1 0 ∈ s.world.log ∧
        decision s.world.log 0 = some false ∧ CompletionBarrier smoothSettings s := by
  have hlog : (Machine.exec (step smoothSettings) (initial smoothSettings) rolledBackInputs).map
      (fun s => s.world.log) = some
        [.preparing 0, .called 0 .ensureStarted, .called 0 .connect, .called 0 .assertCurrentRuntime,
          .called 0 (.routeToProject projectAddress),
          .called 0 (.executeStreaming (.project projectAddress) (Text.of "hi")),
          .returned (.project projectAddress) 0 ⟨"tw_u", true⟩ ⟨1, ⟨7, "a"⟩⟩, .installed 0 0,
          .waiting 1 0, .rolledBack 0, .marked ⟨1, ⟨7, "a"⟩⟩, .released 0 false] := by
    decide +kernel
  obtain ⟨s, hrun, hlog⟩ := Option.map_eq_some_iff.mp hlog
  refine ⟨s, hrun, ⟨projectAddress, ?_⟩, ?_, ?_, completion_barrier smoothSettings
    drawsOnce_identifierOf (by decide +kernel) rolledBackInputs s hrun⟩
  · rw [hlog]
    decide
  · rw [hlog]
    decide
  · rw [hlog]
    rfl

end ControllerSystem

end Threadwire
