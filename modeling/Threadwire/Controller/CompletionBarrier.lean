import Threadwire.Controller.ThreadwireController
import Threadwire.Machine.Trace
import Threadwire.Turn.RegistrationAuthority
import Threadwire.Turn.TurnRegistry

/-!
# The completion of a project's turn

A turn of a project that has created a conversation leaves it reserved until its completion is
confirmed or rolled back. `Allowed` says when an event of the controller may happen: no operation
works while such a completion is open, and a barrier is released by its own result's decision alone.
`Sound` says what the log has to do with the registry, the executor's map, the barriers and the
controller's set of results: at most one completion is open, and they all agree on which.
-/

namespace Threadwire

/-- What the event decides about the result, if it is about its completion. -/
def ControllerEvent.decides? (result : ResultId) : ControllerEvent → Option Bool
  | .confirmed result' => if result' = result then some true else none
  | .rolledBack result' => if result' = result then some false else none
  | _ => none

/-- The operation that the event is a step of. -/
def ControllerEvent.operation? : ControllerEvent → Option ℕ
  | .preparing operation => some operation
  | .called operation _ => some operation
  | .waiting operation _ => some operation
  | .waited operation _ => some operation
  | _ => none

/-- The event is no result of the executor, and installs and releases no barrier. -/
def ControllerEvent.isPlain : ControllerEvent → Bool
  | .returned _ _ _ _ => false
  | .installed _ _ => false
  | .released _ _ => false
  | _ => true

namespace ControllerWorld

/-! ## Reading the log -/

section Log

variable (log : List ControllerEvent)

/-- Which of a confirmation and a rollback of the result came first: `true` for the confirmation. -/
def decision (result : ResultId) : Option Bool := log.findSome? (ControllerEvent.decides? result)

/-- A turn of a project has returned this result, of a conversation that it created. -/
def Created (result : ResultId) (handle : ThreadHandle) (lease : RuntimeLease) : Prop :=
  ∃ project, .returned (.project project) result ⟨handle, true⟩ lease ∈ log

/-- Every such result has been confirmed or rolled back. -/
def Quiet : Prop :=
  ∀ result handle lease, Created log result handle lease → decision log result ≠ none

/-- Every completion that the operation has waited for was confirmed. -/
def Through (operation : ℕ) : Prop :=
  ∀ barrier, .waiting operation barrier ∈ log →
    ∃ result, .installed barrier result ∈ log ∧ decision log result = some true

/-- The operation has begun to prepare the runtime, or has called a collaborator. -/
def Went (operation : ℕ) : Prop :=
  .preparing operation ∈ log ∨ ∃ call, .called operation call ∈ log

end Log

/-- When an event may happen. An operation works only while no completion is open and after every one
it has waited for was confirmed, and waits only before it works. A barrier is installed when all
others have been released, for a result that nobody has decided about. It is released once, right
after the first confirmation of its result, or right after the first rollback and the mark of the
lease of the result's turn. -/
def Allowed (past : List ControllerEvent) : ControllerEvent → Prop
  | .preparing operation => Quiet past ∧ Through past operation
  | .called operation _ => Quiet past ∧ Through past operation
  | .waiting operation _ => ¬ Went past operation
  | .returned _ result _ _ => decision past result = none ∧
    ∀ target value lease, .returned target result value lease ∉ past
  | .installed barrier result => (∃ handle lease, Created past result handle lease) ∧
    decision past result = none ∧ ∀ barrier' result', .installed barrier' result' ∈ past →
      barrier' ≠ barrier ∧ result' ≠ result ∧ ∃ committed, .released barrier' committed ∈ past
  | .marked lease => ∃ before result handle, past = before ++ [.rolledBack result] ∧
    Created before result handle lease ∧ decision before result = none
  | .released barrier true => ∃ before result, past = before ++ [.confirmed result] ∧
    .installed barrier result ∈ before ∧ decision before result = none ∧
    ∀ committed, .released barrier committed ∉ before
  | .released barrier false => ∃ before result handle lease,
    past = before ++ [.rolledBack result, .marked lease] ∧
    .installed barrier result ∈ before ∧ Created before result handle lease ∧
    decision before result = none ∧ ∀ committed, .released barrier committed ∉ before
  | _ => True

/-! ## The invariant -/

/-- A completion that is neither confirmed nor rolled back: the result, its handle, the lease of its
turn, and its barrier. -/
structure OpenCompletion where
  result : ResultId
  handle : ThreadHandle
  lease : RuntimeLease
  barrier : BarrierId

/-- What the registry has of a handle after the decision about it. -/
def Fate (registry : ThreadRegistry) (handle : ThreadHandle) : Bool → Prop
  | true => ∃ locator, registry.committedHandleToLocator.get? handle = some locator
  | false => ThreadRegistry.handleExists registry.toRegistryMaps handle = false

/-- The world has this completion open, and no other one. -/
structure Keeps (w : ControllerWorld) (current : Option OpenCompletion) : Prop where
  barrier : w.pendingCompletionBarrier = current.map OpenCompletion.barrier
  results : ∀ result, result ∈ w.pendingCompletionResults ↔ ∃ o ∈ current, o.result = result
  absent : ∀ result, (∀ o ∈ current, o.result ≠ result) →
    w.pendingProjectCompletions.get? result = none
  held : ∀ o ∈ current, ∃ transaction entry,
    w.pendingProjectCompletions.get? o.result = some ⟨o.lease, transaction⟩ ∧
      w.registry.Pending transaction o.handle entry

/-- What the log says of the results, with this completion open. -/
structure Results (settings : ControllerSettings) (w : ControllerWorld)
    (current : Option OpenCompletion) : Prop where
  issued : ∀ target result value lease, .returned target result value lease ∈ w.log →
    result < w.results
  undecided : ∀ result, w.results ≤ result → decision w.log result = none
  drawn : ∀ result handle lease, Created w.log result handle lease →
    ∃ turn < w.executions, ∃ question,
      ThreadRegistry.Draws (settings.randomUUID turn question) handle
  opened : ∀ result handle lease, Created w.log result handle lease →
    decision w.log result = none →
      ∃ o ∈ current, o.result = result ∧ o.handle = handle ∧ o.lease = lease
  decided : ∀ result handle lease committed, Created w.log result handle lease →
    decision w.log result = some committed → Fate w.registry handle committed
  current : ∀ o ∈ current, Created w.log o.result o.handle o.lease ∧
    decision w.log o.result = none ∧ .installed o.barrier o.result ∈ w.log

/-- What the log says of the barriers. -/
structure Barriers (w : ControllerWorld) : Prop where
  issued : ∀ barrier result, .installed barrier result ∈ w.log → barrier < w.barriers
  created : ∀ barrier result, .installed barrier result ∈ w.log →
    ∃ handle lease, Created w.log result handle lease
  unique : ∀ barrier result barrier' result', .installed barrier result ∈ w.log →
    .installed barrier' result' ∈ w.log → (barrier = barrier' ↔ result = result')
  settled : ∀ barrier result, .installed barrier result ∈ w.log →
    w.settled barrier = decision w.log result
  released : ∀ barrier committed,
    .released barrier committed ∈ w.log ↔ w.settled barrier = some committed
  unused : ∀ barrier, w.barriers ≤ barrier → w.settled barrier = none
  waiting : ∀ operation barrier, .waiting operation barrier ∈ w.log →
    ∃ result, .installed barrier result ∈ w.log

/-- The invariant of the world. -/
structure Sound (settings : ControllerSettings) (w : ControllerWorld)
    (current : Option OpenCompletion) : Prop where
  consistent : ThreadRegistry.Consistent w.registry
  lawful : Trace.Lawful Allowed w.log
  keeps : Keeps w current
  results : Results settings w current
  barriers : Barriers w

/-- The world without what completions have nothing to do with. -/
def core (w : ControllerWorld) : ControllerWorld :=
  { w with
    projectRegistry := {}
    boundRuntimeLease := none
    boundAdmission := none
    admittedElsewhere := false
    aborted := fun _ => false }

theorem Sound.congr {settings : ControllerSettings} {w w' : ControllerWorld}
    {current : Option OpenCompletion} (h : Sound settings w current) (hcore : w'.core = w.core) :
    Sound settings w' current := by
  obtain ⟨registry, _, executions, results, completions, barriers, barrier, settled, pending, _, _, _,
    _, log⟩ := w
  obtain ⟨registry', _, executions', results', completions', barriers', barrier', settled', pending',
    _, _, _, _, log'⟩ := w'
  simp only [core, mk.injEq] at hcore
  obtain ⟨rfl, -, rfl, rfl, rfl, rfl, rfl, rfl, rfl, -, -, -, -, rfl⟩ := hcore
  exact ⟨h.consistent, h.lawful,
    ⟨h.keeps.barrier, h.keeps.results, h.keeps.absent, h.keeps.held⟩,
    ⟨h.results.issued, h.results.undecided, h.results.drawn, h.results.opened, h.results.decided,
      h.results.current⟩,
    ⟨h.barriers.issued, h.barriers.created, h.barriers.unique, h.barriers.settled,
      h.barriers.released, h.barriers.unused, h.barriers.waiting⟩⟩

/-! ## Logs that grow -/

section Append

variable {log events : List ControllerEvent} {result : ResultId} {handle : ThreadHandle}
  {lease : RuntimeLease} {operation : ℕ}

theorem decision_append :
    decision (log ++ events) result = (decision log result).or (decision events result) :=
  List.findSome?_append

/-- The first decision stays the first. -/
theorem decision_of_append {committed : Bool} (h : decision log result = some committed) :
    decision (log ++ events) result = some committed := by
  rw [decision_append, h, Option.some_or]

/-- Events that decide nothing about the result. -/
theorem decision_append_none (h : ∀ event ∈ events, event.decides? result = none) :
    decision (log ++ events) result = decision log result := by
  rw [decision_append, decision, decision, List.findSome?_eq_none_iff.mpr h, Option.or_none]

theorem went_append (h : Went log operation) : Went (log ++ events) operation :=
  h.imp (List.mem_append_left events) fun ⟨call, hmem⟩ => ⟨call, List.mem_append_left events hmem⟩

/-- A step of an operation decides nothing. -/
theorem decides_of_operation {event : ControllerEvent} (h : event.operation? = some operation)
    (result : ResultId) : event.decides? result = none := by
  cases event with
  | preparing | called | waiting | waited => rfl
  | _ => cases h

/-- An event is a decision about one result at most. -/
theorem decides_unique {event : ControllerEvent} {result' : ResultId} {committed : Bool}
    (h : event.decides? result = some committed) (hne : result' ≠ result) :
    event.decides? result' = none := by
  cases event with
  | confirmed decided | rolledBack decided =>
    rw [ControllerEvent.decides?] at h ⊢
    split at h
    · rename_i heq
      rw [heq, if_neg hne.symm]
    · cases h
  | _ => rfl

end Append

/-! ## One event -/

section Moves

variable {settings : ControllerSettings} {w : ControllerWorld} {current : Option OpenCompletion}
  {event : ControllerEvent} {operation : ℕ} {result : ResultId}

/-- Nothing has happened to the barriers, nor to the results that they are of. -/
theorem Barriers.congr (h : Barriers w) {w' : ControllerWorld}
    (hbarriers : w'.barriers = w.barriers) (hsettled : w'.settled = w.settled)
    (hinstalled : ∀ {barrier result},
      .installed barrier result ∈ w'.log ↔ .installed barrier result ∈ w.log)
    (hreleased : ∀ {barrier committed},
      .released barrier committed ∈ w'.log ↔ .released barrier committed ∈ w.log)
    (hcreated : ∀ {result handle lease}, Created w.log result handle lease →
      Created w'.log result handle lease ∧ decision w'.log result = decision w.log result)
    (hwaiting : ∀ operation barrier, .waiting operation barrier ∈ w'.log →
      ∃ result, .installed barrier result ∈ w.log) : Barriers w' := by
  refine ⟨fun barrier result hi => ?_, fun barrier result hi => ?_,
    fun barrier result barrier' result' hi hi' =>
      h.unique _ _ _ _ (hinstalled.mp hi) (hinstalled.mp hi'),
    fun barrier result hi => ?_, fun barrier committed => ?_, fun barrier hbarrier => ?_,
    fun operation barrier hw => ?_⟩
  · rw [hbarriers]
    exact h.issued barrier result (hinstalled.mp hi)
  · obtain ⟨handle, lease, hc⟩ := h.created barrier result (hinstalled.mp hi)
    exact ⟨handle, lease, (hcreated hc).1⟩
  · obtain ⟨handle, lease, hc⟩ := h.created barrier result (hinstalled.mp hi)
    rw [hsettled, (hcreated hc).2]
    exact h.settled barrier result (hinstalled.mp hi)
  · rw [hreleased, hsettled]
    exact h.released barrier committed
  · rw [hsettled]
    exact h.unused barrier (hbarriers ▸ hbarrier)
  · obtain ⟨result, hi⟩ := hwaiting operation barrier hw
    exact ⟨result, hinstalled.mpr hi⟩

/-- An event that is no result, installs and releases nothing, and changes no decision about a
result that there is or will be. -/
theorem Sound.append (h : Sound settings w current) (hallowed : Allowed w.log event)
    (hplain : event.isPlain = true)
    (hdecision : ∀ result,
      (w.results ≤ result ∨ ∃ handle lease, Created w.log result handle lease) →
        decision (w.record event).log result = decision w.log result)
    (hwaiting : ∀ operation barrier, event = .waiting operation barrier →
      ∃ result, .installed barrier result ∈ w.log) :
    Sound settings (w.record event) current := by
  have hmem : ∀ {e : ControllerEvent}, e.isPlain = false →
      (e ∈ (w.record event).log ↔ e ∈ w.log) := by
    intro e he
    rw [record, List.mem_append, List.mem_singleton]
    refine ⟨fun h => h.resolve_right ?_, .inl⟩
    rintro rfl
    rw [hplain] at he
    cases he
  have hcreated : ∀ {result handle lease}, Created (w.record event).log result handle lease ↔
      Created w.log result handle lease := exists_congr fun _ => hmem rfl
  have hsame : ∀ {result handle lease}, Created w.log result handle lease →
      decision (w.record event).log result = decision w.log result :=
    fun hc => hdecision _ (.inr ⟨_, _, hc⟩)
  refine ⟨h.consistent, Trace.lawful_snoc.mpr ⟨h.lawful, hallowed⟩,
    ⟨h.keeps.barrier, h.keeps.results, h.keeps.absent, h.keeps.held⟩, ?_, ?_⟩
  · -- The results are those of before, and so is what was decided about them.
    refine ⟨fun target result value lease hreturned =>
        h.results.issued target result value lease ((hmem rfl).mp hreturned),
      fun result hresult =>
        (hdecision result (.inl hresult)).trans (h.results.undecided result hresult),
      fun result handle lease hc => h.results.drawn result handle lease (hcreated.mp hc),
      fun result handle lease hc hd => ?_, fun result handle lease committed hc hd => ?_,
      fun o ho => ?_⟩
    · have hc := hcreated.mp hc
      exact h.results.opened result handle lease hc ((hsame hc).symm.trans hd)
    · have hc := hcreated.mp hc
      exact h.results.decided result handle lease committed hc ((hsame hc).symm.trans hd)
    · obtain ⟨hc, hd, hinstalled⟩ := h.results.current o ho
      exact ⟨hcreated.mpr hc, (hsame hc).trans hd, (hmem rfl).mpr hinstalled⟩
  · refine h.barriers.congr rfl rfl (hmem rfl) (hmem rfl)
      (fun hc => ⟨hcreated.mpr hc, hsame hc⟩) fun operation barrier hw => ?_
    rcases List.mem_append.mp hw with hold | hnew
    · exact h.barriers.waiting operation barrier hold
    · exact hwaiting operation barrier (List.mem_singleton.mp hnew).symm

/-- An operation makes a step that it may make. -/
theorem Sound.recordStep (h : Sound settings w current) (hevent : event.operation? = some operation)
    (hallowed : Allowed w.log event)
    (hwaiting : ∀ operation barrier, event = .waiting operation barrier →
      ∃ result, .installed barrier result ∈ w.log) :
    Sound settings (w.record event) current := by
  refine h.append hallowed ?_ (fun result _ => decision_append_none fun e he => ?_) hwaiting
  · cases event with
    | preparing | called | waiting | waited => rfl
    | _ => cases hevent
  · rw [List.mem_singleton.mp he]
    exact decides_of_operation hevent result

/-- A decision about a result that has no open completion changes nothing but the log. -/
theorem Sound.recordDecision (h : Sound settings w current) {committed : Bool}
    (hevent : event.decides? result = some committed) (hissued : result < w.results)
    (hother : ∀ o ∈ current, o.result ≠ result) : Sound settings (w.record event) current := by
  have hnone : ∀ {result'}, result' ≠ result →
      decision (w.record event).log result' = decision w.log result' := fun hne =>
    decision_append_none fun e he => by
      rw [List.mem_singleton.mp he]
      exact decides_unique hevent hne
  have hkind : Allowed w.log event ∧ event.isPlain = true ∧ event.operation? = none := by
    cases event with
    | confirmed | rolledBack => exact ⟨trivial, rfl, rfl⟩
    | _ => cases hevent
  refine h.append hkind.1 hkind.2.1 (fun result' hresult' => ?_) fun operation barrier heq => ?_
  · rcases hresult' with hunissued | ⟨handle, lease, hc⟩
    · exact hnone fun heq => absurd hissued (Nat.not_lt.mpr (heq ▸ hunissued))
    -- only the first decision counts, and a created result without one is the open completion's
    cases hd : decision w.log result' with
    | some committed => exact decision_of_append hd
    | none =>
      obtain ⟨o, ho, rfl, -⟩ := h.results.opened result' handle lease hc hd
      exact (hnone (hother o ho)).trans hd
  · rw [heq] at hkind
    cases hkind.2.2

/-! ## The decision about the open completion -/

variable {o : OpenCompletion} {committed : Bool} {registry : ThreadRegistry}

/-- What happens when the completion is confirmed or rolled back. -/
def OpenCompletion.events (o : OpenCompletion) : Bool → List ControllerEvent
  | true => [.confirmed o.result, .released o.barrier true]
  | false => [.rolledBack o.result, .marked o.lease, .released o.barrier false]

/-- The world after the decision, which has left this registry. -/
def decide (w : ControllerWorld) (o : OpenCompletion) (committed : Bool)
    (registry : ThreadRegistry) : ControllerWorld :=
  { w with
    registry
    pendingProjectCompletions := w.pendingProjectCompletions.delete o.result
    pendingCompletionBarrier := none
    pendingCompletionResults := w.pendingCompletionResults.erase o.result
    settled := Function.update w.settled o.barrier (some committed)
    log := w.log ++ o.events committed }

theorem mem_events (h : event.isPlain = false) :
    event ∈ o.events committed ↔ event = .released o.barrier committed := by
  have hdecision : event ≠ .confirmed o.result ∧ event ≠ .rolledBack o.result ∧
      event ≠ .marked o.lease := by
    refine ⟨?_, ?_, ?_⟩ <;> rintro rfl <;> cases h
  cases committed <;> simp [OpenCompletion.events, hdecision]

theorem decision_events : decision (o.events committed) o.result = some committed := by
  cases committed <;> simp [OpenCompletion.events, decision, ControllerEvent.decides?]

theorem decides_events (h : result ≠ o.result) (hevent : event ∈ o.events committed) :
    event.decides? result = none := by
  cases committed <;> simp only [OpenCompletion.events, List.mem_cons, List.not_mem_nil, or_false]
    at hevent
  · rcases hevent with rfl | rfl | rfl
    · exact if_neg h.symm
    · rfl
    · rfl
  · rcases hevent with rfl | rfl
    · exact if_neg h.symm
    · rfl

/-- The barrier of the open completion has not been released. -/
theorem Sound.unreleased (h : Sound settings w (some o)) :
    .released o.barrier committed ∉ w.log := by
  obtain ⟨-, hundecided, hinstalled⟩ := h.results.current o rfl
  rw [h.barriers.released, h.barriers.settled _ _ hinstalled, hundecided]
  exact nofun

/-- The decision and what follows from it are lawful. -/
theorem Sound.lawful_decide (h : Sound settings w (some o)) (committed : Bool) :
    Trace.Lawful Allowed (w.log ++ o.events committed) := by
  obtain ⟨hcreated, hundecided, hinstalled⟩ := h.results.current o rfl
  have hunreleased : ∀ committed, .released o.barrier committed ∉ w.log := fun _ => h.unreleased
  cases committed with
  | true =>
    have hconfirmed : Trace.Lawful Allowed (w.log ++ [.confirmed o.result]) :=
      Trace.lawful_snoc.mpr ⟨h.lawful, trivial⟩
    have hreleased : Allowed (w.log ++ [.confirmed o.result]) (.released o.barrier true) :=
      ⟨w.log, o.result, rfl, hinstalled, hundecided, hunreleased⟩
    have hlog := Trace.lawful_snoc.mpr ⟨hconfirmed, hreleased⟩
    rwa [List.append_assoc] at hlog
  | false =>
    have hrolledBack : Trace.Lawful Allowed (w.log ++ [.rolledBack o.result]) :=
      Trace.lawful_snoc.mpr ⟨h.lawful, trivial⟩
    have hmarked : Allowed (w.log ++ [.rolledBack o.result]) (.marked o.lease) :=
      ⟨w.log, o.result, o.handle, rfl, hcreated, hundecided⟩
    have hmark := Trace.lawful_snoc.mpr ⟨hrolledBack, hmarked⟩
    rw [List.append_assoc] at hmark
    have hreleased : Allowed (w.log ++ [.rolledBack o.result, .marked o.lease])
        (.released o.barrier false) :=
      ⟨w.log, o.result, o.handle, o.lease, rfl, hinstalled, hcreated, hundecided, hunreleased⟩
    have hlog := Trace.lawful_snoc.mpr ⟨hmark, hreleased⟩
    rwa [List.append_assoc] at hlog

/-- The decision closes the completion. -/
theorem Sound.decide (h : Sound settings w (some o)) (hissued : o.result < w.results)
    (hconsistent : ThreadRegistry.Consistent registry)
    (hkept : ∀ handle committed, Fate w.registry handle committed → Fate registry handle committed)
    (hfate : Fate registry o.handle committed) :
    Sound settings (w.decide o committed registry) none := by
  -- The open completion is of an undecided result, whose barrier is installed and not released.
  obtain ⟨hcurrent, hundecided, hinstalled⟩ := h.results.current o rfl
  have hmem : ∀ {e : ControllerEvent}, e.isPlain = false →
      (e ∈ (w.decide o committed registry).log ↔ e ∈ w.log ∨ e = .released o.barrier committed) :=
    fun he => List.mem_append.trans (or_congr_right (mem_events he))
  have hcreated : ∀ {result handle lease},
      Created (w.decide o committed registry).log result handle lease ↔
        Created w.log result handle lease := exists_congr fun _ => (hmem rfl).trans (or_iff_left nofun)
  have hinstall : ∀ {barrier result},
      .installed barrier result ∈ (w.decide o committed registry).log ↔
        .installed barrier result ∈ w.log := (hmem rfl).trans (or_iff_left nofun)
  have hself : decision (w.decide o committed registry).log o.result = some committed := by
    rw [ControllerWorld.decide, decision_append, hundecided, Option.none_or, decision_events]
  have hother : ∀ {result}, result ≠ o.result →
      decision (w.decide o committed registry).log result = decision w.log result :=
    fun hne => decision_append_none fun e he => decides_events hne he
  have hsettled : (w.decide o committed registry).settled =
      Function.update w.settled o.barrier (some committed) := rfl
  refine ⟨hconsistent, h.lawful_decide committed, ?_, ?_, ?_⟩
  · -- Nothing is kept any more.
    refine ⟨rfl, fun result => ?_, fun result _ => ?_, nofun⟩
    · refine iff_of_false (fun hresult => ?_) nofun
      obtain ⟨hne, hresult⟩ := Finset.mem_erase.mp hresult
      obtain ⟨o', ho', rfl⟩ := (h.keeps.results result).mp hresult
      cases ho'
      exact hne rfl
    · rw [ControllerWorld.decide, OrderedMap.get?_delete]
      split
      · rfl
      · rename_i hne
        refine h.keeps.absent result fun o' ho' => ?_
        cases ho'
        exact hne
  · -- The results: this one is decided, as its conversation says, and the others are as before.
    refine ⟨fun target result value lease hreturned =>
        h.results.issued target result value lease (((hmem rfl).mp hreturned).resolve_right nofun),
      fun result hresult => ?_,
      fun result handle lease hc => h.results.drawn result handle lease (hcreated.mp hc),
      fun result handle lease hc hd => ?_, fun result handle lease committed' hc hd => ?_, nofun⟩
    · refine (hother ?_).trans (h.results.undecided result hresult)
      rintro rfl
      exact absurd hissued (Nat.not_lt.mpr hresult)
    · by_cases hne : result = o.result
      · rw [hne, hself] at hd
        cases hd
      · rw [hother hne] at hd
        obtain ⟨o', ho', rfl, -⟩ := h.results.opened result handle lease (hcreated.mp hc) hd
        cases ho'
        exact absurd rfl hne
    · by_cases hne : result = o.result
      · rw [hne, hself] at hd
        cases hd
        have hc := hcreated.mp hc
        rw [hne] at hc
        obtain ⟨o', ho', -, rfl, -⟩ := h.results.opened o.result handle lease hc hundecided
        cases ho'
        exact hfate
      · rw [hother hne] at hd
        exact hkept _ _ (h.results.decided result handle lease committed' (hcreated.mp hc) hd)
  · -- The barriers: this one is released with the decision, and the others are as before.
    refine ⟨fun barrier result hi => h.barriers.issued barrier result (hinstall.mp hi),
      fun barrier result hi => ?_, fun barrier result barrier' result' hi hi' =>
        h.barriers.unique _ _ _ _ (hinstall.mp hi) (hinstall.mp hi'),
      fun barrier result hi => ?_, fun barrier committed' => ?_, fun barrier hbarrier => ?_,
      fun operation barrier hw => ?_⟩
    · obtain ⟨handle, lease, hc⟩ := h.barriers.created barrier result (hinstall.mp hi)
      exact ⟨handle, lease, hcreated.mpr hc⟩
    · have hi := hinstall.mp hi
      have hsame := h.barriers.unique _ _ _ _ hi hinstalled
      by_cases hne : result = o.result
      · rw [hne, hself, hsame.mpr hne]
        rw [hsettled, Function.update_self]
      · rw [hother hne, ← h.barriers.settled barrier result hi, hsettled,
          Function.update_of_ne fun heq => hne (hsame.mp heq)]
    · rw [hmem rfl, hsettled]
      by_cases hne : barrier = o.barrier
      · subst hne
        rw [or_iff_right h.unreleased, Function.update_self]
        simp [eq_comm]
      · rw [Function.update_of_ne hne, ← h.barriers.released]
        exact or_iff_left fun heq => hne (ControllerEvent.released.inj heq).1
    · have hne : barrier ≠ o.barrier := fun heq =>
        -- A barrier that is still to come is not the one that is released now.
        absurd (h.barriers.issued _ _ hinstalled) (Nat.not_lt.mpr (heq ▸ hbarrier))
      rw [hsettled, Function.update_of_ne hne]
      exact h.barriers.unused barrier hbarrier
    · suffices hold : .waiting operation barrier ∈ w.log from
        (h.barriers.waiting operation barrier hold).imp fun result hi => hinstall.mpr hi
      refine (List.mem_append.mp hw).resolve_right fun hnew => ?_
      cases committed <;> simp [OpenCompletion.events] at hnew

/-! ### The two calls -/

/-- What others can do to the world while an operation waits: no barrier comes up, those that are
settled stay so, and no operation makes a step. -/
structure Moved (w w' : ControllerWorld) : Prop where
  barrier : w'.pendingCompletionBarrier = none ∨
    w'.pendingCompletionBarrier = w.pendingCompletionBarrier
  settled : ∀ barrier committed, w.settled barrier = some committed →
    w'.settled barrier = some committed
  log : ∃ events, w'.log = w.log ++ events ∧ ∀ event ∈ events, event.operation? = none

theorem moved_of_eq {w' : ControllerWorld}
    (hbarrier : w'.pendingCompletionBarrier = w.pendingCompletionBarrier)
    (hsettled : w'.settled = w.settled) (hlog : w'.log = w.log) : Moved w w' :=
  ⟨.inr hbarrier, fun _ _ h => hsettled ▸ h, [], hlog.trans (List.append_nil _).symm, nofun⟩

theorem moved_of_core {w' : ControllerWorld} (hcore : w'.core = w.core) : Moved w w' := by
  have hbarrier : w'.core.pendingCompletionBarrier = w.core.pendingCompletionBarrier := by rw [hcore]
  have hsettled : w'.core.settled = w.core.settled := by rw [hcore]
  have hlog : w'.core.log = w.core.log := by rw [hcore]
  exact moved_of_eq hbarrier hsettled hlog

theorem Moved.trans {w' w'' : ControllerWorld} (h : Moved w w') (h' : Moved w' w'') :
    Moved w w'' := by
  obtain ⟨events, hlog, hevents⟩ := h.log
  obtain ⟨events', hlog', hevents'⟩ := h'.log
  refine ⟨?_, fun barrier committed hsettled =>
    h'.settled barrier committed (h.settled barrier committed hsettled), events ++ events',
    by rw [hlog', hlog, List.append_assoc], fun event hevent =>
      (List.mem_append.mp hevent).elim (hevents event) (hevents' event)⟩
  rcases h'.barrier with hnone | hsame
  · exact .inl hnone
  · rw [hsame]
    exact h.barrier

/-- No operation has made a step. -/
theorem Moved.mem_iff {w' : ControllerWorld} (h : Moved w w')
    (hevent : event.operation? = some operation) : event ∈ w'.log ↔ event ∈ w.log := by
  obtain ⟨events, hlog, hevents⟩ := h.log
  rw [hlog, List.mem_append]
  refine or_iff_left fun hmem => ?_
  rw [hevents event hmem] at hevent
  cases hevent

theorem moved_recordDecision {committed : Bool} (hevent : event.decides? result = some committed) :
    Moved w (w.record event) := by
  refine ⟨.inr rfl, fun _ _ h => h, [event], rfl, fun e he => ?_⟩
  rw [List.mem_singleton.mp he]
  cases event with
  | confirmed | rolledBack => rfl
  | _ => cases hevent

theorem Sound.moved_decide (h : Sound settings w (some o)) (committed : Bool)
    (registry : ThreadRegistry) : Moved w (w.decide o committed registry) := by
  obtain ⟨-, hundecided, hinstalled⟩ := h.results.current o rfl
  refine ⟨.inl rfl, fun barrier committed' hsettled => ?_, o.events committed, rfl, fun e he => ?_⟩
  · have hne : barrier ≠ o.barrier := by
      rintro rfl
      rw [h.barriers.settled _ _ hinstalled, hundecided] at hsettled
      cases hsettled
    exact (Function.update_of_ne hne _ _).trans hsettled
  · cases committed <;> simp only [OpenCompletion.events, List.mem_cons, List.not_mem_nil, or_false]
      at he
    · rcases he with rfl | rfl | rfl <;> rfl
    · rcases he with rfl | rfl <;> rfl

/-- A completion that is not open is not confirmed. -/
theorem confirmTurnCompletion_absent
    (hcompletion : w.pendingProjectCompletions.get? result = none)
    (hresult : result ∉ w.pendingCompletionResults) :
    w.confirmTurnCompletion result = w.record (.confirmed result) := by
  simp [confirmTurnCompletion, confirmCompletedTurn, settleCompletionBarrier, record, hcompletion,
    hresult]

theorem rollbackTurnCompletion_absent
    (hcompletion : w.pendingProjectCompletions.get? result = none)
    (hresult : result ∉ w.pendingCompletionResults) :
    w.rollbackTurnCompletion result = w.record (.rolledBack result) := by
  simp [rollbackTurnCompletion, rollbackCompletedTurn, settleCompletionBarrier, record, hcompletion,
    hresult]

section Held

variable {transaction : ProvisionalThreadRegistrationToken} {entry : ProvisionalThreadEntry}

/-- The open completion is confirmed: its reservation is committed. -/
theorem confirmTurnCompletion_held (hkeeps : Keeps w (some o))
    (hcompletion : w.pendingProjectCompletions.get? o.result = some ⟨o.lease, transaction⟩)
    (hopen : w.registry.Pending transaction o.handle entry) :
    w.confirmTurnCompletion o.result = w.decide o true (w.registry.committed o.handle entry) := by
  have hresult : o.result ∈ w.pendingCompletionResults := (hkeeps.results _).mpr ⟨o, rfl, rfl⟩
  have hbarrier : w.pendingCompletionBarrier = some o.barrier := hkeeps.barrier
  simp [confirmTurnCompletion, confirmCompletedTurn, settleCompletionBarrier, record, decide,
    OpenCompletion.events, hcompletion, hresult, hbarrier, ThreadRegistry.commitProvisional,
    ThreadRegistry.settleProvisional_pending hopen]

/-- The open completion is rolled back: its reservation is withdrawn, and the scheduler marks the
lease of its turn. -/
theorem rollbackTurnCompletion_held (hkeeps : Keeps w (some o))
    (hcompletion : w.pendingProjectCompletions.get? o.result = some ⟨o.lease, transaction⟩)
    (hopen : w.registry.Pending transaction o.handle entry) :
    w.rollbackTurnCompletion o.result = w.decide o false (w.registry.rolledBack o.handle entry) := by
  have hresult : o.result ∈ w.pendingCompletionResults := (hkeeps.results _).mpr ⟨o, rfl, rfl⟩
  have hbarrier : w.pendingCompletionBarrier = some o.barrier := hkeeps.barrier
  simp [rollbackTurnCompletion, rollbackCompletedTurn, settleCompletionBarrier, record, decide,
    OpenCompletion.events, hcompletion, hresult, hbarrier, ThreadRegistry.rollbackProvisional,
    ThreadRegistry.settleProvisional_pending hopen]

/-- A commit keeps what has become of the handles, and commits its own. -/
theorem fate_committed (hconsistent : ThreadRegistry.Consistent registry) {handle : ThreadHandle}
    (hopen : registry.Pending transaction handle entry) :
    (∀ handle' committed, Fate registry handle' committed →
      Fate (registry.committed handle entry) handle' committed) ∧
    Fate (registry.committed handle entry) handle true := by
  refine ⟨fun handle' committed hfate => ?_, entry.locator, ?_⟩
  · cases committed with
    | true =>
      obtain ⟨locator, hlocator⟩ := hfate
      exact ⟨locator, hconsistent.committed_committed hopen hlocator⟩
    | false =>
      obtain ⟨hcommitted, hprovisional⟩ := ThreadRegistry.handleExists_eq_false hfate
      have hne : handle ≠ handle' := by
        rintro rfl
        rw [hopen.entry_eq] at hprovisional
        cases hprovisional
      simp [Fate, ThreadRegistry.handleExists, ThreadRegistry.committed, OrderedMap.has,
        OrderedMap.get?_set, OrderedMap.get?_delete, hne, hcommitted, hprovisional]
  · simp [ThreadRegistry.committed, OrderedMap.get?_set]

/-- A rollback keeps what has become of the handles, and leaves nothing of its own. -/
theorem fate_rolledBack (hconsistent : ThreadRegistry.Consistent registry) {handle : ThreadHandle}
    (hopen : registry.Pending transaction handle entry) :
    (∀ handle' committed, Fate registry handle' committed →
      Fate (registry.rolledBack handle entry) handle' committed) ∧
    Fate (registry.rolledBack handle entry) handle false := by
  have hcommitted : registry.committedHandleToLocator.get? handle = none := by
    cases hget : registry.committedHandleToLocator.get? handle with
    | none => rfl
    | some locator =>
      have hnone := hconsistent.disjoint handle locator hget
      rw [hopen.entry_eq] at hnone
      cases hnone
  refine ⟨fun handle' committed hfate => ?_, ?_⟩
  · cases committed with
    | true => exact hfate
    | false =>
      obtain ⟨hcommitted, hprovisional⟩ := ThreadRegistry.handleExists_eq_false hfate
      simp [Fate, ThreadRegistry.handleExists, ThreadRegistry.rolledBack, OrderedMap.has,
        OrderedMap.get?_delete, hcommitted, hprovisional]
  · simp [Fate, ThreadRegistry.handleExists, ThreadRegistry.rolledBack, OrderedMap.has,
      OrderedMap.get?_delete, hcommitted]

end Held

/-- Either the result is that of the open completion, or nothing is kept of it. -/
theorem Keeps.cases (h : Keeps w current) (result : ResultId) :
    (∃ o, current = some o ∧ o.result = result) ∨ (∀ o ∈ current, o.result ≠ result) ∧
      w.pendingProjectCompletions.get? result = none ∧ result ∉ w.pendingCompletionResults := by
  by_cases hcurrent : ∃ o ∈ current, o.result = result
  · exact .inl hcurrent
  · refine .inr ⟨fun o ho heq => hcurrent ⟨o, ho, heq⟩, h.absent result fun o ho heq =>
      hcurrent ⟨o, ho, heq⟩, fun hresult => hcurrent ((h.results result).mp hresult)⟩

/-- A confirmation, of whichever result and however late. -/
theorem Sound.confirmTurnCompletion (h : Sound settings w current) (hissued : result < w.results) :
    (∃ current', Sound settings (w.confirmTurnCompletion result) current') ∧
      Moved w (w.confirmTurnCompletion result) ∧
      (w.confirmTurnCompletion result).projectRegistry = w.projectRegistry := by
  have hevent : (ControllerEvent.confirmed result).decides? result = some true := if_pos rfl
  obtain ⟨o, rfl, rfl⟩ | ⟨hother, hcompletion, hresult⟩ := h.keeps.cases result
  · obtain ⟨transaction, entry, hcompletion, hopen⟩ := h.keeps.held o rfl
    obtain ⟨hkept, hfate⟩ := fate_committed h.consistent hopen
    rw [confirmTurnCompletion_held h.keeps hcompletion hopen]
    exact ⟨⟨none, h.decide hissued (h.consistent.committed hopen) hkept hfate⟩, h.moved_decide _ _,
      rfl⟩
  · rw [confirmTurnCompletion_absent hcompletion hresult]
    exact ⟨⟨current, h.recordDecision hevent hissued hother⟩, moved_recordDecision hevent, rfl⟩

/-- So is a rollback. -/
theorem Sound.rollbackTurnCompletion (h : Sound settings w current) (hissued : result < w.results) :
    (∃ current', Sound settings (w.rollbackTurnCompletion result) current') ∧
      Moved w (w.rollbackTurnCompletion result) ∧
      (w.rollbackTurnCompletion result).projectRegistry = w.projectRegistry := by
  have hevent : (ControllerEvent.rolledBack result).decides? result = some false := if_pos rfl
  obtain ⟨o, rfl, rfl⟩ | ⟨hother, hcompletion, hresult⟩ := h.keeps.cases result
  · obtain ⟨transaction, entry, hcompletion, hopen⟩ := h.keeps.held o rfl
    obtain ⟨hkept, hfate⟩ := fate_rolledBack h.consistent hopen
    rw [rollbackTurnCompletion_held h.keeps hcompletion hopen]
    exact ⟨⟨none, h.decide hissued (h.consistent.rolledBack hopen) hkept hfate⟩, h.moved_decide _ _,
      rfl⟩
  · rw [rollbackTurnCompletion_absent hcompletion hresult]
    exact ⟨⟨current, h.recordDecision hevent hissued hother⟩, moved_recordDecision hevent, rfl⟩

end Moves

end ControllerWorld

end Threadwire

