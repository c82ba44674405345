import Threadwire.Controller.CompletionBarrier

/-!
# A turn of the executor in the controller

What `execute` does to a world without an open completion. However the turn ends, the registry has
evolved by it. A turn of a project that returns opens the completion of its result, and the barrier
that the controller installs right after it is the one of this completion.
-/

namespace Threadwire

/-- `randomUUID` gives no identifier in two turns. -/
def DrawsOnce (randomUUID : ℕ → ℕ → ThreadHandleFactory) : Prop :=
  ∀ turn question turn' question' handle,
    ThreadRegistry.Draws (randomUUID turn question) handle →
      ThreadRegistry.Draws (randomUUID turn' question') handle → turn = turn'

namespace ControllerWorld

open ThreadRegistry (Draws)

variable {settings : ControllerSettings} {w : ControllerWorld} {registry : ThreadRegistry}
  {result : ResultId} {handle : ThreadHandle} {lease : RuntimeLease} {target : TurnTarget}
  {value : TurnResult}

/-- While no completion is open, every created result has been decided about. -/
theorem Sound.quiet (h : Sound settings w none) : Quiet w.log := by
  intro result handle lease hcreated hundecided
  obtain ⟨o, ho, -⟩ := h.results.opened result handle lease hcreated hundecided
  cases ho

/-- Every barrier that was installed before has been released. -/
theorem Sound.all_released (h : Sound settings w none) {barrier : BarrierId}
    (hinstalled : .installed barrier result ∈ w.log) :
    ∃ committed, .released barrier committed ∈ w.log := by
  obtain ⟨handle, lease, hcreated⟩ := h.barriers.created barrier result hinstalled
  obtain ⟨committed, hdecided⟩ :=
    Option.ne_none_iff_exists'.mp (h.quiet result handle lease hcreated)
  refine ⟨committed, (h.barriers.released barrier committed).mpr ?_⟩
  rw [h.barriers.settled barrier result hinstalled, hdecided]

/-! ## The registry after a turn -/

/-- A turn has made its changes to the registry. The handles that were rolled back do not come back,
for the identifiers of the turn are its own. -/
theorem Sound.evolve (h : Sound settings w none) (hfresh : DrawsOnce settings.randomUUID)
    (hevolves : ThreadRegistry.Evolves
      (fun handle => ∃ question, Draws (settings.randomUUID w.executions question) handle)
      w.registry registry) :
    Sound settings { w with registry, executions := w.executions + 1 } none := by
  refine ⟨hevolves.consistent h.consistent, h.lawful,
    ⟨h.keeps.barrier, h.keeps.results, h.keeps.absent, nofun⟩, ?_,
    ⟨h.barriers.issued, h.barriers.created, h.barriers.unique, h.barriers.settled,
      h.barriers.released, h.barriers.unused, h.barriers.waiting⟩⟩
  refine ⟨h.results.issued, h.results.undecided, fun result handle lease hcreated => ?_,
    h.results.opened, fun result handle lease committed hcreated hdecided => ?_, nofun⟩
  · obtain ⟨turn, hturn, hdraws⟩ := h.results.drawn result handle lease hcreated
    exact ⟨turn, Nat.lt_succ_of_lt hturn, hdraws⟩
  · have hfate := h.results.decided result handle lease committed hcreated hdecided
    cases committed with
    | true =>
      obtain ⟨locator, hlocator⟩ := hfate
      exact ⟨locator, hevolves.committed h.consistent handle locator hlocator⟩
    | false =>
      refine Bool.eq_false_iff.mpr fun hexists => ?_
      obtain hold | ⟨question, hdraws⟩ := hevolves.drawn handle hexists
      · exact absurd hold (Bool.eq_false_iff.mp hfate)
      · obtain ⟨turn, hturn, question', hdraws'⟩ := h.results.drawn result handle lease hcreated
        exact absurd (hfresh _ _ _ _ handle hdraws' hdraws) (Nat.ne_of_lt hturn)

/-! ## The result of a turn -/

/-- A new result is lawful. -/
theorem Sound.lawful_returned (h : Sound settings w none) (target : TurnTarget) (value : TurnResult)
    (lease : RuntimeLease) :
    Trace.Lawful Allowed (w.log ++ [.returned target w.results value lease]) := by
  refine Trace.lawful_snoc.mpr ⟨h.lawful, h.results.undecided _ (Nat.le_refl _), ?_⟩
  intro target' value' lease' hmem
  exact absurd (h.results.issued _ _ _ _ hmem) (Nat.lt_irrefl _)

/-- The world with a new result. -/
def withResult (w : ControllerWorld) (target : TurnTarget) (value : TurnResult)
    (lease : RuntimeLease) : ControllerWorld :=
  { w with
    results := w.results + 1
    log := w.log ++ [.returned target w.results value lease] }

/-- A result without a completion. -/
theorem Sound.withResult (h : Sound settings w none) (value : TurnResult) (lease : RuntimeLease)
    (htarget : ∀ project, target ≠ .project project) :
    Sound settings (w.withResult target value lease) none := by
  have hmem : ∀ {e : ControllerEvent}, e ≠ .returned target w.results value lease →
      (e ∈ (w.withResult target value lease).log ↔ e ∈ w.log) := by
    intro e he
    rw [ControllerWorld.withResult, List.mem_append, List.mem_singleton]
    exact or_iff_left he
  have hcreated : ∀ {result handle lease'},
      Created (w.withResult target value lease).log result handle lease' ↔
        Created w.log result handle lease' := exists_congr fun project => hmem fun heq =>
      htarget project (ControllerEvent.returned.inj heq).1.symm
  have hdecision : ∀ result, decision (w.withResult target value lease).log result =
      decision w.log result := fun result => decision_append_none fun e he => by
    rw [List.mem_singleton.mp he]
    rfl
  refine ⟨h.consistent, h.lawful_returned target value lease,
    ⟨h.keeps.barrier, h.keeps.results, h.keeps.absent, nofun⟩, ?_, ?_⟩
  · -- The new result is no created conversation, so nothing about those changes.
    refine ⟨fun target' result value' lease' hreturned => ?_, fun result hresult => ?_,
      fun result handle lease hc => h.results.drawn result handle lease (hcreated.mp hc),
      fun result handle lease hc hd => ?_, fun result handle lease committed hc hd => ?_, nofun⟩
    · rcases List.mem_append.mp hreturned with hold | hnew
      · exact Nat.lt_succ_of_lt (h.results.issued _ _ _ _ hold)
      · cases List.mem_singleton.mp hnew
        exact Nat.lt_succ_self _
    · exact (hdecision result).trans (h.results.undecided result (Nat.le_of_succ_le hresult))
    · exact h.results.opened result handle lease (hcreated.mp hc) ((hdecision result).symm.trans hd)
    · exact h.results.decided result handle lease committed (hcreated.mp hc)
        ((hdecision result).symm.trans hd)
  · refine h.barriers.congr rfl rfl (hmem nofun) (hmem nofun)
      (fun hc => ⟨hcreated.mpr hc, hdecision _⟩) fun operation barrier hw => ?_
    refine h.barriers.waiting operation barrier ((hmem ?_).mp hw)
    exact nofun

/-! ## The completion that a turn opens -/

/-- The completion of the next result, and its barrier. -/
def opening (w : ControllerWorld) (handle : ThreadHandle) (lease : RuntimeLease) :
    OpenCompletion where
  result := w.results
  handle
  lease
  barrier := w.barriers

/-- The result of a turn of a project, and its barrier. -/
def openingEvents (w : ControllerWorld) (project : ProjectLocator) (handle : ThreadHandle)
    (lease : RuntimeLease) : List ControllerEvent :=
  [.returned (.project project) w.results ⟨handle, true⟩ lease, .installed w.barriers w.results]

/-- The world with the result of a turn of a project, and its barrier. -/
def withCompletion (w : ControllerWorld) (project : ProjectLocator) (handle : ThreadHandle)
    (lease : RuntimeLease) (transaction : ProvisionalThreadRegistrationToken) : ControllerWorld :=
  { w with
    results := w.results + 1
    pendingProjectCompletions := w.pendingProjectCompletions.set w.results ⟨lease, transaction⟩
    barriers := w.barriers + 1
    pendingCompletionBarrier := some w.barriers
    pendingCompletionResults := insert w.results w.pendingCompletionResults
    log := w.log ++ w.openingEvents project handle lease }

/-- A turn of a project has reserved a conversation and returned: its completion is open. -/
theorem Sound.withCompletion (h : Sound settings w none) (project : ProjectLocator)
    (lease : RuntimeLease) {transaction : ProvisionalThreadRegistrationToken} {entry : ProvisionalThreadEntry}
    (hopen : w.registry.Pending transaction handle entry)
    (hdrawn : ∃ turn < w.executions, ∃ question, Draws (settings.randomUUID turn question) handle) :
    Sound settings (w.withCompletion project handle lease transaction)
      (some (w.opening handle lease)) := by
  have hlog : (w.withCompletion project handle lease transaction).log =
      w.log ++ w.openingEvents project handle lease := rfl
  have hmem : ∀ {e : ControllerEvent}, e ∈ (w.withCompletion project handle lease transaction).log ↔
      e ∈ w.log ∨ e = .returned (.project project) w.results ⟨handle, true⟩ lease ∨
        e = .installed w.barriers w.results := by
    intro e
    rw [hlog, List.mem_append, openingEvents, List.mem_cons, List.mem_singleton]
  have hdecision : ∀ result,
      decision (w.withCompletion project handle lease transaction).log result =
        decision w.log result := fun result => decision_append_none fun e he => by
    rcases List.mem_cons.mp he with rfl | he
    · rfl
    · rw [List.mem_singleton.mp he]
      rfl
  have hcreated : ∀ {result handle' lease'},
      Created (w.withCompletion project handle lease transaction).log result handle' lease' →
        Created w.log result handle' lease' ∨
          result = w.results ∧ handle' = handle ∧ lease' = lease := by
    rintro result handle' lease' ⟨project', hreturned⟩
    rcases hmem.mp hreturned with hold | hnew | hnew
    · exact .inl ⟨project', hold⟩
    · cases hnew
      exact .inr ⟨rfl, rfl, rfl⟩
    · cases hnew
  have hinstalled : ∀ {barrier result},
      .installed barrier result ∈ (w.withCompletion project handle lease transaction).log →
        .installed barrier result ∈ w.log ∨ barrier = w.barriers ∧ result = w.results := by
    intro barrier result hi
    rcases hmem.mp hi with hold | hnew | hnew
    · exact .inl hold
    · cases hnew
    · cases hnew
      exact .inr ⟨rfl, rfl⟩
  -- The number of the new result is fresh, so nothing was decided about it and no barrier has it.
  have hundecided : decision w.log w.results = none := h.results.undecided _ (Nat.le_refl _)
  have hissued : ∀ {barrier result}, .installed barrier result ∈ w.log → result < w.results := by
    intro barrier result hi
    obtain ⟨handle', lease', project', hreturned⟩ := h.barriers.created barrier result hi
    exact h.results.issued _ _ _ _ hreturned
  refine ⟨h.consistent, ?_, ?_, ?_, ?_⟩
  · -- The two events are lawful: the result is new, and the barriers before it were released.
    have hreturned := h.lawful_returned (.project project) ⟨handle, true⟩ lease
    have hallowed : Allowed (w.log ++ [.returned (.project project) w.results ⟨handle, true⟩ lease])
        (.installed w.barriers w.results) := by
      refine ⟨⟨handle, lease, project, by simp⟩, ?_, fun barrier result hi => ?_⟩
      · exact (decision_append_none fun e he => by
          rw [List.mem_singleton.mp he]
          rfl).trans hundecided
      · have hi : .installed barrier result ∈ w.log := by simpa using hi
        obtain ⟨committed, hreleased⟩ := h.all_released hi
        exact ⟨Nat.ne_of_lt (h.barriers.issued _ _ hi), Nat.ne_of_lt (hissued hi), committed,
          List.mem_append_left _ hreleased⟩
    have hlawful := Trace.lawful_snoc.mpr ⟨hreturned, hallowed⟩
    rwa [List.append_assoc] at hlawful
  · -- The controller keeps the one completion, under the new result.
    refine ⟨rfl, fun result => ?_, fun result hne => ?_, fun o ho => ?_⟩
    · refine Finset.mem_insert.trans ⟨fun hresult => ?_, ?_⟩
      · rcases hresult with rfl | hresult
        · exact ⟨_, rfl, rfl⟩
        · obtain ⟨o, ho, -⟩ := (h.keeps.results result).mp hresult
          cases ho
      · rintro ⟨o, ho, rfl⟩
        cases ho
        exact .inl rfl
    · refine (OrderedMap.get?_set _ _ _ _).trans ((if_neg (hne _ rfl)).trans ?_)
      exact h.keeps.absent result nofun
    · cases ho
      exact ⟨transaction, entry, (OrderedMap.get?_set _ _ _ _).trans (if_pos rfl), hopen⟩
  · -- The results: those of before are as they were, and the new one is open.
    refine ⟨fun target result value lease' hreturned => ?_, fun result hresult => ?_,
      fun result handle' lease' hc => ?_, fun result handle' lease' hc hd => ?_,
      fun result handle' lease' committed hc hd => ?_, fun o ho => ?_⟩
    · rcases hmem.mp hreturned with hold | hnew | hnew
      · exact Nat.lt_succ_of_lt (h.results.issued _ _ _ _ hold)
      · cases hnew
        exact Nat.lt_succ_self _
      · cases hnew
    · exact (hdecision result).trans (h.results.undecided result (Nat.le_of_succ_le hresult))
    · rcases hcreated hc with hold | ⟨-, rfl, -⟩
      · exact h.results.drawn result handle' lease' hold
      · exact hdrawn
    · rcases hcreated hc with hold | ⟨rfl, rfl, rfl⟩
      · exact absurd ((hdecision result).symm.trans hd) (h.quiet result handle' lease' hold)
      · exact ⟨_, rfl, rfl, rfl, rfl⟩
    · rw [hdecision] at hd
      rcases hcreated hc with hold | ⟨rfl, -, -⟩
      · exact h.results.decided result handle' lease' committed hold hd
      · rw [hundecided] at hd
        cases hd
    · cases ho
      exact ⟨⟨project, hmem.mpr (.inr (.inl rfl))⟩, (hdecision _).trans hundecided,
        hmem.mpr (.inr (.inr rfl))⟩
  · -- The barriers: those of before are as they were, and the new one is unreleased.
    refine ⟨fun barrier result hi => ?_, fun barrier result hi => ?_,
      fun barrier result barrier' result' hi hi' => ?_, fun barrier result hi => ?_,
      fun barrier committed => ?_,
      fun barrier hbarrier => h.barriers.unused barrier (Nat.le_of_succ_le hbarrier),
      fun operation barrier hw => ?_⟩
    · rcases hinstalled hi with hold | ⟨rfl, -⟩
      · exact Nat.lt_succ_of_lt (h.barriers.issued barrier result hold)
      · exact Nat.lt_succ_self _
    · rcases hinstalled hi with hold | ⟨-, rfl⟩
      · obtain ⟨handle', lease', project', hc⟩ := h.barriers.created barrier result hold
        exact ⟨handle', lease', project', hmem.mpr (.inl hc)⟩
      · exact ⟨handle, lease, project, hmem.mpr (.inr (.inl rfl))⟩
    · rcases hinstalled hi with hold | ⟨rfl, rfl⟩ <;> rcases hinstalled hi' with hold' | ⟨rfl, rfl⟩
      · exact h.barriers.unique _ _ _ _ hold hold'
      · exact iff_of_false (Nat.ne_of_lt (h.barriers.issued _ _ hold)) (Nat.ne_of_lt (hissued hold))
      · exact iff_of_false (Nat.ne_of_gt (h.barriers.issued _ _ hold'))
          (Nat.ne_of_gt (hissued hold'))
      · exact iff_of_true rfl rfl
    · rw [hdecision]
      rcases hinstalled hi with hold | ⟨rfl, rfl⟩
      · exact h.barriers.settled barrier result hold
      · exact (h.barriers.unused _ (Nat.le_refl _)).trans hundecided.symm
    · refine hmem.trans (Iff.trans ?_ (h.barriers.released barrier committed))
      exact or_iff_left fun hnew => hnew.elim nofun nofun
    · rcases hmem.mp hw with hold | hnew | hnew
      · obtain ⟨result, hi⟩ := h.barriers.waiting operation barrier hold
        exact ⟨result, hmem.mpr (.inl hi)⟩
      · cases hnew
      · cases hnew

/-! ## The turn -/

/-- The world when the controller has gone on after a result. -/
def afterResult (w : ControllerWorld) (target : TurnTarget) (result : ResultId)
    (value : TurnResult) : ControllerWorld :=
  if ThreadwireController.isProject target && value.created then w.installCompletionBarrier result
  else w

section Execute

variable {prompt : Text} {answer : ExecutorAnswer}
  {outcome : Except (Interrupt ThrownError) TurnResult}
  {run : TurnRun}

/-- The world after a turn that rejects, or hangs. -/
theorem execute_error {interrupt : Interrupt ThrownError}
    (hrun : TurnExecutor.executeInternal (w.turnCall settings target prompt answer) answer.fuel
      { registry := w.registry } = (.error interrupt, run)) :
    w.execute settings target prompt answer = (.error interrupt,
      { w with registry := run.registry, executions := w.executions + 1 }) := by
  have hstreaming : TurnExecutor.executeStreaming (w.turnCall settings target prompt answer)
      answer.fuel { registry := w.registry } = (.error interrupt, run) := hrun
  rw [execute, hstreaming]

/-- The world after a turn that returns. -/
theorem execute_ok (hrun : TurnExecutor.executeInternal (w.turnCall settings target prompt answer)
      answer.fuel { registry := w.registry } = (.ok value, run)) :
    w.execute settings target prompt answer = (.ok (w.results, value),
      { w with
        registry := run.registry
        executions := w.executions + 1
        results := w.results + 1
        pendingProjectCompletions :=
          match run.pendingProjectCompletion with
          | none => w.pendingProjectCompletions
          | some pending => w.pendingProjectCompletions.set w.results pending
        log := w.log ++ [.returned target w.results value answer.lease] }) := by
  have hstreaming : TurnExecutor.executeStreaming (w.turnCall settings target prompt answer)
      answer.fuel { registry := w.registry } = (.ok value, run) := hrun
  cases hpending : run.pendingProjectCompletion with
  | none => simp only [execute, hstreaming, hpending]
  | some pending => simp only [execute, hstreaming, hpending]

/-- The registry after a turn. -/
theorem evolves_execute
    (hrun : TurnExecutor.executeInternal (w.turnCall settings target prompt answer) answer.fuel
      { registry := w.registry } = (outcome, run)) :
    ThreadRegistry.Evolves
      (fun handle => ∃ question, Draws (settings.randomUUID w.executions question) handle)
      w.registry run.registry :=
  (TurnExecutor.registers_executeInternal hrun).evolves

/-- The locator of a target that is a project is a URL. -/
def ValidTarget (settings : ControllerSettings) (target : TurnTarget) : Prop :=
  ∀ project, target = .project project → (urlParser settings.platform project).isSome = true

/-- A turn of a project that returns has reserved a conversation, and its completion is pending. -/
theorem execute_project {project : ProjectLocator}
    (hvalid : ValidTarget settings (.project project))
    (hrun : TurnExecutor.executeInternal (w.turnCall settings (.project project) prompt answer)
      answer.fuel { registry := w.registry } = (.ok value, run)) :
    ∃ normalized, value.created = true ∧
      ThreadRegistry.handleExists w.registry.toRegistryMaps value.threadHandle = false ∧
      run.registry = w.registry.reserved normalized value.threadHandle ∧
      run.pendingProjectCompletion = some ⟨answer.lease, w.registry.nextTransaction⟩ := by
  have hvalid' : TurnExecutor.ValidTarget
      (w.turnCall settings (.project project) prompt answer) := hvalid
  obtain ⟨-, ⟨i, hi⟩, -⟩ | ⟨-, -, result, run', -, hresolved, hreleased⟩ :=
    TurnExecutor.executeInternal_cases hvalid' hrun
  · cases hi
  -- the release of the observation has not thrown, and it touches nothing else
  obtain ⟨rfl, hregistry, hpending⟩ : result = value ∧ run.registry = run'.registry ∧
      run.pendingProjectCompletion = run'.pendingProjectCompletion := by
    rw [TurnExecutor.released] at hreleased
    split at hreleased
    · cases hreleased
      exact ⟨rfl, rfl, rfl⟩
    · cases hreleased
  obtain ⟨locator, normalized, hentry, hcreated, ⟨hreserved, hcompletion⟩ | ⟨hsilent, -⟩⟩ :=
    hresolved.created rfl
  · exact ⟨normalized, hcreated, hentry.unused, hregistry.trans hreserved,
      hpending.trans hcompletion⟩
  · cases hsilent

/-- A turn that rejects or hangs leaves no completion open. -/
theorem Sound.execute_error (h : Sound settings w none) (hfresh : DrawsOnce settings.randomUUID)
    {interrupt : Interrupt ThrownError} {w' : ControllerWorld}
    (hexecute : w.execute settings target prompt answer = (.error interrupt, w')) :
    Sound settings w' none ∧ w'.log = w.log ∧ w'.settled = w.settled ∧
      w'.pendingCompletionBarrier = w.pendingCompletionBarrier := by
  rcases hrun : TurnExecutor.executeInternal (w.turnCall settings target prompt answer) answer.fuel
    { registry := w.registry } with ⟨interrupt' | value, run⟩
  · rw [ControllerWorld.execute_error hrun] at hexecute
    cases hexecute
    exact ⟨h.evolve hfresh (evolves_execute hrun), rfl, rfl, rfl⟩
  · rw [execute_ok hrun] at hexecute
    cases hexecute

/-- A turn that returns opens the completion of its result where it is one of a project, and none
otherwise. -/
theorem Sound.execute_ok (h : Sound settings w none) (hfresh : DrawsOnce settings.randomUUID)
    (hvalid : ValidTarget settings target) {w' : ControllerWorld}
    (hexecute : w.execute settings target prompt answer = (.ok (result, value), w')) :
    ∃ current, Sound settings (w'.afterResult target result value) current := by
  rcases hrun : TurnExecutor.executeInternal (w.turnCall settings target prompt answer) answer.fuel
    { registry := w.registry } with ⟨interrupt | value', run⟩
  · rw [ControllerWorld.execute_error hrun] at hexecute
    cases hexecute
  rw [ControllerWorld.execute_ok hrun] at hexecute
  cases hexecute
  have hevolves := evolves_execute hrun
  have hevolved := h.evolve hfresh hevolves
  -- Only a turn of a project reserves a conversation, and it always does where it returns.
  by_cases hproject : ∃ project, target = .project project
  · obtain ⟨project, rfl⟩ := hproject
    obtain ⟨normalized, hcreated, hunused, hregistry, hpending⟩ := execute_project hvalid hrun
    obtain ⟨handle, created⟩ := value
    subst hcreated
    have hopen : run.registry.Pending w.registry.nextTransaction handle
        ⟨normalized, w.registry.nextTransaction⟩ := by
      rw [hregistry]
      exact ThreadRegistry.pending_reserved
    have hexists : ThreadRegistry.handleExists run.registry.toRegistryMaps handle = true := by
      simp [ThreadRegistry.handleExists, OrderedMap.has, hopen.entry_eq]
    -- The handle that was reserved is one that this turn drew: before it, nobody had it.
    obtain hold | ⟨question, hdraws⟩ := hevolves.drawn handle hexists
    · rw [hunused] at hold
      cases hold
    refine ⟨some (w.opening handle answer.lease), ?_⟩
    have hsound := hevolved.withCompletion project answer.lease hopen
      ⟨w.executions, Nat.lt_succ_self _, question, hdraws⟩
    simp only [hpending, afterResult, ThreadwireController.isProject, Bool.and_self, if_true,
      installCompletionBarrier, List.append_assoc]
    exact hsound
  · have hnot : ∀ project, target ≠ .project project := fun project heq => hproject ⟨project, heq⟩
    have htarget : ThreadwireController.isProject target = false ∧
        TurnExecutor.isProject (w.turnCall settings target prompt answer) = false := by
      cases target with
      | project project => exact absurd rfl (hnot project)
      | _ => exact ⟨rfl, rfl⟩
    obtain ⟨-, hpending⟩ := (TurnExecutor.registers_executeInternal hrun).unreserved htarget.2
    refine ⟨none, ?_⟩
    have hsound := hevolved.withResult value answer.lease hnot
    simp only [hpending, afterResult, htarget.1, Bool.false_and]
    exact hsound

end Execute

end ControllerWorld

end Threadwire
