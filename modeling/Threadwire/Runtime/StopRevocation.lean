import Threadwire.Runtime.ClassicSupervisor

/-!
# A stopped runtime stays revoked

A stop that resolves has seen the processes it captured exit. From then on their identities are
revoked: no lease of theirs is current. The operations of the lifecycle queue keep this, because
their queries begin after the stop and an exited process never comes back. A query in the background
may have been sampled before the exit and be answered after it; what it records then must not be
revoked, and nothing in the code checks that.
-/

namespace Threadwire

namespace SupervisorSystem

variable {s t : SupervisorSystem} {op : LifecycleOperation} {stage : LifecycleStage}
  {identities : List RuntimeIdentity} {identity : RuntimeIdentity}
  {processes : List ClassicProcessInfo}

/-- The processes whose exit the event observes. -/
def exits : SupervisorEvent → List RuntimeIdentity
  | .exitObserved previousIdentities => previousIdentities
  | .inspected _ | .stopResolved _ | .settled _ _ => []

/-- The identities that were captured by a stop whose wait for the exit has ended. -/
def revoked (s : SupervisorSystem) : List RuntimeIdentity := s.log.flatMap exits

/-- What the answer of a query in the background makes the tracker's identity, if anything. -/
def recorded (s : SupervisorSystem) (query : ProcessQuery) : Option RuntimeIdentity :=
  match query.asker, query.sampled.map selectUniqueMainProcess with
  | .inspect, some (.ok (some process)) =>
    if s.stopInProgress then none else some (runtimeIdentity process)
  | .abandonedStart, some (.ok (some process)) => some (runtimeIdentity process)
  | _, _ => none

/-- An answer in the background records no revoked identity. -/
def RecordsUnrevoked (s : SupervisorSystem) : SupervisorInput → Prop
  | .answerQuery query (.ok _) =>
    ∀ found ∈ s.queries[query]?, ∀ identity ∈ s.recorded found, identity ∉ s.revoked
  | _ => True

/-- The process is or was one of the machine. -/
def Known (s : SupervisorSystem) (identity : RuntimeIdentity) : Prop :=
  identity ∈ s.alive ∨ identity ∈ s.exited

/-- What holds of the identities that an operation has captured, by its stage. -/
def StageHolds (s : SupervisorSystem) : LifecycleStage → Prop
  | .stopCommand previousIdentities | .exitQuery previousIdentities _ _
  | .exitDelay previousIdentities _ _ => ∀ identity ∈ previousIdentities, s.Known identity
  | .leaving (.ok _) previousIdentities | .stopped previousIdentities =>
    ∀ identity ∈ previousIdentities, identity ∈ s.revoked
  | .capturing | .leaving (.error _) _ | .resolving _ | .launchQuery _ | .launching _
  | .startQuery _ | .startDelay _ => True

/-- What the operation's query has sampled. A captured process that is not among it has exited. -/
structure SampleHolds (s : SupervisorSystem) (stage : LifecycleStage)
    (processes : List ClassicProcessInfo) : Prop where
  known : ∀ identity ∈ processes.map runtimeIdentity, s.Known identity
  unrevoked : ∀ identity ∈ processes.map runtimeIdentity, identity ∉ s.revoked
  gone : ∀ previousIdentities stopCommandError quiescentObservations,
    stage = .exitQuery previousIdentities stopCommandError quiescentObservations →
    ∀ identity ∈ previousIdentities, identity ∉ processes.map runtimeIdentity →
      identity ∈ s.exited

/-- The invariant, the running operation apart. -/
structure Tracked (s : SupervisorSystem) : Prop where
  gone : ∀ identity ∈ s.exited, identity ∉ s.alive
  revoked : ∀ identity ∈ s.revoked, identity ∈ s.exited
  current : ∀ identity ∈ s.tracker.currentIdentity, identity ∉ s.revoked
  resolved : ∀ identities, .stopResolved identities ∈ s.log →
    ∀ identity ∈ identities, identity ∈ s.revoked

/-- The invariant of the runs. -/
structure Revocation (s : SupervisorSystem) : Prop extends Tracked s where
  stage : ∀ op ∈ s.active, s.StageHolds op.stage
  sampled : ∀ op ∈ s.active, ∀ processes ∈ op.sampled, s.SampleHolds op.stage processes

/-- An exit that is recorded is a revocation. -/
theorem revoked_record (event : SupervisorEvent) :
    (s.record event).revoked = s.revoked ++ exits event := by
  simp [revoked, record]

/-- What was observed last is current. -/
@[simp] theorem currentIdentity_observe (tracker : RuntimeGenerationTracker)
    (identity : Option RuntimeIdentity) :
    (tracker.observe identity).currentIdentity = identity := by
  cases identity <;> rfl

/-! ## Pieces of a step -/

/-- The tracker may observe an identity that is not revoked. -/
theorem Tracked.observe (h : Tracked s) {identity : Option RuntimeIdentity}
    (hunrevoked : ∀ i ∈ identity, i ∉ s.revoked) : Tracked (s.observe identity) where
  gone := h.gone
  revoked := h.revoked
  current i hi := hunrevoked i (by rwa [SupervisorSystem.observe, currentIdentity_observe] at hi)
  resolved := h.resolved

/-- An event that ends no wait for an exit and resolves no stop. -/
theorem Tracked.record (h : Tracked s) {event : SupervisorEvent} (hexits : exits event = [])
    (hresolved : ∀ identities, event ≠ .stopResolved identities) : Tracked (s.record event) := by
  have hrevoked : (s.record event).revoked = s.revoked := by
    rw [revoked_record, hexits, List.append_nil]
  refine ⟨h.gone, hrevoked ▸ h.revoked, hrevoked ▸ h.current, fun identities hmem => ?_⟩
  rw [hrevoked]
  rcases List.mem_append.mp hmem with hmem | hmem
  · exact h.resolved identities hmem
  · exact absurd (List.mem_singleton.mp hmem).symm (hresolved identities)

/-- The wait for the exit ends: the captured processes have exited, and no identity is current. -/
theorem Tracked.exitObserved (h : Tracked s) (hgone : ∀ identity ∈ identities, identity ∈ s.exited) :
    Tracked ((s.observe none).record (.exitObserved identities)) := by
  have hrevoked : ((s.observe none).record (.exitObserved identities)).revoked =
      s.revoked ++ identities := revoked_record _
  refine ⟨h.gone, fun i hi => ?_, fun i hi => ?_, fun ids hmem i hi => ?_⟩
  · rw [hrevoked] at hi
    exact (List.mem_append.mp hi).elim (h.revoked i) (hgone i)
  · cases hi
  · rw [hrevoked]
    rcases List.mem_append.mp hmem with hmem | hmem
    · exact List.mem_append_left _ (h.resolved ids hmem i hi)
    · cases List.mem_singleton.mp hmem

/-- A stop resolves whose captured processes are revoked. -/
theorem Tracked.stopResolved (h : Tracked s)
    (hidentities : ∀ identity ∈ identities, identity ∈ s.revoked) :
    Tracked (s.record (.stopResolved identities)) := by
  have hrevoked : (s.record (.stopResolved identities)).revoked = s.revoked := by
    rw [revoked_record]
    exact List.append_nil _
  refine ⟨h.gone, hrevoked ▸ h.revoked, hrevoked ▸ h.current, fun ids hmem => ?_⟩
  rw [hrevoked]
  rcases List.mem_append.mp hmem with hmem | hmem
  · exact h.resolved ids hmem
  · cases List.mem_singleton.mp hmem
    exact hidentities

/-- The operation goes on to a stage that holds. -/
theorem Tracked.goto (h : Tracked s) (hstage : s.StageHolds stage) : Revocation (s.goto op stage) where
  toTracked := { h with }
  stage op hop := by
    cases hop
    exact hstage
  sampled op hop processes hprocesses := by
    cases hop
    cases hprocesses

/-- It settles. -/
theorem Tracked.settle (h : Tracked s) (outcome : Except ThrownError (Option ℕ)) :
    Revocation (s.settle op outcome) where
  toTracked :=
    have hrecord : Tracked (s.record (.settled op.kind outcome)) := h.record rfl (by simp)
    { hrecord with }
  stage _ hop := by cases hop
  sampled _ hop := by cases hop

/-! ## The lifecycle operations -/

/-- The exit is waited for of processes that are known. -/
theorem Tracked.waitForExit (h : Tracked s) (hknown : ∀ identity ∈ identities, s.Known identity)
    (stopCommandError : Option ThrownError) :
    Revocation (s.waitForExit op identities stopCommandError) := by
  unfold SupervisorSystem.waitForExit
  split
  · exact h.goto hknown
  · exact h.goto trivial

/-- The stop command has ended, one way or the other. -/
theorem Tracked.stopCommandEnded (h : Tracked s)
    (hknown : ∀ identity ∈ identities, s.Known identity) (outcome : Except ThrownError Unit) :
    Revocation (s.stopCommandEnded op identities outcome) := by
  cases outcome with
  | ok _ => exact h.waitForExit hknown none
  | error error =>
    unfold SupervisorSystem.stopCommandEnded
    dsimp only
    split
    · exact h.goto trivial
    · exact h.waitForExit hknown (some error)

/-- The main process is one of the sample. -/
theorem mem_of_selectUniqueMainProcess {process : ClassicProcessInfo}
    (h : selectUniqueMainProcess processes = .ok (some process)) :
    runtimeIdentity process ∈ processes.map runtimeIdentity := by
  unfold selectUniqueMainProcess at h
  split at h
  · cases h
  · dsimp only at h
    split at h
    · cases h
    · have hhead := List.mem_of_head? (Except.ok.inj h)
      exact List.mem_map_of_mem (List.mem_filter.mp hhead).1

/-- The processes of a sample are captured. -/
theorem Tracked.captured (h : Tracked s) (hsample : s.SampleHolds stage processes) :
    Revocation (s.captured op processes) := by
  unfold SupervisorSystem.captured
  split
  · exact h.goto trivial
  rename_i mainProcess hmain
  have hcleared : Tracked (s.observe none) := h.observe (by simp)
  -- the observation of the main process is overwritten right away
  have hrest : ∀ s' : SupervisorSystem, Tracked (s'.observe none) →
      (∀ i ∈ processes.map runtimeIdentity, (s'.observe none).Known i) →
      Revocation ((s'.observe none).goto op (.leaving (.ok ()) [])) ∧
        Revocation ((s'.observe none).goto op (.stopCommand (processes.map runtimeIdentity))) ∧
        ∀ outcome, Revocation ((s'.observe none).stopCommandEnded op
          (processes.map runtimeIdentity) outcome) := fun s' hobserved hknown =>
    ⟨hobserved.goto fun _ hmem => absurd hmem List.not_mem_nil, hobserved.goto hknown,
      hobserved.stopCommandEnded hknown⟩
  cases mainProcess with
  | none =>
    obtain ⟨hleaving, hcommand, hended⟩ := hrest s hcleared hsample.known
    dsimp only
    split
    · exact hleaving
    · split
      · exact hcommand
      · exact hended _
  | some process =>
    obtain ⟨hleaving, hcommand, hended⟩ :=
      hrest (s.observe (some (runtimeIdentity process))) { hcleared with } hsample.known
    dsimp only
    split
    · exact hleaving
    · split
      · exact hcommand
      · exact hended _

/-- A wait that finds quiet has not seen one of the captured processes. -/
theorem observeExit_quiescent (h : observeExit identities processes = .quiescent) :
    ∀ identity ∈ identities, identity ∉ processes.map runtimeIdentity := by
  unfold observeExit at h
  split at h
  · cases h
  split at h
  · cases h
  rename_i _ habsent
  intro identity hidentity hmem
  obtain ⟨process, hprocess, rfl⟩ := List.mem_map.mp hmem
  exact habsent (List.any_eq_true.mpr ⟨_, hidentity, List.any_eq_true.mpr ⟨process, hprocess, by
    simp [processMatchesIdentity]⟩⟩)

/-- A poll of the exit: what is not in the sample has exited. -/
theorem Tracked.exitAnswered (h : Tracked s) {stopCommandError : Option ThrownError}
    {quiescentObservations : ℕ} (hknown : ∀ identity ∈ identities, s.Known identity)
    (hsample : s.SampleHolds (.exitQuery identities stopCommandError quiescentObservations)
      processes) :
    Revocation
      (s.exitAnswered op identities stopCommandError quiescentObservations processes) := by
  unfold SupervisorSystem.exitAnswered
  split
  · exact (h.observe (by simp)).goto trivial
  · rename_i hquiescent
    have hgone : ∀ identity ∈ identities, identity ∈ s.exited := fun identity hidentity =>
      hsample.gone _ _ _ rfl identity hidentity (observeExit_quiescent hquiescent identity hidentity)
    split
    · refine (h.exitObserved hgone).goto fun identity hidentity => ?_
      rw [revoked_record]
      exact List.mem_append_right _ hidentity
    · exact h.goto hknown
  · exact h.goto hknown

/-- A launch observes what the sample shows. -/
theorem Tracked.launchAnswered (h : Tracked s) (generationBeforeLaunch : ℕ)
    (processes : List ClassicProcessInfo) :
    Revocation (s.launchAnswered op generationBeforeLaunch processes) := by
  unfold SupervisorSystem.launchAnswered
  split
  · exact (h.observe (by simp)).settle _
  · exact h.goto trivial

/-- A new process that was sampled in the operation is not revoked. -/
theorem Tracked.startAnswered (h : Tracked s) (hsample : s.SampleHolds stage processes)
    (generationBeforeLaunch : ℕ) :
    Revocation (s.startAnswered op generationBeforeLaunch processes) := by
  unfold SupervisorSystem.startAnswered
  split
  · exact h.settle _
  · exact h.goto trivial
  · rename_i process hmain
    have hobserved : Tracked (s.observe (some (runtimeIdentity process))) := h.observe (by
      rintro _ ⟨⟩
      exact hsample.unrevoked _ (mem_of_selectUniqueMainProcess hmain))
    dsimp only
    split
    · exact hobserved.settle _
    · exact hobserved.goto trivial

/-- The query of a stage is answered. -/
theorem Tracked.answered (h : Tracked s) (hstage : s.StageHolds stage)
    (hsample : s.SampleHolds stage processes) (hanswered : s.answered op stage processes = some t) :
    Revocation t := by
  cases stage <;> cases hanswered
  · exact h.captured hsample
  · exact h.exitAnswered hstage hsample
  · exact h.launchAnswered _ _
  · exact h.startAnswered hsample _

/-- Or it fails. -/
theorem Tracked.failed (h : Tracked s) (hstage : s.StageHolds stage) {error : ThrownError}
    (hfailed : s.failed op stage error = some t) : Revocation t := by
  cases stage <;> cases hfailed
  · exact h.goto trivial
  · exact h.stopCommandEnded hstage _
  all_goals first
    | exact h.goto trivial
    | exact h.settle _

/-- The other waits of a stage go on. -/
theorem Tracked.resumed (h : Tracked s) (hstage : s.StageHolds stage)
    (hresumed : s.resumed op stage = some t) : Revocation t := by
  cases stage with
  | stopCommand previousIdentities =>
    cases hresumed
    exact h.stopCommandEnded hstage _
  | exitDelay previousIdentities stopCommandError quiescentObservations =>
    cases hresumed
    exact h.goto hstage
  | leaving outcome previousIdentities =>
    have hleft : Tracked { s with stopInProgress := false } := { h with }
    cases outcome with
    | ok _ =>
      cases hresumed
      exact hleft.goto hstage
    | error error =>
      cases hresumed
      exact hleft.settle _
  | stopped previousIdentities =>
    have hresolved : Tracked (s.record (.stopResolved previousIdentities)) := h.stopResolved hstage
    unfold SupervisorSystem.resumed at hresumed
    -- A stop ends here, and a restart goes on to launch.
    cases hkind : op.kind with
    | stop =>
      simp only [hkind] at hresumed
      cases hresumed
      split
      · exact h.settle _
      · exact hresolved.settle _
    | restart =>
      simp only [hkind] at hresumed
      cases hresumed
      exact hresolved.goto trivial
  | resolving generationBeforeLaunch =>
    cases hresumed
    exact h.goto trivial
  | launching generationBeforeLaunch =>
    unfold SupervisorSystem.resumed at hresumed
    dsimp only at hresumed
    split at hresumed <;> cases hresumed
    · exact h.goto trivial
    · exact h.settle _
  | startDelay generationBeforeLaunch =>
    cases hresumed
    exact h.goto trivial
  -- These stages wait for an answer, not for an end of a wait.
  | capturing | exitQuery _ _ _ | launchQuery _ | startQuery _ => cases hresumed

/-- An operation begins with nothing captured. -/
theorem Tracked.begin (h : Tracked s) : Revocation (s.begin op) := by
  unfold SupervisorSystem.begin
  split
  · exact h.settle _
  · have hstopping : Tracked { s with stopInProgress := true } := { h with }
    exact hstopping.goto trivial

/-! ## Queries and processes -/

/-- A stage holds as long as nothing is forgotten and nothing revoked. -/
theorem StageHolds.mono (h : s.StageHolds stage) (hknown : ∀ i, s.Known i → t.Known i)
    (hrevoked : t.revoked = s.revoked) : t.StageHolds stage := by
  cases stage with
  | stopCommand _ | exitQuery _ _ _ | exitDelay _ _ _ => exact fun i hi => hknown i (h i hi)
  | leaving outcome _ =>
    cases outcome with
    | ok _ => exact fun i hi => hrevoked ▸ h i hi
    | error _ => trivial
  | stopped _ => exact fun i hi => hrevoked ▸ h i hi
  | capturing | resolving _ | launchQuery _ | launching _ | startQuery _ | startDelay _ => trivial

/-- So does a sample. -/
theorem SampleHolds.mono (h : s.SampleHolds stage processes)
    (hknown : ∀ i, s.Known i → t.Known i) (hexited : ∀ i ∈ s.exited, i ∈ t.exited)
    (hrevoked : t.revoked = s.revoked) : t.SampleHolds stage processes where
  known i hi := hknown i (h.known i hi)
  unrevoked i hi := hrevoked ▸ h.unrevoked i hi
  gone ids error n hstage i hi habsent := hexited i (h.gone ids error n hstage i hi habsent)

/-- A new process is none that has exited. -/
theorem Revocation.appear (h : Revocation s) (hnew : identity ∉ s.exited) :
    Revocation { s with alive := identity :: s.alive } := by
  have hknown : ∀ i, s.Known i → Known { s with alive := identity :: s.alive } i := fun i hi =>
    hi.imp_left (List.mem_cons_of_mem identity)
  refine ⟨⟨fun i hi hmem => ?_, h.revoked, h.current, h.resolved⟩, fun op hop => ?_,
    fun op hop processes hprocesses => ?_⟩
  · rcases List.mem_cons.mp hmem with rfl | hmem
    · exact hnew hi
    · exact h.gone i hi hmem
  · exact (h.stage op hop).mono hknown rfl
  · exact (h.sampled op hop processes hprocesses).mono hknown (fun _ hi => hi) rfl

/-- An exit is one that every sample may miss. -/
theorem Revocation.exit (h : Revocation s) :
    Revocation { s with
      alive := s.alive.filter fun other => other ≠ identity
      exited := identity :: s.exited } := by
  have hknown : ∀ i, s.Known i → Known { s with
      alive := s.alive.filter fun other => other ≠ identity
      exited := identity :: s.exited } i := fun i hi => by
    by_cases heq : i = identity
    · exact .inr (heq ▸ List.mem_cons_self)
    · exact hi.imp (fun hmem => List.mem_filter.mpr ⟨hmem, by simpa using heq⟩)
        (List.mem_cons_of_mem identity)
  have hexited : ∀ i ∈ s.exited, i ∈ identity :: s.exited := fun i => List.mem_cons_of_mem identity
  refine ⟨⟨fun i hi hmem => ?_, fun i hi => hexited i (h.revoked i hi), h.current, h.resolved⟩,
    fun op hop => ?_, fun op hop processes hprocesses => ?_⟩
  · obtain ⟨halive, hne⟩ := List.mem_filter.mp hmem
    rcases List.mem_cons.mp hi with rfl | hi
    · simp at hne
    · exact h.gone i hi halive
  · exact (h.stage op hop).mono hknown rfl
  · exact (h.sampled op hop processes hprocesses).mono hknown hexited rfl

/-- What the operation's query samples is alive, and so not revoked; a captured process that it
does not show has exited. -/
theorem Tracked.sampleHolds (h : Tracked s) (hstage : s.StageHolds stage)
    (hshows : s.Shows processes) : s.SampleHolds stage processes where
  known i hi := .inl (hshows.1 i hi)
  unrevoked i hi hrevoked := h.gone i (h.revoked i hrevoked) (hshows.1 i hi)
  gone ids error n hexit i hi habsent := by
    rw [hexit] at hstage
    exact (hstage i hi).resolve_left fun halive => habsent (hshows.2 i halive)

/-- An observation in the background keeps the invariant where it records no revoked identity. -/
theorem Revocation.observe (h : Revocation s) {identity : Option RuntimeIdentity}
    (hunrevoked : ∀ i ∈ identity, i ∉ s.revoked) : Revocation (s.observe identity) where
  toTracked := h.toTracked.observe hunrevoked
  stage := h.stage
  sampled op hop processes hprocesses :=
    (h.sampled op hop processes hprocesses).mono (fun _ hi => hi) (fun _ hi => hi) rfl

/-- What `inspect` came to is in the log. -/
theorem Revocation.inspected (h : Revocation s)
    (outcome : Except ThrownError ClassicRuntimeSnapshot) :
    Revocation (s.record (.inspected outcome)) := by
  have hrevoked : (s.record (.inspected outcome)).revoked = s.revoked := by
    rw [revoked_record]
    exact List.append_nil _
  refine ⟨h.toTracked.record rfl (by simp), fun op hop => ?_, fun op hop processes hprocesses => ?_⟩
  · exact (h.stage op hop).mono (fun _ hi => hi) hrevoked
  · exact (h.sampled op hop processes hprocesses).mono (fun _ hi => hi) (fun _ hi => hi) hrevoked

/-- An answer in the background, where it records nothing revoked. -/
theorem Revocation.queryAnswered (h : Revocation s) (query : ProcessQuery)
    {answer : Except ThrownError (List ClassicProcessInfo)}
    (hanswer : ∀ processes, answer = .ok processes → query.sampled = some processes)
    (hrecorded : ∀ processes, answer = .ok processes →
      ∀ identity ∈ s.recorded query, identity ∉ s.revoked) :
    Revocation (s.queryAnswered query.asker answer) := by
  have hnone : Revocation (s.observe none) := h.observe (by simp)
  obtain ⟨asker, sampled⟩ := query
  -- An answer that is an error records nothing.
  cases answer with
  | error error =>
    cases asker with
    | inspect => exact h.inspected _
    | abandonedStop _ _ => exact h
    | abandonedStart => exact h
  | ok processes =>
    -- What the answer records was sampled for its own asker.
    cases hanswer processes rfl
    have hrecorded := hrecorded processes rfl
    cases asker with
    | inspect =>
      unfold SupervisorSystem.queryAnswered SupervisorSystem.inspected
      dsimp only
      split
      · exact h.inspected _
      · rename_i mainProcess hmain
        split
        · exact h.inspected _
        · rename_i hunstopped
          -- The identity of the main process is what the answer records.
          refine Revocation.inspected (h.observe fun i hi => hrecorded i ?_) _
          obtain ⟨process, rfl, rfl⟩ := Option.map_eq_some_iff.mp hi
          simp [recorded, hmain, hunstopped]
    | abandonedStop previousIdentities quiescentObservations =>
      unfold SupervisorSystem.queryAnswered
      dsimp only
      split
      · exact hnone
      · split
        · exact hnone
        · exact h
      · exact h
    | abandonedStart =>
      unfold SupervisorSystem.queryAnswered
      dsimp only
      split
      · rename_i process hmain
        exact h.observe (by
          rintro _ ⟨⟩
          exact hrecorded _ (by simp [recorded, hmain]))
      · exact h
      · exact h

/-- A change of what the invariant does not read. -/
theorem Revocation.congr (h : Revocation s) (htracker : t.tracker = s.tracker)
    (hactive : t.active = s.active) (halive : t.alive = s.alive) (hexited : t.exited = s.exited)
    (hlog : t.log = s.log) : Revocation t := by
  have hrevoked : t.revoked = s.revoked := by rw [revoked, revoked, hlog]
  have hknown : ∀ i, s.Known i → t.Known i := fun i hi => by rwa [Known, halive, hexited]
  refine ⟨⟨?_, ?_, ?_, ?_⟩, fun op hop => ?_, fun op hop processes hprocesses => ?_⟩
  · rw [halive, hexited]
    exact h.gone
  · rw [hrevoked, hexited]
    exact h.revoked
  · rw [hrevoked, htracker]
    exact h.current
  · rw [hrevoked, hlog]
    exact h.resolved
  · exact (h.stage op (hactive ▸ hop)).mono hknown hrevoked
  · exact (h.sampled op (hactive ▸ hop) processes hprocesses).mono hknown
      (fun i hi => hexited ▸ hi) hrevoked

/-- To abandon the query of an operation is not to end the operation. -/
theorem abandon_active (s : SupervisorSystem) (op : ActiveOperation) :
    (s.abandon op).active = s.active := by
  unfold abandon
  split <;> rfl

/-- The step lemma. -/
theorem Revocation.step (h : Revocation s) {input : SupervisorInput}
    (hunrevoked : s.RecordsUnrevoked input) (hstep : s.step input = some t) : Revocation t := by
  -- the machine, the operation, and the queries in the background; only an answer of the last kind
  -- can record what was revoked
  cases input with
  | appear identity =>
    simp only [SupervisorSystem.step] at hstep
    split at hstep <;> cases hstep
    rename_i hnew
    exact h.appear fun hexited => hnew (.inr hexited)
  | exit identity =>
    simp only [SupervisorSystem.step] at hstep
    split at hstep <;> cases hstep
    exact h.exit
  | inspect =>
    cases hstep
    exact h.congr rfl rfl rfl rfl rfl
  | call kind =>
    cases hstep
    exact h.congr rfl rfl rfl rfl rfl
  | abort reason =>
    simp only [SupervisorSystem.step] at hstep
    split at hstep <;> cases hstep
    rename_i op hactive
    refine ⟨{ h.toTracked with }, ?_, ?_⟩
    · rintro _ ⟨⟩
      exact h.stage op hactive
    · rintro _ ⟨⟩ processes hprocesses
      exact (h.sampled op hactive processes hprocesses).mono (fun _ hi => hi) (fun _ hi => hi) rfl
  | abortPending operation reason =>
    simp only [SupervisorSystem.step] at hstep
    split at hstep <;> cases hstep
    exact h.congr rfl rfl rfl rfl rfl
  | run =>
    simp only [SupervisorSystem.step] at hstep
    split at hstep <;> cases hstep
    have hrest := h.toTracked
    exact Tracked.begin { hrest with }
  | sample processes =>
    simp only [SupervisorSystem.step] at hstep
    split at hstep
    · rename_i op hactive
      split at hstep <;> cases hstep
      rename_i hquery
      refine ⟨{ h.toTracked with }, ?_, ?_⟩
      · rintro _ ⟨⟩
        exact h.stage op hactive
      · rintro _ ⟨⟩ _ ⟨⟩
        exact (h.toTracked.sampleHolds (h.stage op hactive) hquery.2.2).mono (fun _ hi => hi)
          (fun _ hi => hi) rfl
    · cases hstep
  | answer outcome =>
    simp only [SupervisorSystem.step] at hstep
    split at hstep
    · rename_i op _ hactive
      split at hstep
      · rename_i processes hsampled
        exact h.toTracked.answered (h.stage op hactive) (h.sampled op hactive processes hsampled)
          hstep
      · cases hstep
    · rename_i op error hactive
      split at hstep
      · exact h.toTracked.failed (h.stage op hactive) hstep
      · cases hstep
    · cases hstep
  | resume outcome =>
    simp only [SupervisorSystem.step] at hstep
    split at hstep
    · rename_i op _ hactive
      exact h.toTracked.resumed (h.stage op hactive) hstep
    · rename_i op error hactive
      split at hstep
      · cases hstep
      · exact h.toTracked.failed (h.stage op hactive) hstep
    · cases hstep
  | interrupt error =>
    simp only [SupervisorSystem.step] at hstep
    split at hstep
    · rename_i op hactive
      split at hstep
      · have habandoned : Revocation (s.abandon op) := by
          unfold abandon
          split
          · exact h.congr rfl rfl rfl rfl rfl
          · exact h.congr rfl rfl rfl rfl rfl
          · exact h
        have habandonedActive : (s.abandon op).active = some op := (abandon_active s op).trans hactive
        exact habandoned.toTracked.failed (habandoned.stage op habandonedActive) hstep
      · cases hstep
    · cases hstep
  | sampleQuery query processes =>
    simp only [SupervisorSystem.step] at hstep
    split at hstep
    · split at hstep <;> cases hstep
      exact h.congr rfl rfl rfl rfl rfl
    · cases hstep
  | answerQuery query outcome =>
    simp only [SupervisorSystem.step] at hstep
    split at hstep
    · rename_i asker processes _ hfound
      cases hstep
      have hrest : Revocation { s with queries := s.queries.eraseIdx query } :=
        h.congr rfl rfl rfl rfl rfl
      refine hrest.queryAnswered ⟨asker, some processes⟩ (by simp) ?_
      rintro _ ⟨⟩
      exact hunrevoked _ hfound
    · rename_i asker sampled error hfound
      cases hstep
      have hrest : Revocation { s with queries := s.queries.eraseIdx query } :=
        h.congr rfl rfl rfl rfl rfl
      exact hrest.queryAnswered ⟨asker, sampled⟩ (by simp) (by simp)
    · cases hstep

/-- At the beginning nothing is revoked. -/
theorem revocation_initial : Revocation {} where
  gone := by simp
  revoked := by simp [SupervisorSystem.revoked]
  current := by simp
  resolved := by simp
  stage := by simp
  sampled := by simp

/-- In a run whose answers in the background record no revoked identity, no lease of a process that
a resolved stop has captured is current. -/
theorem stopped_runtime_stays_revoked {inputs : List SupervisorInput}
    (hrun : Machine.exec step {} inputs = some t)
    (hrecords : Machine.Along step RecordsUnrevoked {} inputs) (captured : List RuntimeIdentity)
    (hresolved : .stopResolved captured ∈ t.log) (lease : RuntimeLease)
    (hlease : lease.identity ∈ captured) :
    t.tracker.assertRuntimeLeaseCurrent lease ≠ .ok () := by
  have h : Revocation t :=
    Machine.exec_invariant_along (fun _ _ _ h hrecords hstep => Revocation.step h hrecords hstep)
      revocation_initial hrecords hrun
  have hrevoked := h.resolved captured hresolved lease.identity hlease
  intro hcurrent
  refine h.current lease.identity ?_ hrevoked
  exact t.tracker.currentIdentity_of_assertRuntimeLeaseCurrent hcurrent

/-- The processes of a Classic runtime. -/
def classicProcess : ClassicProcessInfo :=
  { pid := 4242, parentPid := 1, creationTime := "t", role := .MAIN }

/-- A runtime is inspected and stopped. The answer of a second inspection, which began before the
stop, comes while the stop waits for the exit. -/
def stopAfterInspection : List SupervisorInput :=
  [.appear ⟨4242, "t"⟩, .inspect, .sampleQuery 0 [classicProcess], .answerQuery 0 (.ok ()),
    .inspect, .sampleQuery 0 [classicProcess],
    .call .stop, .run, .sample [classicProcess], .answer (.ok ()),
    .exit ⟨4242, "t"⟩, .resume (.ok ()), .answerQuery 0 (.ok ()),
    .sample [], .answer (.ok ()), .resume (.ok ()), .sample [], .answer (.ok ()),
    .resume (.ok ()), .resume (.ok ())]

/-- The answer of an inspection that came in time is nothing to the stop. -/
theorem stopped_runtime_stays_revoked_inspected :
    ∃ t, Machine.exec step {} stopAfterInspection = some t ∧
      .stopResolved [⟨4242, "t"⟩] ∈ t.log ∧
      t.tracker.assertRuntimeLeaseCurrent ⟨1, ⟨4242, "t"⟩⟩ ≠ .ok () := by
  have hrun : Machine.exec step {} stopAfterInspection = some _ := rfl
  refine ⟨_, hrun, by decide, ?_⟩
  refine stopped_runtime_stays_revoked hrun ?_ [⟨4242, "t"⟩] (by decide) _ (by decide)
  refine ⟨trivial, trivial, trivial, ?_, trivial, trivial, trivial, trivial, trivial, trivial,
    trivial, trivial, ?_, trivial, trivial, trivial, trivial, trivial, trivial, trivial, trivial⟩
  · rintro _ ⟨⟩ _ ⟨⟩
    decide
  · rintro _ ⟨⟩ _ ⟨⟩

/-- The inspection is answered after the stop has resolved. -/
def lateInspection : List SupervisorInput :=
  [.appear ⟨4242, "t"⟩, .inspect, .sampleQuery 0 [classicProcess],
    .call .stop, .run, .sample [classicProcess], .answer (.ok ()),
    .exit ⟨4242, "t"⟩, .resume (.ok ()),
    .sample [], .answer (.ok ()), .resume (.ok ()), .sample [], .answer (.ok ()),
    .resume (.ok ()), .resume (.ok ()), .answerQuery 0 (.ok ())]

/-- It makes the lease of the exited process current again. -/
theorem lateInspection_revives_lease :
    ∃ t, Machine.exec step {} lateInspection = some t ∧ .stopResolved [⟨4242, "t"⟩] ∈ t.log ∧
      t.tracker.assertRuntimeLeaseCurrent ⟨1, ⟨4242, "t"⟩⟩ = .ok () :=
  ⟨_, rfl, by decide, rfl⟩

end SupervisorSystem

end Threadwire
