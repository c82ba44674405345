import Threadwire.Effect.Frame
import Threadwire.Machine.Trace
import Threadwire.Readiness.RouteSoundness

/-!
# What a fresh readiness proof authorizes

`waitForTurnComposer` lets a new conversation's route pass on the word of an earlier fresh wait. The
proof of that wait is a field of the controller; this module shows what it stands for in any
sequence of calls: the wait returned for the same lease and route, its document and composer are
those of the turn's own last snapshot, and nothing since then has revoked it. In particular no other
turn has used it.
-/

namespace Threadwire

namespace ReadinessController

open Effect

/-- The events of a wait, its end apart. -/
def isInner : ReadinessEvent → Bool
  | .observed _ | .dismissed _ | .focused _ _ | .readClock _ => true
  | .called _ _ | .returned _ _ | .passed _ _ _ => false

/-- Whether the method is one of a turn's composer. -/
def isTurnComposer : ReadinessMethod → Bool
  | .waitForTurnComposer _ => true
  | .waitForExistingRoute _ | .waitForFreshRoute | .isProjectRouteCurrent _
  | .waitForProjectRoute _ => false

/-- What revokes a proof: another route wait or a check of the project's route, a blocking notice, a
changed candidate, and a wait for a turn's composer that returned. -/
def revokes : ReadinessEvent → Bool
  | .called method _ => !isTurnComposer method
  | .returned method _ => isTurnComposer method
  | .observed snapshot => snapshot.isBlocked
  | .focused _ .candidateChanged => true
  | .focused _ .succeeded | .focused _ (.failed _) | .dismissed _ | .readClock _
  | .passed _ _ _ => false

/-- The wait that leaves a proof for the route. -/
def freshWait? : RouteExpectation → Option ReadinessMethod
  | .thread _ => none
  | .freshRoot => some .waitForFreshRoute
  | .projectRoot locator => some (.waitForProjectRoute locator)

/-- Two snapshots show one composer in one document. -/
structure SameComposer (snapshot other : ExistingReadinessSnapshot) : Prop where
  frameId : snapshot.mainFrame.frameId = other.mainFrame.frameId
  loaderId : snapshot.mainFrame.loaderId = other.mainFrame.loaderId
  composer : ∃ composer ∈ snapshot.eligibleEditables.head?, ∃ composer' ∈ other.eligibleEditables.head?,
    composer.backendDOMNodeId = composer'.backendDOMNodeId

/-- After these events a fresh wait for the route returned with this snapshot, and nothing has
revoked its proof. -/
structure AuthorizedBy (before : List ReadinessEvent) (expectedRoute : RouteExpectation)
    (lease : RuntimeLease) (snapshot : ExistingReadinessSnapshot) (past : List ReadinessEvent) :
    Prop where
  wait : ∃ method ∈ freshWait? expectedRoute, ∃ shown after,
    past = before ++ .passed expectedRoute shown true :: .returned method lease :: after ∧
      SameComposer shown snapshot ∧ ∀ event ∈ after, revokes event = false

/-- The law of the turn's composer: a wait for that of a new conversation returns after a gate of
the fresh policy has passed in the same call, or on the word of an earlier fresh wait. -/
def ReturnsGuarded (past : List ReadinessEvent) (event : ReadinessEvent) : Prop :=
  ∀ expectedRoute lease, event = .returned (.waitForTurnComposer expectedRoute) lease →
    (∀ locator, expectedRoute ≠ .thread locator) →
    ∃ start during, past = start ++ .called (.waitForTurnComposer expectedRoute) lease :: during ∧
      (∀ method lease', .called method lease' ∉ during) ∧
      ((∃ snapshot, .passed expectedRoute snapshot true ∈ during) ∨
        ∃ init snapshot before, during = init ++ [.passed expectedRoute snapshot false] ∧
          AuthorizedBy before expectedRoute lease snapshot past)

/-! ## Waits -/

/-- From the first run to the second a wait went on: the proof is gone, or nothing revoked it. -/
structure Waited (run run' : ReadinessRun) : Prop where
  log : ∃ seen, run'.log = run.log ++ seen ∧ (∀ event ∈ seen, isInner event = true) ∧
    (run'.freshReadinessProof = none ∨ run'.freshReadinessProof = run.freshReadinessProof ∧
      ∀ event ∈ seen, revokes event = false)

instance : Std.Refl Waited where
  refl run := ⟨⟨[], (List.append_nil _).symm, by simp, .inr ⟨rfl, by simp⟩⟩⟩

instance : IsTrans ReadinessRun Waited where
  trans run₁ run₂ run₃ h h' := by
    obtain ⟨seen, hlog, hinner, hproof⟩ := h.log
    obtain ⟨seen', hlog', hinner', hproof'⟩ := h'.log
    refine ⟨⟨seen ++ seen', by rw [hlog', hlog, List.append_assoc], fun event hevent => ?_, ?_⟩⟩
    · exact (List.mem_append.mp hevent).elim (hinner event) (hinner' event)
    · rcases hproof' with hnone' | ⟨hsame', hkept'⟩
      · exact .inl hnone'
      · rcases hproof with hnone | ⟨hsame, hkept⟩
        · exact .inl (hsame'.trans hnone)
        · exact .inr ⟨hsame'.trans hsame, fun event hevent =>
            (List.mem_append.mp hevent).elim (hkept event) (hkept' event)⟩

variable {r : ReadinessController} {run run' : ReadinessRun} {expectedRoute : RouteExpectation}
  {signal : AbortTime}

/-- A question revokes nothing. -/
theorem waited_ask {α : Type} (answers : ℕ → α) : Within Waited (ask answers) := fun _ =>
  ⟨⟨[], (List.append_nil _).symm, by simp, .inr ⟨rfl, by simp⟩⟩⟩

/-- Nor does an event inside of the wait. -/
theorem waited_record {event : ReadinessEvent} (hinner : isInner event = true)
    (hkept : revokes event = false) : Within Waited (record event) := fun _ =>
  ⟨⟨[event], rfl, by simpa using hinner, .inr ⟨rfl, by simpa using hkept⟩⟩⟩

/-- Nor an answer. -/
theorem waited_ofAnswer {α : Type} (answer : Except ThrownError α) :
    Within Waited (ofAnswer answer) := by
  cases answer with
  | ok a => exact within_pure a
  | error error => exact within_fail error

/-- Nor a test of the signal. -/
theorem waited_throwIfAborted : Within Waited (throwIfAborted signal) := fun run =>
  wp_throwIfAborted signal (refl run) fun _ => refl run

/-- Nor what the gate makes of a snapshot. -/
theorem waited_observeGate (gate : ReadinessGate) (snapshot : ExistingReadinessSnapshot) :
    Within Waited (observeGate r gate snapshot) := by
  unfold observeGate
  cases gate with
  | existing gate => exact within_pure _
  | fresh gate =>
    dsimp only
    generalize gate.existingGate.observe r.freshPolicy.existingPolicy snapshot = answer
    obtain ⟨action, existingGate⟩ := answer
    cases action with
    | WAIT => exact within_pure _
    | FOCUS _ => exact within_pure _
    | READY =>
      exact (waited_ask _).bind fun _ => (waited_record rfl rfl).bind fun _ => within_pure _

/-- A gate that is observed stays one of its policy. -/
theorem wp_observeGate_isFresh (gate : ReadinessGate) (snapshot : ExistingReadinessSnapshot) :
    wp (observeGate r gate snapshot) (fun answer _ => answer.2.isFresh = gate.isFresh)
      (fun _ _ => True) run := by
  unfold observeGate
  cases gate with
  | existing gate => exact rfl
  | fresh gate =>
    dsimp only
    generalize gate.existingGate.observe r.freshPolicy.existingPolicy snapshot = answer
    obtain ⟨action, existingGate⟩ := answer
    cases action with
    | WAIT => exact rfl
    | FOCUS _ => exact rfl
    | READY => exact rfl

/-- The wait is one of the fresh policy, and stays one. -/
def WaitState.IsFresh (state : WaitState) : Prop :=
  state.activeGateFactory = .fresh ∧ state.gate.isFresh = true

/-- From the first run to the second a wait went on, and a gate let this snapshot pass. -/
def Passed (run : ReadinessRun) (expectedRoute : RouteExpectation)
    (snapshot : ExistingReadinessSnapshot) (fresh : Bool) (run' : ReadinessRun) : Prop :=
  ∃ waited, Waited run waited ∧ run'.log = waited.log ++ [.passed expectedRoute snapshot fresh] ∧
    run'.freshReadinessProof = waited.freshReadinessProof

/-- The wait that passed went on before. -/
theorem Passed.of_waited {run₂ : ReadinessRun} {snapshot : ExistingReadinessSnapshot} {fresh : Bool}
    (hwaited : Waited run run₂) (h : Passed run₂ expectedRoute snapshot fresh run') :
    Passed run expectedRoute snapshot fresh run' := by
  obtain ⟨waited, hwaited', hlog, hproof⟩ := h
  exact ⟨waited, IsTrans.trans _ _ _ hwaited hwaited', hlog, hproof⟩

/-- What a round has done to the run, by its outcome. -/
def RoundWaited (run : ReadinessRun) (expectedRoute : RouteExpectation) (state : WaitState) :
    WaitOutcome → ReadinessRun → Prop
  | .sleep state', run' | .again state', run' => Waited run run' ∧ (state.IsFresh → state'.IsFresh)
  | .done snapshot, run' =>
    ∃ fresh, Passed run expectedRoute snapshot fresh run' ∧ (state.IsFresh → fresh = true)

/-- A new gate is of the same policy. -/
theorem WaitState.IsFresh.reset {state : WaitState} (h : state.IsFresh) : state.reset.IsFresh := by
  refine ⟨h.1, ?_⟩
  rw [WaitState.reset, h.1]
  rfl

/-- A blocking notice revokes the proof, and the proof is gone. -/
theorem wp_handleNotice_waited (r : ReadinessController) (expectedRoute : RouteExpectation)
    (snapshot : ExistingReadinessSnapshot) (state : WaitState) {run₂ : ReadinessRun}
    (hwaited : Waited run run₂) :
    wp (handleNotice r expectedRoute snapshot state) (RoundWaited run expectedRoute state)
      (fun _ => Waited run) { run₂ with log := run₂.log ++ [.observed snapshot] } := by
  have hclear : Waited run
      { run₂ with log := run₂.log ++ [.observed snapshot], freshReadinessProof := none } :=
    IsTrans.trans _ _ _ hwaited ⟨⟨[.observed snapshot], rfl, by simp [isInner], .inl rfl⟩⟩
  rw [handleNotice, wp_bind, wp_setFreshReadinessProof, wp_ite]
  split
  · refine (waited_ask _).wp_bind hclear fun outcome run₃ h₃ => ?_
    refine (waited_record rfl rfl).wp_bind h₃ fun _ run₄ h₄ => ?_
    exact (waited_ofAnswer outcome).wp_bind h₄ fun _ run₅ h₅ => ⟨h₅, fun _ => ⟨rfl, rfl⟩⟩
  · exact ⟨hclear, WaitState.IsFresh.reset⟩

/-- A focus: where the candidate has changed, the proof is gone. -/
theorem wp_focus_waited (r : ReadinessController) (expectedRoute : RouteExpectation) (node : Rat)
    (state : WaitState) {run₂ : ReadinessRun} (hwaited : Waited run run₂) :
    wp (focus r node state) (RoundWaited run expectedRoute state) (fun _ => Waited run) run₂ := by
  refine (waited_ask _).wp_bind hwaited fun outcome run₃ h₃ => ?_
  rw [wp_bind, wp_record]
  cases outcome with
  | candidateChanged =>
    refine ⟨IsTrans.trans _ _ _ h₃ ?_, WaitState.IsFresh.reset⟩
    exact ⟨⟨[.focused node .candidateChanged], rfl, by simp [isInner], .inl rfl⟩⟩
  | succeeded =>
    refine ⟨IsTrans.trans _ _ _ h₃ ?_, id⟩
    exact ⟨⟨[.focused node .succeeded], rfl, by simp [isInner], .inr ⟨rfl, by simp [revokes]⟩⟩⟩
  | failed error =>
    refine IsTrans.trans _ _ _ h₃ ?_
    exact ⟨⟨[.focused node (.failed error)], rfl, by simp [isInner], .inr ⟨rfl, by simp [revokes]⟩⟩⟩

/-- What a round has done, read for the state it began with. -/
theorem RoundWaited.of_isFresh {state state' : WaitState} {outcome : WaitOutcome}
    (h : RoundWaited run expectedRoute state' outcome run')
    (hfresh : state.IsFresh → state'.IsFresh) :
    RoundWaited run expectedRoute state outcome run' := by
  cases outcome with
  | sleep _ => exact ⟨h.1, h.2 ∘ hfresh⟩
  | again _ => exact ⟨h.1, h.2 ∘ hfresh⟩
  | done snapshot =>
    obtain ⟨fresh, hpassed, hisFresh⟩ := h
    exact ⟨fresh, hpassed, hisFresh ∘ hfresh⟩

/-- A round of the wait. -/
theorem wp_waitRound_waited (r : ReadinessController) (expectedRoute : RouteExpectation)
    (signal : AbortTime) (state : WaitState) (run : ReadinessRun) :
    wp (waitRound r expectedRoute signal state) (RoundWaited run expectedRoute state)
      (fun _ => Waited run) run := by
  refine waited_throwIfAborted.wp_bind (refl run) fun _ run₁ h₁ => ?_
  refine (waited_ask _).wp_bind h₁ fun answer run₂ h₂ => ?_
  refine (waited_ofAnswer answer).wp_bind h₂ fun snapshot run₃ h₃ => ?_
  rw [wp_bind, wp_record, wp_ite]
  split
  · exact wp_handleNotice_waited r expectedRoute snapshot state h₃
  rename_i hblocked
  have hobserved : Waited run { run₃ with log := run₃.log ++ [.observed snapshot] } :=
    IsTrans.trans _ _ _ h₃
      ⟨⟨[.observed snapshot], rfl, by simp [isInner], .inr ⟨rfl, by simpa [revokes] using hblocked⟩⟩⟩
  rw [wp_bind]
  refine wp_mono (wp_and (waited_observeGate state.gate snapshot _)
    (wp_observeGate_isFresh state.gate snapshot)) (fun answer run₄ ⟨h₄, hisFresh⟩ => ?_)
    fun _ _ h => IsTrans.trans _ _ _ hobserved h.1
  obtain ⟨action, gate⟩ := answer
  have hwaited := IsTrans.trans _ _ _ hobserved h₄
  have hfresh : state.IsFresh → WaitState.IsFresh { state with gate } :=
    fun h => ⟨h.1, hisFresh.trans h.2⟩
  cases action with
  | WAIT => exact ⟨hwaited, hfresh⟩
  | READY => exact ⟨gate.isFresh, ⟨run₄, hwaited, rfl, rfl⟩, fun h => (hfresh h).2⟩
  | FOCUS node =>
    exact wp_mono (wp_focus_waited r expectedRoute node { state with gate } hwaited)
      (fun _ _ h => h.of_isFresh hfresh) fun _ _ h => h

/-- The rounds, until a gate passes. -/
theorem wp_waitLoop_waited (r : ReadinessController) (expectedRoute : RouteExpectation)
    (signal : AbortTime) (fuel : ℕ) (state : WaitState) {run₂ : ReadinessRun}
    (hwaited : Waited run run₂) :
    wp (waitLoop r expectedRoute signal fuel state)
      (fun snapshot run' =>
        ∃ fresh, Passed run expectedRoute snapshot fresh run' ∧ (state.IsFresh → fresh = true))
      (fun _ => Waited run) run₂ := by
  induction fuel generalizing state run₂ with
  | zero => exact hwaited
  | succ fuel ih =>
    rw [waitLoop, wp_bind]
    refine wp_mono (wp_waitRound_waited r expectedRoute signal state run₂)
      (fun outcome run₃ hround => ?_) fun _ _ h => IsTrans.trans _ _ _ hwaited h
    have hnext : ∀ state' run₄, Waited run run₄ → (state.IsFresh → state'.IsFresh) →
        wp (waitLoop r expectedRoute signal fuel state')
          (fun snapshot run' =>
            ∃ fresh, Passed run expectedRoute snapshot fresh run' ∧ (state.IsFresh → fresh = true))
          (fun _ => Waited run) run₄ := fun state' run₄ h₄ hfresh => by
      refine wp_mono (ih state' h₄) (fun snapshot run' h => ?_) fun _ _ h => h
      obtain ⟨fresh, hpassed, hisFresh⟩ := h
      exact ⟨fresh, hpassed, hisFresh ∘ hfresh⟩
    cases outcome with
    | done snapshot =>
      obtain ⟨fresh, hpassed, hisFresh⟩ := hround
      exact ⟨fresh, hpassed.of_waited hwaited, hisFresh⟩
    | again state' => exact hnext state' run₃ (IsTrans.trans _ _ _ hwaited hround.1) hround.2
    | sleep state' =>
      have h₃ := IsTrans.trans _ _ _ hwaited hround.1
      refine (waited_ask _).wp_bind h₃ fun answer run₄ h₄ => ?_
      refine (waited_ofAnswer answer).wp_bind h₄ fun _ run₅ h₅ => ?_
      exact hnext state' run₅ h₅ hround.2

/-- A wait that throws has waited; one that returns has seen a gate pass, of the fresh policy where
the wait is one. -/
theorem wp_waitForRoute_waited (r : ReadinessController) (fuel : ℕ) (createGate : GateFactory)
    (expectedRoute : RouteExpectation) (signal : AbortTime) (run : ReadinessRun) :
    wp (waitForRoute r fuel createGate expectedRoute signal)
      (fun snapshot run' => ∃ fresh, Passed run expectedRoute snapshot fresh run' ∧
        (createGate = .fresh → fresh = true))
      (fun _ => Waited run) run := by
  refine waited_throwIfAborted.wp_bind (refl run) fun _ run₁ h₁ => ?_
  refine (waited_ask _).wp_bind h₁ fun fires run₂ h₂ => ?_
  rw [wp_rescue]
  refine wp_mono (wp_waitLoop_waited r expectedRoute _ fuel _ h₂) (fun snapshot run' h => ?_)
    fun i run' h => ?_
  · obtain ⟨fresh, hpassed, hisFresh⟩ := h
    refine ⟨fresh, hpassed, fun hfactory => hisFresh ?_⟩
    rw [hfactory]
    exact ⟨rfl, rfl⟩
  · cases i <;> exact h

/-! ## Calls -/

/-- What the proof stands for: the wait that left it, with nothing after it that revokes it. -/
structure LeftBy (proof : FreshReadinessProof) (log before after : List ReadinessEvent)
    (shown : ExistingReadinessSnapshot) : Prop where
  wait : ∃ method ∈ freshWait? proof.expectedRoute,
    log = before ++ .passed proof.expectedRoute shown true :: .returned method proof.lease :: after
  frameId : proof.frameId = shown.mainFrame.frameId
  loaderId : proof.loaderId = shown.mainFrame.loaderId
  composer : ∃ composer ∈ shown.eligibleEditables.head?,
    proof.backendDOMNodeId = composer.backendDOMNodeId
  kept : ∀ event ∈ after, revokes event = false

/-- The invariant of the calls: the log is lawful, and a wait has left the proof. -/
structure Standing (run : ReadinessRun) : Prop where
  lawful : Trace.Lawful ReturnsGuarded run.log
  proof : ∀ proof, run.freshReadinessProof = some proof →
    ∃ before after shown, LeftBy proof run.log before after shown

/-- The proof stands as long as nothing revokes it. -/
theorem LeftBy.append {proof : FreshReadinessProof} {log before after seen : List ReadinessEvent}
    {shown : ExistingReadinessSnapshot} (h : LeftBy proof log before after shown)
    (hkept : ∀ event ∈ seen, revokes event = false) :
    LeftBy proof (log ++ seen) before (after ++ seen) shown where
  wait := by
    obtain ⟨method, hmethod, hlog⟩ := h.wait
    exact ⟨method, hmethod, by rw [hlog, List.append_assoc, List.cons_append, List.cons_append]⟩
  frameId := h.frameId
  loaderId := h.loaderId
  composer := h.composer
  kept event hevent := (List.mem_append.mp hevent).elim (h.kept event) (hkept event)

/-- Whether the event is the return of a call. -/
def isReturn : ReadinessEvent → Bool
  | .returned _ _ => true
  | .called _ _ | .observed _ | .dismissed _ | .focused _ _ | .readClock _ | .passed _ _ _ => false

/-- Nothing returns, and the proof is gone or nothing revokes it. -/
theorem Standing.append (h : Standing run) {seen : List ReadinessEvent}
    (hlog : run'.log = run.log ++ seen) (hunreturned : ∀ event ∈ seen, isReturn event = false)
    (hproof : run'.freshReadinessProof = none ∨
      run'.freshReadinessProof = run.freshReadinessProof ∧ ∀ event ∈ seen, revokes event = false) :
    Standing run' where
  lawful := by
    rw [hlog]
    refine h.lawful.append_of_free fun event hevent _ expectedRoute lease heq => ?_
    rw [heq] at hevent
    exact absurd (hunreturned _ hevent) (by simp [isReturn])
  proof proof hsome := by
    rcases hproof with hnone | ⟨hsame, hkept⟩
    · rw [hnone] at hsome
      cases hsome
    · obtain ⟨before, after, shown, hleft⟩ := h.proof proof (hsame.symm.trans hsome)
      exact ⟨before, after ++ seen, shown, hlog ▸ hleft.append hkept⟩

/-- What happens inside a wait is no return of a call. -/
theorem isReturn_of_isInner {event : ReadinessEvent} (h : isInner event = true) :
    isReturn event = false := by
  cases event with
  | returned _ _ => cases h
  | _ => rfl

/-- Waiting for a route leaves the standing proof as it is. -/
theorem Standing.waited (h : Standing run) (hwaited : Waited run run') : Standing run' := by
  obtain ⟨seen, hlog, hinner, hproof⟩ := hwaited.log
  exact h.append hlog (fun event hevent => isReturn_of_isInner (hinner event hevent)) hproof

/-- Passing a route on the way leaves the standing proof as it is. -/
theorem Passed.standing {snapshot : ExistingReadinessSnapshot} {fresh : Bool}
    (hpassed : Passed run expectedRoute snapshot fresh run') (h : Standing run) : Standing run' := by
  obtain ⟨waited, hwaited, hlog, hproof⟩ := hpassed
  exact (h.waited hwaited).append hlog (by simp [isReturn]) (.inr ⟨hproof, by simp [revokes]⟩)

/-- A call returns that is not one for a turn's composer. -/
theorem Standing.returned (h : Standing run) {method : ReadinessMethod} (lease : RuntimeLease)
    (hmethod : isTurnComposer method = false) :
    Standing { run with log := run.log ++ [.returned method lease] } where
  lawful := by
    refine Trace.lawful_snoc.mpr ⟨h.lawful, fun expectedRoute lease' heq => ?_⟩
    cases heq
    cases hmethod
  proof proof hproof := by
    obtain ⟨before, after, shown, hleft⟩ := h.proof proof hproof
    exact ⟨before, after ++ [.returned method lease], shown,
      hleft.append (by simpa [revokes] using hmethod)⟩

/-- A method that is not one for a turn's composer clears the proof when it is called. -/
theorem Standing.called (h : Standing run) (method : ReadinessMethod) (lease : RuntimeLease) :
    Standing { run with
      log := run.log ++ [.called method lease]
      freshReadinessProof := none } :=
  h.append rfl (by simp [isReturn]) (.inl rfl)

/-- A wait for an existing route begins with no proof, and leaves only a standing one. -/
theorem wp_waitForExistingRoute_standing (r : ReadinessController) (fuel : ℕ)
    (expectedLocator : ConversationLocator) (signal : AbortTime) (lease : RuntimeLease)
    (h : Standing { run with freshReadinessProof := none }) :
    wp (waitForExistingRoute r fuel expectedLocator signal)
      (fun _ run' => Standing { run' with
        log := run'.log ++ [.returned (.waitForExistingRoute expectedLocator) lease] })
      (fun _ => Standing) run := by
  rw [waitForExistingRoute, wp_bind, wp_setFreshReadinessProof, wp_rescue, wp_bind]
  refine wp_mono (wp_waitForRoute_waited r fuel .existing (.thread expectedLocator) signal _)
    (fun snapshot run' hpassed => ?_) fun i run' hwaited => ?_
  · obtain ⟨fresh, hpassed, -⟩ := hpassed
    exact (hpassed.standing h).returned lease rfl
  · cases i <;> exact h.waited hwaited

/-- Where there is no proof a wait leaves none. -/
theorem Waited.proof_none (h : Waited run run') (hnone : run.freshReadinessProof = none) :
    run'.freshReadinessProof = none := by
  obtain ⟨seen, -, -, hproof⟩ := h.log
  rcases hproof with hnone' | ⟨hsame, -⟩
  · exact hnone'
  · exact hsame.trans hnone

/-- Reading whether the project route is current gives the proof up and makes no other. -/
theorem wp_isProjectRouteCurrent_standing (r : ReadinessController) (signal : AbortTime)
    (h : Standing { run with freshReadinessProof := none }) :
    wp (isProjectRouteCurrent r signal) (fun _ => Standing) (fun _ => Standing) run := by
  rw [isProjectRouteCurrent, wp_bind, wp_setFreshReadinessProof]
  generalize hcleared : { run with freshReadinessProof := none } = cleared at h ⊢
  have hnone : cleared.freshReadinessProof = none := hcleared ▸ rfl
  have hwaited : wp (do
      throwIfAborted signal
      rescue (do
        let answer ← ask r.environment.getReadinessSnapshot
        let snapshot ← ofAnswer answer
        record (.observed snapshot)
        throwIfAborted signal
        pure snapshot.mainFrame.expectedRoute)
        fun error => fail (projectRouteError error))
      (fun _ => Waited cleared) (fun _ => Waited cleared) cleared := by
    refine waited_throwIfAborted.wp_bind (refl cleared) fun _ run₁ h₁ => ?_
    rw [wp_rescue]
    have hbody : wp (do
        let answer ← ask r.environment.getReadinessSnapshot
        let snapshot ← ofAnswer answer
        record (.observed snapshot)
        throwIfAborted signal
        pure snapshot.mainFrame.expectedRoute)
        (fun _ => Waited cleared) (fun _ => Waited cleared) run₁ := by
      refine (waited_ask _).wp_bind h₁ fun answer run₂ h₂ => ?_
      refine (waited_ofAnswer answer).wp_bind h₂ fun snapshot run₃ h₃ => ?_
      rw [wp_bind, wp_record]
      -- the notice of the snapshot does not matter: the proof is gone
      have hobserved : Waited cleared { run₃ with log := run₃.log ++ [.observed snapshot] } :=
        IsTrans.trans _ _ _ h₃
          ⟨⟨[.observed snapshot], rfl, by simp [isInner], .inl (h₃.proof_none hnone)⟩⟩
      exact waited_throwIfAborted.wp_bind hobserved fun _ _ h => h
    refine wp_mono hbody (fun _ _ h => h) fun i _ h => ?_
    cases i <;> exact h
  exact wp_mono hwaited (fun _ _ => h.waited) fun _ _ => h.waited

/-- A fresh wait leaves the proof that it returned. -/
theorem wp_waitForNewRoute_standing (r : ReadinessController) (fuel : ℕ) (lease : RuntimeLease)
    (signal : AbortTime) {method : ReadinessMethod} (hmethod : method ∈ freshWait? expectedRoute)
    (h : Standing { run with freshReadinessProof := none }) :
    wp (waitForNewRoute r fuel expectedRoute lease signal)
      (fun _ run' => Standing { run' with log := run'.log ++ [.returned method lease] })
      (fun _ => Standing) run := by
  rw [waitForNewRoute, wp_bind, wp_setFreshReadinessProof, wp_rescue, wp_bind]
  refine wp_mono (wp_waitForRoute_waited r fuel .fresh expectedRoute signal _)
    (fun snapshot run' hpassed => ?_) fun i run' hwaited => ?_
  · obtain ⟨fresh, hpassed, hfresh⟩ := hpassed
    cases hfresh rfl
    have hstanding := hpassed.standing h
    obtain ⟨waited, -, hlog, -⟩ := hpassed
    cases hcomposer : snapshot.eligibleEditables.head? with
    | none => exact hstanding
    | some composer =>
      have hnew : isTurnComposer method = false := by
        cases expectedRoute <;> cases hmethod <;> rfl
      refine ⟨(hstanding.returned lease hnew).lawful, ?_⟩
      rintro _ ⟨⟩
      refine ⟨waited.log, [], snapshot, ⟨method, hmethod, ?_⟩, rfl, rfl, ⟨composer, hcomposer, rfl⟩,
        by simp⟩
      show run'.log ++ [_] = _
      rw [hlog, List.append_assoc]
      rfl
  · cases i <;> exact h.waited hwaited

/-- What the field means for a turn that it matches. -/
theorem authorizedBy_of_matches {proof : FreshReadinessProof} {lease : RuntimeLease}
    {snapshot : ExistingReadinessSnapshot} {log before after : List ReadinessEvent}
    {shown : ExistingReadinessSnapshot} (hleft : LeftBy proof log before after shown)
    (hmatches : FreshReadinessProof.matches proof lease expectedRoute snapshot = true) :
    AuthorizedBy before expectedRoute lease snapshot log := by
  rw [FreshReadinessProof.matches] at hmatches
  cases hcomposer : snapshot.eligibleEditables.head? with
  | none =>
    rw [hcomposer] at hmatches
    cases hmatches
  | some composer =>
    rw [hcomposer] at hmatches
    simp only [Bool.and_eq_true, sameRuntimeLease_iff, beq_iff_eq] at hmatches
    obtain ⟨⟨⟨⟨hlease, hroute⟩, hframe⟩, hloader⟩, hnode⟩ := hmatches
    have hroute : proof.expectedRoute = expectedRoute := by
      revert hroute
      cases proof.expectedRoute <;> cases expectedRoute <;> simp [sameRouteExpectation]
    obtain ⟨method, hmethod, hlog⟩ := hleft.wait
    obtain ⟨shownComposer, hshown, hshownNode⟩ := hleft.composer
    rw [hroute] at hmethod hlog
    rw [hlease] at hlog
    refine ⟨method, hmethod, shown, after, hlog, ⟨?_, ?_, ?_⟩, hleft.kept⟩
    · exact hleft.frameId.symm.trans hframe
    · exact hleft.loaderId.symm.trans hloader
    · exact ⟨shownComposer, hshown, composer, hcomposer, hshownNode.symm.trans hnode⟩

/-- The return of a turn's composer wait, which leaves no proof. -/
theorem Standing.returnedTurn (h : Standing run) {lease : RuntimeLease}
    (hproof : run.freshReadinessProof = none)
    (hguarded : ReturnsGuarded run.log (.returned (.waitForTurnComposer expectedRoute) lease)) :
    Standing { run with log := run.log ++ [.returned (.waitForTurnComposer expectedRoute) lease] } :=
  ⟨Trace.lawful_snoc.mpr ⟨h.lawful, hguarded⟩, fun proof hsome => by
    rw [hproof] at hsome
    cases hsome⟩

/-- No call is made in a wait. -/
theorem uncalled_of_inner {seen : List ReadinessEvent} {snapshot : ExistingReadinessSnapshot}
    {fresh : Bool} (hinner : ∀ event ∈ seen, isInner event = true) (method : ReadinessMethod)
    (lease : RuntimeLease) :
    .called method lease ∉ seen ++ [.passed expectedRoute snapshot fresh] := by
  intro hmem
  rcases List.mem_append.mp hmem with hmem | hmem
  · cases hinner _ hmem
  · cases List.mem_singleton.mp hmem

/-- A wait for a turn's composer, from its call on. -/
theorem wp_waitForTurnComposer_standing (r : ReadinessController) (fuel : ℕ)
    (expectedRoute : RouteExpectation) (lease : RuntimeLease) (signal : AbortTime)
    {start : List ReadinessEvent} (h : Standing run)
    (hcalled : run.log = start ++ [.called (.waitForTurnComposer expectedRoute) lease]) :
    wp (waitForTurnComposer r fuel expectedRoute lease signal)
      (fun _ run' => Standing { run' with
        log := run'.log ++ [.returned (.waitForTurnComposer expectedRoute) lease] })
      (fun _ => Standing) run := by
  rw [waitForTurnComposer, wp_bind]
  refine wp_mono (wp_waitForRoute_waited r fuel .existing expectedRoute signal run)
    (fun snapshot run₁ hpassed => ?_) fun _ _ hwaited => h.waited hwaited
  obtain ⟨fresh, hpassed, -⟩ := hpassed
  have h₁ := hpassed.standing h
  rw [wp_bind, wp_get, wp_bind, wp_setFreshReadinessProof]
  have hcleared : Standing { run₁ with freshReadinessProof := none } :=
    h₁.append (List.append_nil _).symm (by simp) (.inl rfl)
  obtain ⟨waited, hwaited, hlog₁, -⟩ := hpassed
  obtain ⟨seen, hseen, hinner, -⟩ := hwaited.log
  have hduring : run₁.log = start ++ .called (.waitForTurnComposer expectedRoute) lease ::
      (seen ++ [.passed expectedRoute snapshot fresh]) := by
    rw [hlog₁, hseen, hcalled, List.append_assoc, List.append_assoc]
    rfl
  have huncalled : ∀ method lease',
      .called method lease' ∉ seen ++ [.passed expectedRoute snapshot fresh] :=
    uncalled_of_inner hinner
  -- the second wait, which is a fresh one
  have hagain : wp (do
      let _ ← waitForRoute r fuel .fresh expectedRoute signal
      pure ())
      (fun _ run' => Standing { run' with
        log := run'.log ++ [.returned (.waitForTurnComposer expectedRoute) lease] })
      (fun _ => Standing) { run₁ with freshReadinessProof := none } := by
    rw [wp_bind]
    refine wp_mono (wp_waitForRoute_waited r fuel .fresh expectedRoute signal _)
      (fun snapshot' run₂ hpassed' => ?_) fun _ _ hwaited => hcleared.waited hwaited
    obtain ⟨fresh', hpassed', hfresh'⟩ := hpassed'
    cases hfresh' rfl
    have h₂ := hpassed'.standing hcleared
    obtain ⟨waited', hwaited', hlog₂, hproof₂⟩ := hpassed'
    obtain ⟨seen', hseen', hinner', -⟩ := hwaited'.log
    refine h₂.returnedTurn (hproof₂.trans (hwaited'.proof_none rfl)) ?_
    rintro _ _ ⟨⟩ -
    refine ⟨start, seen ++ [.passed expectedRoute snapshot fresh] ++
      (seen' ++ [.passed expectedRoute snapshot' true]), ?_, fun method lease' hmem => ?_,
      .inl ⟨snapshot', by simp⟩⟩
    · rw [hlog₂, hseen', hduring, List.append_assoc, List.append_assoc, List.cons_append]
    · exact (List.mem_append.mp hmem).elim (huncalled method lease')
        (uncalled_of_inner hinner' method lease')
  -- a proof that matches stands in for the second wait
  have hmatched : ∀ proof, run₁.freshReadinessProof = some proof →
      wp (if FreshReadinessProof.matches proof lease expectedRoute snapshot then pure ()
        else do
          let _ ← waitForRoute r fuel .fresh expectedRoute signal
          pure ())
      (fun _ run' => Standing { run' with
        log := run'.log ++ [.returned (.waitForTurnComposer expectedRoute) lease] })
      (fun _ => Standing) { run₁ with freshReadinessProof := none } := by
    intro proof hproof
    rw [wp_ite]
    split
    · refine hcleared.returnedTurn rfl ?_
      rintro _ _ ⟨⟩ -
      refine ⟨start, _, hduring, huncalled, ?_⟩
      cases fresh with
      | true => exact .inl ⟨snapshot, by simp⟩
      | false =>
        obtain ⟨before, after, shown, hleft⟩ := h₁.proof proof hproof
        exact .inr ⟨seen, snapshot, before, rfl, authorizedBy_of_matches hleft ‹_›⟩
    · exact hagain
  cases expectedRoute with
  | thread locator =>
    exact hcleared.returnedTurn rfl fun expectedRoute' lease' heq hnew => by
      cases heq
      exact (hnew locator rfl).elim
  | freshRoot =>
    cases hproof : run₁.freshReadinessProof with
    | none => exact hagain
    | some proof => exact hmatched proof hproof
  | projectRoot locator =>
    cases hproof : run₁.freshReadinessProof with
    | none => exact hagain
    | some proof => exact hmatched proof hproof

/-- A call keeps the invariant, however it ends. -/
theorem wp_perform_standing (r : ReadinessController) (fuel : ℕ) (call : ReadinessCall)
    (h : Standing run) : wp (perform r fuel call) (fun _ => Standing) (fun _ => Standing) run := by
  obtain ⟨method, lease, signal⟩ := call
  have hcalled := h.called method lease
  rw [perform, wp_bind, wp_record]
  dsimp only
  cases method with
  | waitForExistingRoute expectedLocator =>
    dsimp only
    rw [wp_bind]
    exact wp_waitForExistingRoute_standing r fuel expectedLocator signal lease hcalled
  | waitForFreshRoute =>
    dsimp only
    rw [wp_bind]
    exact wp_waitForNewRoute_standing r fuel lease signal rfl hcalled
  | waitForProjectRoute projectLocator =>
    dsimp only
    rw [wp_bind]
    exact wp_waitForNewRoute_standing r fuel lease signal rfl hcalled
  | isProjectRouteCurrent projectLocator =>
    dsimp only
    rw [wp_bind]
    exact wp_mono (wp_isProjectRouteCurrent_standing r signal hcalled)
      (fun _ _ h => h.returned lease rfl) fun _ _ h => h
  | waitForTurnComposer expectedRoute =>
    dsimp only
    rw [wp_bind]
    refine wp_waitForTurnComposer_standing r fuel expectedRoute lease signal ?_ rfl
    exact h.append rfl (by simp [isReturn]) (.inr ⟨rfl, by simp [revokes, isTurnComposer]⟩)

/-- A run of calls that begins with a standing proof ends with one. -/
theorem standing_performAll (r : ReadinessController) (fuel : ℕ) (calls : List ReadinessCall)
    (h : Standing run) : Standing (performAll r fuel calls run) := by
  induction calls generalizing run with
  | nil => exact h
  | cons call calls ih =>
    have hperform := wp_apply (wp_perform_standing r fuel call h)
    rw [performAll]
    rcases hrun : perform r fuel call run with ⟨_ | _, run'⟩
    all_goals rw [hrun] at hperform
    · rename_i i
      cases i with
      | thrown error => exact ih hperform
      | pending => exact hperform
    · exact ih hperform

/-- A fresh wait, known by what was before it, authorizes at most one return of a turn's composer
wait. -/
def AuthorizesOnce (log : List ReadinessEvent) : Prop :=
  ∀ before past past' expectedRoute expectedRoute' lease lease' snapshot snapshot',
    past ++ [.returned (.waitForTurnComposer expectedRoute) lease] <+: log →
    past' ++ [.returned (.waitForTurnComposer expectedRoute') lease'] <+: log →
    AuthorizedBy before expectedRoute lease snapshot past →
    AuthorizedBy before expectedRoute' lease' snapshot' past' → past = past'

/-- The return of a turn's composer wait is not among the events after which a proof stands. -/
theorem AuthorizedBy.not_after {before past past' : List ReadinessEvent} {lease lease' : RuntimeLease}
    {expectedRoute' : RouteExpectation} {snapshot snapshot' : ExistingReadinessSnapshot}
    (h : AuthorizedBy before expectedRoute lease snapshot past)
    (h' : AuthorizedBy before expectedRoute' lease' snapshot' past') :
    ¬ past ++ [.returned (.waitForTurnComposer expectedRoute) lease] <+: past' := by
  rintro ⟨rest, hrest⟩
  obtain ⟨method, -, shown, after, hpast, -, -⟩ := h.wait
  obtain ⟨method', -, shown', after', hpast', -, hkept⟩ := h'.wait
  rw [hpast, hpast', List.append_assoc, List.append_assoc, List.append_cancel_left_eq] at hrest
  simp only [List.cons_append, List.cons.injEq] at hrest
  obtain ⟨-, -, hafter⟩ := hrest
  have hreturned := hkept (.returned (.waitForTurnComposer expectedRoute) lease) (by simp [← hafter])
  cases hreturned

/-- The log of every run authorizes at most one return of the composer wait for each fresh wait. -/
theorem authorizesOnce (log : List ReadinessEvent) : AuthorizesOnce log := by
  intro before past past' expectedRoute expectedRoute' lease lease' snapshot snapshot' hpast hpast'
    h h'
  rcases List.prefix_or_prefix_of_prefix hpast hpast' with hle | hle
  · rcases List.prefix_concat_iff.mp hle with heq | hle
    · exact (List.append_inj' heq rfl).1
    · exact (h.not_after h' hle).elim
  · rcases List.prefix_concat_iff.mp hle with heq | hle
    · exact (List.append_inj' heq rfl).1.symm
    · exact (h'.not_after h hle).elim

/-- In any sequence of calls, the wait for the composer of a new conversation returns only after a
gate of the fresh policy has passed in it or where a fresh wait authorizes it, and a fresh wait
authorizes at most one such return. -/
theorem fresh_proof_one_shot (r : ReadinessController) (fuel : ℕ) (calls : List ReadinessCall) :
    Trace.Lawful ReturnsGuarded (performAll r fuel calls {}).log ∧
      AuthorizesOnce (performAll r fuel calls {}).log := by
  have hstart : Standing {} := ⟨Trace.lawful_nil, fun _ h => nomatch h⟩
  exact ⟨(standing_performAll r fuel calls hstart).lawful, authorizesOnce _⟩

/-- The turn that follows a fresh wait returns without a gate of the fresh policy of its own, and the
next one does not. -/
example :
    let lease : RuntimeLease := ⟨1, ⟨4242, "t"⟩⟩
    let turn : ReadinessCall := ⟨.waitForTurnComposer .freshRoot, lease, none⟩
    let log := (performAll (focusedFrom 0) 12 [⟨.waitForFreshRoute, lease, none⟩, turn, turn] {}).log
    log.filter (fun event => isReturn event || event matches .passed _ _ _) =
      [.passed .freshRoot (composerPage true) true, .returned .waitForFreshRoute lease,
        .passed .freshRoot (composerPage true) false, .returned turn.method lease,
        .passed .freshRoot (composerPage true) false,
        .passed .freshRoot (composerPage true) true, .returned turn.method lease] := by
  decide +kernel

end ReadinessController

end Threadwire
