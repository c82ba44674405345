import Mathlib.Data.Rat.Floor
import Mathlib.Tactic.Linarith
import Threadwire.Collections.Deadline
import Threadwire.Turn.TurnSteps

/-!
# Waiting for the outcome of a turn ends

The loop of `waitForTurnOutcome` has four deadlines, and which of them applies depends on the
target, the response, the routes read and the caller. `Waited` says what a round that goes on to the
next one leaves: no write was observed and the observation deadline has not passed, or the write was
observed and one of the other three has not passed since. So the rounds that are left are bounded
(`roundsLeft`), whichever deadlines apply.
-/

namespace Threadwire

/-- How far a write has come. -/
def writePhase : Option CdpWriteLifecycleState → ℕ
  | none => 0
  | some .ACTIVE => 1
  | some .FINISHED | some .FAILED => 2

namespace TurnExecutorOptions

/-- The longest time that a turn waits after its write was observed. -/
def patience (options : TurnExecutorOptions) : Rat :=
  max options.writeSettlementTimeoutMs
    (max options.responseCompletionTimeoutMs options.freshConversationTimeoutMs)

/-- The rounds that the loop makes at most, where the clock advances by `δ` in each. -/
def roundBound (options : TurnExecutorOptions) (δ : Rat) : ℕ :=
  Deadline.rounds δ options.writeObservationTimeoutMs + Deadline.rounds δ options.patience + 1

end TurnExecutorOptions

namespace TurnExecutor

open Effect

/-- The port shows a write only as it goes forward. -/
def MonotoneWrite (c : TurnCall) : Prop :=
  ∀ question question' snapshot snapshot', question ≤ question' →
    c.environment.getTurnObservation question = .ok snapshot →
    c.environment.getTurnObservation question' = .ok snapshot' →
    writePhase snapshot.write ≤ writePhase snapshot'.write

/-- One round of the loop that goes on to the next. -/
inductive Round (c : TurnCall) : PollState × TurnRun → PollState × TurnRun → Prop
  | intro {state state' : PollState} {run run' : TurnRun}
    (h : poll c state run = (.ok (.again state'), run')) :
    Round c (state, run) (state', { run' with asked := run'.asked + 1 })

/-- The clock never goes back, and advances by `δ` from each round of the loop to the next. -/
structure SteadyClock (c : TurnCall) (δ : Rat) (start : PollState × TurnRun) : Prop where
  monotone : Monotone c.environment.clock
  advances : ∀ before after, Relation.ReflTransGen (Round c) start before → Round c before after →
    c.environment.clock before.2.asked + δ ≤ c.environment.clock after.2.asked

variable {c : TurnCall} {α β : Type}

/-! ## What a round keeps -/

section Steps

variable {run run' : TurnRun}

/-- The questions that were asked only grow. -/
theorem asked_le_of_steps (h : PollSteps run run') : run.asked ≤ run'.asked := by
  induction h with
  | refl => exact le_refl _
  | tail _ hstep ih =>
    cases hstep with
    | asked => exact ih.trans (Nat.le_succ _)
    | logged => exact ih
    | responded => exact ih
    | registering => exact ih

/-- Nothing is left to wait for in the response. -/
def Expired (run : TurnRun) : Prop :=
  ∀ state ∈ run.responseState, state.semanticCompleted = true ∨ state.terminalError.isSome = true

/-- What has expired does not come back to life. -/
theorem expired_of_steps (h : PollSteps run run') (hrun : Expired run) : Expired run' := by
  induction h with
  | refl => exact hrun
  | tail _ hstep ih =>
    cases hstep with
    | asked => exact ih
    | logged => exact ih
    | registering => exact ih
    | responded before after hbefore hresponse =>
      rintro state ⟨⟩
      cases hresponse with
      | completed => exact .inl rfl
      | failed => exact .inr rfl
      | discarded | accumulated | undeferred | finalized => exact ih before hbefore

/-- The response has completed. -/
def ResponseCompleted (run : TurnRun) : Prop :=
  ∃ state, run.responseState = some state ∧ state.semanticCompleted = true

/-- A response that completed stays complete. -/
theorem completed_of_steps (h : PollSteps run run') (hrun : ResponseCompleted run) :
    ResponseCompleted run' := by
  induction h with
  | refl => exact hrun
  | tail _ hstep ih =>
    cases hstep with
    | asked => exact ih
    | logged => exact ih
    | registering => exact ih
    | responded before after hbefore hresponse =>
      obtain ⟨state, hstate, hcompleted⟩ := ih
      cases hbefore.symm.trans hstate
      refine ⟨after, rfl, ?_⟩
      cases hresponse with
      | completed => rfl
      | failed | discarded | accumulated | undeferred | finalized => exact hcompleted

/-- There is a response, and it has come to an error. -/
def ResponseFailed (run : TurnRun) : Prop :=
  ∃ state error, run.responseState = some state ∧ state.terminalError = some error

/-- A response that failed keeps its error. -/
theorem failed_of_steps (h : PollSteps run run') (hrun : ResponseFailed run) :
    ResponseFailed run' := by
  obtain ⟨state, error, hstate, herror⟩ := hrun
  obtain ⟨state', hstate', herror'⟩ := terminal_of_steps h hstate herror
  exact ⟨state', error, hstate', herror'⟩

end Steps

/-! ## Rules -/

section Rules

variable {run : TurnRun} {P : PollState → Prop}

/-- A part of a round settles, and where it goes on, it leaves such a state. -/
def GoesOn (P : PollState → Prop) (x : TurnM PollOutcome) (run : TurnRun) : Prop :=
  wp x (fun outcome _ => ∀ state, outcome = .again state → P state) (fun i _ => i ≠ .pending) run

/-- A part that goes on leaves the state it goes on with. -/
theorem goesOn_again {state : PollState} (h : P state) : GoesOn P (pure (.again state)) run := by
  rintro _ ⟨⟩
  exact h

/-- A part that is done does not go on. -/
theorem goesOn_done (result : TurnResult) : GoesOn P (pure (.done result)) run := by
  rw [GoesOn, wp_pure]
  exact fun _ h => nomatch h

/-- Nor does one that throws. -/
theorem goesOn_fail (error : ThrownError) : GoesOn P (fail error) run := by
  rw [GoesOn, wp_fail]
  exact nofun

/-- Nor one that fails closed. -/
theorem goesOn_failClosed (error : ThrownError) : GoesOn P (failClosed c error) run := by
  rw [GoesOn, failClosed, wp_bind, wp_record, wp_fail]
  exact nofun

/-- Either branch, where its condition holds. -/
theorem goesOn_ite {condition : Prop} [Decidable condition] {x y : TurnM PollOutcome}
    (hx : condition → GoesOn P x run) (hy : ¬ condition → GoesOn P y run) :
    GoesOn P (if condition then x else y) run := by
  rw [GoesOn, wp_ite]
  split
  · exact hx ‹_›
  · exact hy ‹_›

/-- Nor one that throws on or fails closed. -/
theorem goesOn_throwOrFailClosed (error : ThrownError) :
    GoesOn P (throwOrFailClosed c error) run :=
  goesOn_ite (fun _ => goesOn_failClosed error) fun _ => goesOn_fail error

/-- Nor one that finds no conversation. -/
theorem goesOn_throwConversationNotCreated (cause : Option ThrownError) :
    GoesOn P (throwConversationNotCreated c cause) run :=
  goesOn_ite (fun _ => goesOn_failClosed _) fun _ => goesOn_fail _

/-- A part of which only its steps are known. -/
theorem goesOn_bind (c : TurnCall) {x : TurnM α} (hx : Follows c x) {f : α → TurnM PollOutcome}
    (hf : ∀ a run', PollSteps run run' → GoesOn P (f a) run') : GoesOn P (x >>= f) run := by
  rw [GoesOn, wp_bind]
  refine wp_mono (hx run) (fun a run' hsteps => hf a run' hsteps) fun i run' h hpending => ?_
  exact PostCommitError.not_pending (hpending ▸ h.2)

/-- A part with a specification of its own. -/
theorem goesOn_bind_of {x : TurnM α} {Q : α → TurnRun → Prop}
    (hx : wp x Q (fun i _ => i ≠ .pending) run) {f : α → TurnM PollOutcome}
    (hf : ∀ a run', Q a run' → GoesOn P (f a) run') : GoesOn P (x >>= f) run := by
  rw [GoesOn, wp_bind]
  exact wp_mono hx hf fun _ _ h => h

/-- The steps and a further specification of a part. -/
theorem wp_follows {x : TurnM α} (hx : Follows c x) {Q : α → TurnRun → Prop}
    (h : wp x Q (fun _ _ => True) run) :
    wp x (fun a run' => PollSteps run run' ∧ Q a run') (fun i _ => i ≠ .pending) run := by
  refine wp_mono (wp_and (hx run) h) (fun _ _ h => h) fun i run' h hpending => ?_
  exact PostCommitError.not_pending (hpending ▸ h.1.2)

end Rules

/-! ## The end of the response -/

section Finalizing

variable {run : TurnRun}

/-- Recording a terminal error where there is a response. -/
theorem wp_recordTerminalError_failed {E : Interrupt ThrownError → TurnRun → Prop}
    (error : ThrownError) (hresponse : run.responseState.isSome = true) :
    wp (recordTerminalError error) (fun _ => ResponseFailed) E run := by
  obtain ⟨state, hstate⟩ := Option.isSome_iff_exists.mp hresponse
  simp only [recordTerminalError, wp_bind, wp_readResponse, hstate]
  cases herror : state.terminalError with
  | some error' => exact ⟨state, error', hstate, herror⟩
  | none =>
    simp only [wp_bind, wp_modifyResponse, wp_record, hstate, Option.map_some]
    exact ⟨_, error, rfl, rfl⟩

/-- Where the listener threw, the response has failed. -/
theorem wp_announce_failed (event : ResponseStreamEvent)
    (hresponse : run.responseState.isSome = true) :
    wp (announce c event) (fun accepted run' => accepted = false → ResponseFailed run')
      (fun _ _ => True) run := by
  simp only [announce, callListener, wp_bind, wp_ask, wp_record, wp_pure, wp_onlyIf]
  cases c.environment.listenerThrows run.asked with
  | false => exact fun h => by cases h
  | true =>
    exact wp_mono (wp_recordTerminalError_failed (E := fun _ _ => True) _ hresponse)
      (fun _ _ h _ => h) fun _ _ _ => trivial

/-- A response that completed is there. -/
theorem ResponseCompleted.isSome (h : ResponseCompleted run) :
    run.responseState.isSome = true := by
  obtain ⟨state, hstate, -⟩ := h
  rw [hstate]
  rfl

/-- A deferred text that was not accepted has failed the response. -/
theorem wp_announceDeferred_failed (state : ResponseDeliveryState)
    (hresponse : run.responseState.isSome = true) :
    wp (announceDeferred c state) (fun accepted run' => accepted = false → ResponseFailed run')
      (fun _ _ => True) run := by
  rw [announceDeferred, wp_ite]
  split
  · rw [wp_bind]
    refine wp_mono (wp_announce_failed _ hresponse) (fun accepted run' hfailed => ?_) fun _ _ h => h
    rw [wp_bind, wp_onlyIf]
    cases accepted with
    | true => exact fun h => nomatch h
    | false => exact hfailed
  · exact fun h => nomatch h

/-- So has an end that was not accepted. -/
theorem wp_announceCompleted_failed (hresponse : run.responseState.isSome = true) :
    wp (announceCompleted c) (fun accepted run' => accepted = false → ResponseFailed run')
      (fun _ _ => True) run := by
  rw [announceCompleted, wp_bind]
  refine wp_mono (wp_announce_failed _ hresponse) (fun accepted run' hfailed => ?_) fun _ _ h => h
  rw [wp_bind, wp_onlyIf]
  cases accepted with
  | true => exact fun h => nomatch h
  | false => exact hfailed

/-- A completed response is finalized, or it fails. -/
theorem wp_finalizeResponseDelivery_failed {beforeCompleted : TurnM Unit}
    (hbefore : Follows c beforeCompleted) (hcompleted : ResponseCompleted run) :
    wp (finalizeResponseDelivery c beforeCompleted)
      (fun finalized run' => finalized = false → ResponseFailed run')
      (fun i _ => i ≠ .pending) run := by
  obtain ⟨state, hstate, hsemantic⟩ := hcompleted
  have hsome : run.responseState.isSome = true := by
    rw [hstate]
    rfl
  simp only [finalizeResponseDelivery, wp_bind, wp_readResponse, hstate, wp_ite]
  split
  · -- A response that is finalized already answers true.
    exact fun h => by cases h
  split
  · -- It is complete, so it is its error that stops it.
    rename_i hstopped
    obtain ⟨error, herror⟩ : ∃ error, state.terminalError = some error := by
      rw [hsemantic] at hstopped
      exact Option.isSome_iff_exists.mp (by simpa using hstopped)
    exact fun _ => ⟨state, error, hstate, herror⟩
  split
  · -- Without a text there is nothing to finalize.
    exact wp_mono (wp_recordTerminalError_failed _ hsome) (fun _ _ h _ => h) fun _ _ h => h
  refine wp_mono (wp_follows (follows_announceDeferred state)
    (wp_announceDeferred_failed state hsome)) (fun deferred run₁ h₁ => ?_) fun _ _ h => h
  -- Announcing neither fails the response silently nor takes its completion back.
  have hcompleted₁ := completed_of_steps h₁.1 ⟨state, hstate, hsemantic⟩
  rw [wp_ite]
  split
  · rename_i hdeferred
    exact fun _ => h₁.2 (by simpa using hdeferred)
  rw [wp_bind]
  refine wp_mono (wp_follows (follows_announce _) (wp_announce_failed _ hcompleted₁.isSome))
    (fun final run₂ h₂ => ?_) fun _ _ h => h
  have hcompleted₂ := completed_of_steps h₂.1 hcompleted₁
  rw [wp_ite]
  split
  · rename_i hfinal
    exact fun _ => h₂.2 (by simpa using hfinal)
  rw [wp_bind]
  refine wp_mono (wp_follows hbefore (wp_mono (hbefore run₂) (fun _ _ _ => trivial)
    fun _ _ _ => trivial)) (fun _ run₃ h₃ => ?_) fun _ _ h => h
  exact wp_mono (wp_follows follows_announceCompleted
    (wp_announceCompleted_failed (completed_of_steps h₃.1 hcompleted₂).isSome)) (fun _ _ h => h.2)
    fun _ _ h => h

end Finalizing

/-! ## A round that goes on -/

/-- What a round remembers of the write is the same in both states. -/
structure SameWrite (state state' : PollState) : Prop where
  committedAt : state'.committedAt = state.committedAt
  writeObservedAt : state'.writeObservedAt = state.writeObservedAt
  previousLifecycle : state'.previousLifecycle = state.previousLifecycle

/-- A state remembers what it remembers. -/
theorem SameWrite.refl (state : PollState) : SameWrite state state := ⟨rfl, rfl, rfl⟩

/-- So it counts the same time. -/
theorem SameWrite.sinceObserved {state state' : PollState} (h : SameWrite state state')
    (now : Rat) : state'.sinceObserved now = state.sinceObserved now := by
  rw [PollState.sinceObserved, h.writeObservedAt]
  rfl

/-- A round that found a write goes on: it remembers the same of the write, which was observed less
than the patience ago. -/
structure Waits (c : TurnCall) (state : PollState) (now : Rat) (state' : PollState) : Prop
    extends SameWrite state state' where
  patient : state.sinceObserved now < c.options.patience

section Round

variable {run : TurnRun} {state state' : PollState} {now : Rat}

/-- A round that waits for the write to settle. -/
theorem Waits.of_settlement (h : SameWrite state state')
    (htime : state.sinceObserved now < c.options.writeSettlementTimeoutMs) :
    Waits c state now state' :=
  ⟨h, lt_max_of_lt_left htime⟩

/-- A round that waits for the response. -/
theorem Waits.of_response (h : SameWrite state state')
    (htime : state.sinceObserved now < c.options.responseCompletionTimeoutMs) :
    Waits c state now state' :=
  ⟨h, lt_max_of_lt_right (lt_max_of_lt_left htime)⟩

/-- A round that waits for the conversation. -/
theorem Waits.of_fresh (h : SameWrite state state')
    (htime : state.sinceObserved now < c.options.freshConversationTimeoutMs) :
    Waits c state now state' :=
  ⟨h, lt_max_of_lt_right (lt_max_of_lt_right htime)⟩

/-- The response may still complete: its deadline has not passed, or there is nothing left to wait
for in it. -/
def ResponseTimely (c : TurnCall) (state : PollState) (now : Rat) (run : TurnRun) : Prop :=
  state.sinceObserved now < c.options.responseCompletionTimeoutMs ∨ Expired run

/-- Time passes in the rounds only. -/
theorem ResponseTimely.steps {run' : TurnRun} (h : ResponseTimely c state now run)
    (hsteps : PollSteps run run') : ResponseTimely c state now run' :=
  h.imp_right (expired_of_steps hsteps)

/-- The deadline is that of the write, which both states remember. -/
theorem ResponseTimely.same (h : ResponseTimely c state now run) (hsame : SameWrite state state') :
    ResponseTimely c state' now run := by
  rw [ResponseTimely, hsame.sinceObserved]
  exact h

/-- Where the response is neither complete nor failed, its deadline has not passed. -/
theorem ResponseTimely.waiting (h : ResponseTimely c state now run)
    {response : ResponseDeliveryState} (hresponse : run.responseState = some response)
    (hfailed : response.terminalError = none) (hcompleted : response.semanticCompleted = false) :
    state.sinceObserved now < c.options.responseCompletionTimeoutMs := by
  rcases h with h | h
  · exact h
  · rcases h response hresponse with h | h
    · rw [hcompleted] at h
      cases h
    · rw [hfailed] at h
      cases h

/-- What follows the finalization of a completed response does not go on. -/
theorem goesOn_afterFinalize {P : PollState → Prop} {finalized : Bool}
    (hfailed : finalized = false → ResponseFailed run)
    {throws : ThrownError → TurnM PollOutcome} {returns : TurnM PollOutcome}
    (hthrows : ∀ error, GoesOn P (throws error) run)
    (hreturns : GoesOn P returns run) :
    GoesOn P (do
      match ← responseError with
      | some error => throws error
      | none => if !finalized then pure (.again state) else returns) run := by
  rw [GoesOn, wp_bind, responseError, wp_bind, wp_readResponse, wp_pure]
  cases herror : run.responseState.bind (·.terminalError) with
  | some error => exact hthrows error
  | none =>
    cases finalized with
    | true => exact hreturns
    | false =>
      obtain ⟨response, error, hresponse, hterminal⟩ := hfailed rfl
      rw [hresponse, Option.bind_some, hterminal] at herror
      cases herror

/-- The end of a thread's turn waits for the response alone. -/
theorem goesOn_finishThread (threadHandle : ThreadHandle)
    (htimely : state.callerCancelled = false → ResponseTimely c state now run) :
    GoesOn (Waits c state now) (finishThread c state threadHandle) run := by
  rw [finishThread]
  refine goesOn_bind c steps_isAborted fun aborted run₁ hsteps₁ =>
    goesOn_ite (fun _ => goesOn_fail _) fun hlive => ?_
  have htimely₁ : ResponseTimely c state now run₁ :=
    (htimely (by simp_all)).steps hsteps₁
  rw [GoesOn, wp_bind, wp_readResponse]
  cases hresponse : run₁.responseState with
  | none => exact goesOn_done _
  | some response =>
    dsimp only
    cases hterminal : response.terminalError with
    | some error => exact goesOn_fail error
    | none =>
      refine goesOn_ite (fun hincomplete => ?_) fun hcomplete => ?_
      · exact goesOn_again (.of_response (.refl state)
          (htimely₁.waiting hresponse hterminal (by simpa using hincomplete)))
      · refine goesOn_bind_of (wp_finalizeResponseDelivery_failed (moves_pure ())
          ⟨response, hresponse, by simpa using hcomplete⟩) fun finalized run₂ hfailed => ?_
        exact goesOn_afterFinalize hfailed goesOn_fail (goesOn_done _)

/-- A registration ends the loop, whatever comes of it. -/
theorem goesOn_registerProjectConversation {P : PollState → Prop} (locator : ConversationLocator) :
    GoesOn P (do
      let registration ← registerProjectConversation c locator
      pure (registeredResult registration)) run :=
  goesOn_bind c (follows_registerProjectConversation locator) fun _ _ _ => goesOn_done _

/-- The end of a turn without a listener ends it. -/
theorem goesOn_finishPlain {P : PollState → Prop} (locator : ConversationLocator)
    (freshRegistration : Option ThreadRegistrationResult) :
    GoesOn P (finishPlain c locator freshRegistration) run := by
  unfold finishPlain
  refine goesOn_bind c steps_isAborted fun aborted run₁ _ =>
    goesOn_bind c (.onlyIf fun _ => follows_failClosed _) fun _ run₂ _ => ?_
  cases freshRegistration with
  | some registration => exact goesOn_done _
  | none => exact goesOn_registerProjectConversation locator

/-- A completed response is not waited for. -/
theorem goesOn_finishStreaming {P : PollState → Prop} (locator : ConversationLocator)
    (freshRegistration : Option ThreadRegistrationResult) (hcompleted : ResponseCompleted run) :
    GoesOn P (finishStreaming c state locator freshRegistration) run := by
  rw [finishStreaming]
  refine goesOn_bind c (steps_registering fun _ => rfl) fun _ run₁ hsteps₁ => ?_
  refine goesOn_bind_of (wp_finalizeResponseDelivery_failed (follows_beforeCompleted locator)
    (completed_of_steps hsteps₁ hcompleted)) fun finalized run₂ hfailed => ?_
  refine goesOn_afterFinalize hfailed (fun error => ?_) ?_
  · exact goesOn_bind c follows_rollbackReservation fun _ _ _ => goesOn_throwOrFailClosed error
  · refine goesOn_bind c moves_get fun run₃ run₄ _ => ?_
    cases run₃.projectRegistration with
    | some registration =>
      dsimp only
      cases registration.transaction with
      | none => exact goesOn_failClosed _
      | some transaction =>
        exact goesOn_bind c (steps_registering fun _ => rfl) fun _ _ _ => goesOn_done _
    | none =>
      cases freshRegistration with
      | some registration => exact goesOn_done _
      | none => exact goesOn_registerProjectConversation locator

/-- The end of a new conversation's turn waits for the response alone. -/
theorem goesOn_finishFresh (locator : ConversationLocator)
    (htimely : ResponseTimely c state now run) :
    GoesOn (Waits c state now) (finishFresh c state locator) run := by
  rw [finishFresh, GoesOn, wp_bind, wp_readResponse]
  cases hresponse : run.responseState with
  | none =>
    exact goesOn_bind c (follows_registerFresh locator) fun registration _ _ =>
      goesOn_finishPlain locator registration
  | some response =>
    refine goesOn_ite (fun hwaiting => ?_) fun hended => ?_
    · simp only [Bool.and_eq_true, Option.isNone_iff_eq_none, Bool.not_eq_eq_eq_not,
        Bool.not_true] at hwaiting
      exact goesOn_again (.of_response (.refl state)
        (htimely.waiting hresponse hwaiting.1 hwaiting.2))
    · refine goesOn_bind c (follows_registerFresh locator) fun registration run₁ hsteps₁ => ?_
      cases hterminal : response.terminalError with
      | some error => exact goesOn_throwOrFailClosed error
      | none =>
        have hcompleted : response.semanticCompleted = true := by
          simpa [hterminal] using hended
        exact goesOn_finishStreaming locator registration
          (completed_of_steps hsteps₁ ⟨response, hresponse, hcompleted⟩)

/-! ### Routes and observations -/

/-- What a route read changes of the state. -/
structure Rerouted (state state' : PollState) : Prop extends SameWrite state state' where
  callerCancelled : state'.callerCancelled = state.callerCancelled

/-- A failed read of the route may be read again. -/
theorem wp_freshRouteFailed (write : CdpWriteLifecycleState) (error : ThrownError)
    (h : Rerouted state state') :
    wp (freshRouteFailed c state' write error) (fun found _ => Rerouted state found)
      (fun _ _ => True) run := by
  rw [freshRouteFailed, wp_ite]
  split
  · exact trivial
  rw [wp_ite]
  split
  · exact trivial
  · exact ⟨⟨h.committedAt, h.writeObservedAt, h.previousLifecycle⟩, h.callerCancelled⟩

/-- A read of the first route changes nothing but the route. -/
theorem wp_readFreshRoute_rerouted (write : CdpWriteLifecycleState) :
    wp (readFreshRoute c state write) (fun found _ => Rerouted state found) (fun _ _ => True)
      run := by
  have hlocator : ∀ locator, Rerouted state { state with freshLocator := locator } :=
    fun _ => ⟨⟨rfl, rfl, rfl⟩, rfl⟩
  rw [readFreshRoute, wp_bind]
  refine wp_mono (wp_trivial _) (fun read run' _ => ?_) fun _ _ h => h
  rcases read with error | _ | locator
  · exact wp_freshRouteFailed write error (hlocator state.freshLocator)
  · exact hlocator none
  · dsimp only
    rcases ownsConversation c locator with error | _ | _
    · exact wp_freshRouteFailed write error (hlocator (some locator))
    · exact hlocator none
    · exact hlocator (some locator)

/-- After that a failed read leaves the state. -/
theorem wp_currentRouteFailed (current : Option ConversationLocator) (error : ThrownError) :
    wp (currentRouteFailed state current error) (fun found _ => SameWrite state found.2)
      (fun _ _ => True) run := by
  rw [currentRouteFailed, wp_ite]
  split
  · exact trivial
  · exact ⟨rfl, rfl, rfl⟩

/-- And so does a read that finds the route. -/
theorem wp_readCurrentRoute_same (freshLocator : ConversationLocator) :
    wp (readCurrentRoute c state freshLocator) (fun found _ => SameWrite state found.2)
      (fun _ _ => True) run := by
  rw [readCurrentRoute, wp_bind]
  refine wp_mono (wp_trivial _) (fun read run' _ => ?_) fun _ _ h => h
  rcases read with error | _ | current
  · exact wp_currentRouteFailed none error
  · exact .refl state
  · dsimp only
    rcases ownsConversation c current with error | owned
    · exact wp_currentRouteFailed (some current) error
    · dsimp only
      rw [wp_ite]
      split
      · exact .refl state
      · exact .refl state

/-- An observation that was read is the answer to the question. -/
theorem wp_readTurnObservation_answer :
    wp (readTurnObservation c)
      (fun snapshot _ => c.environment.getTurnObservation run.asked = .ok snapshot)
      (fun _ _ => True) run := by
  rw [readTurnObservation, wp_bind, wp_ask]
  rcases hanswer : c.environment.getTurnObservation run.asked with error | snapshot
  · dsimp only
    rw [wp_ite]
    split
    · exact trivial
    · exact trivial
  · exact rfl

/-- Waiting is about what the state remembers of the write. -/
theorem Waits.same {state₀ : PollState} (hsame : SameWrite state₀ state)
    (h : Waits c state now state') : Waits c state₀ now state' where
  committedAt := h.committedAt.trans hsame.committedAt
  writeObservedAt := h.writeObservedAt.trans hsame.writeObservedAt
  previousLifecycle := h.previousLifecycle.trans hsame.previousLifecycle
  patient := by
    rw [← hsame.sinceObserved]
    exact h.patient

/-! ### The polls -/

/-- What a part of a poll that found a write may rely on: the poll's clock reading and its
observation. -/
structure FoundWrite (c : TurnCall) (state : PollState) (write : CdpWriteLifecycleState) (now : Rat)
    (run : TurnRun) : Prop where
  remembered : state.previousLifecycle = some write
  clock : ∃ question ≤ run.asked, now = c.environment.clock question
  observation : ∃ question ≤ run.asked, ∃ snapshot,
    c.environment.getTurnObservation question = .ok snapshot ∧ snapshot.write = some write

/-- What was found is not changed by later steps. -/
theorem FoundWrite.steps {write : CdpWriteLifecycleState} {run' : TurnRun}
    (h : FoundWrite c state write now run) (hsteps : PollSteps run run') :
    FoundWrite c state write now run' where
  remembered := h.remembered
  clock := by
    obtain ⟨question, hquestion, hnow⟩ := h.clock
    exact ⟨question, hquestion.trans (asked_le_of_steps hsteps), hnow⟩
  observation := by
    obtain ⟨question, hquestion, hsnapshot⟩ := h.observation
    exact ⟨question, hquestion.trans (asked_le_of_steps hsteps), hsnapshot⟩

/-- Nor by another read of the route. -/
theorem FoundWrite.same {write : CdpWriteLifecycleState} (h : FoundWrite c state write now run)
    (hsame : SameWrite state state') : FoundWrite c state' write now run :=
  ⟨hsame.previousLifecycle.trans h.remembered, h.clock, h.observation⟩

variable {write : CdpWriteLifecycleState}

/-- A later reading of the clock is no earlier than the poll's. -/
theorem FoundWrite.clock_le (h : FoundWrite c state write now run)
    (hclock : Monotone c.environment.clock) : now ≤ c.environment.clock run.asked := by
  obtain ⟨question, hquestion, rfl⟩ := h.clock
  exact hclock hquestion

/-- Nor does a later observation show less of the write. -/
theorem FoundWrite.phase_le (h : FoundWrite c state write now run) (hport : MonotoneWrite c)
    {snapshot : CdpTurnObservationSnapshot}
    (hsnapshot : c.environment.getTurnObservation run.asked = .ok snapshot) :
    writePhase (some write) ≤ writePhase snapshot.write := by
  obtain ⟨question, hquestion, snapshot', hsnapshot', hwrite⟩ := h.observation
  rw [← hwrite]
  exact hport _ _ _ _ hquestion hsnapshot' hsnapshot

/-- After the conversation was found, the next round comes while there is time for it. -/
theorem goesOn_revalidate (hclock : Monotone c.environment.clock)
    (freshLocator : ConversationLocator) (hfound : FoundWrite c state write now run)
    (htimely : ResponseTimely c state now run) :
    GoesOn (Waits c state now) (revalidate c state freshLocator) run := by
  rw [revalidate]
  refine goesOn_bind_of (wp_follows (follows_readCurrentRoute state freshLocator)
    (wp_readCurrentRoute_same freshLocator)) fun found run₁ h₁ => ?_
  obtain ⟨current, state₁⟩ := found
  obtain ⟨hsteps₁, hsame⟩ := h₁
  refine goesOn_bind c follows_readTurnObservation fun snapshot run₂ hsteps₂ =>
    goesOn_bind c steps_isAborted fun aborted run₃ hsteps₃ =>
      goesOn_bind c (follows_updateResponseDelivery snapshot aborted) fun _ run₄ hsteps₄ => ?_
  have hsteps := ((hsteps₁.trans hsteps₂).trans hsteps₃).trans hsteps₄
  rcases snapshot.write with _ | _ | _ | _
  · exact goesOn_failClosed _
  · exact goesOn_failClosed _
  · refine goesOn_bind c steps_isAborted fun aborted run₅ hsteps₅ =>
      goesOn_ite (fun _ => goesOn_throwOrFailClosed _) fun _ => ?_
    cases current with
    | some locator =>
      refine wp_mono (goesOn_finishFresh locator
        ((htimely.steps (hsteps.trans hsteps₅)).same hsame)) (fun outcome _ h => ?_) fun _ _ h => h
      exact fun state' houtcome => (h state' houtcome).same hsame
    | none =>
      rw [GoesOn, wp_bind, wp_ask]
      refine goesOn_ite (fun _ => goesOn_throwConversationNotCreated _) fun htime => ?_
      have hnow := (hfound.steps (hsteps.trans hsteps₅)).clock_le hclock
      rw [not_le, hsame.sinceObserved] at htime
      exact goesOn_again (.of_fresh hsame ((sub_le_sub_right hnow _).trans_lt htime))
  · exact goesOn_throwOrFailClosed _

/-- A write that is over leads on only while the conversation may still come. -/
theorem goesOn_settle (hclock : Monotone c.environment.clock)
    (hfound : FoundWrite c state write now run)
    (hactive : write ≠ .FINISHED → state.sinceObserved now < c.options.writeSettlementTimeoutMs)
    (htimely : state.callerCancelled = false → ResponseTimely c state now run) :
    GoesOn (Waits c state now) (settle c state write now) run := by
  rw [settle]
  refine goesOn_bind c steps_isAborted fun aborted run₁ hsteps₁ =>
    goesOn_bind c (steps_record rfl) fun _ run₂ hsteps₂ =>
      goesOn_ite (fun _ => goesOn_throwOrFailClosed _) fun hlive => ?_
  have hsteps := hsteps₁.trans hsteps₂
  have hcancelled : state.callerCancelled = false := by simp_all
  have hsame : ∀ freshLocator, SameWrite state
      { state with callerCancelled := state.callerCancelled || aborted, freshLocator } :=
    fun _ => ⟨rfl, rfl, rfl⟩
  dsimp only
  cases state.freshLocator with
  | some freshLocator =>
    refine wp_mono (goesOn_revalidate hclock freshLocator ((hfound.steps hsteps).same (hsame _))
      (((htimely hcancelled).steps hsteps).same (hsame _))) (fun outcome _ h => ?_) fun _ _ h => h
    exact fun state' houtcome => (h state' houtcome).same (hsame _)
  | none =>
    refine goesOn_ite (fun _ => goesOn_throwConversationNotCreated _) fun htime => goesOn_again ?_
    by_cases hfinished : write = .FINISHED
    · rw [not_and, not_le] at htime
      exact .of_fresh (hsame _) (htime hfinished)
    · exact .of_settlement (hsame _) (hactive hfinished)

/-- A write that is active leads on only while it may still settle. -/
theorem goesOn_settleUnlessActive (hclock : Monotone c.environment.clock)
    (hfound : FoundWrite c state write now run)
    (hactive : write ≠ .FINISHED → state.sinceObserved now < c.options.writeSettlementTimeoutMs)
    (htimely : state.callerCancelled = false → ResponseTimely c state now run) :
    GoesOn (Waits c state now) (settleUnlessActive c state write now) run := by
  refine goesOn_ite (fun hwaits => goesOn_again (.of_settlement (.refl state) (hactive ?_)))
    fun _ => goesOn_settle hclock hfound hactive htimely
  rintro rfl
  simp at hwaits

/-- Looking for the conversation takes no longer than the options say. -/
theorem goesOn_lookForConversation (hclock : Monotone c.environment.clock) (hport : MonotoneWrite c)
    (hfound : FoundWrite c state write now run)
    (hactive : write ≠ .FINISHED → state.sinceObserved now < c.options.writeSettlementTimeoutMs)
    (htimely : state.callerCancelled = false → ResponseTimely c state now run) :
    GoesOn (Waits c state now) (lookForConversation c state write now) run := by
  refine goesOn_ite (fun _ => ?_) fun _ => goesOn_settleUnlessActive hclock hfound hactive htimely
  refine goesOn_bind_of (wp_follows (follows_readFreshRoute state write)
    (wp_readFreshRoute_rerouted write)) fun state₁ run₁ h₁ => ?_
  obtain ⟨hsteps₁, hrerouted⟩ := h₁
  have hsame := hrerouted.toSameWrite
  refine goesOn_bind_of (wp_follows follows_readTurnObservation wp_readTurnObservation_answer)
    fun snapshot run₂ h₂ => ?_
  obtain ⟨hsteps₂, hanswer⟩ := h₂
  have hphase := (hfound.steps hsteps₁).phase_le hport hanswer
  refine goesOn_bind c steps_isAborted fun aborted run₃ hsteps₃ =>
    goesOn_bind c (follows_updateResponseDelivery snapshot _) fun _ run₄ hsteps₄ => ?_
  have hsteps := ((hsteps₁.trans hsteps₂).trans hsteps₃).trans hsteps₄
  rcases hwrite : snapshot.write with _ | _ | _ | _
  · exact goesOn_failClosed _
  · -- the write was active before, so what is remembered of it does not change
    have hactive₁ : write = .ACTIVE := by
      rw [hwrite] at hphase
      cases write with
      | ACTIVE => rfl
      | FINISHED | FAILED => exact absurd hphase (by decide)
    have hremembered : state₁.previousLifecycle = some .ACTIVE := by
      rw [hsame.previousLifecycle, hfound.remembered, hactive₁]
    refine goesOn_ite (fun hforgotten => absurd hremembered hforgotten) fun _ => goesOn_again ?_
    refine .of_settlement ⟨hsame.committedAt, hsame.writeObservedAt, ?_⟩ (hactive ?_)
    · rw [hfound.remembered, hactive₁]
    · rw [hactive₁]
      decide
  · refine wp_mono (goesOn_settleUnlessActive hclock ((hfound.steps hsteps).same hsame)
      (fun hfinished => ?_) fun hlive => ?_) (fun outcome _ h => ?_) fun _ _ h => h
    · rw [hsame.sinceObserved]
      exact hactive hfinished
    · rw [hrerouted.callerCancelled] at hlive
      exact ((htimely hlive).steps hsteps).same hsame
    · exact fun state' houtcome => (h state' houtcome).same hsame
  · exact goesOn_throwOrFailClosed _

/-- After the response's deadline was applied, the response is timely. -/
theorem wp_applyResponseDeadline_timely :
    wp (applyResponseDeadline c state.callerCancelled (state.sinceObserved now))
      (fun _ run' => state.callerCancelled = false → ResponseTimely c state now run')
      (fun _ _ => True) run := by
  rw [applyResponseDeadline, wp_bind, wp_readResponse]
  cases hstate : run.responseState with
  | none =>
    -- Without a response no deadline expires.
    refine fun _ => .inr ?_
    rw [Expired, hstate]
    exact fun _ hnone => nomatch hnone
  | some response =>
    dsimp only
    rw [wp_onlyIf]
    split
    · -- The deadline has passed: the response is failed, and discarded.
      rw [failResponse, wp_bind]
      have hsome : run.responseState.isSome = true := by
        rw [hstate]
        rfl
      refine wp_mono (wp_recordTerminalError_failed (E := fun _ _ => True) _ hsome)
        (fun _ run₁ hfailed => ?_) fun _ _ h => h
      refine wp_mono (follows_discardResponse (c := c) false run₁) (fun _ run₂ hsteps _ => ?_)
        fun _ _ _ => trivial
      obtain ⟨response', error, hresponse', hterminal⟩ := failed_of_steps hsteps hfailed
      refine .inr ?_
      rw [Expired, hresponse']
      rintro _ ⟨⟩
      rw [hterminal]
      exact .inr rfl
    · -- The deadline is ahead, or the response has ended, or the caller does not wait for it.
      rename_i hpast
      intro hlive
      simp only [hlive, Bool.false_or, Bool.not_eq_eq_eq_not, Bool.not_true, Bool.not_eq_false,
        Bool.or_eq_true, decide_eq_true_eq] at hpast
      rcases hpast with hended | htime
      · refine .inr ?_
        rw [Expired, hstate]
        rintro _ ⟨⟩
        exact hended
      · exact .inl htime

/-- Whatever a poll finds of the write, it goes on only within one of the three patiences. -/
theorem goesOn_pollWrite (hclock : Monotone c.environment.clock) (hport : MonotoneWrite c)
    (hfound : FoundWrite c state write now run) :
    GoesOn (Waits c state now) (pollWrite c state write now) run := by
  unfold pollWrite
  refine goesOn_bind_of (wp_follows (follows_applyResponseDeadline _ _)
    wp_applyResponseDeadline_timely) fun _ run₁ h₁ => ?_
  obtain ⟨hsteps₁, htimely⟩ := h₁
  have hfound₁ := hfound.steps hsteps₁
  cases write with
  | ACTIVE =>
    refine goesOn_ite (fun _ => goesOn_failClosed _) fun htime => ?_
    exact goesOn_lookForConversation hclock hport hfound₁ (fun _ => not_le.mp htime) htimely
  | FAILED => exact goesOn_throwOrFailClosed _
  | FINISHED =>
    have hlook : GoesOn (Waits c state now) (lookForConversation c state .FINISHED now) run₁ :=
      goesOn_lookForConversation hclock hport hfound₁ (fun h => absurd rfl h) htimely
    dsimp only
    cases c.target with
    | thread threadHandle => exact goesOn_finishThread threadHandle htimely
    | fresh => exact hlook
    | project _ => exact hlook

/-! ### A poll -/

/-- What the loop remembers of the write, it has observed. -/
structure Remembers (c : TurnCall) (state : PollState) (run : TurnRun) : Prop where
  unobserved : state.previousLifecycle = none → state.writeObservedAt = none
  observed : ∀ write, state.previousLifecycle = some write → state.writeObservedAt.isSome = true ∧
    ∃ question ≤ run.asked, ∃ snapshot,
      c.environment.getTurnObservation question = .ok snapshot ∧ snapshot.write = some write

/-- What a round that goes on comes to, from the reading of the clock at its start. -/
inductive Waited (c : TurnCall) (state : PollState) (now : Rat) (state' : PollState) : Prop
  | unobserved (hbefore : state.writeObservedAt = none) (hafter : state'.writeObservedAt = none)
    (hcommitted : state'.committedAt = state.committedAt)
    (htime : now - state.committedAt < c.options.writeObservationTimeoutMs)
  | observed {observedAt : Rat}
    (hbefore : state.writeObservedAt = none ∧ observedAt = now ∨
      state.writeObservedAt = some observedAt)
    (hafter : state'.writeObservedAt = some observedAt)
    (htime : now - observedAt < c.options.patience)

/-- The lifecycle that a round leaves is what it observed, or there is still none. -/
def Observed (c : TurnCall) (question : ℕ) (state' : PollState) : Prop :=
  match state'.previousLifecycle with
  | none => state'.writeObservedAt = none
  | some write => state'.writeObservedAt.isSome = true ∧ ∃ snapshot,
      c.environment.getTurnObservation question = .ok snapshot ∧ snapshot.write = some write

/-- When the write of this round counts as observed: at its first observation, and no later. -/
theorem Remembers.observeWrite (h : Remembers c state run) (hport : MonotoneWrite c) (now : Rat)
    {question : ℕ} (hquestion : run.asked ≤ question) {snapshot : CdpTurnObservationSnapshot}
    (hanswer : c.environment.getTurnObservation question = .ok snapshot)
    (hwrite : snapshot.write = some write) :
    ∃ observedAt, (state.observeWrite write now).writeObservedAt = some observedAt ∧
      (state.writeObservedAt = none ∧ observedAt = now ∨
        state.writeObservedAt = some observedAt) := by
  rw [PollState.observeWrite]
  dsimp only
  cases hat : state.writeObservedAt with
  | none => exact ⟨now, by simp, .inl ⟨rfl, rfl⟩⟩
  | some observedAt =>
    refine ⟨observedAt, ?_, .inr rfl⟩
    cases hprevious : state.previousLifecycle with
    | none =>
      rw [h.unobserved hprevious] at hat
      cases hat
    | some previous =>
      obtain ⟨-, earlier, hearlier, snapshot', hanswer', hprevious'⟩ :=
        h.observed previous hprevious
      have hphase := hport _ _ _ _ (hearlier.trans hquestion) hanswer' hanswer
      rw [hprevious', hwrite] at hphase
      refine if_neg ?_
      rintro (hnone | ⟨hended, rfl⟩)
      · cases hnone
      · cases previous with
        | ACTIVE => exact hended rfl
        | FINISHED | FAILED => exact absurd hphase (by decide)

/-- A poll that goes on has waited, and remembers what it saw. -/
theorem goesOn_poll (hclock : Monotone c.environment.clock) (hport : MonotoneWrite c)
    (hremembers : Remembers c state run) :
    GoesOn (fun state' => Waited c state (c.environment.clock run.asked) state' ∧
      Observed c (run.asked + 1) state') (poll c state) run := by
  rw [poll, GoesOn, wp_bind, wp_isAborted, wp_bind, wp_record, wp_bind, wp_ask]
  refine goesOn_bind_of (wp_follows follows_readTurnObservation wp_readTurnObservation_answer)
    fun snapshot run₁ h₁ => ?_
  obtain ⟨hsteps₁, hanswer⟩ := h₁
  refine goesOn_bind c (follows_updateResponseDelivery snapshot _) fun _ run₂ hsteps₂ => ?_
  have hasked : run.asked + 1 ≤ run₂.asked := asked_le_of_steps (hsteps₁.trans hsteps₂)
  dsimp only [TurnRun.log] at hanswer ⊢
  cases hwrite : snapshot.write with
  | none =>
    -- a write that was observed does not go away
    have hunobserved : state.previousLifecycle = none := by
      cases hprevious : state.previousLifecycle with
      | none => rfl
      | some previous =>
        obtain ⟨-, earlier, hearlier, snapshot', hanswer', hprevious'⟩ :=
          hremembers.observed previous hprevious
        have hphase := hport _ _ _ _ (hearlier.trans (Nat.le_succ _)) hanswer' hanswer
        rw [hprevious', hwrite] at hphase
        cases previous <;> exact absurd hphase (by decide)
    have hnone := hremembers.unobserved hunobserved
    refine goesOn_ite (fun _ => goesOn_failClosed _) fun htime => goesOn_again ?_
    refine ⟨.unobserved hnone hnone rfl (not_le.mp htime), ?_⟩
    rw [Observed]
    dsimp only
    rw [hunobserved]
    exact hnone
  | some write =>
    obtain ⟨observedAt, hat, hbefore⟩ :=
      hremembers.observeWrite hport (c.environment.clock run.asked) (Nat.le_succ _) hanswer hwrite
    have hfound : FoundWrite c (PollState.observeWrite
        { state with callerCancelled := state.callerCancelled || abortedAt c run.asked }
        write (c.environment.clock run.asked)) write (c.environment.clock run.asked) run₂ :=
      ⟨rfl, ⟨run.asked, (Nat.le_succ _).trans hasked, rfl⟩,
        ⟨run.asked + 1, hasked, snapshot, hanswer, hwrite⟩⟩
    refine wp_mono (goesOn_pollWrite hclock hport hfound) (fun outcome _ h state' houtcome => ?_)
      fun _ _ h => h
    have hwaits := h state' houtcome
    have hafter : state'.writeObservedAt = some observedAt := hwaits.writeObservedAt.trans hat
    refine ⟨.observed hbefore hafter ?_, ?_⟩
    · have hpatient := hwaits.patient
      rw [PollState.sinceObserved, ← hwaits.writeObservedAt, hafter] at hpatient
      exact hpatient
    · rw [Observed, hwaits.previousLifecycle, hfound.remembered]
      exact ⟨by rw [hafter]; rfl, snapshot, hanswer, hwrite⟩

end Round

/-! ## The loop -/

/-- The rounds that the loop can still make. -/
def roundsLeft (options : TurnExecutorOptions) (δ : Rat) (state : PollState) (now : Rat) : ℕ :=
  match state.writeObservedAt with
  | none =>
    Deadline.rounds δ (options.writeObservationTimeoutMs - (now - state.committedAt)) +
      Deadline.rounds δ options.patience
  | some observedAt => Deadline.rounds δ (options.patience - (now - observedAt))

section Loop

variable {δ : Rat} {state state' : PollState} {run : TurnRun}

/-- A round that goes on has one round less before it. -/
theorem roundsLeft_lt (hδ : 0 < δ) {now later : Rat} (h : Waited c state now state')
    (hlater : now + δ ≤ later) :
    roundsLeft c.options δ state' later < roundsLeft c.options δ state now := by
  cases h with
  | unobserved hbefore hafter hcommitted htime =>
    rw [roundsLeft, roundsLeft, hbefore, hafter, hcommitted]
    exact Nat.add_lt_add_right (Deadline.rounds_lt hδ (by linarith) (by linarith)) _
  | @observed observedAt hbefore hafter htime =>
    have hless : Deadline.rounds δ (c.options.patience - (later - observedAt)) <
        Deadline.rounds δ (c.options.patience - (now - observedAt)) :=
      Deadline.rounds_lt hδ (by linarith) (by linarith)
    rw [roundsLeft, hafter]
    rcases hbefore with ⟨hbefore, rfl⟩ | hbefore
    · rw [roundsLeft, hbefore]
      rw [sub_self, sub_zero] at hless
      exact hless.trans_le (Nat.le_add_left _ _)
    · rw [roundsLeft, hbefore]
      exact hless

/-- A clock that is steady from one round is steady from the next. -/
theorem SteadyClock.next {start next : PollState × TurnRun} (h : SteadyClock c δ start)
    (hround : Round c start next) : SteadyClock c δ next where
  monotone := h.monotone
  advances before after hreached := h.advances before after (.head hround hreached)

/-- With more fuel than rounds are left, the loop ends. -/
theorem pollLoop_settles (hδ : 0 < δ) (hport : MonotoneWrite c) (fuel : ℕ)
    (hclock : SteadyClock c δ (state, run)) (hremembers : Remembers c state run)
    (hfuel : roundsLeft c.options δ state (c.environment.clock run.asked) < fuel) :
    wp (pollLoop c fuel state) (fun _ _ => True) (fun i _ => i ≠ .pending) run := by
  -- The induction is on the fuel: a round that goes on leaves fewer rounds.
  induction fuel generalizing state run with
  | zero => omega
  | succ fuel ih =>
    have hpoll := wp_and (goesOn_poll hclock.monotone hport hremembers) (follows_poll state run)
    rw [pollLoop, wp_bind]
    unfold wp at hpoll ⊢
    rcases houtcome : poll c state run with ⟨i | outcome, run'⟩
    · rw [houtcome] at hpoll
      exact hpoll.1
    · rw [houtcome] at hpoll
      obtain ⟨hgoesOn, hsteps⟩ := hpoll
      cases outcome with
      | done result => trivial
      | again state' =>
        obtain ⟨hwaited, hobserved⟩ := hgoesOn state' rfl
        have hround : Round c (state, run) (state', { run' with asked := run'.asked + 1 }) :=
          .intro houtcome
        have hadvance := hclock.advances _ _ .refl hround
        have hasked : run.asked + 1 ≤ run'.asked + 1 := Nat.succ_le_succ (asked_le_of_steps hsteps)
        -- What the next round starts from is what this one has read and left.
        refine ih (hclock.next hround) ?_ ?_
        · rw [Observed] at hobserved
          constructor
          · intro hnone
            rw [hnone] at hobserved
            exact hobserved
          · intro write hwrite
            rw [hwrite] at hobserved
            obtain ⟨hsome, snapshot, hanswer, hsnapshot⟩ := hobserved
            exact ⟨hsome, run.asked + 1, hasked, snapshot, hanswer, hsnapshot⟩
        · have hless := roundsLeft_lt hδ hwaited hadvance
          dsimp only at hless ⊢
          omega

/-- The loop at its first round. -/
def loopStart (c : TurnCall) (initiallyCancelled : Bool) (run : TurnRun) : PollState × TurnRun :=
  ({ committedAt := c.environment.clock run.asked, callerCancelled := initiallyCancelled },
    { run with asked := run.asked + 1 })

/-- Where the write only goes forward and the clock advances by `δ` in each round, the loop of
`waitForTurnOutcome` ends within `roundBound` rounds: with that much fuel, or more, it settles. -/
theorem waitForTurnOutcome_settles (c : TurnCall) (δ : Rat) (fuel : ℕ) (initiallyCancelled : Bool)
    (run : TurnRun) (hδ : 0 < δ) (hport : MonotoneWrite c)
    (hclock : SteadyClock c δ (loopStart c initiallyCancelled run))
    (hfuel : c.options.roundBound δ ≤ fuel) :
    (waitForTurnOutcome c fuel initiallyCancelled run).1 ≠ .error .pending := by
  have hsettles : wp (waitForTurnOutcome c fuel initiallyCancelled) (fun _ _ => True)
      (fun i _ => i ≠ .pending) run := by
    rw [waitForTurnOutcome, wp_bind, wp_ask]
    refine pollLoop_settles hδ hport fuel hclock ⟨fun _ => rfl, fun _ h => nomatch h⟩ ?_
    have hstart : c.environment.clock run.asked ≤ c.environment.clock (run.asked + 1) :=
      hclock.monotone (Nat.le_succ _)
    have hfirst : Deadline.rounds δ (c.options.writeObservationTimeoutMs -
        (c.environment.clock (run.asked + 1) - c.environment.clock run.asked)) ≤
          Deadline.rounds δ c.options.writeObservationTimeoutMs :=
      Deadline.rounds_mono hδ (by linarith)
    rw [TurnExecutorOptions.roundBound] at hfuel
    rw [roundsLeft]
    dsimp only
    omega
  intro hpending
  unfold wp at hsettles
  rcases houtcome : waitForTurnOutcome c fuel initiallyCancelled run with ⟨i | result, run'⟩
  · rw [houtcome] at hsettles hpending
    exact hsettles (Except.error.inj hpending)
  · rw [houtcome] at hpending
    cases hpending

/-- A turn of a thread whose write stays active, under a clock that every question advances. -/
def activeTurn : TurnCall where
  environment :=
    { smoothEnvironment fun _ => { prepareCount := 0, response := none, write := some .ACTIVE } with
      clock := fun question => question }
  parseUrl _ := none
  target := .thread "tw_a"
  text := Text.of "hi"
  lease := ⟨1, ⟨7, "a"⟩⟩
  listening := false

/-- A write that stays active never goes back. -/
theorem monotoneWrite_active : MonotoneWrite activeTurn := by
  rintro _ _ snapshot snapshot' _ ⟨⟩ ⟨⟩
  exact le_refl _

/-- The clock advances with each question. -/
theorem steadyClock_active (start : PollState × TurnRun) : SteadyClock activeTurn 1 start where
  monotone := Nat.mono_cast
  advances := by
    rintro _ _ - ⟨houtcome⟩
    rename_i state state' run run'
    have hsteps : PollSteps run run' := by
      have hwp := wp_apply (follows_poll (c := activeTurn) state run)
      rw [houtcome] at hwp
      exact hwp
    have hasked : run.asked + 1 ≤ run'.asked + 1 := Nat.succ_le_succ (asked_le_of_steps hsteps)
    show (run.asked : Rat) + 1 ≤ ((run'.asked + 1 : ℕ) : Rat)
    exact_mod_cast hasked

/-- Under the timeouts of the defaults it settles all the same. -/
theorem waitForTurnOutcome_settles_active :
    (waitForTurnOutcome activeTurn 135001 false { registry := oneThread }).1 ≠ .error .pending := by
  refine waitForTurnOutcome_settles activeTurn 1 135001 false { registry := oneThread } one_pos
    monotoneWrite_active (steadyClock_active _) ?_
  have hpatience : max (120000 : Rat) 15000 = 120000 := max_eq_left (by norm_num)
  simp [hpatience, TurnExecutorOptions.roundBound, TurnExecutorOptions.patience, Deadline.rounds,
    activeTurn, DEFAULT_TURN_WRITE_OBSERVATION_TIMEOUT_MS, DEFAULT_TURN_WRITE_SETTLEMENT_TIMEOUT_MS,
    DEFAULT_TURN_RESPONSE_COMPLETION_TIMEOUT_MS, DEFAULT_FRESH_CONVERSATION_TIMEOUT_MS]

end Loop

end TurnExecutor

end Threadwire
