import Mathlib.Logic.Relation
import Threadwire.Effect.Frame
import Threadwire.Turn.TurnRules

/-!
# The steps of a turn after its submission

Once a turn is submitted, everything it does to its run is a sequence of `PollStep`s: it asks a
question, records an action of the polls, changes the response state in one of six ways, or changes
what it registers. A part of the turn `Follows` these steps if it throws only what the executor
throws after the commit point. Whatever is to be shown of a poll, of the loop or of the whole rest
of a turn is a fact about one step.
-/

namespace Threadwire

namespace ThrownError

/-- The errors that tell a caller that nothing was submitted. -/
def isRetryable (error : ThrownError) : Bool :=
  error.isInstance .turnInputFailed || error.isInstance .cdpDisconnected

/-- Of the program's own errors, two say that nothing was submitted. -/
@[simp] theorem isRetryable_ofCode (code : ThreadwireErrorCode) :
    (ofCode code).isRetryable =
      (decide (code = .turnInputFailed) || decide (code = .cdpDisconnected)) := by
  simp [isRetryable]

/-- A cause does not change what an error says. -/
@[simp] theorem isRetryable_withCause (error : ThrownError) (cause : Option ThrownError) :
    (error.withCause cause).isRetryable = error.isRetryable := by
  simp [isRetryable]

/-- A changed generation is not an error to try again after. -/
theorem isRetryable_of_generationChanged {error : ThrownError}
    (h : error.isInstance .runtimeGenerationChanged = true) : error.isRetryable = false := by
  have hclass : error.head.errorClass = .threadwire .runtimeGenerationChanged := by
    simpa [isInstance] using h
  simp [isRetryable, isInstance, hclass]

end ThrownError

namespace TurnAction

/-- The actions of a turn between its submission and the release. -/
def isAftermath : TurnAction → Bool
  | .dispatched command | .returned command => command == .getCurrentConversationLocator
  | .observed _ | .polled _ | .checkedCancellation _ _ | .routeRead _ | .delivered _ _
  | .failedResponse _ | .registered _ _ | .reserved _ _ | .rolledBack _ | .markedUncertain _
  | .generationChanged => true
  | .armedTurnObservation _ | .committed | .releasedTurnObservation _ => false

end TurnAction

/-- The ways to change the response state. -/
inductive ResponseStep : ResponseDeliveryState → ResponseDeliveryState → Prop
  | discarded (state : ResponseDeliveryState) : ResponseStep state { state with discarded := true }
  | completed (state : ResponseDeliveryState) :
    ResponseStep state { state with semanticCompleted := true }
  | accumulated (state : ResponseDeliveryState) (text : Text) :
    ResponseStep state { state with accumulatedText := state.accumulatedText ++ text }
  | undeferred (state : ResponseDeliveryState) :
    ResponseStep state { state with deliveryDeferred := false }
  | finalized (state : ResponseDeliveryState) : ResponseStep state { state with finalized := true }
  | failed (state : ResponseDeliveryState) (error : ThrownError)
    (herror : error.isRetryable = false) (hnone : state.terminalError = none) :
    ResponseStep state { state with terminalError := some error }

/-- One step of a turn after its submission. -/
inductive PollStep : TurnRun → TurnRun → Prop
  | asked (run : TurnRun) : PollStep run { run with asked := run.asked + 1 }
  | logged (run : TurnRun) (action : TurnAction) (h : action.isAftermath = true) :
    PollStep run (run.log action)
  | responded (run : TurnRun) (state state' : ResponseDeliveryState)
    (hstate : run.responseState = some state) (h : ResponseStep state state') :
    PollStep run { run with responseState := some state' }
  | registering (run : TurnRun) (registry : ThreadRegistry)
    (projectRegistration : Option ProvisionalThreadRegistrationResult)
    (pendingProjectCompletion : Option PendingProjectCompletion) :
    PollStep run { run with registry, projectRegistration, pendingProjectCompletion }

/-- A sequence of such steps. -/
abbrev PollSteps : TurnRun → TurnRun → Prop := Relation.ReflTransGen PollStep

namespace TurnExecutor

open Effect

/-- What the executor throws after the commit point: an error that no caller takes for a failure
before it, the error that the response has come to, or what the registry's handle factory threw. -/
inductive PostCommitError (c : TurnCall) : Interrupt ThrownError → TurnRun → Prop
  | own {error : ThrownError} {run : TurnRun} (h : error.isRetryable = false) :
    PostCommitError c (.thrown error) run
  | response {error : ThrownError} {run : TurnRun} {state : ResponseDeliveryState}
    (hstate : run.responseState = some state) (herror : state.terminalError = some error) :
    PostCommitError c (.thrown error) run
  | handleFactory {error : ThrownError} {run : TurnRun} {question attempt : ℕ}
    (h : c.environment.handleFactory question attempt = .error error) :
    PostCommitError c (.thrown error) run

/-- The part of a turn takes such steps, and throws such errors. -/
abbrev Follows (c : TurnCall) {α : Type} (x : TurnM α) : Prop :=
  Moves PollSteps (PostCommitError c) x

/-- The part of a turn takes such steps, and settles. -/
abbrev Settles {α : Type} (x : TurnM α) : Prop := Moves PollSteps (fun i _ => i ≠ .pending) x

variable {c : TurnCall} {α : Type}

/-- What the executor throws after the commit point is an error, and not that it hangs. -/
theorem PostCommitError.not_pending {run : TurnRun} : ¬ PostCommitError c .pending run := nofun

/-! ## Questions, records and commands -/

section Primitives

variable {P : Interrupt ThrownError → TurnRun → Prop}

/-- A question is an aftermath. -/
theorem steps_ask (answers : ℕ → α) : Moves PollSteps P (ask answers) :=
  fun run => .single (.asked run)

/-- So is an action that may come after the submission. -/
theorem steps_record {action : TurnAction} (h : action.isAftermath = true) :
    Moves PollSteps P (record action) :=
  fun run => .single (.logged run action h)

/-- The signal may be looked at. -/
theorem steps_isAborted : Moves PollSteps P (isAborted c) := fun run => refl run

/-- And the response. -/
theorem steps_readResponse : Moves PollSteps P readResponse := fun run => refl run

/-- The response changes in one of the ways that it may. -/
theorem steps_modifyResponse {f : ResponseDeliveryState → ResponseDeliveryState}
    (hf : ∀ state, ResponseStep state (f state)) : Moves PollSteps P (modifyResponse f) := by
  intro run
  rw [wp_modifyResponse]
  cases hstate : run.responseState with
  | none =>
    rw [Option.map_none, ← hstate]
  | some state => exact .single (.responded run state (f state) hstate (hf state))

/-- The registry, and what the turn holds in it. -/
theorem steps_registering {f : TurnRun → TurnRun}
    (hf : ∀ run, f run = { run with
      registry := (f run).registry
      projectRegistration := (f run).projectRegistration
      pendingProjectCompletion := (f run).pendingProjectCompletion }) :
    Moves PollSteps P (modify f : TurnM PUnit) := by
  refine moves_modify fun run => ?_
  rw [hf run]
  exact .single (.registering run _ _ _)

/-- A route command is raced against its timeout, so it settles. -/
theorem settles_routeCommand (message : String) (answers : ℕ → CommandRace α) :
    Settles (withTimeout c false message .getCurrentConversationLocator answers) := by
  refine (moves_pure ()).bind fun _ => (steps_record rfl).bind fun _ =>
    (steps_ask answers).bind fun race => ?_
  rcases race with (error | a) | _ | _
  · exact moves_fail fun _ => nofun
  · exact (steps_record rfl).bind fun _ => moves_pure a
  · exact moves_fail fun _ => nofun
  · exact steps_isAborted.bind fun _ => .ite (fun _ => moves_fail fun _ => nofun)
      fun _ => moves_fail fun _ => nofun

/-- Failing closed marks the lease, and its error is none to try again after. -/
theorem follows_failClosed (cause : ThrownError) : Follows c (failClosed c cause : TurnM α) :=
  (steps_record rfl).bind fun _ => moves_fail fun _ => .own (by simp)

/-- A changed generation is thrown on after it was noted. -/
theorem follows_rethrow {error : ThrownError}
    (h : error.isInstance .runtimeGenerationChanged = true) :
    Follows c (rethrowGenerationChange error : TurnM α) :=
  (steps_record rfl).bind fun _ => moves_fail fun _ =>
    .own (ThrownError.isRetryable_of_generationChanged h)

/-- Any other error is thrown on, or makes the turn fail closed. -/
theorem follows_throwOrFailClosed {error : ThrownError} (h : error.isRetryable = false) :
    Follows c (throwOrFailClosed c error : TurnM α) :=
  .ite (fun _ => follows_failClosed error) fun _ => moves_fail fun _ => .own h

/-- That no conversation was created is no error to try again after. -/
theorem follows_throwConversationNotCreated (cause : Option ThrownError) :
    Follows c (throwConversationNotCreated c cause) :=
  .ite (fun _ => follows_failClosed _) fun _ => moves_fail fun _ =>
    .own (by simp [conversationNotCreated])

/-- That the write failed is none either. -/
theorem follows_throwWriteFailed : Follows c (throwWriteFailed c) :=
  follows_throwOrFailClosed (by simp)

/-- Nor is the abort by the caller. -/
theorem isRetryable_operationAborted : (operationAborted c).isRetryable = false := by
  simp [operationAborted]

/-- An observation that cannot be read fails closed. -/
theorem follows_readTurnObservation : Follows c (readTurnObservation c) := by
  refine (steps_ask _).bind fun answer => ?_
  rcases answer with error | snapshot
  · exact .ite follows_rethrow fun _ => follows_failClosed error
  · exact (steps_record rfl).bind fun _ => moves_pure snapshot

end Primitives

/-! ## The delivery of the response -/

section Response

/-- The terminal error of a response is none to try again after. -/
theorem follows_recordTerminalError {error : ThrownError} (herror : error.isRetryable = false) :
    Follows c (recordTerminalError error) := by
  intro run
  simp only [recordTerminalError, wp_bind, wp_readResponse]
  cases hstate : run.responseState with
  | none => exact .refl
  | some state =>
    dsimp only
    cases hnone : state.terminalError with
    | some _ => exact .refl
    | none =>
      simp only [wp_bind, wp_modifyResponse, wp_record, hstate, Option.map_some]
      exact .tail (.single (.responded run state _ hstate (.failed state error herror hnone)))
        (.logged _ (.failedResponse error) rfl)

/-- A discarded response takes no more events, and a failure to discard it is its terminal error. -/
theorem follows_discardResponse (cancellation : Bool) :
    Follows c (discardResponse c cancellation) := by
  refine steps_readResponse.bind fun state => ?_
  cases state with
  | none => exact moves_pure ()
  | some state =>
    refine .ite (fun _ => moves_pure ()) fun _ => (steps_modifyResponse .discarded).bind fun _ => ?_
    refine .ite (fun _ => .onlyIf fun _ => follows_recordTerminalError (by simp)) fun _ => ?_
    refine (steps_ask _).bind fun answer => ?_
    rcases answer with error | _
    · refine .ite follows_rethrow fun _ => .ite (fun _ => follows_failClosed error) fun _ => ?_
      exact .onlyIf fun _ => follows_recordTerminalError (by simp)
    · exact moves_pure ()

/-- A response that fails is discarded as well. -/
theorem follows_failResponse {error : ThrownError} (herror : error.isRetryable = false) :
    Follows c (failResponse c error) :=
  (follows_recordTerminalError herror).bind fun _ => follows_discardResponse false

/-- What the listener throws is not thrown on. -/
theorem follows_callListener (event : ResponseStreamEvent) : Follows c (callListener c event) :=
  (steps_ask _).bind fun _ => (steps_record rfl).bind fun _ => moves_pure _

/-- The text is accumulated in the response. -/
theorem follows_accumulate (text : Text) : Follows c (accumulate text) :=
  steps_modifyResponse fun state => .accumulated state text

/-- Events are delivered one by one, until one makes the response fail. -/
theorem follows_deliverEvents (events : List NormalizedResponseStreamEvent) :
    Follows c (deliverEvents c events) := by
  -- the events are delivered in order, the first one before those behind it
  induction events with
  | nil => exact moves_pure ()
  | cons event events ih =>
    cases event with
    | completed => exact (steps_modifyResponse .completed).bind fun _ => ih
    | textDelta text =>
      refine steps_readResponse.bind fun state => ?_
      cases state with
      | none => exact moves_pure ()
      | some state =>
        have hfail : Follows c (failResponse c (.ofCode .responseStreamFailed)) :=
          follows_failResponse (by simp)
        have hrest : Follows c (accumulate text >>= fun _ => deliverEvents c events) :=
          (follows_accumulate text).bind fun _ => ih
        refine .ite (fun _ => hfail) fun _ => .ite (fun _ => hrest) fun _ => ?_
        exact (follows_callListener _).bind fun _ => .ite (fun _ => hrest) fun _ => hfail

/-- Events that cannot be taken make the response fail. -/
theorem follows_deliverNormalizedEvents : Follows c (deliverNormalizedEvents c) := by
  refine .ite (fun _ => follows_failResponse (by simp)) fun _ => (steps_ask _).bind fun answer => ?_
  rcases answer with error | events
  · exact .ite follows_rethrow fun _ => .ite (fun _ => follows_failClosed error) fun _ =>
      follows_failResponse (by simp)
  · exact follows_deliverEvents events

/-- None of the failures of a stream is an error to try again after. -/
theorem isRetryable_responseErrorForFailure (failure : Option CdpResponseStreamFailureKind) :
    (responseErrorForFailure failure).isRetryable = false := by
  unfold responseErrorForFailure
  split <;> simp

/-- A stream that has failed or was lost makes the response fail. -/
theorem follows_followLifecycle (response : CdpTurnResponseObservation) :
    Follows c (followLifecycle c response) := by
  unfold followLifecycle
  cases response.lifecycle with
  | COMPLETED => exact steps_modifyResponse .completed
  | FAILED =>
    refine steps_readResponse.bind fun state => ?_
    cases state.bind (·.terminalError) with
    | some _ => exact moves_pure ()
    | none => exact follows_failResponse (isRetryable_responseErrorForFailure _)
  | PENDING => exact moves_pure ()
  | STREAMING => exact moves_pure ()

/-- One look at the response, between two polls. -/
theorem follows_updateResponseDelivery (snapshot : CdpTurnObservationSnapshot)
    (callerCancelled : Bool) : Follows c (updateResponseDelivery c snapshot callerCancelled) := by
  refine steps_readResponse.bind fun state => ?_
  cases state with
  | none => exact moves_pure ()
  | some state =>
    refine .ite (fun _ => follows_discardResponse true) fun _ => ?_
    cases snapshot.response with
    | none => exact .onlyIf fun _ => follows_failResponse (by simp)
    | some response =>
      exact (Moves.onlyIf fun _ => follows_deliverNormalizedEvents).bind fun _ =>
        follows_followLifecycle response

/-- A response that takes too long fails. -/
theorem follows_applyResponseDeadline (callerCancelled : Bool) (elapsed : Rat) :
    Follows c (applyResponseDeadline c callerCancelled elapsed) := by
  refine steps_readResponse.bind fun state => ?_
  cases state with
  | none => exact moves_pure ()
  | some state => exact .onlyIf fun _ => follows_failResponse (by simp)

/-- An event that is announced goes through the listener's guard. -/
theorem follows_announce (event : ResponseStreamEvent) : Follows c (announce c event) :=
  (follows_callListener event).bind fun _ =>
    (Moves.onlyIf fun _ => follows_recordTerminalError (by simp)).bind fun _ => moves_pure _

/-- The deferred conversation is announced once. -/
theorem follows_announceDeferred (state : ResponseDeliveryState) :
    Follows c (announceDeferred c state) :=
  .ite (fun _ => (follows_announce _).bind fun _ =>
    (Moves.onlyIf fun _ => steps_modifyResponse .undeferred).bind fun _ => moves_pure _)
    fun _ => moves_pure true

/-- And so is the end. -/
theorem follows_announceCompleted : Follows c (announceCompleted c) :=
  (follows_announce _).bind fun _ =>
    (Moves.onlyIf fun _ => steps_modifyResponse .finalized).bind fun _ => moves_pure _

/-- The end of the delivery, with what comes before the end is announced. -/
theorem follows_finalizeResponseDelivery {beforeCompleted : TurnM Unit}
    (hbefore : Follows c beforeCompleted) :
    Follows c (finalizeResponseDelivery c beforeCompleted) := by
  refine steps_readResponse.bind fun state => ?_
  cases state with
  | none => exact moves_pure false
  | some state =>
    refine .ite (fun _ => moves_pure true) fun _ => .ite (fun _ => moves_pure false) fun _ =>
      .ite (fun _ => ?_) fun _ => ?_
    · exact (follows_recordTerminalError (by simp)).bind fun _ => moves_pure false
    refine (follows_announceDeferred state).bind fun _ =>
      .ite (fun _ => moves_pure false) fun _ => ?_
    refine (follows_announce _).bind fun _ => .ite (fun _ => moves_pure false) fun _ => ?_
    exact hbefore.bind fun _ => follows_announceCompleted

end Response

/-! ## Routes and registrations -/

section Registrations

/-- The route is read by one command that settles. -/
theorem settles_readRoute (message : String) : Settles (readRoute c message) :=
  (settles_routeCommand message _).bind fun locator =>
    (steps_record rfl).bind fun _ => moves_pure locator

/-- A part that settles may be tried: its errors are kept as values. -/
theorem follows_attempt {x : TurnM α} (hx : Settles x) : Follows c (attempt x) :=
  hx.attempt fun _ h => h rfl

/-- What a failed read of the route comes to before there is a conversation. -/
theorem follows_freshRouteFailed (state : PollState) (write : CdpWriteLifecycleState)
    (error : ThrownError) : Follows c (freshRouteFailed c state write error) :=
  .ite follows_rethrow fun _ => .ite (fun _ => follows_failClosed error) fun _ => moves_pure _

/-- The first route of the conversation is looked for. -/
theorem follows_readFreshRoute (state : PollState) (write : CdpWriteLifecycleState) :
    Follows c (readFreshRoute c state write) := by
  refine (follows_attempt (settles_readRoute _)).bind fun read => ?_
  rcases read with error | _ | locator
  · exact follows_freshRouteFailed state write error
  · exact moves_pure _
  · dsimp only
    rcases ownsConversation c locator with error | _ | _
    · exact follows_freshRouteFailed _ write error
    · exact moves_pure _
    · exact moves_pure _

/-- What a failed read comes to after that. -/
theorem follows_currentRouteFailed (state : PollState) (current : Option ConversationLocator)
    (error : ThrownError) : Follows c (currentRouteFailed state current error) :=
  .ite follows_rethrow fun _ => moves_pure _

/-- The route is compared with the one found first. -/
theorem follows_readCurrentRoute (state : PollState) (freshLocator : ConversationLocator) :
    Follows c (readCurrentRoute c state freshLocator) := by
  refine (follows_attempt (settles_readRoute _)).bind fun read => ?_
  rcases read with error | _ | current
  · exact follows_currentRouteFailed state none error
  · exact moves_pure _
  · dsimp only
    rcases ownsConversation c current with error | owned
    · exact follows_currentRouteFailed state (some current) error
    · exact .ite (fun _ => moves_pure _) fun _ => moves_pure _

/-- A locator that does not parse is no error to try again after. -/
theorem isRetryable_of_createConversationLocator {parseUrl : UrlParser} {value : String}
    {error : ThrownError} (h : createConversationLocator parseUrl value = .error error) :
    error.isRetryable = false := by
  unfold createConversationLocator at h
  split at h
  · cases h
    simp
  · split at h
    · cases h
      simp
    · cases h

/-- Nor is a handle that nobody could have made. -/
theorem isRetryable_of_createOpaqueThreadHandle {opaqueId : String} {error : ThrownError}
    (h : createOpaqueThreadHandle opaqueId = .error error) : error.isRetryable = false := by
  unfold createOpaqueThreadHandle at h
  split at h
  · cases h
  · cases h
    simp [ThrownError.isRetryable, ThrownError.isInstance]

/-- The allocation of a handle throws what the factory threw, or an error of its own. -/
theorem isRetryable_of_allocateHandle {r : RegistryMaps} {handleFactory : ThreadHandleFactory}
    {remaining attempt : ℕ} {error : ThrownError}
    (h : ThreadRegistry.allocateHandle r handleFactory remaining attempt = .error error) :
    error.isRetryable = false ∨ ∃ attempt, handleFactory attempt = .error error := by
  induction remaining generalizing attempt with
  | zero =>
    cases h
    exact .inl (by simp)
  | succ remaining ih =>
    unfold ThreadRegistry.allocateHandle at h
    -- an error of the injected factory is thrown on as it is
    cases hid : handleFactory attempt with
    | error error' =>
      rw [hid] at h
      cases h
      exact .inr ⟨attempt, hid⟩
    | ok opaqueId =>
      rw [hid] at h
      cases hhandle : createOpaqueThreadHandle opaqueId with
      | error error' =>
        change (createOpaqueThreadHandle opaqueId >>= _) = _ at h
        rw [hhandle] at h
        cases h
        exact .inl (isRetryable_of_createOpaqueThreadHandle hhandle)
      | ok handle =>
        change (createOpaqueThreadHandle opaqueId >>= _) = _ at h
        rw [hhandle] at h
        change (if ThreadRegistry.handleExists r handle = true
          then ThreadRegistry.allocateHandle r handleFactory remaining (attempt + 1)
          else Except.ok handle) = Except.error error at h
        split at h
        · exact ih h
        · cases h

/-- A method of the registry, as a step of the turn. -/
theorem steps_onRegistry {P : Interrupt ThrownError → TurnRun → Prop} (method : RegistryM α)
    {run : TurnRun}
    (h : wp method (fun _ _ => True)
      (fun error registry => P (.thrown error) { run with registry }) run.registry) :
    wp (onRegistry method) (fun _ => PollSteps run) (fun i run' => PollSteps run run' ∧ P i run')
      run := by
  rw [wp_onRegistry]
  exact wp_mono h (fun _ registry _ => .single (.registering run registry _ _))
    fun error registry h => ⟨.single (.registering run registry _ _), h⟩

/-- A registration throws an error of its own, or what the handle factory threw. -/
theorem wp_registerWithStatus_throws {parseUrl : UrlParser} {handleFactory : ThreadHandleFactory}
    {locator : String} {r : ThreadRegistry} :
    wp (ThreadRegistry.registerWithStatus parseUrl handleFactory locator) (fun _ _ => True)
      (fun error _ => error.isRetryable = false ∨ ∃ attempt, handleFactory attempt = .error error)
      r := by
  rw [ThreadRegistry.registerWithStatus, wp_bind, wp_ofExcept]
  cases hnorm : createConversationLocator parseUrl locator with
  | error error => exact .inl (isRetryable_of_createConversationLocator hnorm)
  | ok normalized =>
    simp only [wp_bind, wp_get]
    cases r.locatorToHandle.get? normalized with
    | some existing =>
      simp only [wp_ite, wp_pure, wp_throw]
      split
      · trivial
      · exact .inl (by simp)
    | none =>
      simp only [wp_bind, wp_ofExcept]
      cases halloc : ThreadRegistry.allocateHandle r.toRegistryMaps handleFactory
          DEFAULT_THREAD_HANDLE_COLLISION_ATTEMPTS 0 with
      | error error => exact isRetryable_of_allocateHandle halloc
      | ok handle => trivial

/-- A conversation is registered, or the registry's error is thrown. -/
theorem follows_registerWithStatus (locator : ConversationLocator) :
    Follows c (registerWithStatus c locator) := by
  intro run
  rw [registerWithStatus, wp_bind, wp_ask, wp_bind]
  have hasked : PollSteps run { run with asked := run.asked + 1 } := .single (.asked run)
  refine wp_mono (steps_onRegistry (P := PostCommitError c) _ ?_) (fun result run' h => ?_)
    fun _ _ h => ⟨hasked.trans h.1, h.2⟩
  · refine wp_mono wp_registerWithStatus_throws (fun _ _ h => h) fun error _ h => ?_
    rcases h with h | ⟨attempt, h⟩
    · exact .own h
    · exact .handleFactory h
  · exact (hasked.trans h).tail (.logged _ (.registered locator result) rfl)

/-- Either way it settles. -/
theorem settles_registerWithStatus (locator : ConversationLocator) :
    Settles (registerWithStatus c locator) :=
  (follows_registerWithStatus locator).weaken fun _ _ h hpending =>
    PostCommitError.not_pending (hpending ▸ h)

/-- A reservation settles as well. -/
theorem settles_reserveProvisionalWithStatus (locator : ConversationLocator) :
    Settles (reserveProvisionalWithStatus c locator) := by
  refine (steps_ask _).bind fun handleFactory => Moves.bind (fun run => ?_) fun result =>
    (steps_record rfl).bind fun _ => moves_pure result
  refine steps_onRegistry _ ?_
  unfold wp
  split
  · trivial
  · nofun

/-- What a failed registration of a project's conversation comes to. -/
theorem follows_registerProjectConversation (locator : ConversationLocator) :
    Follows c (registerProjectConversation c locator) := by
  refine (follows_attempt (settles_registerWithStatus locator)).bind fun registration => ?_
  rcases registration with error | registration
  · exact follows_failClosed error
  · exact .ite (fun _ => follows_failClosed _) fun _ => moves_pure registration

/-- And a failed reservation. -/
theorem follows_reserveProjectConversation (locator : ConversationLocator) :
    Follows c (reserveProjectConversation c locator) := by
  refine (follows_attempt (settles_reserveProvisionalWithStatus locator)).bind
    fun registration => ?_
  rcases registration with error | registration
  · exact follows_failClosed error
  · exact .ite (fun _ => follows_failClosed _) fun _ => steps_registering fun _ => rfl

/-- The reservation is made before the end is announced. -/
theorem follows_beforeCompleted (locator : ConversationLocator) :
    Follows c (beforeCompleted c locator) :=
  .onlyIf fun _ => steps_isAborted.bind fun _ =>
    (Moves.onlyIf fun _ => follows_failClosed _).bind fun _ =>
      follows_reserveProjectConversation locator

/-- A reservation is rolled back where the listener has thrown. -/
theorem follows_rollbackReservation : Follows c rollbackReservation := by
  refine moves_get.bind fun run => ?_
  cases run.projectRegistration.bind (·.transaction) with
  | none => exact moves_pure ()
  | some transaction =>
    refine Moves.bind (fun run => ?_) fun _ => steps_record rfl
    exact steps_onRegistry _ (ThreadRegistry.wp_settleProvisional (fun _ => trivial)
      fun _ _ _ => trivial)

/-- The result of a project's turn is pending until its transaction is confirmed. -/
theorem follows_createPendingProjectResult (threadHandle : ThreadHandle)
    (transaction : ProvisionalThreadRegistrationToken) :
    Follows c (createPendingProjectResult c threadHandle transaction) :=
  (steps_registering fun _ => rfl).bind fun _ => moves_pure _

/-- A new conversation is registered, unless a known one came back. -/
theorem follows_registerFresh (locator : ConversationLocator) :
    Follows c (registerFresh c locator) := by
  refine .ite (fun _ => moves_get.bind fun run => ?_) fun _ =>
    (follows_registerWithStatus locator).bind fun _ => moves_pure _
  cases hnorm : createConversationLocator c.parseUrl locator with
  | error error =>
    have hknown : run.registry.hasLocator c.parseUrl locator = .error error := by
      unfold ThreadRegistry.hasLocator
      rw [hnorm]
      rfl
    rw [hknown]
    exact moves_fail fun _ => .own (isRetryable_of_createConversationLocator hnorm)
  | ok normalized =>
    have hknown : run.registry.hasLocator c.parseUrl locator =
        .ok (run.registry.locatorToHandle.has normalized) := by
      unfold ThreadRegistry.hasLocator
      rw [hnorm]
      rfl
    rw [hknown]
    cases run.registry.locatorToHandle.has normalized with
    | true => exact follows_failClosed _
    | false => exact moves_pure none

end Registrations

/-! ## The end of a turn -/

section Endings

/-- A terminal error stays. -/
theorem terminal_of_steps {run run' : TurnRun} (h : PollSteps run run')
    {state : ResponseDeliveryState} {error : ThrownError} (hstate : run.responseState = some state)
    (herror : state.terminalError = some error) :
    ∃ state', run'.responseState = some state' ∧ state'.terminalError = some error := by
  induction h with
  | refl => exact ⟨state, hstate, herror⟩
  | tail _ hstep ih =>
    cases hstep with
    | asked => exact ih
    | logged => exact ih
    | registering => exact ih
    | responded before after hbefore hresponse =>
      obtain ⟨state', hstate', herror'⟩ := ih
      cases hbefore.symm.trans hstate'
      refine ⟨after, rfl, ?_⟩
      cases hresponse with
      | failed error' _ hnone => exact nomatch hnone.symm.trans herror'
      | discarded | completed | accumulated | undeferred | finalized => exact herror'

/-- Throwing the error that the response has come to. -/
theorem wp_throwTerminal {run : TurnRun} {state : ResponseDeliveryState} {error : ThrownError}
    (hstate : run.responseState = some state) (herror : state.terminalError = some error) :
    wp (throwOrFailClosed c error : TurnM α) (fun _ => PollSteps run)
      (fun i run' => PollSteps run run' ∧ PostCommitError c i run') run := by
  rw [throwOrFailClosed, wp_ite]
  split
  · exact follows_failClosed error run
  · exact ⟨.refl, .response hstate herror⟩

/-- The end of a turn that nobody listens to. -/
theorem follows_finishPlain (locator : ConversationLocator)
    (freshRegistration : Option ThreadRegistrationResult) :
    Follows c (finishPlain c locator freshRegistration) := by
  refine steps_isAborted.bind fun _ => (Moves.onlyIf fun _ => follows_failClosed _).bind fun _ => ?_
  cases freshRegistration with
  | some registration => exact moves_pure _
  | none => exact (follows_registerProjectConversation locator).bind fun _ => moves_pure _

/-- The end of a turn with a listener: reserve, announce, and take back what was not heard. -/
theorem follows_finishStreaming (state : PollState) (locator : ConversationLocator)
    (freshRegistration : Option ThreadRegistrationResult) :
    Follows c (finishStreaming c state locator freshRegistration) := by
  refine (steps_registering fun _ => rfl).bind fun _ =>
    (follows_finalizeResponseDelivery (follows_beforeCompleted locator)).bind fun finalized => ?_
  intro run
  simp only [responseError, wp_bind, wp_readResponse, wp_pure]
  -- a terminal error that came up meanwhile is still there after the rollback
  cases herror : run.responseState.bind (·.terminalError) with
  | some error =>
    obtain ⟨response, hresponse, hterminal⟩ := Option.bind_eq_some_iff.mp herror
    dsimp only
    refine follows_rollbackReservation.wp_bind fun _ run' hsteps => ?_
    obtain ⟨response', hresponse', hterminal'⟩ := terminal_of_steps hsteps hresponse hterminal
    exact wp_throwTerminal hresponse' hterminal'
  | none =>
    dsimp only
    refine Moves.ite (fun _ => moves_pure _) (fun _ => moves_get.bind fun run => ?_) run
    cases run.projectRegistration with
    | some registration =>
      dsimp only
      cases registration.transaction with
      | none => exact follows_failClosed _
      | some transaction => exact follows_createPendingProjectResult _ transaction
    | none =>
      cases freshRegistration with
      | some registration => exact moves_pure _
      | none => exact (follows_registerProjectConversation locator).bind fun _ => moves_pure _

/-- The end of a turn with a new conversation. -/
theorem follows_finishFresh (state : PollState) (locator : ConversationLocator) :
    Follows c (finishFresh c state locator) := by
  intro run
  simp only [finishFresh, wp_bind, wp_readResponse]
  cases hresponse : run.responseState with
  | none =>
    dsimp only
    exact (follows_registerFresh locator).bind (fun registration =>
      follows_finishPlain locator registration) run
  | some response =>
    dsimp only
    rw [wp_ite]
    split
    · exact .refl
    refine (follows_registerFresh locator).wp_bind fun registration run' hsteps => ?_
    -- an error that the response had at the beginning is its error in the end
    cases hterminal : response.terminalError with
    | none => exact follows_finishStreaming state locator registration run'
    | some error =>
      obtain ⟨response', hresponse', hterminal'⟩ := terminal_of_steps hsteps hresponse hterminal
      exact wp_throwTerminal hresponse' hterminal'

/-- The end of a turn in a known conversation. -/
theorem follows_finishThread (state : PollState) (threadHandle : ThreadHandle) :
    Follows c (finishThread c state threadHandle) := by
  refine steps_isAborted.bind fun _ =>
    .ite (fun _ => moves_fail fun _ => .own isRetryable_operationAborted) fun _ => ?_
  intro run
  simp only [wp_bind, wp_readResponse]
  cases hresponse : run.responseState with
  | none => exact .refl
  | some response =>
    dsimp only
    cases hterminal : response.terminalError with
    | some error => exact ⟨.refl, .response hresponse hterminal⟩
    | none =>
      dsimp only
      rw [wp_ite]
      split
      · exact .refl
      refine (follows_finalizeResponseDelivery (moves_pure ())).wp_bind fun finalized run' _ => ?_
      simp only [responseError, wp_bind, wp_readResponse, wp_pure]
      cases herror : run'.responseState.bind (·.terminalError) with
      | some error =>
        obtain ⟨response', hresponse', hterminal'⟩ := Option.bind_eq_some_iff.mp herror
        exact ⟨.refl, .response hresponse' hterminal'⟩
      | none => exact Moves.ite (fun _ => moves_pure _) (fun _ => moves_pure _) run'

end Endings

/-! ## The polls -/

section Polls

/-- A conversation is vetted by one more look at its route. -/
theorem follows_revalidate (state : PollState) (freshLocator : ConversationLocator) :
    Follows c (revalidate c state freshLocator) := by
  refine (follows_readCurrentRoute state freshLocator).bind fun found => ?_
  obtain ⟨current, state⟩ := found
  refine follows_readTurnObservation.bind fun snapshot => steps_isAborted.bind fun aborted =>
    (follows_updateResponseDelivery snapshot aborted).bind fun _ => ?_
  rcases snapshot.write with _ | _ | _ | _
  · exact follows_failClosed _
  · exact follows_failClosed _
  · refine steps_isAborted.bind fun _ =>
      .ite (fun _ => follows_throwOrFailClosed isRetryable_operationAborted) fun _ => ?_
    cases current with
    | some locator => exact follows_finishFresh state locator
    | none =>
      exact (steps_ask _).bind fun _ => .ite (fun _ => follows_throwConversationNotCreated _)
        fun _ => moves_pure _
  · exact follows_throwWriteFailed

/-- A write that is over, or that took too long. -/
theorem follows_settle (state : PollState) (write : CdpWriteLifecycleState) (now : Rat) :
    Follows c (settle c state write now) := by
  refine steps_isAborted.bind fun aborted => (steps_record rfl).bind fun _ =>
    .ite (fun _ => follows_throwOrFailClosed isRetryable_operationAborted) fun _ => ?_
  dsimp only
  cases state.freshLocator with
  | some freshLocator => exact follows_revalidate _ freshLocator
  | none => exact .ite (fun _ => follows_throwConversationNotCreated _) fun _ => moves_pure _

/-- The same, but for a write that is still active. -/
theorem follows_settleUnlessActive (state : PollState) (write : CdpWriteLifecycleState)
    (now : Rat) : Follows c (settleUnlessActive c state write now) :=
  .ite (fun _ => moves_pure _) fun _ => follows_settle state write now

/-- The conversation is looked for, as long as there is time. -/
theorem follows_lookForConversation (state : PollState) (write : CdpWriteLifecycleState)
    (now : Rat) : Follows c (lookForConversation c state write now) := by
  refine .ite (fun _ => (follows_readFreshRoute state write).bind fun state => ?_)
    fun _ => follows_settleUnlessActive state write now
  refine follows_readTurnObservation.bind fun snapshot => steps_isAborted.bind fun aborted =>
    (follows_updateResponseDelivery snapshot _).bind fun _ => ?_
  rcases snapshot.write with _ | _ | _ | _
  · exact follows_failClosed _
  · exact .ite (fun _ => (steps_ask _).bind fun _ => moves_pure _) fun _ => moves_pure _
  · exact follows_settleUnlessActive state write now
  · exact follows_throwWriteFailed

/-- What one poll makes of the write that it has seen. -/
theorem follows_pollWrite (state : PollState) (write : CdpWriteLifecycleState) (now : Rat) :
    Follows c (pollWrite c state write now) := by
  refine (follows_applyResponseDeadline _ _).bind fun _ => ?_
  cases write with
  | ACTIVE =>
    exact .ite (fun _ => follows_failClosed _) fun _ => follows_lookForConversation state _ now
  | FAILED => exact follows_throwWriteFailed
  | FINISHED =>
    dsimp only
    cases c.target with
    | thread threadHandle => exact follows_finishThread state threadHandle
    | fresh => exact follows_lookForConversation state _ now
    | project _ => exact follows_lookForConversation state _ now

/-- One poll of the outcome. -/
theorem follows_poll (state : PollState) : Follows c (poll c state) := by
  refine steps_isAborted.bind fun aborted => (steps_record rfl).bind fun _ =>
    (steps_ask _).bind fun now => follows_readTurnObservation.bind fun snapshot =>
      (follows_updateResponseDelivery snapshot _).bind fun _ => ?_
  cases snapshot.write with
  | none => exact .ite (fun _ => follows_failClosed _) fun _ => moves_pure _
  | some write => exact follows_pollWrite _ write now

/-- The loop, which stays pending where it runs out of fuel. -/
theorem moves_pollLoop (fuel : ℕ) (state : PollState) :
    Moves PollSteps (fun i run => i = .pending ∨ PostCommitError c i run)
      (pollLoop c fuel state) := by
  induction fuel generalizing state with
  | zero => exact moves_throw fun _ => .inl rfl
  | succ fuel ih =>
    refine ((follows_poll state).weaken fun _ _ h => .inr h).bind fun outcome => ?_
    cases outcome with
    | done result => exact moves_pure result
    | again state => exact (steps_ask _).bind fun _ => ih state

/-- The wait for the outcome only takes such steps, and hangs or throws such an error. -/
theorem moves_waitForTurnOutcome (fuel : ℕ) (initiallyCancelled : Bool) :
    Moves PollSteps (fun i run => i = .pending ∨ PostCommitError c i run)
      (waitForTurnOutcome c fuel initiallyCancelled) :=
  (steps_ask _).bind fun _ => moves_pollLoop fuel _

end Polls

end TurnExecutor

end Threadwire
