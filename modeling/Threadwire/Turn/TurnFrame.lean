import Threadwire.Effect.Frame
import Threadwire.Turn.TurnRules

/-!
# What most of a turn leaves alone

A turn reads the route in one place and changes the registry in three. `Untouched` says that a part
of it did neither: the registry, the reservation and the pending completion are as they were, the
trace has grown by other actions only, a response that was there is there, and one that was not
finalized is not.
-/

namespace Threadwire

namespace TurnAction

/-- The actions of the registration: route reads and effects on the registry. -/
def isRegistration : TurnAction → Bool
  | .routeRead _ | .registered _ _ | .reserved _ _ | .rolledBack _ => true
  | .dispatched _ | .returned _ | .armedTurnObservation _ | .observed _ | .committed | .polled _
  | .checkedCancellation _ _ | .delivered _ _ | .failedResponse _ | .markedUncertain _
  | .generationChanged | .releasedTurnObservation _ => false

end TurnAction

/-- The response, if there is one, is not finalized. -/
def TurnRun.Unfinalized (run : TurnRun) : Prop :=
  ∀ state ∈ run.responseState, state.finalized = false

/-- From the first run to the second nothing was read from the route or done to the registry. -/
structure Unregistering (run run' : TurnRun) : Prop where
  registry : run'.registry = run.registry
  projectRegistration : run'.projectRegistration = run.projectRegistration
  pendingProjectCompletion : run'.pendingProjectCompletion = run.pendingProjectCompletion
  trace : ∃ suffix, run'.trace = run.trace ++ suffix ∧
    ∀ action ∈ suffix, action.isRegistration = false
  responding : run.responseState.isSome = true → run'.responseState.isSome = true

/-- This, and the response was not finalized either. -/
structure Untouched (run run' : TurnRun) : Prop extends Unregistering run run' where
  unfinalized : run.Unfinalized → run'.Unfinalized

/-- A run that does not move. -/
theorem Unregistering.rfl {run : TurnRun} : Unregistering run run :=
  ⟨Eq.refl _, Eq.refl _, Eq.refl _, ⟨[], (List.append_nil _).symm, by simp⟩, id⟩

/-- Nothing was registered in the first part, nothing in the second. -/
theorem Unregistering.trans {run₁ run₂ run₃ : TurnRun} (h : Unregistering run₁ run₂)
    (h' : Unregistering run₂ run₃) : Unregistering run₁ run₃ := by
  obtain ⟨suffix, htrace, hsuffix⟩ := h.trace
  obtain ⟨suffix', htrace', hsuffix'⟩ := h'.trace
  refine ⟨h'.registry.trans h.registry, h'.projectRegistration.trans h.projectRegistration,
    h'.pendingProjectCompletion.trans h.pendingProjectCompletion, ⟨suffix ++ suffix', ?_, ?_⟩,
    fun hrun => h'.responding (h.responding hrun)⟩
  · rw [htrace', htrace, List.append_assoc]
  · intro action haction
    exact (List.mem_append.mp haction).elim (hsuffix action) (hsuffix' action)

instance : Std.Refl Untouched where
  refl _ := ⟨.rfl, id⟩

instance : IsTrans TurnRun Untouched where
  trans _ _ _ h h' :=
    ⟨h.toUnregistering.trans h'.toUnregistering, fun hrun => h'.unfinalized (h.unfinalized hrun)⟩

namespace TurnExecutor

open Effect

variable {c : TurnCall} {α : Type}

/-! ## Questions, records and commands -/

section Primitives

/-- A question to the environment registers nothing. -/
theorem untouched_ask (answers : ℕ → α) : Within Untouched (ask answers) := fun _ =>
  ⟨⟨rfl, rfl, rfl, ⟨[], (List.append_nil _).symm, by simp⟩, id⟩, id⟩

/-- An action that is not of the registration. -/
theorem untouched_record {action : TurnAction} (h : action.isRegistration = false) :
    Within Untouched (record action) := fun _ =>
  ⟨⟨rfl, rfl, rfl, ⟨[action], rfl, by simpa using h⟩, id⟩, id⟩

/-- Reading the signal registers nothing. -/
theorem untouched_isAborted : Within Untouched (isAborted c) := fun run => refl run

/-- Reading the response registers nothing. -/
theorem untouched_readResponse : Within Untouched readResponse := fun run => refl run

/-- Reading the response's error registers nothing. -/
theorem untouched_responseError : Within Untouched responseError :=
  untouched_readResponse.bind fun _ => within_pure _

/-- The response may change, as long as it is not finalized. -/
theorem untouched_modifyResponse {f : ResponseDeliveryState → ResponseDeliveryState}
    (hf : ∀ state, (f state).finalized = state.finalized) :
    Within Untouched (modifyResponse f) := by
  intro run
  rw [wp_modifyResponse]
  refine ⟨⟨rfl, rfl, rfl, ⟨[], (List.append_nil _).symm, by simp⟩, by simp⟩,
    fun hrun state hstate => ?_⟩
  obtain ⟨before, hbefore, rfl⟩ := Option.map_eq_some_iff.mp hstate
  exact (hf before).trans (hrun before hbefore)

/-- The check of the signal registers nothing. -/
theorem untouched_throwIfAborted : Within Untouched (throwIfAborted c) :=
  untouched_isAborted.bind fun _ => (within_fail _).onlyIf

/-- A command is raced and recorded; the registry is not asked. -/
theorem untouched_withTimeout (passSignal : Bool) (message : String) (command : TurnCommand)
    (answers : ℕ → CommandRace α) :
    Within Untouched (withTimeout c passSignal message command answers) := by
  refine Within.bind untouched_throwIfAborted.onlyIf fun _ =>
    (untouched_record rfl).bind fun _ => (untouched_ask answers).bind fun race => ?_
  rcases race with (error | a) | _ | _
  · exact within_fail error
  · exact (untouched_record rfl).bind fun _ => within_pure a
  · exact within_fail _
  · exact untouched_isAborted.bind fun _ => .ite (within_fail _) (within_fail _)

/-- Failing closed registers nothing. -/
theorem untouched_failClosed (cause : ThrownError) :
    Within Untouched (failClosed c cause : TurnM α) :=
  (untouched_record rfl).bind fun _ => within_fail _

/-- Passing a generation change on registers nothing. -/
theorem untouched_rethrow (error : ThrownError) :
    Within Untouched (rethrowGenerationChange error : TurnM α) :=
  (untouched_record rfl).bind fun _ => within_fail error

/-- Failing closed on the other errors registers nothing. -/
theorem untouched_throwOrFailClosed (error : ThrownError) :
    Within Untouched (throwOrFailClosed c error : TurnM α) :=
  .ite (untouched_failClosed error) (within_fail error)

/-- The failure to create a conversation registers nothing. -/
theorem untouched_throwConversationNotCreated (cause : Option ThrownError) :
    Within Untouched (throwConversationNotCreated c cause) :=
  .ite (untouched_failClosed _) (within_fail _)

/-- An observation is an action of its own kind. -/
theorem untouched_readTurnObservation : Within Untouched (readTurnObservation c) := by
  refine (untouched_ask _).bind fun answer => ?_
  rcases answer with error | snapshot
  · exact .ite (untouched_rethrow error) (untouched_failClosed error)
  · exact (untouched_record rfl).bind fun _ => within_pure snapshot

/-- The check that no write came before the submission registers nothing. -/
theorem untouched_assertNoObservedPreSubmitWrite (failClosedOnAnyWrite : Bool) :
    Within Untouched (assertNoObservedPreSubmitWrite c failClosedOnAnyWrite) := by
  refine untouched_readTurnObservation.bind fun snapshot => ?_
  cases snapshot.write with
  | none => exact within_pure ()
  | some lifecycle => exact .ite (untouched_failClosed _) (within_fail _)

end Primitives

/-! ## The delivery of the response -/

section Response

/-- A terminal error is recorded in the response. -/
theorem untouched_recordTerminalError (error : ThrownError) :
    Within Untouched (recordTerminalError error) := by
  refine untouched_readResponse.bind fun state => ?_
  cases state with
  | none => exact within_pure ()
  | some state =>
    dsimp only
    cases state.terminalError with
    | some _ => exact within_pure ()
    | none => exact (untouched_modifyResponse fun _ => by rfl).bind fun _ => untouched_record (by rfl)

/-- A response is discarded by a question and a record. -/
theorem untouched_discardResponse (cancellation : Bool) :
    Within Untouched (discardResponse c cancellation) := by
  refine untouched_readResponse.bind fun state => ?_
  cases state with
  | none => exact within_pure ()
  | some state =>
    refine .ite (within_pure ()) ((untouched_modifyResponse fun _ => by rfl).bind fun _ => ?_)
    refine .ite (untouched_recordTerminalError _).onlyIf ((untouched_ask _).bind fun answer => ?_)
    rcases answer with error | _
    · exact .ite (untouched_rethrow error) (.ite (untouched_failClosed error)
        (untouched_recordTerminalError _).onlyIf)
    · exact within_pure ()

/-- Failing the response registers nothing. -/
theorem untouched_failResponse (error : ThrownError) : Within Untouched (failResponse c error) :=
  (untouched_recordTerminalError error).bind fun _ => untouched_discardResponse false

/-- A call of the listener registers nothing. -/
theorem untouched_callListener (event : ResponseStreamEvent) :
    Within Untouched (callListener c event) :=
  (untouched_ask _).bind fun _ => (untouched_record rfl).bind fun _ => within_pure _

/-- Gathering the text registers nothing. -/
theorem untouched_accumulate (text : Text) : Within Untouched (accumulate text) :=
  untouched_modifyResponse fun _ => by rfl

/-- The delivery of events is between the response and the listener. -/
theorem untouched_deliverEvents (events : List NormalizedResponseStreamEvent) :
    Within Untouched (deliverEvents c events) := by
  induction events with
  | nil => exact within_pure ()
  | cons event events ih =>
    cases event with
    | completed => exact (untouched_modifyResponse fun _ => by rfl).bind fun _ => ih
    | textDelta text =>
      refine untouched_readResponse.bind fun state => ?_
      cases state with
      | none => exact within_pure ()
      | some state =>
        have hrest : Within Untouched (accumulate text >>= fun _ => deliverEvents c events) :=
          (untouched_accumulate text).bind fun _ => ih
        refine .ite (untouched_failResponse _) (.ite hrest ?_)
        exact (untouched_callListener _).bind fun _ => .ite hrest (untouched_failResponse _)

/-- Delivering the events registers nothing, and does not finalize the response. -/
theorem untouched_deliverNormalizedEvents : Within Untouched (deliverNormalizedEvents c) := by
  refine .ite (untouched_failResponse _) ((untouched_ask _).bind fun answer => ?_)
  rcases answer with error | events
  · exact .ite (untouched_rethrow error) (.ite (untouched_failClosed error)
      (untouched_failResponse _))
  · exact untouched_deliverEvents events

/-- Following the lifecycle registers nothing, and does not finalize the response. -/
theorem untouched_followLifecycle (response : CdpTurnResponseObservation) :
    Within Untouched (followLifecycle c response) := by
  unfold followLifecycle
  cases response.lifecycle with
  | COMPLETED => exact untouched_modifyResponse fun _ => by rfl
  | FAILED =>
    refine untouched_readResponse.bind fun state => ?_
    cases state.bind (·.terminalError) with
    | some _ => exact within_pure ()
    | none => exact untouched_failResponse _
  | PENDING => exact within_pure ()
  | STREAMING => exact within_pure ()

/-- So is everything that a poll does with the response. -/
theorem untouched_updateResponseDelivery (snapshot : CdpTurnObservationSnapshot)
    (callerCancelled : Bool) :
    Within Untouched (updateResponseDelivery c snapshot callerCancelled) := by
  refine untouched_readResponse.bind fun state => ?_
  cases state with
  | none => exact within_pure ()
  | some state =>
    refine .ite (untouched_discardResponse true) ?_
    cases snapshot.response with
    | none => exact (untouched_failResponse _).onlyIf
    | some response =>
      exact untouched_deliverNormalizedEvents.onlyIf.bind fun _ =>
        untouched_followLifecycle response

/-- Announcing an event registers nothing. -/
theorem untouched_announce (event : ResponseStreamEvent) : Within Untouched (announce c event) :=
  (untouched_callListener event).bind fun _ =>
    (untouched_recordTerminalError _).onlyIf.bind fun _ => within_pure _

/-- Announcing what was deferred registers nothing. -/
theorem untouched_announceDeferred (state : ResponseDeliveryState) :
    Within Untouched (announceDeferred c state) :=
  .ite ((untouched_announce _).bind fun _ =>
    (untouched_modifyResponse fun _ => by rfl).onlyIf.bind fun _ => within_pure _) (within_pure true)

/-- The deadline of the response registers nothing. -/
theorem untouched_applyResponseDeadline (callerCancelled : Bool) (elapsed : Rat) :
    Within Untouched (applyResponseDeadline c callerCancelled elapsed) := by
  refine untouched_readResponse.bind fun state => ?_
  cases state with
  | none => exact within_pure ()
  | some state => exact (untouched_failResponse _).onlyIf

end Response

/-! ## Before the polls -/

section BeforePolls

/-- The expected route is looked up, and nothing is entered. -/
theorem untouched_resolveExpectedRoute : Within Untouched (resolveExpectedRoute c) := by
  unfold resolveExpectedRoute
  cases c.target with
  | thread threadHandle =>
    refine within_get.bind fun run => ?_
    cases run.registry.resolve threadHandle with
    | ok locator => exact within_pure _
    | error error => exact within_fail error
  | fresh => exact within_pure _
  | project locator => exact within_pure _

/-- A composer that is not ready throws before anything is done. -/
theorem untouched_checkComposer (composer : CdpTurnComposerState) :
    Within Untouched (checkComposer c composer) := by
  have hnode : Within Untouched (composerNode composer) := by
    unfold composerNode
    cases composer.backendDOMNodeId with
    | none => exact within_fail _
    | some _ => exact .ite (within_fail _) (within_pure _)
  refine .ite (within_fail _) (.ite (within_fail _) ?_)
  cases c.target with
  | project _ => exact .ite (within_fail _) hnode
  | thread _ => exact .ite (within_fail _) hnode
  | fresh => exact within_pure none

/-- The composer is prepared before the turn has a conversation. -/
theorem untouched_prepareComposer (expectedRoute : RouteExpectation) :
    Within Untouched (prepareComposer c expectedRoute) := by
  refine (untouched_ask _).bind fun answer => ?_
  rcases answer with (error | _) | error | _
  · exact within_fail error
  · exact (untouched_withTimeout _ _ _ _).bind untouched_checkComposer
  · exact (untouched_record rfl).bind fun _ => within_fail error
  · exact within_throw _

/-- What runs before the commit registers nothing when its body does not. -/
theorem untouched_beforeCommit {x : TurnM α} (hx : Within Untouched x) :
    Within Untouched (beforeCommit x) :=
  hx.rescue fun _ => within_fail _

/-- Arming the observation registers nothing. -/
theorem untouched_armTurnObservation : Within Untouched (armTurnObservation c) := by
  refine (untouched_ask _).bind fun answer => ?_
  rcases answer with error | _
  · exact within_fail error
  · exact untouched_record rfl

/-- The prompt is inserted by one command. -/
theorem untouched_insertPrompt (node : Option Rat) : Within Untouched (insertPrompt c node) := by
  have hcommand : Within Untouched (insertionCommand c node) := by
    unfold insertionCommand
    cases c.target with
    | project _ => exact (untouched_withTimeout _ _ _ _).bind fun _ => within_pure _
    | thread _ => exact (untouched_withTimeout _ _ _ _).bind fun _ => within_pure _
    | fresh => exact (untouched_withTimeout _ _ _ _).bind fun _ => within_pure _
  refine hcommand.attempt.bind fun inserted => ?_
  rcases inserted with error | form
  · refine .ite (untouched_rethrow error) (.ite (untouched_failClosed error) ?_)
    exact (untouched_assertNoObservedPreSubmitWrite false).bind fun _ => within_fail _
  · exact within_pure form

/-- Starting the response registers nothing. -/
theorem untouched_startResponse : Within Untouched (startResponse c) := by
  refine Within.onlyIf ((untouched_assertNoObservedPreSubmitWrite false).bind fun _ =>
    within_modify fun run => ?_)
  refine ⟨⟨rfl, rfl, rfl, ⟨[], (List.append_nil _).symm, by simp⟩, fun _ => rfl⟩,
    fun _ state hstate => ?_⟩
  cases hstate
  rfl

/-- It is inserted only while no write is seen. -/
theorem untouched_insertWhileIdle (node : Option Rat) :
    Within Untouched (insertWhileIdle c node) := by
  refine untouched_throwIfAborted.bind fun _ => untouched_startResponse.bind fun _ =>
    untouched_throwIfAborted.bind fun _ => (untouched_insertPrompt node).bind fun form => ?_
  exact (untouched_assertNoObservedPreSubmitWrite _).bind fun _ => untouched_isAborted.bind fun _ =>
    (untouched_failClosed _).onlyIf.bind fun _ => untouched_throwIfAborted.bind fun _ =>
      within_pure form

/-- A command after the commit point fails closed, and registers nothing. -/
theorem untouched_postCommitCommand {command : TurnM Unit} (hcommand : Within Untouched command) :
    Within Untouched (postCommitCommand c command) := by
  refine hcommand.attempt.bind fun outcome => ?_
  rcases outcome with error | _
  · refine Within.bind (.ite (untouched_rethrow error) (.ite (untouched_failClosed error) ?_))
      fun _ => within_pure false
    exact within_pure ()
  · exact within_pure true

/-- The submission has no conversation yet, whatever the target. -/
theorem untouched_submit (expectedRoute : RouteExpectation) (node form : Option Rat) :
    Within Untouched (submit c expectedRoute node form) := by
  unfold submit
  cases c.target with
  | project projectLocator =>
    refine (untouched_withTimeout _ _ _ _).attempt.bind fun outcome => ?_
    rcases outcome with error | _
    · exact .ite (untouched_rethrow error) (untouched_failClosed error)
    · exact within_pure ()
  | thread _ =>
    cases expectedRoute with
    | thread locator =>
      exact (untouched_postCommitCommand (untouched_withTimeout _ _ _ _)).bind fun _ =>
        within_pure ()
    | freshRoot => exact untouched_failClosed _
    | projectRoot _ => exact untouched_failClosed _
  | fresh =>
    exact (untouched_postCommitCommand (untouched_withTimeout _ _ _ _)).bind fun _ =>
      ((untouched_postCommitCommand (untouched_withTimeout _ _ _ _)).bind fun _ =>
        within_pure ()).onlyIf

end BeforePolls

/-! ## In a poll, and after the turn -/

section Polls

/-- A fresh route that failed registers nothing. -/
theorem untouched_freshRouteFailed (state : PollState) (write : CdpWriteLifecycleState)
    (error : ThrownError) : Within Untouched (freshRouteFailed c state write error) :=
  .ite (untouched_rethrow error) (.ite (untouched_failClosed error) (within_pure _))

/-- A current route that failed registers nothing. -/
theorem untouched_currentRouteFailed (state : PollState) (current : Option ConversationLocator)
    (error : ThrownError) : Within Untouched (currentRouteFailed state current error) :=
  .ite (untouched_rethrow error) (within_pure _)

/-- The release is an action, and no registration. -/
theorem untouched_releaseTurnObservation : Within Untouched (releaseTurnObservation c) := by
  refine (untouched_ask _).bind fun answer => ?_
  rcases answer with error | _
  · exact (untouched_record rfl).bind fun _ => within_fail error
  · exact untouched_record rfl

end Polls

end TurnExecutor

end Threadwire
